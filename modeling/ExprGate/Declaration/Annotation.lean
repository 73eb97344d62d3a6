import ExprGate.Text.QualifiedName

/-!
# Annotations

An annotation is attached to a declaration. It has the name under which its type is known where it
stands, and members with values.
-/

set_option autoImplicit false

namespace ExprGate.Declaration

/-- The value of a member of an annotation. -/
inductive Value where
  /-- A string. -/
  | text (s : String)
  /-- A truth value, or a member that is only named. -/
  | flag (b : Bool)
  /-- Several paths or strings. -/
  | list (items : List String)
  /-- Anything else, as the text of its tokens. -/
  | raw (tokens : String)
deriving DecidableEq, Repr

/-- The text of a value that can be used as an expression. -/
def Value.asText? : Value → Option String
  | .text s => some s
  | .raw tokens => some tokens
  | .flag _ => none
  | .list _ => none

/-- An annotation as it is written. -/
structure Annotation where
  /-- The path of its type. -/
  name : String
  /-- The members in the order in which they are written. -/
  values : List (String × Value) := []
deriving DecidableEq, Repr

/-- The value of a member: the first one under its name. -/
def Annotation.get? (a : Annotation) (key : String) : Option Value :=
  a.values.lookup key

/-- The last segment of the name. -/
def Annotation.simpleName (a : Annotation) : String :=
  Text.simpleName a.name

end ExprGate.Declaration
