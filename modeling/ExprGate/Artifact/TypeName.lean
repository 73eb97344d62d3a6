import ExprGate.Text.Alphanumeric
import ExprGate.Text.Words
import ExprGate.Token.Lexer

/-!
# Type names of evaluators

The class part of an evaluator name becomes the name of a generated type: its parts between
characters that are neither letters nor digits are written in capitalised words. The result has
to be an identifier.
-/

set_option autoImplicit false

namespace ExprGate.Artifact

open Text

/-- Auxiliary to `nameParts`: the part that is pending is given in reverse. -/
def namePartsFrom (pending : List Char) : List Char → List (List Char)
  | [] => [pending.reverse]
  | c :: rest =>
    if isAlphanumeric c then namePartsFrom (c :: pending) rest
    else pending.reverse :: namePartsFrom [] rest

/-- The runs of letters and digits in a name. -/
def nameParts (cs : List Char) : List (List Char) :=
  (namePartsFrom [] cs).filter (!·.isEmpty)

/-- The type name that a class name gives, if that is an identifier. -/
def typeName? (className : String) : Option String :=
  let name := String.ofList ((nameParts className.toList).flatMap pascalCase)
  if Token.isIdentifier name then some name else none

end ExprGate.Artifact
