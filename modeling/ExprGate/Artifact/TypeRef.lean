import ExprGate.Text.Alphanumeric
import ExprGate.Text.Blank
import ExprGate.Text.QualifiedName
import ExprGate.Text.Search

/-!
# Configured types

The types of an evaluator's context and result are configured by text. A blank text leaves the
type open. A plain qualified path is imported, and its last segment stands in signatures; any
other text stands there as it is.
-/

set_option autoImplicit false

namespace ExprGate.Artifact

open Text

/-- A type that stands in the signature of an evaluator. -/
inductive TypeRef where
  /-- No type is configured. -/
  | dynamic
  /-- A configured type: how it is written, and the path to import. -/
  | named (display : String) (importPath : Option String)
deriving DecidableEq, Repr

/-- Whether a text is a path that can be imported: several segments, none of them behind the last
separator missing, and nothing but letters, digits, underscores and colons. -/
def isImportable (path : String) : Bool :=
  Text.contains path separator && !Text.endsWith path separator &&
    path.toList.all fun c => isAlphanumeric c || c == '_' || c == ':'

/-- The type that a text configures. -/
def TypeRef.ofText (text : String) : TypeRef :=
  let name := trim text
  if name.isEmpty then .dynamic
  else if isImportable name then .named (simpleName name) (some name)
  else .named name none

/-- Whether no type is configured. -/
def TypeRef.isDynamic : TypeRef → Bool
  | .dynamic => true
  | .named .. => false

/-- The path under which a type is imported. -/
def TypeRef.importPath? : TypeRef → Option String
  | .dynamic => none
  | .named _ path => path

end ExprGate.Artifact
