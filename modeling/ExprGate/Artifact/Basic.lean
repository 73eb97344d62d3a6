import ExprGate.Artifact.TypeRef
import ExprGate.Files.Path
import ExprGate.Text.Words

/-!
# Artifacts

An artifact is an evaluator that is to be written: for which declaration it is, under which name it
is registered, and everything that its source text depends on.
-/

set_option autoImplicit false

namespace ExprGate

open Text Files

/-- An evaluator that is to be written. -/
structure Artifact where
  /-- The declaration that it is for. -/
  element : String
  /-- The marker that the expression comes from. -/
  marker : String
  /-- The name under which it is registered. -/
  qualifiedName : String
  /-- The package of the name. -/
  package : String
  /-- The name without its package. -/
  className : String
  /-- The name of its type. -/
  ident : String
  /-- The name of the context in the expression. -/
  contextVariable : String
  contextType : Artifact.TypeRef
  returnType : Artifact.TypeRef
  /-- The expression. -/
  body : String
  /-- Further items. -/
  customMethods : String
  /-- The attributes of its type. -/
  markers : List String
  /-- The paths that it imports. -/
  imports : List String
deriving DecidableEq, Repr

namespace Artifact

/-- The segments of the package that are not empty. -/
def packageSegments (a : Artifact) : List String :=
  (segments a.package).filter (!·.isEmpty)

/-- The name of the module around the evaluator in the index. -/
def moduleName (a : Artifact) : String :=
  snakeName a.ident

/-- The file of an artifact: a directory for each segment of the package, and the name of the
type. -/
def file (a : Artifact) : Path :=
  (a.packageSegments ++ [a.ident ++ ".rs"]).foldl (fun dir name => dir.join ⟨name⟩) ⟨""⟩

end Artifact

end ExprGate
