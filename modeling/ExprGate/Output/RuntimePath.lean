import ExprGate.Text.Blank
import ExprGate.Text.QualifiedName
import ExprGate.Text.Search

/-!
# The path of the runtime library

Generated code names the runtime library by a path. A configured name is a library of its own and
gets a leading `::`; a path that is anchored already stays as it is.
-/

set_option autoImplicit false

namespace ExprGate.Output

open Text

/-- The words that anchor a path. -/
def anchors : List String :=
  ["crate", "self", "super"]

/-- Whether a path says where it starts. -/
def isAnchored (path : String) : Bool :=
  Text.startsWith path separator ||
    anchors.any fun anchor => path == anchor || Text.startsWith path (anchor ++ separator)

/-- The path of the runtime library that a configured name gives. -/
def runtimePath (name : String) : String :=
  let name := trim name
  if isAnchored name then name else separator ++ name

end ExprGate.Output
