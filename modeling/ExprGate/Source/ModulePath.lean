import ExprGate.Files.Path
import ExprGate.Token.Lexer

/-!
# The module of a file

A source file below the root of a crate is the module that its directories and its own name spell.
The files `lib.rs` and `main.rs` at the top are the crate itself, and `mod.rs` is the module of its
directory. Files below `bin` belong to other crates.
-/

set_option autoImplicit false

namespace ExprGate.Source

open Files

/-- A text without the letters at its end, if it ends with them. -/
def dropEnding? (ending text : String) : Option String :=
  let (e, cs) := (ending.toList.reverse, text.toList.reverse)
  if e.isPrefixOf cs then some (String.ofList (cs.drop e.length).reverse) else none

/-- The names in components, if there are no others than names and `.`. -/
def componentNames? : List Component → Option (List String)
  | [] => some []
  | .name s :: rest => (componentNames? rest).map (s :: ·)
  | .current :: rest => componentNames? rest
  | .root :: _ => none
  | .parent :: _ => none

/-- The segments of a file in some directories. -/
def fileSegments (directories : List String) (stem : String) : List String :=
  if directories.isEmpty && (stem == "lib" || stem == "main") then []
  else if !directories.isEmpty && stem == "mod" then directories
  else directories ++ [stem]

/-- The segments of the module of a file, given by its names below the root. -/
def segmentsOfNames? (names : List String) : Option (List String) := do
  let directories := names.dropLast
  let stem ← dropEnding? ".rs" (← names.getLast?)
  if directories.head? == some "bin" then
    none
  else
    let segments := fileSegments directories stem
    if segments.all Token.isIdentifier then some segments else none

/-- The segments of the module of a file below a root. -/
def moduleSegments? (root : List Component) (file : Path) : Option (List String) := do
  segmentsOfNames? (← componentNames? (← below? root file.components))

end ExprGate.Source
