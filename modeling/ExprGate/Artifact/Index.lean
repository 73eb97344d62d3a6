import ExprGate.Artifact.Source
import ExprGate.Text.Quoted

/-!
# The index

The index includes every written artifact into a module of its own, so that the imports of different
artifacts do not meet, inside nested modules for the package, and registers each evaluator under its
qualified name. Modules and registrations are in the order of names.
-/

set_option autoImplicit false

namespace ExprGate.Artifact

open Text Files

/-- An artifact and the file in which it is. -/
structure Entry where
  artifact : Artifact
  file : Path
deriving DecidableEq, Repr

/-- An included file, and the module around it. -/
structure Inclusion where
  module : String
  file : Path
deriving DecidableEq, Repr

/-- A module of the index: the files included in it by the names of their types, and the modules
inside it by their names, both in the order of names. -/
inductive Module where
  | mk (inclusions : List (String × Inclusion)) (children : List (String × Module))

/-- A module with nothing in it. -/
def Module.empty : Module :=
  .mk [] []

/-- Includes a file in the module of a package. -/
def Module.insert (ident : String) (i : Inclusion) : List String → Module → Module
  | [], .mk inclusions children => .mk (insertEntry ident i inclusions) children
  | segment :: package, .mk inclusions children =>
    let child := (children.lookup segment).getD .empty
    .mk inclusions (insertEntry segment (Module.insert ident i package child) children)

/-- The module tree of some entries. -/
def Module.ofEntries (entries : List Entry) : Module :=
  entries.foldl
    (fun tree e =>
      tree.insert e.artifact.ident ⟨e.artifact.moduleName, e.file⟩ e.artifact.packageSegments)
    .empty

/-- The blanks in front of a line at a depth. -/
def indent (depth : Nat) : String :=
  String.ofList (List.replicate (4 * depth) ' ')

/-- The lines of an included file. -/
def Inclusion.lines (depth : Nat) (ident : String) (i : Inclusion) : List String :=
  [indent depth ++ "mod " ++ i.module ++ " \x7b",
    indent (depth + 1) ++ "include!(" ++ quoted i.file.text ++ ");",
    indent depth ++ "\x7d",
    indent depth ++ "pub use self::" ++ i.module ++ "::" ++ ident ++ ";",
    ""]

mutual

/-- The lines of what is in a module. -/
def Module.lines (depth : Nat) : Module → List String
  | .mk inclusions children =>
    (inclusions.flatMap fun (ident, i) => i.lines depth ident) ++ childLines depth children

/-- The lines of the modules inside a module. -/
def childLines (depth : Nat) : List (String × Module) → List String
  | [] => []
  | (name, child) :: rest =>
    [indent depth ++ "pub mod " ++ name ++ " \x7b"] ++ child.lines (depth + 1) ++
      [indent depth ++ "\x7d", ""] ++ childLines depth rest

end

/-- The path of an evaluator's type in the index. -/
def typePath (a : Artifact) : String :=
  joinSegments (a.packageSegments ++ [a.ident])

/-- The names under which evaluators are registered, with the paths of their types, in the order of
names. -/
def registrations (entries : List Entry) : List (String × String) :=
  (entries.map fun e => (e.artifact.qualifiedName, e.artifact.typePath)).mergeSort fun a b =>
    a.1 < b.1 || (a.1 == b.1 && a.2 ≤ b.2)

/-- The line that registers an evaluator. -/
def registrationLine (name typePath : String) : String :=
  "    registry.register::<self::" ++ typePath ++ ">(" ++ quoted name ++ ");"

/-- The text of the index over some entries. -/
def index (entries : List Entry) (runtime : String) : String :=
  let registered := registrations entries
  lines <|
    [generatedMark ++ ". Do not edit.", ""] ++ (Module.ofEntries entries).lines 0 ++
      ["/// Register every generated evaluator under its qualified name.",
        "pub fn register(registry: &mut " ++ runtime ++ "::EvaluatorRegistry) \x7b"] ++
      (if registered.isEmpty then ["    let _ = registry;"] else []) ++
      (registered.map fun (name, typePath) => registrationLine name typePath) ++ ["\x7d"]

end ExprGate.Artifact
