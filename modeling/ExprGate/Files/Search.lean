import ExprGate.Files.Disk
import ExprGate.Text.Search

/-!
# Searching directories

The entries below a directory whose names end in a certain way, in the order of paths. The found
paths start as the directory is spelled, but without a `.` at the beginning.
-/

set_option autoImplicit false

namespace ExprGate.Files

/-- The rank of a component among components of other kinds. -/
def Component.rank : Component → Nat
  | .root => 0
  | .current => 1
  | .parent => 2
  | .name _ => 3

/-- Whether a component comes before or equals another one: by kind, and names by code points. -/
def Component.le : Component → Component → Bool
  | .name s, .name t => s ≤ t
  | c, d => c.rank ≤ d.rank

/-- Whether components come before or equal others, the first difference deciding. -/
def componentsLe : List Component → List Component → Bool
  | [], _ => true
  | _ :: _, [] => false
  | c :: cs, d :: ds => if c = d then componentsLe cs ds else c.le d

/-- Paths in the order of their components. -/
def sortPaths (ps : List Path) : List Path :=
  ps.mergeSort fun p q => componentsLe p.components q.components

/-- Whether a path is the current directory. -/
def Path.isCurrent (p : Path) : Bool :=
  p.components == [.current]

/-- A name in a directory; names in the current directory stand alone. -/
def Path.child (dir : Path) (name : String) : Path :=
  if dir.isCurrent then ⟨name⟩ else dir.join ⟨name⟩

namespace Disk

/-- Goes into directories one after another, by parts of a path of which some may be empty. -/
def enter? (d : Disk) : Path → List String → Option Path
  | dir, [] => some dir
  | dir, part :: rest =>
    let next := dir.child part
    if (if isDots part then d.isDirectory dir else d.has next) then d.enter? next rest else none

/-- The directory in which a search below a path takes place. The empty path stands for the root. -/
def searchRoot? (d : Disk) (p : Path) : Option Path :=
  if p.isAbsolute || p.text.isEmpty then d.enter? ⟨"/"⟩ (splitSlashes p.text).tail
  else d.enter? ⟨"."⟩ (splitSlashes p.text)

/-- The entries below a directory whose names end in a certain way. -/
def search (d : Disk) (dir : Path) (ending : String) : List Path :=
  match d.searchRoot? dir with
  | none => []
  | some root =>
    match d.locate root with
    | .error _ => []
    | .ok pos =>
      let found := (d.below pos).filter fun names =>
        names.getLast?.any (Text.endsWith · ending)
      sortPaths (found.map fun names => names.foldl Path.child root)

end Disk

end ExprGate.Files
