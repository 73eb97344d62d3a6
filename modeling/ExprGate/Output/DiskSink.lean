import ExprGate.Files.Disk
import ExprGate.Output.Sink

/-!
# Writing to a disk

Files are written below a directory. A file that has the right contents already is left alone, so
that a build sees no change.
-/

set_option autoImplicit false

namespace ExprGate.Output

open Files

/-- What storing a file does: whether the file is written, or why it cannot be. -/
abbrev Stored := Except FileError Bool

/-- Makes the directories that a file is in. -/
def makeParents (d : Disk) (p : Path) : Disk.Made :=
  match p.parent? with
  | some above => d.makeDirectories (Path.ofComponents above)
  | none => (none, d)

/-- Stores contents in a file, with the directories that it is in. Directories stay even if the file
cannot be written. -/
def store (d : Disk) (p : Path) (contents : String) : Stored × Disk :=
  match makeParents d p with
  | (some e, d) => (.error e, d)
  | (none, d) =>
    if (d.read p).toOption == some contents then (.ok false, d)
    else
      match d.write p contents with
      | .ok d => (.ok true, d)
      | .error e => (.error e, d)

/-- The sink that stores files below a directory. -/
def diskSink (root : Path) : Sink Disk where
  write p contents d :=
    let file := root.join p
    match store d file contents with
    | (.ok _, d) => (.ok file, d)
    | (.error e, d) => (.error e.message, d)

end ExprGate.Output
