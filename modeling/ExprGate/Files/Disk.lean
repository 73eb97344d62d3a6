import ExprGate.Files.Path

/-!
# A disk

Files and directories by their positions, and the operations on them that a build needs. A path is
walked part by part from the working directory or the root. Each part that something follows has to
be a directory, which also holds where only a slash follows.
-/

set_option autoImplicit false

namespace ExprGate.Files

/-- Why an operation on a disk fails. -/
inductive FileError where
  | notFound
  | notDirectory
  | isDirectory
  | exists
  | nameTooLong
  /-- A path holds a null character. -/
  | nullCharacter
  /-- The contents of a file are no text. -/
  | notText
deriving DecidableEq, Repr

/-- The wording of a failure. -/
def FileError.message : FileError → String
  | .notFound => "No such file or directory (os error 2)"
  | .notDirectory => "Not a directory (os error 20)"
  | .isDirectory => "Is a directory (os error 21)"
  | .exists => "File exists (os error 17)"
  | .nameTooLong => "File name too long (os error 36)"
  | .nullCharacter => "file name contained an unexpected NUL byte"
  | .notText => "stream did not contain valid UTF-8"

/-- The contents of a file. -/
inductive Contents where
  | text (s : String)
  /-- Bytes that encode no text. -/
  | bytes (bs : List UInt8)
deriving DecidableEq, Repr

/-- The contents that some bytes are. -/
def Contents.ofBytes (bs : List UInt8) : Contents :=
  match String.fromUTF8? ⟨bs.toArray⟩ with
  | some s => .text s
  | none => .bytes bs

/-- The text of contents. -/
def Contents.text? : Contents → Option String
  | .text s => some s
  | .bytes _ => none

/-- What is at a position. -/
inductive Node where
  | directory
  | file (c : Contents)
deriving DecidableEq, Repr

/-- A position: the names on the way from the root. -/
abbrev Position := List String

/-- Files and directories by positions, beside the root. -/
structure Disk where
  /-- Where relative paths start. -/
  workDir : Position
  entries : List (Position × Node) := []
deriving Repr

namespace Disk

/-- What is at a position. The root is a directory. -/
def at? (d : Disk) (pos : Position) : Option Node :=
  if pos.isEmpty then some .directory else d.entries.lookup pos

/-- Whether a directory is at a position. -/
def isDirectoryAt (d : Disk) (pos : Position) : Bool :=
  d.at? pos == some .directory

/-- Puts an entry at a position in place of what is there. -/
def putAt (d : Disk) (pos : Position) (e : Node) : Disk :=
  { d with entries := d.entries.filter (·.1 != pos) ++ [(pos, e)] }

/-- The longest name in bytes. -/
def maxNameLength : Nat := 255

/-- The longest path in bytes. -/
def maxPathLength : Nat := 4095

/-- Whether a name is too long. -/
def isTooLong (name : String) : Bool :=
  name.utf8ByteSize > maxNameLength

end Disk

/-- The parts of a path between slashes that are not empty. -/
def Path.parts (p : Path) : List String :=
  (splitSlashes p.text).filter (!·.isEmpty)

/-- Whether a path has a slash behind its last part. -/
def Path.hasTrailingSlash (p : Path) : Bool :=
  p.text.toList.getLast? == some '/'

/-- Whether a part of a path is no name. -/
def isDots (part : String) : Bool :=
  part == "." || part == ".."

namespace Disk

/-- Fails for paths that are refused without looking at the disk. -/
def accept (p : Path) : Except FileError Unit :=
  if p.text.toList.contains '\x00' then .error .nullCharacter
  else if p.text.utf8ByteSize > maxPathLength then .error .nameTooLong
  else if p.text.isEmpty then .error .notFound
  else .ok ()

/-- Walks parts of a path from a position. -/
def walk (d : Disk) : Position → List String → Except FileError Position
  | pos, [] => .ok pos
  | pos, part :: rest =>
    if !d.isDirectoryAt pos then .error .notDirectory
    else if part == "." then d.walk pos rest
    else if part == ".." then d.walk pos.dropLast rest
    else if isTooLong part then .error .nameTooLong
    else if (d.at? (pos ++ [part])).isSome then d.walk (pos ++ [part]) rest
    else .error .notFound

/-- Where a path starts. -/
def start (d : Disk) (p : Path) : Position :=
  if p.isAbsolute then [] else d.workDir

/-- The position that a path leads to. -/
def locate (d : Disk) (p : Path) : Except FileError Position := do
  accept p
  let pos ← d.walk (d.start p) p.parts
  if p.hasTrailingSlash && !d.isDirectoryAt pos then
    .error .notDirectory
  else
    .ok pos

/-- Whether something is where a path leads to. -/
def has (d : Disk) (p : Path) : Bool :=
  (d.locate p).toOption.isSome

/-- Whether a path leads to a directory. -/
def isDirectory (d : Disk) (p : Path) : Bool :=
  match d.locate p with
  | .ok pos => d.isDirectoryAt pos
  | .error _ => false

/-- The directory in which the last part of a path is, and that part. There is none for the root. -/
def locateLast? (d : Disk) (p : Path) : Except FileError (Option (Position × String)) := do
  accept p
  match p.parts.getLast? with
  | none => .ok none
  | some last =>
    let dir ← d.walk (d.start p) p.parts.dropLast
    if d.isDirectoryAt dir then .ok (some (dir, last)) else .error .notDirectory

/-- Makes a directory in one that exists. -/
def makeDirectory (d : Disk) (p : Path) : Except FileError Disk := do
  match ← d.locateLast? p with
  | none => .error .exists
  | some (dir, last) =>
    if isDots last then .error .exists
    else if isTooLong last then .error .nameTooLong
    else if (d.at? (dir ++ [last])).isSome then .error .exists
    else .ok (d.putAt (dir ++ [last]) .directory)

end Disk

/-- A path with some components. -/
def Path.ofComponents (cs : List Component) : Path :=
  let text : Component → String
    | .root => ""
    | .current => "."
    | .parent => ".."
    | .name s => s
  if cs == [.root] then ⟨"/"⟩ else ⟨"/".intercalate (cs.map text)⟩

namespace Disk

/-- What making directories does: why it fails, if it does, and the disk afterwards. -/
abbrev Made := Option FileError × Disk

/-- Makes a directory unless there is one already. -/
def ensureDirectory (d : Disk) (p : Path) : Made :=
  match d.makeDirectory p with
  | .ok d => (none, d)
  | .error e => (if d.isDirectory p then none else some e, d)

/-- Auxiliary to `makeDirectories`: the components of the path are given, the last one in front. -/
def makeDirectoriesFrom (d : Disk) : Path → List Component → Made
  | _, [] => (none, d)
  | p, last :: above =>
    match d.makeDirectory p with
    | .error .notFound =>
      if last == .root then (some .notFound, d)
      else
        match d.makeDirectoriesFrom (Path.ofComponents above.reverse) above with
        | (some e, d) => (some e, d)
        | (none, d) => d.ensureDirectory p
    | _ => d.ensureDirectory p

/-- Makes a directory and all that it is in, as far as they are missing. The empty path needs none.
Directories that are made before a failure stay. -/
def makeDirectories (d : Disk) (p : Path) : Made :=
  d.makeDirectoriesFrom p p.components.reverse

/-- The text of the file that a path leads to. -/
def read (d : Disk) (p : Path) : Except FileError String := do
  match d.at? (← d.locate p) with
  | some (.file c) =>
    match c.text? with
    | some s => .ok s
    | none => .error .notText
  | some .directory => .error .isDirectory
  | none => .error .notFound

/-- Writes a text to the file that a path leads to. -/
def write (d : Disk) (p : Path) (contents : String) : Except FileError Disk := do
  match ← d.locateLast? p with
  | none => .error .isDirectory
  | some (dir, last) =>
    if p.hasTrailingSlash || isDots last then .error .isDirectory
    else if isTooLong last then .error .nameTooLong
    else if d.isDirectoryAt (dir ++ [last]) then .error .isDirectory
    else .ok (d.putAt (dir ++ [last]) (.file (.text contents)))

/-- The path from the root to a position. -/
def pathTo (pos : Position) : Path :=
  ⟨"/" ++ "/".intercalate pos⟩

/-- The path from the root to where a path leads. -/
def canonical (d : Disk) (p : Path) : Except FileError Path :=
  (d.locate p).map pathTo

/-- The positions below a position, as names on the way from there. -/
def below (d : Disk) (pos : Position) : List Position :=
  d.entries.filterMap fun (q, _) =>
    if pos.isPrefixOf q && pos.length < q.length then some (q.drop pos.length) else none

/-- The files below the working directory. -/
def files (d : Disk) : List (Position × Contents) :=
  d.entries.filterMap fun (q, e) =>
    match e with
    | .file c => if d.workDir.isPrefixOf q then some (q.drop d.workDir.length, c) else none
    | .directory => none

/-- Puts an entry below the working directory, with the directories that it is in. -/
def add (d : Disk) (names : List String) (e : Node) : Disk :=
  let pos := d.workDir ++ names
  let d := (List.range pos.length).foldl
    (fun d i =>
      let dir := pos.take i
      if dir.isEmpty || d.isDirectoryAt dir then d else d.putAt dir .directory) d
  d.putAt pos e

/-- A disk on which the working directory is empty. -/
def empty (workDir : Position) : Disk :=
  add { workDir := [] } workDir .directory |> fun d => { d with workDir }

end Disk

end ExprGate.Files
