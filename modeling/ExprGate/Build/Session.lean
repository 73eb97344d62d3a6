import ExprGate.Build.Settings
import ExprGate.Files.Search
import ExprGate.Output.DiskSink
import ExprGate.Source.Collection
import ExprGate.Source.ModulePath

/-!
# Building

A build reads the sources from a disk, generates the evaluators and writes them. What it prints for
the build system is part of the result. A file that cannot be read or parsed is reported, and the
build goes on; at the end it fails if anything was reported as an error.
-/

set_option autoImplicit false

namespace ExprGate.Build

open Files Output Source Declaration

/-- A file to read, and the directory that is the root of its module tree. -/
structure SourceFile where
  root : List Component
  file : Path
deriving DecidableEq, Repr

/-- Why a source file is not read to its end. -/
inductive SourceError where
  | unreadable (file : Path) (source : FileError)
  | unparsable (file : Path)
deriving DecidableEq, Repr

/-- The wording of an error in a source file. -/
def SourceError.message : SourceError → String
  | .unreadable file source => "cannot read `" ++ file.text ++ "`: " ++ source.message
  | .unparsable file => "cannot parse `" ++ file.text ++ "`"

/-- Why a build fails. -/
inductive BuildError where
  | settings (source : SettingsError)
  /-- The directory for files cannot be prepared. -/
  | outDir (dir : Path) (source : FileError)
  /-- Errors were reported. -/
  | reported (count : Nat)
deriving DecidableEq, Repr

/-- The wording of a failure. -/
def BuildError.message : BuildError → String
  | .settings source => source.message
  | .outDir dir source =>
    "cannot prepare output directory `" ++ dir.text ++ "`: " ++ source.message
  | .reported count => "evaluator generation failed with " ++ toString count ++ " error(s)"

/-- Whether a build ran to its end but errors were reported. -/
def BuildError.isReported : BuildError → Bool
  | .reported _ => true
  | _ => false

/-- The files to read: those below each directory in order, then the single files. -/
def sources (d : Disk) (s : Settings) : Except SettingsError (List SourceFile) :=
  if s.sourceDirs.isEmpty && s.sourceFiles.isEmpty then .error .noSources
  else
    .ok <|
      s.sourceDirs.flatMap (fun dir =>
        (d.search dir ".rs").map fun file => ⟨dir.components, file⟩) ++
      s.sourceFiles.map fun file => ⟨file.parent?.getD [], file⟩

/-- Reads a source file if it belongs to the module tree. -/
def readSource (d : Disk) (c : Collection) (f : SourceFile) : Collection × Option SourceError :=
  match moduleSegments? f.root f.file with
  | none => (c, none)
  | some segments =>
    match d.read f.file with
    | .error e => (c, some (.unreadable f.file e))
    | .ok source =>
      match c.readModule segments source with
      | .ok c => (c, none)
      | .error c => (c, some (.unparsable f.file))

/-- Reads source files one after another, and reports those that are not read to their end. -/
def readSources (d : Disk) (c : Collection) : List SourceFile → Collection × List Diagnostic
  | [] => (c, [])
  | f :: rest =>
    let (c, error) := readSource d c f
    let (c, reports) := readSources d c rest
    (c, (error.map fun e => ⟨.error, f.file.text, e.message⟩).toList ++ reports)

/-- What tells the build system to watch a path. -/
def watchLine (p : Path) : String :=
  "cargo:rerun-if-changed=" ++ p.text

/-- The declarations in the sources, what is printed, and the reports. -/
def declarations (d : Disk) (s : Settings) (env : Environment) :
    Except SettingsError (Catalog × List String × List Diagnostic) := do
  let crate ← s.resolvedCrateName env
  let files ← sources d s
  let watched := if s.watchesSources then s.sourceDirs ++ files.map SourceFile.file else []
  let (c, unread) := readSources d { crate } files
  let (catalog, reports) := c.finish
  return (catalog, watched.map watchLine, unread ++ reports)

/-- The result of generating: what is written, and the reports. -/
structure Generation where
  output : Output
  reports : List Diagnostic

/-- Generates into a sink. The disk is where sources are read. The result comes with what is printed
and the state of the sink. -/
def generateInto {σ : Type} (sink : Sink σ) (d : Disk) (s : Settings) (env : Environment)
    (state : σ) : Except SettingsError Generation × List String × σ :=
  match declarations d s env with
  | .error e => (.error e, [], state)
  | .ok (catalog, printed, unread) =>
    let (output, reports, state) := run sink catalog s.options state
    (.ok ⟨output, unread ++ reports⟩, printed, state)

/-- Makes the directory for files. The result is the path of it from the root. -/
def prepare (d : Disk) (dir : Path) : Except FileError Path × Disk :=
  match d.makeDirectories dir with
  | (some e, d) => (.error e, d)
  | (none, d) => (d.canonical dir, d)

/-- Builds: reads the sources and writes into the directory for files. The result comes with what
is printed and the disk afterwards. -/
def compile (d : Disk) (s : Settings) (env : Environment) :
    Except BuildError Output × List String × Disk :=
  match s.resolvedOutDir env with
  | .error e => (.error (.settings e), [], d)
  | .ok dir =>
    match prepare d dir with
    | (.error e, d) => (.error (.outDir dir e), [], d)
    | (.ok root, d) =>
      match generateInto (diskSink root) d s env d with
      | (.error e, printed, d) => (.error (.settings e), printed, d)
      | (.ok g, printed, d) =>
        let warnings := if s.printsWarnings then Diagnostic.buildWarnings g.reports else []
        let count := Diagnostic.errorCount g.reports
        let result := if count > 0 then .error (.reported count) else .ok g.output
        (result, printed ++ warnings, d)

end ExprGate.Build
