import ExprGate.Artifact.Generation
import ExprGate.Artifact.Index
import ExprGate.Output.RuntimePath
import ExprGate.Output.Sink

/-!
# A generation run

A run finds the markers in use, generates their artifacts, and writes each one and at last the index
into a sink. A file that cannot be written is reported; an artifact without file is left out of the
index.
-/

set_option autoImplicit false

namespace ExprGate

open Files

/-- What a run has written. -/
structure Output where
  /-- The markers in use. -/
  markers : List Marker := []
  /-- The artifacts that are written. -/
  artifacts : List Artifact := []
  /-- Their paths, in the same order. -/
  files : List Path := []
  /-- The path of the index, if it is written. -/
  index : Option Path := none
deriving DecidableEq, Repr

namespace Output

open Declaration Marker Artifact

/-- What a run depends on beside the declarations. -/
structure Options where
  /-- The path of the runtime library. -/
  runtime : String := runtimePath "jel"
  /-- The path of the index in the sink. -/
  indexFile : String := "evaluators.rs"
deriving DecidableEq, Repr

/-- Writes artifacts one after another. The result holds those that are written with their files,
the reports about the others, and the state of the sink. -/
def writeAll {σ : Type} (sink : Sink σ) : List Artifact → σ → List Entry × List Diagnostic × σ
  | [], s => ([], [], s)
  | a :: rest, s =>
    match sink.write a.file a.source s with
    | (.ok file, s) =>
      let (entries, reports, s) := writeAll sink rest s
      (⟨a, file⟩ :: entries, reports, s)
    | (.error reason, s) =>
      let (entries, reports, s) := writeAll sink rest s
      (entries, ⟨.error, a.element, "cannot write `" ++ a.file.text ++ "`: " ++ reason⟩ :: reports, s)

/-- Writes the index over some entries. -/
def writeIndex {σ : Type} (sink : Sink σ) (o : Options) (entries : List Entry) (s : σ) :
    Option Path × List Diagnostic × σ :=
  match sink.write ⟨o.indexFile⟩ (Artifact.index entries o.runtime) s with
  | (.ok file, s) => (some file, [], s)
  | (.error reason, s) =>
    (none, [⟨.error, o.indexFile, "cannot write index: " ++ reason⟩], s)

/-- Generates and writes the evaluators of some markers. -/
def emit {σ : Type} (sink : Sink σ) (c : Catalog) (o : Options) (markers : List Marker) (s : σ) :
    Output × List Diagnostic × σ :=
  let (artifacts, generated) := generate c markers o.runtime
  let (entries, unwritten, s) := writeAll sink artifacts s
  let (index, unindexed, s) := writeIndex sink o entries s
  ({ markers, artifacts := entries.map Entry.artifact, files := entries.map Entry.file, index },
    generated ++ unwritten ++ unindexed, s)

/-- Generates and writes the evaluators of all markers in use. -/
def run {σ : Type} (sink : Sink σ) (c : Catalog) (o : Options) (s : σ) :
    Output × List Diagnostic × σ :=
  let (markers, found) := discover c
  let (output, reports, s) := emit sink c o markers s
  (output, found ++ reports, s)

/-- The artifacts that are written with their files, as the index lists them. -/
def entries (output : Output) : List Entry :=
  List.zipWith Entry.mk output.artifacts output.files

end Output

end ExprGate
