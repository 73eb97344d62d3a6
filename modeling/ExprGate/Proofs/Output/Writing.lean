import ExprGate.Output.Run

/-!
# What a run asks of its sink

A sink may be any state machine, so nothing can be said about its answers; but what a run asks it for
does not depend on them, and what becomes of an answer is fixed. `attempts` are the answers that a
sink gives when artifacts are written one after another. What is written, what is reported and what
the index lists are read off them (`writeAll_eq`).

That nothing else is written is said through a sink that keeps a record (`Sink.recording`). It answers
as the sink that it is made from (`run_recording`), and after a run its record holds one write for
each artifact that is generated, in order, and behind them the write of the index (`run_consistent`).
-/

set_option autoImplicit false

namespace ExprGate.Output

open Declaration Marker Artifact Files

variable {σ : Type}

/-! ## Attempts -/

/-- An artifact that a sink was asked to write, with the answer. -/
structure Attempt where
  artifact : Artifact
  answer : Except String Path

namespace Attempt

/-- Whether an attempt succeeds. -/
def succeeded (t : Attempt) : Bool :=
  t.answer.isOk

/-- The entry of an artifact that has been written, with the path that the sink gave. -/
def entry? (t : Attempt) : Option Entry :=
  t.answer.toOption.map fun file => ⟨t.artifact, file⟩

/-- The report of an artifact that could not be written. -/
def failure? (t : Attempt) : Option Diagnostic :=
  match t.answer with
  | .ok _ => none
  | .error reason => some ⟨.error, t.artifact.element,
      "cannot write `" ++ t.artifact.file.text ++ "`: " ++ reason⟩

end Attempt

/-- The answers of a sink to artifacts that are written one after another, and the state in which they
leave it. -/
def attempts (sink : Sink σ) : List Artifact → σ → List Attempt × σ
  | [], s => ([], s)
  | a :: rest, s =>
    let (answer, s) := sink.write a.file a.source s
    let (later, s) := attempts sink rest s
    (⟨a, answer⟩ :: later, s)

/-- The attempts are at the given artifacts, in their order. -/
theorem map_artifact_attempts (sink : Sink σ) (artifacts : List Artifact) (s : σ) :
    (attempts sink artifacts s).1.map Attempt.artifact = artifacts := by
  induction artifacts generalizing s with
  | nil => rfl
  | cons a rest ih =>
    have hrest := ih (sink.write a.file a.source s).2
    simp only [attempts, List.map_cons, hrest]

/-- What is written and what is reported depends on the attempts only. -/
theorem writeAll_eq (sink : Sink σ) (artifacts : List Artifact) (s : σ) :
    writeAll sink artifacts s =
      ((attempts sink artifacts s).1.filterMap Attempt.entry?,
        (attempts sink artifacts s).1.filterMap Attempt.failure?, (attempts sink artifacts s).2) := by
  induction artifacts generalizing s with
  | nil => rfl
  | cons a rest ih =>
    rcases hwrite : sink.write a.file a.source s with ⟨answer, s'⟩
    have hrest := ih s'
    cases answer with
    | ok file =>
      simp [writeAll, attempts, hwrite, hrest, List.filterMap_cons, Attempt.entry?,
        Attempt.failure?, Except.toOption]
    | error reason =>
      simp [writeAll, attempts, hwrite, hrest, List.filterMap_cons, Attempt.entry?,
        Attempt.failure?, Except.toOption]

/-- The entries are of the artifacts whose attempts succeed. -/
theorem map_artifact_entries (tried : List Attempt) :
    (tried.filterMap Attempt.entry?).map Entry.artifact =
      (tried.filter Attempt.succeeded).map Attempt.artifact := by
  induction tried with
  | nil => rfl
  | cons t rest ih =>
    obtain ⟨a, answer⟩ := t
    cases answer with
    | ok file =>
      have hentry : Attempt.entry? ⟨a, .ok file⟩ = some ⟨a, file⟩ := rfl
      have hsucceeded : Attempt.succeeded ⟨a, .ok file⟩ = true := rfl
      simp [hentry, hsucceeded, ih]
    | error reason =>
      have hentry : Attempt.entry? ⟨a, .error reason⟩ = none := rfl
      have hsucceeded : Attempt.succeeded ⟨a, .error reason⟩ = false := rfl
      simp [hentry, hsucceeded, ih]

/-! ## A sink with a record -/

/-- A write that a sink was asked for, with its answer. -/
structure Write where
  path : Path
  contents : String
  answer : Except String Path

/-- A sink that answers as another one and keeps a record of what it was asked for. -/
def Sink.recording (sink : Sink σ) : Sink (σ × List Write) where
  write path contents s :=
    let (answer, after) := sink.write path contents s.1
    (answer, after, s.2 ++ [⟨path, contents, answer⟩])

/-- The write of an artifact: its source at its file. -/
def Attempt.write (t : Attempt) : Write :=
  ⟨t.artifact.file, t.artifact.source, t.answer⟩

/-- A record does not change the answers, and it grows by the attempts. -/
theorem attempts_recording (sink : Sink σ) (artifacts : List Artifact) (s : σ)
    (record : List Write) :
    attempts sink.recording artifacts (s, record) =
      ((attempts sink artifacts s).1, (attempts sink artifacts s).2,
        record ++ (attempts sink artifacts s).1.map Attempt.write) := by
  induction artifacts generalizing s record with
  | nil => simp [attempts]
  | cons a rest ih =>
    rcases hwrite : sink.write a.file a.source s with ⟨answer, s'⟩
    have hstep : sink.recording.write a.file a.source (s, record) =
        (answer, s', record ++ [⟨a.file, a.source, answer⟩]) := by
      simp [Sink.recording, hwrite]
    simp [attempts, hstep, hwrite, ih, Attempt.write]

/-! ## Runs -/

/-- The attempts of a run: all artifacts that are generated, in order. -/
def tried (sink : Sink σ) (c : Catalog) (o : Options) (s : σ) : List Attempt :=
  (attempts sink (generate c (discover c).1 o.runtime).1 s).1

/-- The text of the index over the attempts that succeeded. -/
def indexOver (o : Options) (tried : List Attempt) : String :=
  Artifact.index (tried.filterMap Attempt.entry?) o.runtime

/-- The answer to the write of the index, which comes behind all artifacts. -/
def indexAnswer (sink : Sink σ) (c : Catalog) (o : Options) (s : σ) : Except String Path :=
  (sink.write ⟨o.indexFile⟩ (indexOver o (tried sink c o s))
    (attempts sink (generate c (discover c).1 o.runtime).1 s).2).1

/-- The report of an index that could not be written. -/
def indexFailure? (o : Options) : Except String Path → Option Diagnostic
  | .ok _ => none
  | .error reason => some ⟨.error, o.indexFile, "cannot write index: " ++ reason⟩

/-- The index is written over the entries, and a failure is reported. -/
theorem writeIndex_eq (sink : Sink σ) (o : Options) (entries : List Entry) (s : σ) :
    writeIndex sink o entries s =
      let (answer, s') := sink.write ⟨o.indexFile⟩ (Artifact.index entries o.runtime) s
      (answer.toOption, (indexFailure? o answer).toList, s') := by
  rcases hwrite : sink.write ⟨o.indexFile⟩ (Artifact.index entries o.runtime) s with ⟨answer, s'⟩
  unfold writeIndex
  rw [hwrite]
  cases answer <;> rfl

/-- A run in terms of its attempts. -/
theorem run_eq_tried (sink : Sink σ) (c : Catalog) (o : Options) (s : σ) :
    run sink c o s =
      ({ markers := (discover c).1
         artifacts := ((tried sink c o s).filterMap Attempt.entry?).map Entry.artifact
         files := ((tried sink c o s).filterMap Attempt.entry?).map Entry.file
         index := (indexAnswer sink c o s).toOption },
        (discover c).2 ++ ((generate c (discover c).1 o.runtime).2 ++
          (tried sink c o s).filterMap Attempt.failure? ++
            (indexFailure? o (indexAnswer sink c o s)).toList),
        (sink.write ⟨o.indexFile⟩ (indexOver o (tried sink c o s))
          (attempts sink (generate c (discover c).1 o.runtime).1 s).2).2) := by
  simp only [run, emit, writeAll_eq, writeIndex_eq]
  rfl

/-- A record changes nothing else about a run, and holds its attempts and the write of the index. -/
theorem run_recording (sink : Sink σ) (c : Catalog) (o : Options) (s : σ) :
    run sink.recording c o (s, []) =
      ((run sink c o s).1, (run sink c o s).2.1, (run sink c o s).2.2,
        (tried sink c o s).map Attempt.write ++
          [⟨⟨o.indexFile⟩, indexOver o (tried sink c o s), indexAnswer sink c o s⟩]) := by
  have htried : tried sink.recording c o (s, []) = tried sink c o s := by
    simp only [tried, attempts_recording]
  have hanswer : indexAnswer sink.recording c o (s, []) = indexAnswer sink c o s := by
    simp only [indexAnswer, htried, attempts_recording]
    rfl
  rw [run_eq_tried sink.recording, run_eq_tried sink, htried, hanswer, attempts_recording]
  rfl

/-- How the output, the reports and the record of a run follow from the answers of its sink. -/
structure Consistent (sink : Sink σ) (c : Catalog) (o : Options) (s : σ) (output : Output)
    (reports : List Diagnostic) (record : List Write) : Prop where
  /-- Each artifact that is generated is tried once, in order, whatever became of those before. -/
  tried : (tried sink c o s).map Attempt.artifact = (generate c (discover c).1 o.runtime).1
  /-- These are the only writes but for one more, of the index over what has been written. -/
  record : record = (Output.tried sink c o s).map Attempt.write ++
    [⟨⟨o.indexFile⟩, Artifact.index output.entries o.runtime, indexAnswer sink c o s⟩]
  /-- The artifacts are those whose write succeeded. -/
  artifacts : output.artifacts =
    ((Output.tried sink c o s).filter Attempt.succeeded).map Attempt.artifact
  length : output.files.length = output.artifacts.length
  /-- Each of them stands with the path that the sink gave for it. -/
  entries : output.entries = (Output.tried sink c o s).filterMap Attempt.entry?
  /-- Each failed write adds one error, on the element of its artifact, and the index one on its file
  if it could not be written. -/
  reports : reports = (discover c).2 ++ ((generate c (discover c).1 o.runtime).2 ++
    (Output.tried sink c o s).filterMap Attempt.failure? ++
      (indexFailure? o (indexAnswer sink c o s)).toList)
  index : output.index = (indexAnswer sink c o s).toOption

/-- For all declarations, options and sinks: a run tries to write each artifact that is generated, and
at last the index over those that have been written. It returns these with the paths that the sink
gave; each failed write is reported once and stops nothing. -/
theorem run_consistent (sink : Sink σ) (c : Catalog) (o : Options) (s : σ) :
    ∃ record,
      run sink.recording c o (s, []) =
        ((run sink c o s).1, (run sink c o s).2.1, (run sink c o s).2.2, record) ∧
      Consistent sink c o s (run sink c o s).1 (run sink c o s).2.1 record := by
  have hentries : (run sink c o s).1.entries = (tried sink c o s).filterMap Attempt.entry? := by
    rw [run_eq_tried]
    simp only [Output.entries, List.zipWith_map_left, List.zipWith_map_right, List.zipWith_self]
    exact List.map_id _
  refine ⟨_, run_recording sink c o s, ?_⟩
  constructor
  case tried => exact map_artifact_attempts sink _ s
  case record => rw [hentries, indexOver]
  case artifacts =>
    rw [run_eq_tried]
    exact map_artifact_entries _
  case length => simp only [run_eq_tried, List.length_map]
  case entries => exact hentries
  case reports => rw [run_eq_tried]
  case index => rw [run_eq_tried]

end ExprGate.Output
