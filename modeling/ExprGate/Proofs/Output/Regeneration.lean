import ExprGate.Proofs.Artifact.IndexReading
import ExprGate.Proofs.Output.Agreement
import ExprGate.Proofs.Output.DiskSink

/-!
# Generating again

A run that writes everything below a directory stores its artifacts and at last the index over them,
one after another (`storesAll_run`). The paths are apart: those of artifacts because no two of them
have the same package and type name, that of the index if it leads through other names
(`pairwise_apart_filesBelow`). So all files are in place at the end, and a second run finds every one
of them as it would write it (`run_of_inPlace`).

The files hold what a run into memory holds at the relative paths, but for the index: it includes the
files by the paths that the sink has given, which start with the directory.
-/

set_option autoImplicit false

namespace ExprGate.Output

open Declaration Marker Artifact Files

variable {root : Path} {c : Catalog} {o : Options} {d : Disk}

/-! ## Runs that write everything -/

/-- The artifacts that a run generates. -/
def generated (c : Catalog) (o : Options) : List Artifact :=
  (generate c (discover c).1 o.runtime).1

/-- All reports of a run are about the declarations, none is about a write. -/
def WritesAll {σ : Type} (sink : Sink σ) (c : Catalog) (o : Options) (s : σ) : Prop :=
  (run sink c o s).2.1 = (discover c).2 ++ (generate c (discover c).1 o.runtime).2

/-- There are no failures among attempts just if all of them succeed. -/
theorem filterMap_failure?_eq_nil {attempted : List Attempt} :
    attempted.filterMap Attempt.failure? = [] ↔ ∀ t ∈ attempted, t.succeeded = true := by
  rw [List.filterMap_eq_nil_iff]
  refine forall₂_congr ?_
  rintro ⟨a, answer⟩ -
  cases answer <;> simp [Attempt.failure?, Attempt.succeeded, Except.isOk, Except.toBool]

/-- A run writes everything just if each attempt at an artifact succeeds and so does the index. -/
theorem writesAll_iff {σ : Type} {sink : Sink σ} {s : σ} :
    WritesAll sink c o s ↔
      (∀ t ∈ tried sink c o s, t.succeeded = true) ∧ (indexAnswer sink c o s).isOk = true := by
  unfold WritesAll
  rw [run_eq_tried]
  simp only [List.append_cancel_left_eq, List.append_assoc, List.append_right_eq_self,
    List.append_eq_nil_iff, filterMap_failure?_eq_nil]
  refine and_congr_right fun _ => ?_
  cases indexAnswer sink c o s <;> simp [indexFailure?, Except.isOk, Except.toBool]

/-! ## The files of a run below a directory -/

/-- The entries of artifacts that are written below a directory. -/
def entriesBelow (root : Path) (artifacts : List Artifact) : List Entry :=
  artifacts.map fun a => ⟨a, root.join a.file⟩

/-- The attempt to write an artifact below a directory, with success. -/
def attemptBelow (root : Path) (a : Artifact) : Attempt :=
  ⟨a, .ok (root.join a.file)⟩

/-- The file of an artifact below a directory, with its source. -/
def fileBelow (root : Path) (a : Artifact) : Path × String :=
  (root.join a.file, a.source)

/-- The files that a run stores below a directory if no write fails: the artifacts and the index. -/
def filesBelow (root : Path) (c : Catalog) (o : Options) : List (Path × String) :=
  (generated c o).map (fileBelow root) ++
    [(root.join ⟨o.indexFile⟩, Artifact.index (entriesBelow root (generated c o)) o.runtime)]

/-- All files of a run are of a kind just if those of the artifacts and the index are. -/
theorem forall_mem_filesBelow {P : Path → String → Prop} :
    (∀ file ∈ filesBelow root c o, P file.1 file.2) ↔
      (∀ a ∈ generated c o, P (root.join a.file) a.source) ∧
        P (root.join ⟨o.indexFile⟩)
          (Artifact.index (entriesBelow root (generated c o)) o.runtime) := by
  unfold filesBelow
  rw [List.forall_mem_append, List.forall_mem_map, List.forall_mem_singleton]
  simp only [fileBelow]

/-- Attempts below a directory that succeed give the entries below it. -/
theorem filterMap_entry?_attemptBelow (root : Path) (artifacts : List Artifact) :
    (artifacts.map (attemptBelow root)).filterMap Attempt.entry? = entriesBelow root artifacts := by
  rw [List.filterMap_map]
  exact congrFun List.filterMap_eq_map artifacts

/-- Artifacts that are all written are stored one after another. -/
theorem storesAll_attempts {artifacts : List Artifact}
    (h : ∀ t ∈ (attempts (diskSink root) artifacts d).1, t.succeeded = true) :
    (attempts (diskSink root) artifacts d).1 = artifacts.map (attemptBelow root) ∧
      StoresAll d (artifacts.map (fileBelow root)) (attempts (diskSink root) artifacts d).2 := by
  induction artifacts generalizing d with
  | nil => exact ⟨rfl, .nil d⟩
  | cons a rest ih =>
    rcases hwrite : (diskSink root).write a.file a.source d with ⟨answer, d₁⟩
    simp only [attempts, hwrite, List.forall_mem_cons] at h ⊢
    obtain ⟨hfirst, hrest⟩ := h
    cases answer with
    | error reason => cases hfirst
    | ok file =>
      obtain ⟨rfl, written, hstore⟩ := diskSink_write_eq_ok hwrite
      obtain ⟨hattempts, hstores⟩ := ih hrest
      refine ⟨?_, .cons hstore hstores⟩
      rw [hattempts]
      rfl

/-- A run that writes everything stores the artifacts and then the index over them. -/
theorem storesAll_run (h : WritesAll (diskSink root) c o d) :
    tried (diskSink root) c o d = (generated c o).map (attemptBelow root) ∧
      indexAnswer (diskSink root) c o d = .ok (root.join ⟨o.indexFile⟩) ∧
      StoresAll d (filesBelow root c o) (run (diskSink root) c o d).2.2 := by
  obtain ⟨hsucceeded, hok⟩ := writesAll_iff.1 h
  obtain ⟨hattempts, hstores⟩ := storesAll_attempts hsucceeded
  have htried : tried (diskSink root) c o d = (generated c o).map (attemptBelow root) := hattempts
  have hindex : indexOver o (tried (diskSink root) c o d) =
      Artifact.index (entriesBelow root (generated c o)) o.runtime := by
    unfold indexOver
    rw [htried, filterMap_entry?_attemptBelow]
  unfold indexAnswer at hok ⊢
  rw [run_eq_tried]
  dsimp only
  rw [hindex] at hok ⊢
  rcases hwrite : (diskSink root).write ⟨o.indexFile⟩
    (Artifact.index (entriesBelow root (generated c o)) o.runtime)
    (attempts (diskSink root) (generate c (discover c).1 o.runtime).1 d).2 with ⟨answer, d'⟩
  rw [hwrite] at hok
  cases answer with
  | error reason => cases hok
  | ok file =>
    obtain ⟨rfl, written, hstore⟩ := diskSink_write_eq_ok hwrite
    exact ⟨htried, rfl, hstores.append (.cons hstore (.nil d'))⟩

/-! ## Paths of artifacts and of the index -/

/-- The file of an artifact with a plain package lies at plain names. -/
theorem isPlain_file {a : Artifact} (ha : a ∈ generated c o) (hplain : a.HasPlainPackage) :
    ∀ name ∈ a.packageSegments ++ [a.ident ++ ".rs"], IsPlain name := by
  obtain ⟨m, e, hbuilt⟩ := exists_builtFrom ha
  exact hbuilt.isPlain_fileNames hplain

/-- The file of an artifact with a plain package is named by the segments of the package and the
identifier. -/
theorem names_file {a : Artifact} (ha : a ∈ generated c o) (hplain : a.HasPlainPackage) :
    a.file.names = a.packageSegments ++ [a.ident ++ ".rs"] :=
  Path.names_ofNames (isPlain_file ha hplain)

/-- The file of an artifact with a plain package lies below the directory. -/
theorem staysBelow_file {a : Artifact} (ha : a ∈ generated c o) (hplain : a.HasPlainPackage) :
    a.file.StaysBelow :=
  Path.staysBelow_ofNames (isPlain_file ha hplain)

/-- A path that leads through other names than an artifact's file is not the same. -/
theorem same_file_eq_false {p : Path} (hp : p.StaysBelow) {a : Artifact}
    (ha : a ∈ generated c o) (hplain : a.HasPlainPackage) (hne : p.names ≠ a.file.names) :
    p.same a.file = false := by
  refine Bool.eq_false_iff.2 ?_
  intro hsame
  apply hne
  rw [names_file ha hplain]
  exact Path.names_of_same hp (isPlain_file ha hplain) hsame

/-- Files of artifacts that are not the same lie at different names. -/
theorem names_file_ne {a b : Artifact} (ha : a ∈ generated c o) (hb : b ∈ generated c o)
    (hplain : a.HasPlainPackage) (hplain' : b.HasPlainPackage)
    (hne : b.file.same a.file = false) : a.file.names ≠ b.file.names := by
  intro heq
  rw [names_file ha hplain, names_file hb hplain'] at heq
  have hsame : b.file.same a.file = true :=
    (Path.same_ofNames (isPlain_file hb hplain') (isPlain_file ha hplain)).2 heq.symm
  rw [hsame] at hne
  cases hne

/-- The conditions on the paths of a run: plain packages, and an index that leads down to another
file than those of the artifacts. -/
structure HasOwnPaths (c : Catalog) (o : Options) : Prop where
  plain : ∀ a ∈ generated c o, a.HasPlainPackage
  index : Path.StaysBelow ⟨o.indexFile⟩
  other : ∀ a ∈ generated c o, Path.names ⟨o.indexFile⟩ ≠ a.file.names

/-- The files of a run with paths of its own lie at different places. -/
theorem pairwise_apart_filesBelow (root : Path) (h : HasOwnPaths c o) :
    (filesBelow root c o).Pairwise fun file other => file.1.Apart other.1 := by
  refine List.pairwise_append.2 ⟨?_, List.pairwise_singleton _ _, ?_⟩
  · refine List.pairwise_map.2 ((pairwise_file_generate h.plain).imp_of_mem ?_)
    intro a b ha hb hdiffer
    dsimp only [fileBelow]
    have hplain := h.plain a ha
    have hplain' := h.plain b hb
    exact Path.apart_join (staysBelow_file ha hplain) (staysBelow_file hb hplain')
      (names_file_ne ha hb hplain hplain' hdiffer)
  · intro file hfile other hlast
    obtain ⟨a, ha, rfl⟩ := List.mem_map.1 hfile
    obtain rfl := List.mem_singleton.1 hlast
    dsimp only [fileBelow]
    exact Path.apart_join (staysBelow_file ha (h.plain a ha)) h.index (h.other a ha).symm

/-! ## A second run -/

/-- Artifacts that are in place already are all reported as written, and nothing is stored. -/
theorem attempts_of_inPlace {artifacts : List Artifact}
    (h : ∀ a ∈ artifacts, InPlace d (root.join a.file) a.source) (journal : List Path) :
    attempts (journalSink root) artifacts (d, journal) =
      (artifacts.map (attemptBelow root), d, journal) := by
  induction artifacts with
  | nil => rfl
  | cons a rest ih =>
    rw [List.forall_mem_cons] at h
    rw [attempts, journalSink_of_inPlace h.1 journal]
    dsimp only
    rw [ih h.2]
    rfl

/-- The output of a run that writes everything below a directory. -/
def outputBelow (root : Path) (c : Catalog) (o : Options) : Output where
  markers := (discover c).1
  artifacts := generated c o
  files := (generated c o).map fun a => root.join a.file
  index := some (root.join ⟨o.indexFile⟩)

/-- What the attempts and the index come to if all of them succeed. -/
theorem run_eq_outputBelow {σ : Type} {sink : Sink σ} {s : σ}
    (htried : tried sink c o s = (generated c o).map (attemptBelow root))
    (hindex : indexAnswer sink c o s = .ok (root.join ⟨o.indexFile⟩)) :
    (run sink c o s).1 = outputBelow root c o ∧
      (run sink c o s).2.1 = (discover c).2 ++ (generate c (discover c).1 o.runtime).2 := by
  have hwritten : WritesAll sink c o s := by
    refine writesAll_iff.2 ⟨?_, by rw [hindex]; rfl⟩
    rw [htried]
    intro t ht
    obtain ⟨a, -, rfl⟩ := List.mem_map.1 ht
    rfl
  refine ⟨?_, hwritten⟩
  rw [run_eq_tried, htried, hindex, filterMap_entry?_attemptBelow]
  unfold entriesBelow outputBelow
  rw [List.map_map, List.map_map]
  simp only [Except.toOption, Function.comp_def, List.map_id']

/-- If all files of a run are in place, it writes none of them. -/
theorem run_of_inPlace (h : ∀ file ∈ filesBelow root c o, InPlace d file.1 file.2)
    (journal : List Path) :
    run (journalSink root) c o (d, journal) =
      (outputBelow root c o, (discover c).2 ++ (generate c (discover c).1 o.runtime).2,
        d, journal) := by
  obtain ⟨hartifacts, hlast⟩ := (forall_mem_filesBelow (P := InPlace d)).1 h
  have hattempts : attempts (journalSink root) (generate c (discover c).1 o.runtime).1 (d, journal) =
      ((generated c o).map (attemptBelow root), d, journal) :=
    attempts_of_inPlace hartifacts journal
  have htried : tried (journalSink root) c o (d, journal) =
      (generated c o).map (attemptBelow root) := by
    unfold tried
    rw [hattempts]
  have hover : indexOver o (tried (journalSink root) c o (d, journal)) =
      Artifact.index (entriesBelow root (generated c o)) o.runtime := by
    unfold indexOver
    rw [htried, filterMap_entry?_attemptBelow]
  have hwrite : (journalSink root).write ⟨o.indexFile⟩
      (Artifact.index (entriesBelow root (generated c o)) o.runtime) (d, journal) =
      (.ok (root.join ⟨o.indexFile⟩), d, journal) :=
    journalSink_of_inPlace hlast journal
  have hindex : indexAnswer (journalSink root) c o (d, journal) = .ok (root.join ⟨o.indexFile⟩) := by
    unfold indexAnswer
    rw [hover, hattempts, hwrite]
  have hstate : (run (journalSink root) c o (d, journal)).2.2 = (d, journal) := by
    rw [run_eq_tried, hover, hattempts, hwrite]
  obtain ⟨houtput, hreports⟩ := run_eq_outputBelow htried hindex
  exact Prod.ext houtput (Prod.ext hreports hstate)

/-! ## Regeneration -/

/-- What a run that writes everything below a directory leaves, and what a second one does. -/
structure Regenerates (root : Path) (c : Catalog) (o : Options) (d : Disk) : Prop where
  output : (run (diskSink root) c o d).1 = outputBelow root c o
  /-- Every artifact's file holds its source, as in memory. -/
  sources : ∀ a ∈ generated c o,
    (run (diskSink root) c o d).2.2.read (root.join a.file) = .ok a.source ∧
      ∀ m, (run Memory.sink c o m).2.2.get? a.file = some a.source
  /-- The index is over the artifacts at the paths that the sink has given. -/
  index : (run (diskSink root) c o d).2.2.read (root.join ⟨o.indexFile⟩) =
      .ok (Artifact.index (entriesBelow root (generated c o)) o.runtime) ∧
    ∀ m, (run Memory.sink c o m).2.2.get? ⟨o.indexFile⟩ =
      some (Artifact.index (memoryEntries (generated c o)) o.runtime)
  /-- All other files are as before. -/
  others : ∀ pos,
    (∀ a ∈ generated c o, (run (diskSink root) c o d).2.2.locate (root.join a.file) ≠ .ok pos) →
    (run (diskSink root) c o d).2.2.locate (root.join ⟨o.indexFile⟩) ≠ .ok pos →
      (run (diskSink root) c o d).2.2.fileAt? pos = d.fileAt? pos
  /-- Another run gives the same output and reports, and leaves the disk as it is. -/
  again : run (diskSink root) c o (run (diskSink root) c o d).2.2 = run (diskSink root) c o d
  /-- It writes no file. -/
  unwritten : (run (journalSink root) c o ((run (diskSink root) c o d).2.2, [])).2.2.2 = []

/-- What a run leaves in memory at the path of an artifact and of the index. -/
theorem get?_run_memory (h : HasOwnPaths c o) (m : Memory) :
    (∀ a ∈ generated c o, (run Memory.sink c o m).2.2.get? a.file = some a.source) ∧
      (run Memory.sink c o m).2.2.get? ⟨o.indexFile⟩ =
        some (Artifact.index (memoryEntries (generated c o)) o.runtime) := by
  rw [run_eq_emit, emit_memory]
  refine ⟨?_, Memory.get?_put_same _ _ (beq_self_eq_true _)⟩
  intro a ha
  have hsame := same_file_eq_false h.index ha (h.plain a ha) (h.other a ha)
  exact (Memory.get?_put_of_not_same _ _ hsame).trans
    (Memory.get?_store (pairwise_file_generate h.plain) ha)

/-- For all declarations, directories and disks: if the packages are plain, the index leads down to
another file than those of the artifacts, and no write fails, then the files hold the sources and the
index, no other file is touched, and a second run finds everything as it would write it. -/
theorem run_regenerates (root : Path) (c : Catalog) (o : Options) (d : Disk)
    (hpaths : HasOwnPaths c o) (hwritten : WritesAll (diskSink root) c o d) :
    Regenerates root c o d := by
  obtain ⟨htried, hanswer, hstores⟩ := storesAll_run hwritten
  obtain ⟨houtput, hreports⟩ := run_eq_outputBelow htried hanswer
  have hplaced := hstores.inPlace (pairwise_apart_filesBelow root hpaths)
  obtain ⟨hartifacts, hlast⟩ := (forall_mem_filesBelow (P := InPlace _)).1 hplaced
  have hmemory := get?_run_memory hpaths
  have hagain := run_of_inPlace hplaced []
  constructor
  case output => exact houtput
  case sources =>
    intro a ha
    exact ⟨(hartifacts a ha).read, fun m => (hmemory m).1 a ha⟩
  case index => exact ⟨hlast.read, fun m => (hmemory m).2⟩
  case others =>
    intro pos hfiles hpos
    exact hstores.fileAt?_eq ((forall_mem_filesBelow (P := fun p _ =>
      (run (diskSink root) c o d).2.2.locate p ≠ .ok pos)).2 ⟨hfiles, hpos⟩)
  case again =>
    -- the journal only watches the second run
    obtain ⟨hsame, hsameReports, hdisk⟩ :=
      run_journalSink root c o (run (diskSink root) c o d).2.2 []
    rw [hagain] at hsame hsameReports hdisk
    dsimp only at hsame hsameReports hdisk
    refine Prod.ext ?_ (Prod.ext ?_ ?_)
    · rw [← hsame, houtput]
    · rw [← hsameReports, hreports]
    · exact hdisk.symm
  case unwritten => rw [hagain]

/-! ## The catalog with one evaluator -/

/-- The run over the orders generates their artifact. -/
theorem generated_orders : generated ordersCatalog ordersOptions = [ordersArtifact] :=
  generate_orders

/-- A disk with nothing on it but the working directory. -/
def bareDisk : Disk :=
  .empty ["work"]

/-- On a disk that holds nothing, the run over the orders writes everything. -/
theorem writesAll_orders : WritesAll (diskSink ⟨"out"⟩) ordersCatalog ordersOptions bareDisk := by
  have hgenerated : (generate ordersCatalog (discover ordersCatalog).1 ordersOptions.runtime).1 =
      [ordersArtifact] := generate_orders
  -- both files are new, so their contents do not matter
  have hfirst (source : String) :
      ((diskSink ⟨"out"⟩).write ordersArtifact.file source bareDisk).1 =
        .ok (Path.join ⟨"out"⟩ ordersArtifact.file) := rfl
  have hsecond (source index : String) :
      ((diskSink ⟨"out"⟩).write ⟨ordersOptions.indexFile⟩ index
        ((diskSink ⟨"out"⟩).write ordersArtifact.file source bareDisk).2).1 =
          .ok (Path.join ⟨"out"⟩ ⟨ordersOptions.indexFile⟩) := rfl
  refine writesAll_iff.2 ⟨?_, ?_⟩
  · unfold tried
    rw [hgenerated]
    simp only [attempts, List.mem_singleton, hfirst]
    rintro t rfl
    rfl
  · unfold indexAnswer
    rw [hgenerated]
    simp only [attempts, hsecond]
    rfl

/-- The run over the orders has paths of its own. -/
theorem hasOwnPaths_orders : HasOwnPaths ordersCatalog ordersOptions := by
  refine ⟨?_, ⟨by decide, by decide⟩, ?_⟩
  · rw [generated_orders]
    unfold HasPlainPackage
    decide
  · rw [generated_orders]
    decide

/-- In the catalog with one evaluator, a run into an empty directory can be repeated. -/
theorem run_regenerates_orders :
    HasOwnPaths ordersCatalog ordersOptions ∧
      WritesAll (diskSink ⟨"out"⟩) ordersCatalog ordersOptions bareDisk ∧
      Regenerates ⟨"out"⟩ ordersCatalog ordersOptions bareDisk := by
  refine ⟨hasOwnPaths_orders, writesAll_orders, ?_⟩
  exact run_regenerates ⟨"out"⟩ ordersCatalog ordersOptions bareDisk hasOwnPaths_orders
    writesAll_orders

/-- There the index on the disk is not the one in memory: it includes the file below the directory. -/
theorem run_index_ne_memory :
    HasOwnPaths ordersCatalog ordersOptions ∧
      WritesAll (diskSink ⟨"out"⟩) ordersCatalog ordersOptions bareDisk ∧
      ∃ onDisk inMemory : String,
        (run (diskSink ⟨"out"⟩) ordersCatalog ordersOptions bareDisk).2.2.read
          (Path.join ⟨"out"⟩ ⟨ordersOptions.indexFile⟩) = .ok onDisk ∧
        (run Memory.sink ordersCatalog ordersOptions {}).2.2.get? ⟨ordersOptions.indexFile⟩ =
          some inMemory ∧
        onDisk ≠ inMemory := by
  have hplaced := (storesAll_run writesAll_orders).2.2.inPlace
    (pairwise_apart_filesBelow ⟨"out"⟩ hasOwnPaths_orders)
  obtain ⟨-, hindex⟩ := (forall_mem_filesBelow (P := InPlace _)).1 hplaced
  have hmemory := (get?_run_memory hasOwnPaths_orders {}).2
  refine ⟨hasOwnPaths_orders, writesAll_orders, _, _, hindex.read, hmemory, ?_⟩
  have hplain := hasOwnPaths_orders.plain
  rw [generated_orders, List.forall_mem_singleton] at hplain
  have hident : ordersArtifact.ident.toList.all Text.isIdentContinue = true := by decide
  -- the two texts are read as indices that include the evaluator from different paths
  have hread (file : Path) :
      (readIndex (Artifact.index [⟨ordersArtifact, file⟩] ordersOptions.runtime)).map (·.included) =
        some (((Module.ofEntries [⟨ordersArtifact, file⟩]).listing []).map includedOf) := by
    rw [readIndex_eq]
    · rfl
    · rw [List.forall_mem_singleton]
      exact hplain
    · rw [List.forall_mem_singleton]
      exact hident
    · decide
  rw [generated_orders]
  intro heq
  have hsame := congrArg (fun text => (readIndex text).map (·.included)) heq
  unfold entriesBelow memoryEntries at hsame
  rw [List.map_singleton, List.map_singleton, hread, hread] at hsame
  revert hsame
  decide

end ExprGate.Output
