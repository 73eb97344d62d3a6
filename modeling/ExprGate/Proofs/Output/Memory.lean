import ExprGate.Output.Run

/-!
# Files in memory

A file is stored under the components of its path, whatever its spelling: what is put at a path is
found at it (`Memory.get?_put_same`), and other paths are left alone (`Memory.get?_put_of_not_same`).
The sink in memory takes everything, so all artifacts are written, and where no two of them have
the same path, each one's file holds its source (`writeAll_memory`, `Memory.get?_store`).
-/

set_option autoImplicit false

namespace ExprGate.Output

open Files Artifact

namespace Memory

/-- A path is the same as two paths alike if these are the same. -/
theorem same_congr {p q : Path} (h : p.same q = true) (x : Path) : x.same p = x.same q := by
  unfold Path.same at h ⊢
  rw [beq_iff_eq.1 h]

/-- The first file at a path is the one that is found. -/
theorem get?_cons (x q : Path) (old : String) (rest : List (Path × String)) :
    get? ⟨(x, old) :: rest⟩ q = if x.same q then some old else get? ⟨rest⟩ q := by
  unfold get?
  rw [List.find?_cons]
  dsimp only
  cases x.same q <;> rfl

/-- What is put at a path is found at it, however it is spelled. -/
theorem get?_put_same (m : Memory) {p q : Path} (contents : String) (h : p.same q = true) :
    (m.put p contents).get? q = some contents := by
  unfold put
  induction m.files with
  | nil =>
    rw [putIn, get?_cons, h]
    rfl
  | cons file rest ih =>
    obtain ⟨x, old⟩ := file
    have hx := same_congr h x
    unfold putIn
    split
    · rename_i hsame
      rw [get?_cons, ← hx, hsame]
      rfl
    · rename_i hsame
      rw [get?_cons, ← hx, if_neg hsame]
      exact ih

/-- Putting something at a path changes nothing at another one. -/
theorem get?_put_of_not_same (m : Memory) {p q : Path} (contents : String)
    (h : p.same q = false) : (m.put p contents).get? q = m.get? q := by
  obtain ⟨files⟩ := m
  unfold put
  induction files with
  | nil =>
    rw [putIn, get?_cons, h]
    rfl
  | cons file rest ih =>
    obtain ⟨x, old⟩ := file
    unfold putIn
    split
    · rename_i hsame
      have hx : x.same q = false := by
        unfold Path.same at h hsame ⊢
        rw [beq_iff_eq.1 hsame]
        exact h
      rw [get?_cons, get?_cons, hx]
      rfl
    · rw [get?_cons, get?_cons, ih]

/-- What is found after something has been put at a path. -/
theorem get?_put (m : Memory) (p : Path) (contents : String) (q : Path) :
    (m.put p contents).get? q = if p.same q then some contents else m.get? q := by
  split
  · rename_i hsame
    exact get?_put_same m contents hsame
  · rename_i hnot
    exact get?_put_of_not_same m contents (Bool.eq_false_iff.2 hnot)

end Memory

/-- Memory after the files of some artifacts have been stored. -/
def Memory.store (m : Memory) (artifacts : List Artifact) : Memory :=
  artifacts.foldl (fun m a => m.put a.file a.source) m

/-- The entries of artifacts that are written into memory: each with its own path. -/
def memoryEntries (artifacts : List Artifact) : List Entry :=
  artifacts.map fun a => ⟨a, a.file⟩

/-- The entries are of the artifacts. -/
@[simp]
theorem map_artifact_memoryEntries (artifacts : List Artifact) :
    (memoryEntries artifacts).map Entry.artifact = artifacts := by
  unfold memoryEntries
  rw [List.map_map]
  exact List.map_id artifacts

/-- The entries have the files of the artifacts. -/
@[simp]
theorem map_file_memoryEntries (artifacts : List Artifact) :
    (memoryEntries artifacts).map Entry.file = artifacts.map Artifact.file := by
  unfold memoryEntries
  rw [List.map_map]
  rfl

/-- All artifacts are written into memory, each at its path. -/
theorem writeAll_memory (artifacts : List Artifact) (m : Memory) :
    writeAll Memory.sink artifacts m = (memoryEntries artifacts, [], m.store artifacts) := by
  induction artifacts generalizing m with
  | nil => rfl
  | cons a rest ih =>
    have hwrite : Memory.sink.write a.file a.source m = (.ok a.file, m.put a.file a.source) := rfl
    unfold writeAll
    simp only [hwrite, ih]
    rfl

/-- The index is written into memory at its path. -/
theorem writeIndex_memory (o : Options) (entries : List Entry) (m : Memory) :
    writeIndex Memory.sink o entries m =
      (some ⟨o.indexFile⟩, [], m.put ⟨o.indexFile⟩ (Artifact.index entries o.runtime)) :=
  rfl

/-- Storing artifacts leaves a path alone that is not one of theirs. -/
theorem Memory.get?_store_of_not_same (m : Memory) {artifacts : List Artifact} {q : Path}
    (h : ∀ a ∈ artifacts, a.file.same q = false) : (m.store artifacts).get? q = m.get? q := by
  induction artifacts generalizing m with
  | nil => rfl
  | cons a rest ih =>
    have hrest := ih (m.put a.file a.source) fun x hx => h x (List.mem_cons_of_mem _ hx)
    exact hrest.trans (Memory.get?_put_of_not_same m a.source (h a List.mem_cons_self))

/-- Where no two artifacts have the same path, each one's file holds its source. -/
theorem Memory.get?_store {m : Memory} {artifacts : List Artifact}
    (hdistinct : artifacts.Pairwise fun a b => b.file.same a.file = false) {a : Artifact}
    (ha : a ∈ artifacts) : (m.store artifacts).get? a.file = some a.source := by
  induction artifacts generalizing m with
  | nil => cases ha
  | cons b rest ih =>
    obtain ⟨hhead, hrest⟩ := List.pairwise_cons.1 hdistinct
    obtain rfl | ha := List.mem_cons.1 ha
    · refine (Memory.get?_store_of_not_same _ hhead).trans ?_
      exact Memory.get?_put_same m a.source (beq_self_eq_true _)
    · exact ih hrest ha

end ExprGate.Output
