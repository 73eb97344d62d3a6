import ExprGate.Output.DiskSink
import ExprGate.Proofs.Files.Disk
import ExprGate.Proofs.Output.Writing

/-!
# Files that are stored on a disk

A file is in place if it has its contents and the directories around it are there (`InPlace`). A file
that is stored is in place afterwards (`store_eq_ok`), and one that is in place is left alone
(`store_of_inPlace`). So files at paths apart that are stored one after another are all in place at
the end (`StoresAll.inPlace`), where storing them again would write none of them.

What a run writes is seen through a sink that keeps a journal of it (`journalSink`). The journal does
not change the run (`run_journalSink`).
-/

set_option autoImplicit false

namespace ExprGate.Output

open Declaration Marker Artifact Files

variable {d d' d'' : Disk} {p q : Path} {s : String}

/-! ## Directories around a file -/

/-- The directories that a file is in are there. -/
def HasParents (d : Disk) (p : Path) : Prop :=
  ∀ above, p.parent? = some above →
    (Path.ofComponents above).components = [] ∨ d.isDirectory (Path.ofComponents above) = true

/-- The directories that a file is in are there on a disk that has grown. -/
theorem HasParents.grows (h : HasParents d p) (hgrows : d.Grows d') : HasParents d' p := by
  intro above habove
  obtain hempty | hdirectory := h above habove
  · exact .inl hempty
  · exact .inr (hgrows.isDirectory hdirectory)

/-- Making the directories of a file takes nothing away and touches no file. If it succeeds they are
there. -/
theorem makeParents_spec {e : Option FileError} (h : makeParents d p = (e, d')) :
    d.Extends d' ∧ (e = none → HasParents d' p) := by
  unfold makeParents at h
  split at h
  · rename_i above habove
    obtain ⟨hextends, hmade⟩ := Disk.makeDirectories_spec h
    refine ⟨hextends, ?_⟩
    intro hnone above' habove'
    obtain rfl := Option.some.inj (habove.symm.trans habove')
    exact hmade hnone
  · rename_i hnone
    obtain ⟨rfl, rfl⟩ := Prod.mk.inj h
    refine ⟨.refl d, ?_⟩
    intro _ above habove
    rw [hnone] at habove
    cases habove

/-- Directories that are there are not made again. -/
theorem makeParents_of_hasParents (h : HasParents d p) : makeParents d p = (none, d) := by
  unfold makeParents
  split
  · rename_i above habove
    exact Disk.makeDirectories_of_isDirectory (h above habove)
  · rfl

/-! ## One file -/

/-- A file has its contents, and the directories that it is in are there. -/
structure InPlace (d : Disk) (p : Path) (s : String) : Prop where
  parents : HasParents d p
  read : d.read p = .ok s

/-- A file that is in place is not written. -/
theorem store_of_inPlace (h : InPlace d p s) : store d p s = (.ok false, d) := by
  unfold store
  rw [makeParents_of_hasParents h.parents]
  simp [h.read, Except.toOption]

/-- What a stored file leaves: it is in place, nothing is missing, and no other file is touched. -/
theorem store_eq_ok {written : Bool} (h : store d p s = (.ok written, d')) :
    d.Grows d' ∧ InPlace d' p s ∧
      ∀ pos, d'.locate p ≠ .ok pos → d'.fileAt? pos = d.fileAt? pos := by
  unfold store at h
  split at h
  · cases h
  rename_i made hmade
  obtain ⟨hextends, hparents⟩ := makeParents_spec hmade
  split at h
  · rename_i hread
    obtain ⟨-, rfl⟩ := Prod.mk.inj h
    have hsame : made.read p = .ok s := by
      cases hcontents : made.read p with
      | ok contents => simpa [hcontents, Except.toOption] using hread
      | error e => simp [hcontents, Except.toOption] at hread
    exact ⟨hextends.toGrows, ⟨hparents rfl, hsame⟩, fun pos _ => hextends.files pos⟩
  · split at h
    · rename_i after hwrite
      obtain ⟨-, rfl⟩ := Prod.mk.inj h
      obtain ⟨hgrows, pos, hlocate, hcontents, hothers⟩ := Disk.write_eq_ok hwrite
      refine ⟨hextends.toGrows.trans hgrows,
        ⟨(hparents rfl).grows hgrows, Disk.read_eq_ok.2 ⟨pos, hlocate, hcontents⟩⟩, ?_⟩
      intro q hq
      rw [hothers q, hextends.files]
      rintro rfl
      exact hq hlocate
    · cases h

/-- What the sink writes is stored below its directory. -/
theorem diskSink_write_eq_ok {root file : Path}
    (h : (diskSink root).write p s d = (.ok file, d')) :
    file = root.join p ∧ ∃ written, store d (root.join p) s = (.ok written, d') := by
  unfold diskSink at h
  dsimp only at h
  split at h
  · rename_i written after hstore
    obtain ⟨hfile, rfl⟩ := Prod.mk.inj h
    exact ⟨(Except.ok.inj hfile).symm, written, hstore⟩
  · cases h

/-- A file stays in place as long as nothing is taken away and it is not touched. -/
theorem InPlace.of_grows (h : InPlace d p s) (hgrows : d.Grows d')
    (hfile : ∀ pos, d'.locate p = .ok pos → d'.fileAt? pos = d.fileAt? pos) : InPlace d' p s := by
  obtain ⟨pos, hlocate, hcontents⟩ := Disk.read_eq_ok.1 h.read
  have hlocate' := hgrows.locate hlocate
  refine ⟨h.parents.grows hgrows, Disk.read_eq_ok.2 ⟨pos, hlocate', ?_⟩⟩
  rw [hfile pos hlocate']
  exact hcontents

/-! ## Files one after another -/

/-- Files that are stored one after another without failure, from one disk to another. -/
inductive StoresAll : Disk → List (Path × String) → Disk → Prop where
  | nil (d : Disk) : StoresAll d [] d
  | cons {d d₁ d₂ : Disk} {p : Path} {s : String} {written : Bool} {files : List (Path × String)}
      (first : store d p s = (.ok written, d₁)) (rest : StoresAll d₁ files d₂) :
      StoresAll d ((p, s) :: files) d₂

namespace StoresAll

variable {files files' : List (Path × String)}

/-- Files are stored one part after another. -/
theorem append (h : StoresAll d files d') (h' : StoresAll d' files' d'') :
    StoresAll d (files ++ files') d'' := by
  induction h with
  | nil d => exact h'
  | cons first rest ih => exact .cons first (ih h')

/-- Storing files takes nothing away from a disk. -/
theorem grows (h : StoresAll d files d') : d.Grows d' := by
  induction h with
  | nil d => exact .refl d
  | cons first rest ih => exact (store_eq_ok first).1.trans ih

/-- What no path of the files leads to is not touched. -/
theorem fileAt?_eq (h : StoresAll d files d') {pos : Position}
    (hpos : ∀ file ∈ files, d'.locate file.1 ≠ .ok pos) : d'.fileAt? pos = d.fileAt? pos := by
  induction h with
  | nil d => rfl
  | cons first rest ih =>
    obtain ⟨-, -, hothers⟩ := store_eq_ok first
    rw [ih fun file hfile => hpos file (List.mem_cons_of_mem _ hfile)]
    -- a path that leads there now would still do so at the end
    refine hothers pos ?_
    intro hlocate
    exact hpos _ List.mem_cons_self (rest.grows.locate hlocate)

/-- A file in place stays so if all files are stored elsewhere. -/
theorem keeps (h : StoresAll d files d') (hplace : InPlace d p s)
    (hapart : ∀ file ∈ files, p.Apart file.1) : InPlace d' p s := by
  refine hplace.of_grows h.grows ?_
  intro pos hlocate
  exact h.fileAt?_eq fun file hfile => hapart file hfile d' pos hlocate

/-- Files at paths apart are all in place at the end. -/
theorem inPlace (h : StoresAll d files d')
    (hapart : files.Pairwise fun file other => file.1.Apart other.1) :
    ∀ file ∈ files, InPlace d' file.1 file.2 := by
  induction h with
  | nil d => nofun
  | cons first rest ih =>
    obtain ⟨hfirst, hrest⟩ := List.pairwise_cons.1 hapart
    intro file hfile
    obtain rfl | hfile := List.mem_cons.1 hfile
    · exact rest.keeps (store_eq_ok first).2.1 hfirst
    · exact ih hrest file hfile

end StoresAll

/-! ## A journal of what is written -/

/-- The sink that stores files below a directory, with a journal of those that it writes. -/
def journalSink (root : Path) : Sink (Disk × List Path) where
  write p contents state :=
    let file := root.join p
    match store state.1 file contents with
    | (.ok written, d) => (.ok file, d, if written then state.2 ++ [file] else state.2)
    | (.error e, d) => (.error e.message, d, state.2)

/-- A file that is in place is left as it is, and the journal too. -/
theorem journalSink_of_inPlace {root : Path} (h : InPlace d (root.join p) s)
    (journal : List Path) :
    (journalSink root).write p s (d, journal) = (.ok (root.join p), d, journal) := by
  unfold journalSink
  simp [store_of_inPlace h]

/-- A journal does not change what is answered and what is stored. -/
theorem journalSink_write (root p : Path) (s : String) (d : Disk) (journal : List Path) :
    ((journalSink root).write p s (d, journal)).1 = ((diskSink root).write p s d).1 ∧
      ((journalSink root).write p s (d, journal)).2.1 = ((diskSink root).write p s d).2 := by
  unfold journalSink diskSink
  dsimp only
  rcases store d (root.join p) s with ⟨e | written, d'⟩ <;> exact ⟨rfl, rfl⟩

/-- With a journal, the attempts and the disk are as they are without one. -/
theorem attempts_journalSink (root : Path) (artifacts : List Artifact) (d : Disk)
    (journal : List Path) :
    (attempts (journalSink root) artifacts (d, journal)).1 =
        (attempts (diskSink root) artifacts d).1 ∧
      (attempts (journalSink root) artifacts (d, journal)).2.1 =
        (attempts (diskSink root) artifacts d).2 := by
  induction artifacts generalizing d journal with
  | nil => exact ⟨rfl, rfl⟩
  | cons a rest ih =>
    obtain ⟨hanswer, hdisk⟩ := journalSink_write root a.file a.source d journal
    rcases hjournal : (journalSink root).write a.file a.source (d, journal) with ⟨answer, d₁, later⟩
    rw [hjournal] at hanswer hdisk
    obtain ⟨hrest, hafter⟩ := ih d₁ later
    simp only [attempts, hjournal]
    rw [hrest, hafter, ← hdisk, ← hanswer]
    exact ⟨rfl, rfl⟩

/-- A journal does not change a run. -/
theorem run_journalSink (root : Path) (c : Catalog) (o : Options) (d : Disk)
    (journal : List Path) :
    (run (journalSink root) c o (d, journal)).1 = (run (diskSink root) c o d).1 ∧
      (run (journalSink root) c o (d, journal)).2.1 = (run (diskSink root) c o d).2.1 ∧
      (run (journalSink root) c o (d, journal)).2.2.1 = (run (diskSink root) c o d).2.2 := by
  obtain ⟨htried, hdisk⟩ :=
    attempts_journalSink root (generate c (discover c).1 o.runtime).1 d journal
  have hsame : tried (journalSink root) c o (d, journal) = tried (diskSink root) c o d := htried
  obtain ⟨hanswer, hafter⟩ := journalSink_write root ⟨o.indexFile⟩
    (indexOver o (tried (diskSink root) c o d))
    (attempts (diskSink root) (generate c (discover c).1 o.runtime).1 d).2
    (attempts (journalSink root) (generate c (discover c).1 o.runtime).1 (d, journal)).2.2
  rw [← hdisk] at hanswer hafter
  have hindex : indexAnswer (journalSink root) c o (d, journal) =
      indexAnswer (diskSink root) c o d := by
    unfold indexAnswer
    rw [hsame, ← hdisk]
    exact hanswer
  rw [run_eq_tried (journalSink root), run_eq_tried (diskSink root), hsame, hindex, ← hdisk]
  exact ⟨rfl, rfl, hafter⟩

end ExprGate.Output
