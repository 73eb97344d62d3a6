import ExprGate.Proofs.Files.Parts
import ExprGate.Proofs.Table

/-!
# Disks that grow

Making directories and writing files takes nothing away: directories stay, and where something was
something is (`Disk.Grows`). So a path that leads somewhere keeps leading there (`Grows.locate`), and
a directory that was made once is found by every later attempt to make it, which changes nothing
(`Disk.makeDirectories_of_isDirectory`).

Where a path leads may depend on what is on the disk. Two paths below the same one that go through
different names never lead to the same place (`Path.apart_join`).
-/

set_option autoImplicit false

namespace ExprGate.Files

namespace Disk

variable {d d' d'' : Disk}

/-! ## Entries -/

/-- What is put at a position is there, and all else is as before. -/
theorem at?_putAt (d : Disk) {pos : Position} (hpos : pos ≠ []) (e : Node) (q : Position) :
    (d.putAt pos e).at? q = if q = pos then some e else d.at? q := by
  unfold at? putAt
  by_cases hroot : q = []
  · subst hroot
    simp [Ne.symm hpos]
  · have hq : q.isEmpty = false := by simpa using hroot
    rw [hq]
    simp only [Bool.false_eq_true, if_false, List.lookup_append]
    by_cases hsame : q = pos
    · have hnone : (d.entries.filter (·.1 != pos)).lookup q = none := by
        rw [List.lookup_eq_none_iff]
        intro entry hentry
        have hother : (entry.1 != pos) = true := (List.mem_filter.1 hentry).2
        rw [hsame, bne_comm]
        exact hother
      rw [hnone, if_pos hsame, Option.none_or, List.lookup_cons, hsame, beq_self_eq_true]
    · rw [lookup_filter_of_ne hsame, if_neg hsame, List.lookup_cons, beq_false_of_ne hsame,
        List.lookup_nil, Option.or_none]

/-- The contents of the file at a position. -/
def fileAt? (d : Disk) (pos : Position) : Option Contents :=
  match d.at? pos with
  | some (.file c) => some c
  | _ => none

/-! ## Growth -/

/-- A disk on which nothing of another one is missing, though files may have other contents. -/
structure Grows (d d' : Disk) : Prop where
  workDir : d.workDir = d'.workDir
  directory : ∀ pos, d.isDirectoryAt pos = true → d'.isDirectoryAt pos = true
  occupied : ∀ pos, (d.at? pos).isSome = true → (d'.at? pos).isSome = true

/-- A disk has all that it has. -/
theorem Grows.refl (d : Disk) : d.Grows d :=
  ⟨rfl, fun _ h => h, fun _ h => h⟩

/-- A disk that has grown twice has grown. -/
theorem Grows.trans (h : d.Grows d') (h' : d'.Grows d'') : d.Grows d'' where
  workDir := h.workDir.trans h'.workDir
  directory pos hpos := h'.directory pos (h.directory pos hpos)
  occupied pos hpos := h'.occupied pos (h.occupied pos hpos)

/-- Putting something where no directory is takes nothing away. -/
theorem Grows.putAt {pos : Position} (hpos : pos ≠ []) (e : Node)
    (h : d.isDirectoryAt pos = false) : d.Grows (d.putAt pos e) := by
  refine ⟨rfl, ?_, ?_⟩
  · intro q hq
    unfold isDirectoryAt at hq ⊢
    rw [at?_putAt d hpos]
    split
    · rename_i hsame
      subst hsame
      rw [isDirectoryAt, hq] at h
      cases h
    · exact hq
  · intro q hq
    rw [at?_putAt d hpos]
    split
    · rfl
    · exact hq

/-! ## Walking -/

/-- The first step of a walk that arrives stays, goes up, or goes down to something with a name. -/
theorem walk_cons_eq_ok {pos q : Position} {part : String} {rest : List String}
    (h : d.walk pos (part :: rest) = .ok q) :
    d.isDirectoryAt pos = true ∧
      (part = "." ∧ d.walk pos rest = .ok q ∨
        part = ".." ∧ d.walk pos.dropLast rest = .ok q ∨
        isDots part = false ∧ isTooLong part = false ∧ (d.at? (pos ++ [part])).isSome = true ∧
          d.walk (pos ++ [part]) rest = .ok q) := by
  unfold walk at h
  split at h
  · cases h
  · rename_i hdirectory
    refine ⟨by simpa using hdirectory, ?_⟩
    split at h
    · rename_i hdot
      exact .inl ⟨beq_iff_eq.1 hdot, h⟩
    · rename_i hdot
      split at h
      · rename_i hdots
        exact .inr (.inl ⟨beq_iff_eq.1 hdots, h⟩)
      · rename_i hdots
        split at h
        · cases h
        · rename_i hlong
          split at h
          · rename_i hat
            exact .inr (.inr ⟨by simp [isDots, hdot, hdots], by simpa using hlong, hat, h⟩)
          · cases h

/-- A walk by the parts of two paths goes on from where the first one ends. -/
theorem walk_append (d : Disk) (pos : Position) (front back : List String) :
    d.walk pos (front ++ back) = (d.walk pos front).bind fun mid => d.walk mid back := by
  fun_induction d.walk pos front with
  | case1 pos => rfl
  | case2 pos part rest h =>
    rw [List.cons_append, walk, if_pos h]
    rfl
  | case3 pos part rest h hdot ih => rw [List.cons_append, walk, if_neg h, if_pos hdot, ih]
  | case4 pos part rest h hdot hdots ih =>
    rw [List.cons_append, walk, if_neg h, if_neg hdot, if_pos hdots, ih]
  | case5 pos part rest h hdot hdots hlong =>
    rw [List.cons_append, walk, if_neg h, if_neg hdot, if_neg hdots, if_pos hlong]
    rfl
  | case6 pos part rest h hdot hdots hlong hat ih =>
    rw [List.cons_append, walk, if_neg h, if_neg hdot, if_neg hdots, if_neg hlong, if_pos hat, ih]
  | case7 pos part rest h hdot hdots hlong hat =>
    rw [List.cons_append, walk, if_neg h, if_neg hdot, if_neg hdots, if_neg hlong, if_neg hat]
    rfl

/-- On a disk that has grown, a walk arrives where it arrived before. -/
theorem Grows.walk (h : d.Grows d') {pos q : Position} {parts : List String}
    (hwalk : d.walk pos parts = .ok q) : d'.walk pos parts = .ok q := by
  induction parts generalizing pos with
  | nil => exact hwalk
  | cons part rest ih =>
    obtain ⟨hdirectory, hpart⟩ := walk_cons_eq_ok hwalk
    have hdirectory' := h.directory pos hdirectory
    obtain ⟨rfl, hrest⟩ | ⟨rfl, hrest⟩ | ⟨hdots, hlong, hat, hrest⟩ := hpart
    · simp [Disk.walk, hdirectory', ih hrest]
    · simp [Disk.walk, hdirectory', ih hrest]
    · have hat' := h.occupied _ hat
      simp only [isDots, Bool.or_eq_false_iff] at hdots
      simp [Disk.walk, hdirectory', hdots.1, hdots.2, hlong, hat', ih hrest]

/-- Without `..` the way leads down, through the names. -/
theorem walk_names {pos q : Position} {parts : List String} (hparent : ".." ∉ parts)
    (hwalk : d.walk pos parts = .ok q) : q = pos ++ parts.filter (· ≠ ".") := by
  induction parts generalizing pos with
  | nil => simpa using (Except.ok.inj hwalk).symm
  | cons part rest ih =>
    rw [List.mem_cons, not_or] at hparent
    obtain ⟨-, ⟨rfl, hrest⟩ | ⟨rfl, -⟩ | ⟨hdots, -, -, hrest⟩⟩ := walk_cons_eq_ok hwalk
    · simpa using ih hparent.2 hrest
    · exact absurd rfl hparent.1
    · have hne : part ≠ "." := by
        rintro rfl
        cases hdots
      rw [ih hparent.2 hrest, List.filter_cons_of_pos (by simpa using hne), List.append_assoc,
        List.singleton_append]

/-! ## Where paths lead -/

/-- A path leads to a position if it is accepted, its parts are walked to there, and a directory is
there if it ends with a slash. -/
theorem locate_eq_ok {p : Path} {pos : Position} :
    d.locate p = .ok pos ↔
      accept p = .ok () ∧ d.walk (d.start p) p.parts = .ok pos ∧
        (p.hasTrailingSlash = true → d.isDirectoryAt pos = true) := by
  unfold locate
  cases accept p with
  | error e => simp [bind, Except.bind]
  | ok _ =>
    cases d.walk (d.start p) p.parts with
    | error e => simp [bind, Except.bind]
    | ok q =>
      simp only [bind, Except.bind, true_and, Except.ok.injEq]
      split
      · rename_i hslash
        simp only [Bool.and_eq_true, Bool.not_eq_true'] at hslash
        constructor
        · intro h
          cases h
        · rintro ⟨rfl, h⟩
          rw [h hslash.1] at hslash
          cases hslash.2
      · rename_i hslash
        simp only [Except.ok.injEq, iff_self_and]
        rintro rfl htrailing
        simpa [htrailing] using hslash

/-- Paths start on a disk that has grown where they started before. -/
theorem Grows.start (h : d.Grows d') (p : Path) : d'.start p = d.start p := by
  unfold Disk.start
  rw [h.workDir]

/-- What a path leads to stays where it is. -/
theorem Grows.locate (h : d.Grows d') {p : Path} {pos : Position}
    (hlocate : d.locate p = .ok pos) : d'.locate p = .ok pos := by
  obtain ⟨haccept, hwalk, hslash⟩ := locate_eq_ok.1 hlocate
  refine locate_eq_ok.2 ⟨haccept, ?_, ?_⟩
  · rw [h.start]
    exact h.walk hwalk
  · intro htrailing
    exact h.directory pos (hslash htrailing)

/-- A path is that of a directory if it leads to a position with one. -/
theorem isDirectory_eq_true {p : Path} :
    d.isDirectory p = true ↔ ∃ pos, d.locate p = .ok pos ∧ d.isDirectoryAt pos = true := by
  unfold isDirectory
  cases d.locate p <;> simp

/-- A directory is still one on a disk that has grown. -/
theorem Grows.isDirectory (h : d.Grows d') {p : Path} (hp : d.isDirectory p = true) :
    d'.isDirectory p = true := by
  obtain ⟨pos, hlocate, hdirectory⟩ := isDirectory_eq_true.1 hp
  exact isDirectory_eq_true.2 ⟨pos, h.locate hlocate, h.directory pos hdirectory⟩

/-- The last part of a path is found in the directory to which the parts in front of it lead. -/
theorem locateLast?_eq_some {p : Path} {dir : Position} {last : String} :
    d.locateLast? p = .ok (some (dir, last)) ↔
      accept p = .ok () ∧ p.parts.getLast? = some last ∧
        d.walk (d.start p) p.parts.dropLast = .ok dir ∧ d.isDirectoryAt dir = true := by
  unfold locateLast?
  cases accept p with
  | error e => simp [bind, Except.bind]
  | ok _ =>
    cases p.parts.getLast? with
    | none => simp [bind, Except.bind]
    | some x =>
      cases d.walk (d.start p) p.parts.dropLast with
      | error e => simp [bind, Except.bind]
      | ok q =>
        simp only [bind, Except.bind, true_and, Option.some.injEq, Except.ok.injEq]
        split
        · rename_i hdirectory
          simp only [Except.ok.injEq, Option.some.injEq, Prod.mk.injEq]
          constructor
          · rintro ⟨rfl, rfl⟩
            exact ⟨rfl, rfl, hdirectory⟩
          · rintro ⟨rfl, rfl, -⟩
            exact ⟨rfl, rfl⟩
        · rename_i hdirectory
          constructor
          · intro h
            cases h
          · rintro ⟨rfl, rfl, h⟩
            exact absurd h hdirectory

/-- What is put where the last part of a path is missing, or is a file, is found by the path. -/
theorem putAt_locateLast? {p : Path} {dir : Position} {last : String} (e : Node)
    (h : d.locateLast? p = .ok (some (dir, last))) (hdots : isDots last = false)
    (hlong : isTooLong last = false) (hfree : d.isDirectoryAt (dir ++ [last]) = false)
    (hslash : p.hasTrailingSlash = true → e = .directory) :
    d.Grows (d.putAt (dir ++ [last]) e) ∧
      (d.putAt (dir ++ [last]) e).locate p = .ok (dir ++ [last]) ∧
      ∀ pos, (d.putAt (dir ++ [last]) e).at? pos =
        if pos = dir ++ [last] then some e else d.at? pos := by
  have hne : dir ++ [last] ≠ [] := by simp
  have hgrows := Grows.putAt hne e hfree
  have hat := at?_putAt d hne e
  generalize d.putAt (dir ++ [last]) e = d' at hgrows hat ⊢
  have hput : d'.at? (dir ++ [last]) = some e := by
    rw [hat, if_pos rfl]
  obtain ⟨haccept, hlast, hwalk, hdirectory⟩ := locateLast?_eq_some.1 h
  obtain ⟨front, hparts⟩ := List.getLast?_eq_some_iff.1 hlast
  simp only [isDots, Bool.or_eq_false_iff] at hdots
  have hlastStep : d'.walk dir [last] = .ok (dir ++ [last]) := by
    simp [walk, hgrows.directory dir hdirectory, hdots.1, hdots.2, hlong, hput]
  refine ⟨hgrows, locate_eq_ok.2 ⟨haccept, ?_, ?_⟩, hat⟩
  · rw [hparts, List.dropLast_concat] at hwalk
    rw [hparts, walk_append, hgrows.start, hgrows.walk hwalk]
    exact hlastStep
  · intro htrailing
    unfold isDirectoryAt
    rw [hput, hslash htrailing]
    rfl

/-! ## Making directories -/

/-- A disk on which nothing of another one is missing, and no files are new or changed. -/
structure Extends (d d' : Disk) : Prop extends Grows d d' where
  files : ∀ pos, d'.fileAt? pos = d.fileAt? pos

/-- A disk extends itself. -/
theorem Extends.refl (d : Disk) : d.Extends d :=
  ⟨.refl d, fun _ => rfl⟩

/-- A disk that extends an extension of another one extends that one. -/
theorem Extends.trans (h : d.Extends d') (h' : d'.Extends d'') : d.Extends d'' :=
  ⟨h.toGrows.trans h'.toGrows, fun pos => (h'.files pos).trans (h.files pos)⟩

/-- Making a directory takes nothing away, touches no file, and gives the directory. -/
theorem makeDirectory_eq_ok {p : Path} (h : d.makeDirectory p = .ok d') :
    d.Extends d' ∧ d'.isDirectory p = true := by
  unfold makeDirectory at h
  rcases hlast : d.locateLast? p with e | found
  · simp [hlast, bind, Except.bind] at h
  rw [hlast] at h
  obtain _ | ⟨dir, last⟩ := found
  · simp [bind, Except.bind] at h
  simp only [bind, Except.bind] at h
  split at h
  · cases h
  rename_i hdots
  split at h
  · cases h
  rename_i hlong
  split at h
  · cases h
  rename_i hfree
  have hnone : d.at? (dir ++ [last]) = none := by simpa using hfree
  obtain ⟨hgrows, hlocate, hat⟩ := putAt_locateLast? .directory hlast (by simpa using hdots)
    (by simpa using hlong) (by simp [isDirectoryAt, hnone]) fun _ => rfl
  obtain rfl := Except.ok.inj h
  refine ⟨⟨hgrows, ?_⟩, isDirectory_eq_true.2 ⟨dir ++ [last], hlocate, ?_⟩⟩
  · intro pos
    unfold fileAt?
    rw [hat]
    by_cases hpos : pos = dir ++ [last]
    · rw [if_pos hpos, hpos, hnone]
    · rw [if_neg hpos]
  · simp [isDirectoryAt, hat]

/-- Nothing is made where a directory is. -/
theorem makeDirectory_of_isDirectory {p : Path} (h : d.isDirectory p = true) :
    d.makeDirectory p = .error .exists := by
  obtain ⟨pos, hlocate, -⟩ := isDirectory_eq_true.1 h
  obtain ⟨haccept, hwalk, -⟩ := locate_eq_ok.1 hlocate
  unfold makeDirectory
  cases hparts : p.parts.getLast? with
  | none => simp [locateLast?, haccept, hparts, bind, Except.bind]
  | some last =>
    obtain ⟨front, hfront⟩ := List.getLast?_eq_some_iff.1 hparts
    -- the walk to the directory has passed the last part, so this is no new name
    rw [hfront, walk_append] at hwalk
    rcases hdir : d.walk (d.start p) front with e | dir
    · simp [hdir, Except.bind] at hwalk
    rw [hdir] at hwalk
    obtain ⟨hdirectory, hlast⟩ := walk_cons_eq_ok hwalk
    have hfound : d.locateLast? p = .ok (some (dir, last)) := by
      refine locateLast?_eq_some.2 ⟨haccept, hparts, ?_, hdirectory⟩
      rw [hfront, List.dropLast_concat]
      exact hdir
    rw [hfound]
    obtain ⟨rfl, -⟩ | ⟨rfl, -⟩ | ⟨hdots, hlong, hat, -⟩ := hlast
    · rfl
    · rfl
    · simp [bind, Except.bind, hdots, hlong, hat]

/-- Ensuring a directory takes nothing away and touches no file. If it succeeds the directory is
there. -/
theorem ensureDirectory_spec {p : Path} {e : Option FileError}
    (h : d.ensureDirectory p = (e, d')) :
    d.Extends d' ∧ (e = none → d'.isDirectory p = true) := by
  unfold ensureDirectory at h
  split at h
  · rename_i made hmade
    obtain ⟨rfl, rfl⟩ := Prod.mk.inj h
    obtain ⟨hextends, hdirectory⟩ := makeDirectory_eq_ok hmade
    exact ⟨hextends, fun _ => hdirectory⟩
  · obtain ⟨rfl, rfl⟩ := Prod.mk.inj h
    refine ⟨.refl d, ?_⟩
    intro hnone
    by_contra hnot
    simp [hnot] at hnone

/-- A directory that is there is left as it is. -/
theorem ensureDirectory_of_isDirectory {p : Path} (h : d.isDirectory p = true) :
    d.ensureDirectory p = (none, d) := by
  unfold ensureDirectory
  rw [makeDirectory_of_isDirectory h]
  simp [h]

/-- Making directories takes nothing away and touches no file. If there is one to be made and it
succeeds, the last one is there. -/
theorem makeDirectoriesFrom_spec (d : Disk) (p : Path) (cs : List Component) :
    d.Extends (d.makeDirectoriesFrom p cs).2 ∧
      (cs ≠ [] → (d.makeDirectoriesFrom p cs).1 = none →
        (d.makeDirectoriesFrom p cs).2.isDirectory p = true) := by
  fun_induction d.makeDirectoriesFrom p cs with
  | case1 p => exact ⟨.refl d, fun h => absurd rfl h⟩
  | case2 p last above hmissing hroot => exact ⟨.refl d, fun _ h => by cases h⟩
  | case3 p last above hmissing hroot e made habove ih =>
    rw [habove] at ih
    exact ⟨ih.1, fun _ h => by cases h⟩
  | case4 p last above hmissing hroot made habove ih =>
    -- what is above has been made, and then the last one
    rw [habove] at ih
    obtain ⟨hextends, hdirectory⟩ := ensureDirectory_spec (d := made) (p := p) rfl
    exact ⟨ih.1.trans hextends, fun _ => hdirectory⟩
  | case5 p last above hmissing =>
    obtain ⟨hextends, hdirectory⟩ := ensureDirectory_spec (d := d) (p := p) rfl
    exact ⟨hextends, fun _ => hdirectory⟩

/-- Making directories takes nothing away and touches no file. If it succeeds they are there. -/
theorem makeDirectories_spec {p : Path} {e : Option FileError}
    (h : d.makeDirectories p = (e, d')) :
    d.Extends d' ∧ (e = none → p.components = [] ∨ d'.isDirectory p = true) := by
  obtain ⟨hextends, hdirectory⟩ := makeDirectoriesFrom_spec d p p.components.reverse
  unfold makeDirectories at h
  rw [h] at hextends hdirectory
  refine ⟨hextends, ?_⟩
  intro hnone
  by_cases hempty : p.components = []
  · exact .inl hempty
  · exact .inr (hdirectory (by simpa using hempty) hnone)

/-- Directories that are there are not made again. -/
theorem makeDirectories_of_isDirectory {p : Path}
    (h : p.components = [] ∨ d.isDirectory p = true) : d.makeDirectories p = (none, d) := by
  unfold makeDirectories
  cases hcs : p.components.reverse with
  | nil => rfl
  | cons last above =>
    obtain hempty | hdirectory := h
    · simp [hempty] at hcs
    · rw [makeDirectoriesFrom, makeDirectory_of_isDirectory hdirectory]
      exact ensureDirectory_of_isDirectory hdirectory

/-! ## Files -/

/-- A read text is that of the file at the position to which the path leads. -/
theorem read_eq_ok {p : Path} {s : String} :
    d.read p = .ok s ↔ ∃ pos, d.locate p = .ok pos ∧ d.fileAt? pos = some (.text s) := by
  unfold read fileAt?
  rcases hlocate : d.locate p with e | pos
  · simp [bind, Except.bind]
  simp only [bind, Except.bind, Except.ok.injEq, exists_eq_left']
  rcases d.at? pos with _ | ⟨_ | ⟨c⟩⟩
  · simp
  · simp
  · cases c <;> simp [Contents.text?]

/-- What is written is where the path leads to, and nothing else is touched. -/
theorem write_eq_ok {p : Path} {s : String} (h : d.write p s = .ok d') :
    d.Grows d' ∧ ∃ pos, d'.locate p = .ok pos ∧ d'.fileAt? pos = some (.text s) ∧
      ∀ q, q ≠ pos → d'.fileAt? q = d.fileAt? q := by
  unfold write at h
  rcases hlast : d.locateLast? p with e | found
  · simp [hlast, bind, Except.bind] at h
  rw [hlast] at h
  obtain _ | ⟨dir, last⟩ := found
  · simp [bind, Except.bind] at h
  simp only [bind, Except.bind] at h
  split at h
  · cases h
  rename_i hslash
  split at h
  · cases h
  rename_i hlong
  split at h
  · cases h
  rename_i hdirectory
  simp only [Bool.or_eq_true, not_or, Bool.not_eq_true] at hslash
  obtain ⟨hgrows, hlocate, hat⟩ := putAt_locateLast? (.file (.text s)) hlast hslash.2
    (by simpa using hlong) (by simpa using hdirectory) (by simp [hslash.1])
  obtain rfl := Except.ok.inj h
  refine ⟨hgrows, dir ++ [last], hlocate, ?_, ?_⟩
  · simp [fileAt?, hat]
  · intro q hq
    simp [fileAt?, hat, hq]

/-- Below a directory, a path leads through its names. -/
theorem locate_join {root p : Path} (hp : p.StaysBelow) {pos : Position}
    (h : d.locate (root.join p) = .ok pos) :
    ∃ base, d.walk (d.start root) root.parts = .ok base ∧ pos = base ++ p.names := by
  obtain ⟨-, hwalk, -⟩ := locate_eq_ok.1 h
  have hstart : d.start (root.join p) = d.start root := by
    unfold start
    rw [Path.isAbsolute_join root hp.relative]
  rw [hstart, Path.parts_join root hp.relative, walk_append] at hwalk
  cases hbase : d.walk (d.start root) root.parts with
  | error e => simp [hbase, Except.bind] at hwalk
  | ok base =>
    rw [hbase] at hwalk
    exact ⟨base, rfl, walk_names hp.noParent hwalk⟩

end Disk

/-! ## Paths apart -/

/-- Paths that lead to different places, whatever is on the disk. -/
def Path.Apart (p q : Path) : Prop :=
  ∀ (d : Disk) (pos : Position), d.locate p = .ok pos → d.locate q ≠ .ok pos

/-- Below the same directory, paths through different names lead to different places. -/
theorem Path.apart_join {root p q : Path} (hp : p.StaysBelow) (hq : q.StaysBelow)
    (h : p.names ≠ q.names) : Apart (root.join p) (root.join q) := by
  intro d pos hlocate hlocate'
  obtain ⟨base, hbase, rfl⟩ := Disk.locate_join hp hlocate
  obtain ⟨base', hbase', heq⟩ := Disk.locate_join hq hlocate'
  rw [hbase] at hbase'
  obtain rfl := Except.ok.inj hbase'
  exact h (List.append_cancel_left heq)

end ExprGate.Files
