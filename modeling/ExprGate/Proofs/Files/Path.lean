import Mathlib.Data.List.Basic
import ExprGate.Files.Path

/-!
# Paths below directories

A path that is put together from plain names has these names as its components
(`components_ofNames`), so it is the path of one sequence of names only. A name is `IsPlain` if it
means itself as a part of a path.
-/

set_option autoImplicit false

namespace ExprGate.Files

/-- A name that is one component of a path: it has no slash, and is neither empty nor a name for a
directory itself or the one above it. -/
structure IsPlain (name : String) : Prop where
  noSlash : '/' ∉ name.toList
  nonempty : name ≠ ""
  notCurrent : name ≠ "."
  notParent : name ≠ ".."

/-- The name of a source file is a plain name if what is in front of the ending has no slash. -/
theorem isPlain_fileName {stem : String} (h : '/' ∉ stem.toList) : IsPlain (stem ++ ".rs") := by
  -- the ending makes the name longer than each name that is not plain
  have hlength (text : String) (heq : stem ++ ".rs" = text) :
      stem.toList.length + 3 = text.toList.length := by
    rw [← heq, String.toList_append, List.length_append]
    rfl
  refine ⟨?_, ?_, ?_, ?_⟩
  · rw [String.toList_append, List.mem_append, not_or]
    exact ⟨h, by decide⟩
  · intro heq
    have := hlength "" heq
    simp at this
  · intro heq
    have := hlength "." heq
    simp at this
  · intro heq
    have := hlength ".." heq
    simp at this

/-- The path that leads through names, one below the other. -/
def Path.ofNames (names : List String) : Path :=
  names.foldl (fun dir name => dir.join ⟨name⟩) ⟨""⟩

/-- A plain name means itself. -/
theorem Component.ofPart?_of_isPlain {name : String} (h : IsPlain name) :
    Component.ofPart? name = some (.name name) := by
  simp [Component.ofPart?, h.nonempty, h.notCurrent, h.notParent]

/-- A plain name starts no absolute path. -/
theorem Path.isAbsolute_of_isPlain {name : String} (h : IsPlain name) :
    Path.isAbsolute ⟨name⟩ = false := by
  unfold Path.isAbsolute
  cases hcs : name.toList with
  | nil => rfl
  | cons c rest =>
    have hc : c ≠ '/' := by
      rintro rfl
      exact h.noSlash (by rw [hcs]; exact List.mem_cons_self)
    simpa using hc

/-- A text without slash is its only part. -/
theorem splitSlashesFrom_of_not_mem {cs : List Char} (pending : List Char) (h : '/' ∉ cs) :
    splitSlashesFrom pending cs = [pending.reverse ++ cs] := by
  induction cs generalizing pending with
  | nil => simp [splitSlashesFrom]
  | cons c rest ih =>
    rw [List.mem_cons, not_or] at h
    rw [splitSlashesFrom, ih (c :: pending) h.2]
    · simp
    · rintro rfl
      exact h.1 rfl

/-- The part in front of a slash is followed by the parts behind it. -/
theorem splitSlashesFrom_append {cs : List Char} (pending rest : List Char) (h : '/' ∉ cs) :
    splitSlashesFrom pending (cs ++ '/' :: rest) =
      (pending.reverse ++ cs) :: splitSlashesFrom [] rest := by
  induction cs generalizing pending with
  | nil => simp [splitSlashesFrom]
  | cons c cs ih =>
    rw [List.mem_cons, not_or] at h
    rw [List.cons_append, splitSlashesFrom, ih (c :: pending) h.2]
    · simp
    · rintro rfl
      exact h.1 rfl

/-- The parts of names that are joined by slashes are the names. -/
theorem splitSlashes_intercalate {names : List String} (hne : names ≠ [])
    (h : ∀ name ∈ names, IsPlain name) : splitSlashes ("/".intercalate names) = names := by
  unfold splitSlashes
  induction names with
  | nil => exact absurd rfl hne
  | cons name rest ih =>
    have hslash := (h name List.mem_cons_self).noSlash
    cases rest with
    | nil =>
      rw [String.intercalate_singleton, splitSlashesFrom_of_not_mem [] hslash]
      simp
    | cons next rest =>
      have hrest := ih (List.cons_ne_nil _ _) fun x hx => h x (List.mem_cons_of_mem _ hx)
      have hsplit := splitSlashesFrom_append [] ("/".intercalate (next :: rest)).toList hslash
      rw [String.intercalate_cons_cons, String.append_assoc, String.toList_append,
        String.toList_append]
      change (splitSlashesFrom [] (name.toList ++ '/' ::
        ("/".intercalate (next :: rest)).toList)).map String.ofList = _
      rw [hsplit, List.map_cons, hrest]
      simp

/-- A text that a slash may be put behind: it ends with something else. -/
def EndsInName (text : String) : Prop :=
  ∃ c, text.toList.getLast? = some c ∧ c ≠ '/'

/-- A text with a plain name at its end ends with that name. -/
theorem endsInName_append (text : String) {name : String} (h : IsPlain name) :
    EndsInName (text ++ name) := by
  have hne : name.toList ≠ [] := by
    intro hnil
    exact h.nonempty (String.toList_injective hnil)
  refine ⟨name.toList.getLast hne, ?_, ?_⟩
  · rw [String.toList_append, List.getLast?_append, List.getLast?_eq_some_getLast hne]
    rfl
  · intro hslash
    exact h.noSlash (hslash ▸ List.getLast_mem hne)

/-- A plain name is put behind a path with a slash between them. -/
theorem Path.text_join {base : Path} {name : String} (hbase : EndsInName base.text)
    (h : IsPlain name) : (base.join ⟨name⟩).text = base.text ++ "/" ++ name := by
  obtain ⟨c, hlast, hc⟩ := hbase
  have hempty : base.text.isEmpty = false := by
    refine Bool.eq_false_iff.2 ?_
    intro hisEmpty
    rw [String.isEmpty_iff.1 hisEmpty] at hlast
    cases hlast
  unfold Path.join
  simp [Path.isAbsolute_of_isPlain h, hempty, hlast, hc]

/-- Plain names below a path are spelled with slashes between them. -/
theorem Path.text_foldl_join {base : Path} (hbase : EndsInName base.text) {names : List String}
    (h : ∀ name ∈ names, IsPlain name) :
    (names.foldl (fun dir name => dir.join ⟨name⟩) base).text =
      "/".intercalate (base.text :: names) := by
  induction names generalizing base with
  | nil => simp
  | cons name rest ih =>
    have hname := h name List.mem_cons_self
    have htext := Path.text_join hbase hname
    have hends : EndsInName (base.join ⟨name⟩).text := by
      rw [htext]
      exact endsInName_append _ hname
    rw [List.foldl_cons, ih hends fun x hx => h x (List.mem_cons_of_mem _ hx), htext,
      String.intercalate_cons_append, String.intercalate_cons_cons]

/-- A path through plain names is spelled with a slash between them. -/
theorem Path.text_ofNames {names : List String} (h : ∀ name ∈ names, IsPlain name) :
    (Path.ofNames names).text = "/".intercalate names := by
  cases names with
  | nil => rfl
  | cons name rest =>
    have hends : EndsInName name := by
      simpa using endsInName_append "" (h name List.mem_cons_self)
    have hfirst : Path.join ⟨""⟩ ⟨name⟩ = ⟨name⟩ := by
      unfold Path.join
      simp
    unfold Path.ofNames
    rw [List.foldl_cons, hfirst]
    exact Path.text_foldl_join hends fun x hx => h x (List.mem_cons_of_mem _ hx)

/-- A path through plain names is not absolute. -/
theorem Path.isAbsolute_ofNames {names : List String} (h : ∀ name ∈ names, IsPlain name) :
    (Path.ofNames names).isAbsolute = false := by
  unfold Path.isAbsolute
  rw [Path.text_ofNames h]
  cases names with
  | nil => rfl
  | cons name rest =>
    have hname := h name List.mem_cons_self
    have habsolute := Path.isAbsolute_of_isPlain hname
    unfold Path.isAbsolute at habsolute
    cases hcs : name.toList with
    | nil => exact absurd (String.toList_injective hcs) hname.nonempty
    | cons c cs =>
      have hhead : ("/".intercalate (name :: rest)).toList.head? = some c := by
        cases rest with
        | nil => simp [hcs]
        | cons next rest => simp [hcs]
      rw [hhead]
      simpa [hcs] using habsolute

/-- A path through plain names has them as its components. -/
theorem Path.components_ofNames {names : List String} (h : ∀ name ∈ names, IsPlain name) :
    (Path.ofNames names).components = names.map .name := by
  unfold Path.components
  rw [Path.isAbsolute_ofNames h, Path.text_ofNames h]
  cases names with
  | nil => rfl
  | cons name rest =>
    rw [splitSlashes_intercalate (List.cons_ne_nil _ _) h]
    have hdot : ((name :: rest).head? == some ".") = false := by
      simpa using (h name List.mem_cons_self).notCurrent
    have hparts : (name :: rest).filterMap Component.ofPart? = (name :: rest).map .name := by
      rw [← List.filterMap_eq_map]
      refine List.filterMap_congr ?_
      intro x hx
      exact Component.ofPart?_of_isPlain (h x hx)
    simp only [hdot, hparts]
    rfl

/-- Paths through different plain names are not the same. -/
theorem Path.same_ofNames {names names' : List String} (h : ∀ name ∈ names, IsPlain name)
    (h' : ∀ name ∈ names', IsPlain name) :
    (Path.ofNames names).same (Path.ofNames names') = true ↔ names = names' := by
  unfold Path.same
  rw [Path.components_ofNames h, Path.components_ofNames h', beq_iff_eq]
  constructor
  · intro heq
    exact (List.map_inj_right fun _ _ => Component.name.inj).1 heq
  · rintro rfl
    rfl

end ExprGate.Files
