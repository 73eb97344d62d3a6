import ExprGate.Files.Disk
import ExprGate.Proofs.Files.Path

/-!
# Parts of paths

The parts of a path are what a disk is walked by. Those of a path below another one stand behind the
parts of that one (`Path.parts_join`). A path that is relative and has no `..` leads down
(`Path.StaysBelow`), and its parts but for `.` are the names that it leads through (`Path.names`).
-/

set_option autoImplicit false

namespace ExprGate.Files

/-- A slash divides the parts in front of it from those behind it. -/
theorem splitSlashesFrom_slash (pending cs rest : List Char) :
    splitSlashesFrom pending (cs ++ '/' :: rest) =
      splitSlashesFrom pending cs ++ splitSlashesFrom [] rest := by
  fun_induction splitSlashesFrom pending cs with
  | case1 pending => simp [splitSlashesFrom]
  | case2 pending cs ih => simp [splitSlashesFrom, ih]
  | case3 pending c cs hslash ih =>
    rw [List.cons_append, splitSlashesFrom, ih]
    intro hc
    exact hslash hc

/-- The parts of two texts with a slash between them are those of the one and of the other. -/
theorem splitSlashes_slash (front back : String) :
    splitSlashes (front ++ "/" ++ back) = splitSlashes front ++ splitSlashes back := by
  unfold splitSlashes
  have hlist : (front ++ "/" ++ back).toList = front.toList ++ '/' :: back.toList := by
    simp
  rw [hlist, splitSlashesFrom_slash, List.map_append]

/-- A slash at the end of a text adds an empty part. -/
theorem splitSlashes_endSlash (front : String) :
    splitSlashes (front ++ "/") = splitSlashes front ++ [""] := by
  have hempty : splitSlashes "" = [""] := by decide
  simpa [hempty] using splitSlashes_slash front ""

/-- Every text has a part. -/
theorem splitSlashes_ne_nil (text : String) : splitSlashes text ≠ [] := by
  have hparts (pending cs : List Char) : splitSlashesFrom pending cs ≠ [] := by
    fun_induction splitSlashesFrom pending cs with
    | case1 => simp
    | case2 => simp
    | case3 pending c rest hslash ih => exact ih
  simp [splitSlashes, hparts]

namespace Path

/-- The names of which a path consists, apart from `..`. -/
def names (p : Path) : List String :=
  p.parts.filter (· ≠ ".")

/-- The parts of a path with a slash in it are those in front of the slash and those behind it. -/
theorem parts_of_slash {text : String} (front back : String) (h : text = front ++ "/" ++ back) :
    parts ⟨text⟩ = parts ⟨front⟩ ++ parts ⟨back⟩ := by
  subst h
  unfold parts
  rw [splitSlashes_slash, List.filter_append]

/-- The empty path has no parts. -/
theorem parts_empty : parts ⟨""⟩ = [] := by
  decide

/-- A relative path is put behind the parts of the other one. -/
theorem parts_join (root : Path) {p : Path} (h : p.isAbsolute = false) :
    (root.join p).parts = root.parts ++ p.parts := by
  obtain ⟨text⟩ := root
  unfold join
  by_cases hempty : text.isEmpty = true
  · obtain rfl := String.isEmpty_iff.1 hempty
    simp [parts_empty]
  · rw [if_neg (by simp [h, hempty])]
    split
    · -- a slash at the end of the root already stands between the two
      rename_i hslash
      obtain ⟨cs, hcs⟩ := List.getLast?_eq_some_iff.1 (beq_iff_eq.1 hslash)
      have htext : text = String.ofList cs ++ "/" := by
        refine String.toList_injective ?_
        rw [hcs, String.toList_append, String.toList_ofList]
        rfl
      have hroot : parts ⟨text⟩ = parts ⟨String.ofList cs⟩ := by
        rw [parts_of_slash (String.ofList cs) "" (by simpa using htext),
          parts_empty, List.append_nil]
      rw [hroot, parts_of_slash (String.ofList cs) p.text (by rw [htext])]
    · exact parts_of_slash text p.text rfl

/-- How a path starts is told by any beginning of it. -/
theorem isAbsolute_append {front : String} (h : front ≠ "") (back : String) :
    isAbsolute ⟨front ++ back⟩ = isAbsolute ⟨front⟩ := by
  have hlist : front.toList ≠ [] := by
    intro hnil
    exact h (String.toList_injective hnil)
  unfold isAbsolute
  rw [String.toList_append, List.head?_append_of_ne_nil _ hlist]

/-- Below another path, a relative one is absolute if that path is. -/
theorem isAbsolute_join (root : Path) {p : Path} (h : p.isAbsolute = false) :
    (root.join p).isAbsolute = root.isAbsolute := by
  obtain ⟨text⟩ := root
  unfold join
  by_cases hempty : text = ""
  · subst hempty
    rw [if_pos (by simp), h]
    decide
  · rw [if_neg (by simp [h, hempty])]
    -- whatever stands between them, the first character is that of the root
    split
    · exact isAbsolute_append hempty p.text
    · rw [String.append_assoc]
      exact isAbsolute_append hempty _

/-- A path through plain names has them as its parts, and as its names. -/
theorem parts_ofNames {names : List String} (h : ∀ name ∈ names, IsPlain name) :
    (ofNames names).parts = names := by
  unfold parts
  rw [text_ofNames h]
  cases names with
  | nil => exact parts_empty
  | cons name rest =>
    rw [splitSlashes_intercalate (List.cons_ne_nil name rest) h]
    refine List.filter_eq_self.2 ?_
    intro x hx
    simpa using (h x hx).nonempty

/-- A path through plain names has them as its names. -/
theorem names_ofNames {names : List String} (h : ∀ name ∈ names, IsPlain name) :
    (ofNames names).names = names := by
  unfold Path.names
  rw [parts_ofNames h]
  refine List.filter_eq_self.2 ?_
  intro x hx
  simpa using (h x hx).notCurrent

/-- A path that leads down from where it starts. -/
structure StaysBelow (p : Path) : Prop where
  relative : p.isAbsolute = false
  noParent : ".." ∉ p.parts

/-- A path through plain names leads down. -/
theorem staysBelow_ofNames {names : List String} (h : ∀ name ∈ names, IsPlain name) :
    (ofNames names).StaysBelow := by
  refine ⟨isAbsolute_ofNames h, ?_⟩
  rw [parts_ofNames h]
  intro hmem
  exact (h ".." hmem).notParent rfl

/-- Without `..` the components behind the first one are the names. -/
theorem filterMap_ofPart? {parts : List String} (h : ".." ∉ parts.filter (!·.isEmpty)) :
    parts.filterMap Component.ofPart? =
      ((parts.filter (!·.isEmpty)).filter (· ≠ ".")).map .name := by
  rw [List.filter_filter, ← List.filterMap_eq_map, List.filterMap_filter]
  refine List.filterMap_congr ?_
  intro part hpart
  unfold Component.ofPart?
  by_cases hempty : part = ""
  · simp [hempty]
  by_cases hdot : part = "."
  · simp [hdot]
  have hparent : part ≠ ".." := by
    rintro rfl
    exact h (List.mem_filter.2 ⟨hpart, by decide⟩)
  simp [hempty, hdot, hparent]

/-- What is put behind a slash adds its own components. -/
theorem components_slash (front back : String) :
    components ⟨front ++ "/" ++ back⟩ =
      components ⟨front ++ "/"⟩ ++ (splitSlashes back).filterMap Component.ofPart? := by
  have habsolute : isAbsolute ⟨front ++ "/" ++ back⟩ = isAbsolute ⟨front ++ "/"⟩ :=
    isAbsolute_append (by simp) back
  have hfirst := splitSlashes_ne_nil front
  unfold components
  rw [habsolute, splitSlashes_slash, splitSlashes_endSlash]
  simp [List.head?_append_of_ne_nil _ hfirst, Component.ofPart?]

/-- A slash at the end does not count, unless it is the root. -/
theorem components_endSlash {front : String} (h : front ≠ "") :
    components ⟨front ++ "/"⟩ = components ⟨front⟩ := by
  have hfirst := splitSlashes_ne_nil front
  unfold components
  rw [isAbsolute_append h, splitSlashes_endSlash]
  simp [List.head?_append_of_ne_nil _ hfirst, Component.ofPart?]

/-- A path that leads through plain names from another one has its components and these names. -/
theorem components_join_ofNames (root : Path) {names : List String}
    (h : ∀ name ∈ names, IsPlain name) :
    (root.join (ofNames names)).components = root.components ++ names.map .name := by
  obtain ⟨text⟩ := root
  have hrelative := isAbsolute_ofNames h
  have hparts : (splitSlashes (ofNames names).text).filterMap Component.ofPart? =
      names.map .name := by
    have hdown := filterMap_ofPart? (staysBelow_ofNames h).noParent
    exact hdown.trans (congrArg _ (names_ofNames h))
  unfold join
  by_cases hempty : text = ""
  · subst hempty
    rw [if_pos (by simp), components_ofNames h]
    rfl
  · rw [if_neg (by simp [hrelative, hempty])]
    split
    · rename_i hslash
      obtain ⟨cs, hcs⟩ := List.getLast?_eq_some_iff.1 (beq_iff_eq.1 hslash)
      obtain rfl : text = String.ofList cs ++ "/" := by
        refine String.toList_injective ?_
        rw [hcs, String.toList_append, String.toList_ofList]
        rfl
      rw [components_slash, hparts]
    · rw [components_slash, components_endSlash hempty, hparts]

/-- A path that is the same as one through plain names leads through these. -/
theorem names_of_same {p : Path} (hp : p.StaysBelow) {names : List String}
    (h : ∀ name ∈ names, IsPlain name) (hsame : p.same (ofNames names) = true) :
    p.names = names := by
  unfold same at hsame
  rw [components_ofNames h, beq_iff_eq] at hsame
  unfold components at hsame
  rw [hp.relative] at hsame
  simp only [Bool.false_eq_true, if_false] at hsame
  have hcomponents : (splitSlashes p.text).filterMap Component.ofPart? = p.names.map .name :=
    filterMap_ofPart? hp.noParent
  rw [hcomponents] at hsame
  split at hsame
  · cases names <;> simp at hsame
  · exact (List.map_inj_right fun _ _ => Component.name.inj).1 hsame

end Path

end ExprGate.Files
