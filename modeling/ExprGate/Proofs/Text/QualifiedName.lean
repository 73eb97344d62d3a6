import ExprGate.Text.QualifiedName

/-!
# Dividing and joining qualified names

Joining the segments of a name gives the name back (`joinSegments_segments`), so a name is
determined by its segments (`segments_injective`). Segments without colons are found again in the name
that they make up (`segments_joinSegments`). The first separator ends the first segment
(`segmentsFrom_of_splitFirst_some`), and the last one stands in front of the simple name
(`splitQualified_eq`).
-/

set_option autoImplicit false

namespace ExprGate.Text

/-- There is always a segment. -/
theorem segmentsFrom_ne_nil (pending cs : List Char) : segmentsFrom pending cs ≠ [] := by
  fun_induction segmentsFrom pending cs with
  | case1 => simp
  | case2 => simp
  | case3 _ _ _ _ ih => exact ih

/-- The segments joined again are the pending text with the rest behind it. -/
theorem intercalate_segmentsFrom (pending cs : List Char) :
    separator.toList.intercalate (segmentsFrom pending cs) = pending.reverse ++ cs := by
  fun_induction segmentsFrom pending cs with
  | case1 pending => simp
  | case2 pending rest ih =>
    rw [List.intercalate_cons_of_ne_nil (segmentsFrom_ne_nil [] rest), ih]
    simp [separator]
  | case3 pending c rest _ ih =>
    rw [ih]
    simp

/-- Joining the segments of a name gives the name back. -/
theorem joinSegments_segments (name : String) : joinSegments (segments name) = name := by
  refine String.toList_injective ?_
  unfold joinSegments segments
  rw [String.toList_intercalate, List.map_map]
  have hid : String.toList ∘ String.ofList = id := by
    funext cs
    exact String.toList_ofList
  rw [hid, List.map_id, intercalate_segmentsFrom]
  rfl

/-- A name has a segment. -/
theorem segments_ne_nil (name : String) : segments name ≠ [] := by
  unfold segments
  intro h
  exact segmentsFrom_ne_nil [] name.toList (List.map_eq_nil_iff.1 h)

/-- A name below segments is a name below the name that they make up. -/
theorem joinSegments_concat {segs : List String} (h : segs ≠ []) (name : String) :
    joinSegments (segs ++ [name]) = joinSegments segs ++ separator ++ name := by
  unfold joinSegments
  rw [String.intercalate_append_of_ne_nil h (by simp), String.intercalate_singleton]

/-- The elements of joined lists are in one of them, or in what stands between them. -/
theorem mem_intercalate {α : Type} {sep : List α} {l : List (List α)} {x : α}
    (h : x ∈ sep.intercalate l) : x ∈ sep ∨ ∃ part ∈ l, x ∈ part := by
  induction l with
  | nil => cases h
  | cons part rest ih =>
    by_cases hrest : rest = []
    · subst hrest
      exact .inr ⟨part, List.mem_cons_self, by simpa using h⟩
    · rw [List.intercalate_cons_of_ne_nil hrest, List.mem_append, List.mem_append] at h
      obtain (h | h) | h := h
      · exact .inr ⟨part, List.mem_cons_self, h⟩
      · exact .inl h
      · exact (ih h).imp_right fun ⟨other, hother, hx⟩ => ⟨other, List.mem_cons_of_mem _ hother, hx⟩

/-- What follows the first part is made of separators and of the other parts. -/
theorem exists_intercalate_cons {α : Type} (sep part : List α) (rest : List (List α)) :
    ∃ tail, sep.intercalate (part :: rest) = part ++ tail ∧
      ∀ x ∈ tail, x ∈ sep ∨ ∃ other ∈ rest, x ∈ other := by
  by_cases hrest : rest = []
  · subst hrest
    exact ⟨[], by simp, nofun⟩
  · refine ⟨sep ++ sep.intercalate rest, ?_, ?_⟩
    · rw [List.intercalate_cons_of_ne_nil hrest, List.append_assoc]
    · intro x hx
      exact (List.mem_append.1 hx).elim .inl mem_intercalate

/-- The characters of a qualified name are colons and those of its segments. -/
theorem mem_joinSegments {segs : List String} {c : Char} (h : c ∈ (joinSegments segs).toList) :
    c = ':' ∨ ∃ segment ∈ segs, c ∈ segment.toList := by
  unfold joinSegments at h
  rw [String.toList_intercalate] at h
  obtain h | ⟨part, hpart, hc⟩ := mem_intercalate h
  · exact .inl (by simpa [separator] using h)
  · obtain ⟨segment, hsegment, rfl⟩ := List.mem_map.1 hpart
    exact .inr ⟨segment, hsegment, hc⟩

/-- Characters other than colons belong to the pending segment. -/
theorem segmentsFrom_append (pending : List Char) {cs : List Char} (h : ':' ∉ cs)
    (rest : List Char) :
    segmentsFrom pending (cs ++ rest) = segmentsFrom (cs.reverse ++ pending) rest := by
  induction cs generalizing pending with
  | nil => rfl
  | cons c cs ih =>
    rw [List.mem_cons, not_or] at h
    rw [List.cons_append, segmentsFrom, ih _ h.2, List.reverse_cons, List.append_assoc,
      List.singleton_append]
    rintro after heq -
    exact h.1 heq.symm

/-- Segments without colons are those of the name that they make up. -/
theorem segments_joinSegments {segs : List String} (hne : segs ≠ [])
    (hcolon : ∀ segment ∈ segs, ':' ∉ segment.toList) : segments (joinSegments segs) = segs := by
  have hall : segmentsFrom [] (separator.toList.intercalate (segs.map String.toList)) =
      segs.map String.toList := by
    induction segs with
    | nil => exact absurd rfl hne
    | cons segment rest ih =>
      rw [List.forall_mem_cons] at hcolon
      by_cases hrest : rest = []
      · subst hrest
        have hown := segmentsFrom_append [] hcolon.1 []
        simpa [segmentsFrom] using hown
      · rw [List.map_cons, List.intercalate_cons_of_ne_nil (by simpa using hrest), List.append_assoc,
          segmentsFrom_append [] hcolon.1, List.append_nil]
        change _ :: segmentsFrom [] (separator.toList.intercalate (rest.map String.toList)) = _
        rw [ih hrest hcolon.2, List.reverse_reverse]
  unfold segments joinSegments
  rw [String.toList_intercalate, hall, List.map_map]
  exact (List.map_congr_left fun s _ => String.ofList_toList).trans (List.map_id segs)

/-- Names with the same segments are the same. -/
theorem segments_injective : Function.Injective segments := by
  intro name name' h
  rw [← joinSegments_segments name, h, joinSegments_segments]

/-- A segment without colons in front of a name. -/
theorem segments_append {segment : String} (h : ':' ∉ segment.toList) (name : String) :
    segments (segment ++ separator ++ name) = segment :: segments name := by
  unfold segments
  rw [String.toList_append, String.toList_append, List.append_assoc, segmentsFrom_append [] h,
    List.append_nil]
  change String.ofList segment.toList.reverse.reverse :: segments name = _
  rw [List.reverse_reverse, String.ofList_toList]
  rfl

/-- A text without separator is one segment. -/
theorem segmentsFrom_of_splitFirst_none {cs : List Char} (h : splitFirstSeparator? cs = none)
    (pending : List Char) : segmentsFrom pending cs = [pending.reverse ++ cs] := by
  fun_induction segmentsFrom pending cs with
  | case1 => simp
  | case2 => cases h
  | case3 pending c rest hseparator ih =>
    rw [splitFirstSeparator?.eq_3 c rest hseparator, Option.map_eq_none_iff] at h
    rw [ih h]
    simp

/-- The first separator ends the first segment. -/
theorem segmentsFrom_of_splitFirst_some {cs before after : List Char}
    (h : splitFirstSeparator? cs = some (before, after)) (pending : List Char) :
    segmentsFrom pending cs = (pending.reverse ++ before) :: segmentsFrom [] after := by
  fun_induction segmentsFrom pending cs generalizing before with
  | case1 => cases h
  | case2 pending rest =>
    obtain ⟨rfl, rfl⟩ := Prod.mk.inj (Option.some.inj h)
    rw [List.append_nil]
  | case3 pending c rest hseparator ih =>
    rw [splitFirstSeparator?.eq_3 c rest hseparator] at h
    obtain ⟨⟨front, behind⟩, hsplit, heq⟩ := Option.map_eq_some_iff.1 h
    obtain ⟨rfl, rfl⟩ := Prod.mk.inj heq
    rw [ih hsplit]
    simp

/-- A text without colon has no separator. -/
theorem splitLastSeparator?_of_not_mem {cs : List Char} (h : ':' ∉ cs) :
    splitLastSeparator? cs = none := by
  induction cs with
  | nil => rfl
  | cons c rest ih =>
    rw [List.mem_cons, not_or] at h
    unfold splitLastSeparator?
    rw [ih h.2]
    dsimp only
    split
    · exact absurd rfl h.1
    · rfl

/-- A separator behind which there is no colon is the last one. -/
theorem splitLastSeparator?_append (before : List Char) {after : List Char} (h : ':' ∉ after) :
    splitLastSeparator? (before ++ ':' :: ':' :: after) = some (before, after) := by
  induction before with
  | nil =>
    have hcolon : splitLastSeparator? (':' :: after) = none := by
      unfold splitLastSeparator?
      rw [splitLastSeparator?_of_not_mem h]
      dsimp only
      split
      · exact absurd List.mem_cons_self h
      · rfl
    rw [List.nil_append]
    unfold splitLastSeparator?
    rw [hcolon]
    rfl
  | cons c before ih =>
    rw [List.cons_append]
    unfold splitLastSeparator?
    rw [ih]

/-- Behind the last separator there is none. -/
theorem splitLastSeparator?_eq_some {cs before after : List Char}
    (h : splitLastSeparator? cs = some (before, after)) :
    cs = before ++ ':' :: ':' :: after ∧ splitLastSeparator? after = none := by
  induction cs generalizing before with
  | nil => cases h
  | cons c rest ih =>
    unfold splitLastSeparator? at h
    split at h
    · rename_i front behind hlater
      obtain ⟨rfl, rfl⟩ := Prod.mk.inj (Option.some.inj h)
      obtain ⟨hrest, hnone⟩ := ih hlater
      exact ⟨congrArg (c :: ·) hrest, hnone⟩
    · rename_i hlater
      split at h
      · rename_i tail
        obtain ⟨rfl, rfl⟩ := Prod.mk.inj (Option.some.inj h)
        refine ⟨rfl, ?_⟩
        -- a separator further on would be found in what starts with the second colon too
        cases hafter : splitLastSeparator? tail with
        | none => rfl
        | some parts =>
          unfold splitLastSeparator? at hlater
          rw [hafter] at hlater
          cases hlater
      · cases h

/-- A text without last separator has no first one. -/
theorem splitFirstSeparator?_eq_none {cs : List Char} (h : splitLastSeparator? cs = none) :
    splitFirstSeparator? cs = none := by
  fun_induction splitFirstSeparator? cs with
  | case1 => rfl
  | case2 after =>
    unfold splitLastSeparator? at h
    split at h
    · cases h
    · cases h
  | case3 c rest hseparator ih =>
    unfold splitLastSeparator? at h
    split at h
    · cases h
    · rename_i hlater
      rw [ih hlater, Option.map_none]

/-- A name with several segments is divided at its last separator, behind which there is one
segment. -/
theorem splitQualified_eq {name : String} (h : (segments name).length ≠ 1) :
    name = (splitQualified name).1 ++ separator ++ simpleName name ∧
      segments (simpleName name) = [simpleName name] := by
  unfold simpleName splitQualified
  cases hlast : splitLastSeparator? name.toList with
  | none =>
    have hsegments := segmentsFrom_of_splitFirst_none (splitFirstSeparator?_eq_none hlast) []
    exact absurd (by rw [segments, hsegments]; rfl) h
  | some parts =>
    obtain ⟨before, after⟩ := parts
    obtain ⟨heq, hnone⟩ := splitLastSeparator?_eq_some hlast
    have hsegments := segmentsFrom_of_splitFirst_none (splitFirstSeparator?_eq_none hnone) []
    constructor
    · refine String.toList_injective ?_
      rw [heq]
      simp [separator]
    · simp [segments, hsegments]

/-- A name without colon is its own simple name. -/
theorem simpleName_of_not_mem {name : String} (h : ':' ∉ name.toList) : simpleName name = name := by
  unfold simpleName splitQualified
  rw [splitLastSeparator?_of_not_mem h]

/-- The simple name is what stands behind the last separator. -/
theorem simpleName_append (before : String) {name : String} (h : ':' ∉ name.toList) :
    simpleName (before ++ separator ++ name) = name := by
  have hsplit : splitLastSeparator? (before ++ separator ++ name).toList =
      some (before.toList, name.toList) := by
    rw [String.toList_append, String.toList_append, List.append_assoc]
    exact splitLastSeparator?_append before.toList h
  unfold simpleName splitQualified
  rw [hsplit]
  exact String.ofList_toList

end ExprGate.Text
