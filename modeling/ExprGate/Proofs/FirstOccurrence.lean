import Mathlib.Data.List.Induction
import ExprGate.Proofs.Table

/-!
# First occurrences in a list

`withEarlier` gives each element of a list with those before it, and `firstsBy` keeps the elements
whose key no earlier element has. Both are read off a list that grows at its end
(`withEarlier_concat`, `firstsBy_concat`), as loops build it.
-/

set_option autoImplicit false

namespace ExprGate

variable {α β : Type}

/-- The elements of a list, each with those before it. -/
def withEarlier (l : List α) : List (List α × α) :=
  l.zipIdx.map fun (x, i) => (l.take i, x)

/-- Without what comes before, they are the elements of the list. -/
theorem map_snd_withEarlier (l : List α) : (withEarlier l).map Prod.snd = l := by
  unfold withEarlier
  rw [List.map_map]
  exact List.zipIdx_map_fst 0 l

/-- A new last element has all others before it. -/
theorem withEarlier_concat (l : List α) (x : α) :
    withEarlier (l ++ [x]) = withEarlier l ++ [(l, x)] := by
  have htake : ∀ p ∈ l.zipIdx, ((l ++ [x]).take p.2, p.1) = (l.take p.2, p.1) := by
    rintro ⟨y, i⟩ hp
    have hlt : i < l.length := by
      have := (List.mem_zipIdx hp).2.1
      omega
    rw [List.take_append_of_le_length (Nat.le_of_lt hlt)]
  unfold withEarlier
  rw [List.zipIdx_append, List.map_append, List.map_congr_left htake]
  simp

/-- In a list behind another, the elements of the other come before. -/
theorem withEarlier_append (l m : List α) :
    withEarlier (l ++ m) =
      withEarlier l ++ (withEarlier m).map fun (earlier, x) => (l ++ earlier, x) := by
  induction m using List.reverseRecOn with
  | nil => simp [withEarlier]
  | append_singleton m x ih =>
    rw [← List.append_assoc, withEarlier_concat, withEarlier_concat, ih, List.map_append,
      List.append_assoc]
    rfl

/-- What comes before an element of a list of values of a function. -/
theorem withEarlier_map (f : α → β) (l : List α) :
    withEarlier (l.map f) = (withEarlier l).map fun (before, x) => (before.map f, f x) := by
  induction l using List.reverseRecOn with
  | nil => rfl
  | append_singleton l x ih =>
    rw [List.map_append, List.map_singleton, withEarlier_concat, withEarlier_concat, ih,
      List.map_append]
    rfl

/-- What comes before an element of a list of lists. -/
theorem withEarlier_flatMap (f : α → List β) (l : List α) :
    withEarlier (l.flatMap f) =
      (withEarlier l).flatMap fun (before, x) =>
        (withEarlier (f x)).map fun (earlier, y) => (before.flatMap f ++ earlier, y) := by
  induction l using List.reverseRecOn with
  | nil => rfl
  | append_singleton l x ih =>
    rw [List.flatMap_append, List.flatMap_singleton, withEarlier_append, ih, withEarlier_concat,
      List.flatMap_append, List.flatMap_singleton]

/-- What comes before an element of a list of which some elements have been left out. -/
theorem withEarlier_filterMap (f : α → Option β) (l : List α) :
    withEarlier (l.filterMap f) =
      (withEarlier l).filterMap fun (before, x) =>
        (f x).map fun y => (before.filterMap f, y) := by
  induction l using List.reverseRecOn with
  | nil => rfl
  | append_singleton l x ih =>
    rw [List.filterMap_append, withEarlier_append, ih, withEarlier_concat, List.filterMap_append]
    cases hx : f x <;> simp [hx, withEarlier]

/-- What comes before an element that is kept, of the elements that are kept. -/
theorem withEarlier_filter (p : α → Bool) (l : List α) :
    withEarlier (l.filter p) =
      ((withEarlier l).filter (p ·.2)).map fun (before, x) => (before.filter p, x) := by
  induction l using List.reverseRecOn with
  | nil => rfl
  | append_singleton l x ih =>
    rw [List.filter_append, withEarlier_append, ih, withEarlier_concat, List.filter_append,
      List.map_append]
    cases hx : p x <;> simp [hx, withEarlier]

/-- The elements before an element of a list are those in front of one of its occurrences. -/
theorem mem_withEarlier {l earlier : List α} {x : α} :
    (earlier, x) ∈ withEarlier l ↔ ∃ later, l = earlier ++ x :: later := by
  induction l using List.reverseRecOn with
  | nil => simp [withEarlier]
  | append_singleton l y ih =>
    rw [withEarlier_concat, List.mem_append, ih, List.mem_singleton, Prod.mk.injEq]
    constructor
    · rintro (⟨later, rfl⟩ | ⟨rfl, rfl⟩)
      · exact ⟨later ++ [y], by simp⟩
      · exact ⟨[], rfl⟩
    · -- the split is at the new element, or it splits the list before
      rintro ⟨later, hsplit⟩
      cases later using List.reverseRecOn with
      | nil =>
        obtain ⟨rfl, hlast⟩ := List.append_inj' hsplit rfl
        exact .inr ⟨rfl, (List.cons.inj hlast).1.symm⟩
      | append_singleton later z =>
        have hregroup : l ++ [y] = (earlier ++ x :: later) ++ [z] := by simpa using hsplit
        obtain ⟨rfl, -⟩ := List.append_inj' hregroup rfl
        exact .inl ⟨later, rfl⟩

variable [DecidableEq β] (key : α → β)

/-- The elements of a list whose key no earlier element has. -/
def firstsBy (l : List α) : List α :=
  ((withEarlier l).filter fun (earlier, x) => key x ∉ earlier.map key).map Prod.snd

/-- A new last element is kept exactly if its key is new. -/
theorem firstsBy_concat (l : List α) (x : α) :
    firstsBy key (l ++ [x]) =
      if key x ∈ l.map key then firstsBy key l else firstsBy key l ++ [x] := by
  unfold firstsBy
  rw [withEarlier_concat, List.filter_append, List.map_append]
  split
  · rename_i hx
    rw [List.filter_cons_of_neg (by simpa using hx)]
    exact List.append_nil _
  · rename_i hx
    rw [List.filter_cons_of_pos (by simpa using hx)]
    rfl

/-- What is kept is in the list. -/
theorem mem_of_mem_firstsBy {l : List α} {x : α} (h : x ∈ firstsBy key l) : x ∈ l := by
  obtain ⟨⟨earlier, y⟩, hpair, rfl⟩ := List.mem_map.1 h
  obtain ⟨later, rfl⟩ := mem_withEarlier.1 (List.mem_filter.1 hpair).1
  simp

/-- If every key is new where it occurs, all elements are kept. -/
theorem firstsBy_eq_self {l : List α}
    (h : ∀ p ∈ withEarlier l, key p.2 ∉ p.1.map key) : firstsBy key l = l := by
  unfold firstsBy
  rw [List.filter_eq_self.2 fun p hp => decide_eq_true (h p hp)]
  exact map_snd_withEarlier l

/-- If no key occurs twice, all elements are kept. -/
theorem firstsBy_eq_self_of_nodup {l : List α} (h : (l.map key).Nodup) : firstsBy key l = l := by
  refine firstsBy_eq_self key ?_
  rintro ⟨earlier, x⟩ hpair hmem
  obtain ⟨later, rfl⟩ := mem_withEarlier.1 hpair
  rw [List.map_append, List.map_cons] at h
  exact List.disjoint_of_nodup_append h hmem List.mem_cons_self

/-- An element whose key is new is kept. -/
theorem mem_firstsBy_of_split {l earlier later : List α} {x : α} (h : l = earlier ++ x :: later)
    (hx : key x ∉ earlier.map key) : x ∈ firstsBy key l :=
  List.mem_map.2 ⟨_, List.mem_filter.2 ⟨mem_withEarlier.2 ⟨later, h⟩, by simpa using hx⟩, rfl⟩

/-- No key is lost. -/
theorem mem_map_firstsBy {l : List α} {k : β} : k ∈ (firstsBy key l).map key ↔ k ∈ l.map key := by
  induction l using List.reverseRecOn with
  | nil => simp [firstsBy, withEarlier]
  | append_singleton l x ih =>
    rw [firstsBy_concat, List.map_append, List.mem_append, ← ih]
    split
    · rename_i hx
      constructor
      · exact .inl
      · rintro (h | h)
        · exact h
        · obtain rfl := List.mem_singleton.1 h
          exact ih.2 hx
    · rw [List.map_append, List.mem_append]

/-- No key is kept twice. -/
theorem nodup_map_firstsBy (l : List α) : ((firstsBy key l).map key).Nodup := by
  induction l using List.reverseRecOn with
  | nil => simp [firstsBy, withEarlier]
  | append_singleton l x ih =>
    rw [firstsBy_concat]
    split
    · exact ih
    · rename_i hx
      rw [List.map_append]
      refine nodup_append_new ih ?_
      rw [mem_map_firstsBy]
      exact hx

/-- Of the values of a function on some elements, the first of each key are found where the elements
are. -/
theorem firstsBy_filterMap {γ : Type} (key : γ → β) (f : α → Option γ) (l : List α) :
    firstsBy key (l.filterMap f) = (withEarlier l).filterMap fun (before, x) =>
      (f x).filter fun y => key y ∉ (before.filterMap f).map key := by
  unfold firstsBy
  rw [withEarlier_filterMap, List.filter_filterMap, List.map_filterMap]
  refine List.filterMap_congr ?_
  rintro ⟨before, x⟩ -
  cases hx : f x with
  | none => simp [hx]
  | some y =>
    simp only [hx, Option.map_some, Option.filter_some]
    split <;> rfl

end ExprGate
