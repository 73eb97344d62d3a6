import Mathlib.Data.List.Sort
import Mathlib.Data.String.Basic
import ExprGate.Proofs.Table
import ExprGate.Text.Sorted

/-!
# Sorted texts and tables

Sorting texts loses and adds none (`mem_sortedTexts`), and each comes once, in order
(`pairwise_sortedTexts`).

`insertEntry` puts a value under its key and leaves the other keys alone. Neither depends on the
order of the table, and values under different keys can be put in in any order (`insertEntry_comm`).
In a table that is in order, a new value replaces the old one in its place
(`SortedKeys.exists_replaced`).
-/

set_option autoImplicit false

namespace ExprGate.Text

/-! ## Texts -/

/-- A text that is inserted is in the list, with those that were there before. -/
theorem mem_insertText {s t : String} {l : List String} : t ∈ insertText s l ↔ t = s ∨ t ∈ l := by
  induction l with
  | nil => exact List.mem_cons
  | cons u rest ih =>
    unfold insertText
    split
    · exact List.mem_cons
    · split
      · rename_i heq
        subst heq
        rw [List.mem_cons]
        exact ⟨.inr, fun h => h.elim .inl id⟩
      · rw [List.mem_cons, ih, List.mem_cons]
        exact or_left_comm

/-- Sorting keeps all texts and no others. -/
theorem mem_sortedTexts {t : String} {l : List String} : t ∈ sortedTexts l ↔ t ∈ l := by
  induction l with
  | nil => rfl
  | cons s rest ih =>
    unfold sortedTexts at ih ⊢
    rw [List.foldr_cons, mem_insertText, ih, List.mem_cons]

/-- A list in increasing order stays so when a text is inserted. -/
theorem pairwise_insertText {l : List String} (h : l.Pairwise (· < ·)) (s : String) :
    (insertText s l).Pairwise (· < ·) := by
  induction l with
  | nil => exact List.pairwise_singleton _ _
  | cons t rest ih =>
    obtain ⟨hfirst, hrest⟩ := List.pairwise_cons.1 h
    unfold insertText
    split
    · rename_i hlt
      refine List.pairwise_cons.2 ⟨?_, h⟩
      intro u hu
      obtain rfl | hu := List.mem_cons.1 hu
      · exact hlt
      · exact hlt.trans (hfirst u hu)
    · rename_i hnot
      split
      · exact h
      · rename_i hne
        refine List.pairwise_cons.2 ⟨?_, ih hrest⟩
        intro u hu
        obtain rfl | hu := mem_insertText.1 hu
        · exact lt_of_le_of_ne (not_lt.1 hnot) (Ne.symm hne)
        · exact hfirst u hu

/-- Sorted texts are in increasing order. -/
theorem pairwise_sortedTexts (l : List String) : (sortedTexts l).Pairwise (· < ·) := by
  unfold sortedTexts
  induction l with
  | nil => exact .nil
  | cons s rest ih => exact pairwise_insertText ih s

/-! ## Tables -/

variable {α : Type}

/-- What is inserted under a key is found there. -/
theorem lookup_insertEntry_self (key : String) (value : α) (l : List (String × α)) :
    (insertEntry key value l).lookup key = some value := by
  induction l with
  | nil => simp [insertEntry]
  | cons entry rest ih =>
    obtain ⟨k, v⟩ := entry
    unfold insertEntry
    split
    · simp
    · split
      · simp
      · rename_i hne
        have hbeq : (key == k) = false := by simpa using hne
        rw [List.lookup_cons, hbeq]
        exact ih

/-- Inserting under a key changes nothing under another. -/
theorem lookup_insertEntry_of_ne {key other : String} (value : α) (l : List (String × α))
    (hne : other ≠ key) : (insertEntry key value l).lookup other = l.lookup other := by
  have hbeq : (other == key) = false := by simpa using hne
  induction l with
  | nil => simp [insertEntry, List.lookup_cons, hbeq]
  | cons entry rest ih =>
    obtain ⟨k, v⟩ := entry
    unfold insertEntry
    split
    · rw [List.lookup_cons, hbeq]
    · split
      · rename_i heq
        subst heq
        simp [List.lookup_cons, hbeq]
      · rw [List.lookup_cons, List.lookup_cons, ih]

/-- A later value under a key replaces an earlier one. -/
theorem insertEntry_insertEntry_self (key : String) (value old : α) (l : List (String × α)) :
    insertEntry key value (insertEntry key old l) = insertEntry key value l := by
  induction l with
  | nil => simp [insertEntry]
  | cons entry rest ih =>
    obtain ⟨k, v⟩ := entry
    unfold insertEntry
    by_cases hlt : key < k
    · simp [hlt, insertEntry]
    · by_cases heq : key = k
      · simp [heq, insertEntry]
      · simp [hlt, heq, insertEntry, ih]

/-- Values under different keys can be put in in any order. -/
theorem insertEntry_comm {key key' : String} (hne : key ≠ key') (value value' : α)
    (l : List (String × α)) :
    insertEntry key value (insertEntry key' value' l) =
      insertEntry key' value' (insertEntry key value l) := by
  induction l with
  | nil =>
    obtain hlt | hgt := lt_or_gt_of_ne hne
    · simp [insertEntry, hlt, hne.symm, not_lt_of_gt hlt]
    · simp [insertEntry, hgt, hne, not_lt_of_gt hgt]
  | cons entry rest ih =>
    obtain ⟨k, v⟩ := entry
    simp only [insertEntry]
    grind [insertEntry]

/-- A new key adds its entry to the table. -/
theorem insertEntry_perm_cons {key : String} {l : List (String × α)} (value : α)
    (hnew : l.lookup key = none) : (insertEntry key value l).Perm ((key, value) :: l) := by
  induction l with
  | nil => exact .refl _
  | cons entry rest ih =>
    obtain ⟨k, v⟩ := entry
    rw [List.lookup_cons] at hnew
    unfold insertEntry
    split
    · exact .refl _
    · split
      · rename_i heq
        subst heq
        simp at hnew
      · rename_i hne
        have hbeq : (key == k) = false := beq_false_of_ne hne
        rw [hbeq] at hnew
        exact ((ih hnew).cons _).trans (.swap _ _ _)

/-! ## Tables in order -/

/-- A table in the order of its keys, each of which occurs once. -/
def SortedKeys (l : List (String × α)) : Prop :=
  (l.map Prod.fst).Pairwise (· < ·)

/-- Sorted keys are different. -/
theorem SortedKeys.nodup {l : List (String × α)} (h : SortedKeys l) : (l.map Prod.fst).Nodup :=
  h.imp ne_of_lt

/-- The entries of a table after one is put in are this one and some of those before. -/
theorem mem_insertEntry {key : String} {value : α} {l : List (String × α)} {entry : String × α}
    (h : entry ∈ insertEntry key value l) : entry = (key, value) ∨ entry ∈ l := by
  induction l with
  | nil => exact .inl (List.mem_singleton.1 h)
  | cons first rest ih =>
    obtain ⟨k, v⟩ := first
    unfold insertEntry at h
    split at h
    · exact List.mem_cons.1 h
    · split at h
      · exact (List.mem_cons.1 h).imp_right (List.mem_cons_of_mem _)
      · obtain rfl | h := List.mem_cons.1 h
        · exact .inr List.mem_cons_self
        · exact (ih h).imp_right (List.mem_cons_of_mem _)

/-- A key is put into a table as a text is put into a list. -/
theorem map_fst_insertEntry (key : String) (value : α) (l : List (String × α)) :
    (insertEntry key value l).map Prod.fst = insertText key (l.map Prod.fst) := by
  induction l with
  | nil => rfl
  | cons entry rest ih =>
    obtain ⟨k, v⟩ := entry
    simp only [insertEntry, List.map_cons, insertText]
    split
    · rfl
    · split
      · rename_i heq
        rw [heq, List.map_cons]
      · rw [List.map_cons, ih]

/-- Keys stay sorted when an entry is inserted. -/
theorem SortedKeys.insertEntry {l : List (String × α)} (h : SortedKeys l) (key : String)
    (value : α) : SortedKeys (insertEntry key value l) := by
  unfold SortedKeys
  rw [map_fst_insertEntry]
  exact pairwise_insertText h key

/-- In a sorted table, the value under a key that is taken is replaced in its place. -/
theorem SortedKeys.exists_replaced {l : List (String × α)} (h : SortedKeys l) {key : String}
    {old : α} (hold : l.lookup key = some old) (value : α) :
    ∃ before after, l = before ++ (key, old) :: after ∧
      Text.insertEntry key value l = before ++ (key, value) :: after := by
  induction l with
  | nil => cases hold
  | cons entry rest ih =>
    obtain ⟨k, v⟩ := entry
    obtain ⟨hfirst, hrest⟩ := List.pairwise_cons.1 h
    rw [List.lookup_cons] at hold
    by_cases heq : key = k
    · subst heq
      obtain rfl : v = old := by simpa using hold
      refine ⟨[], rest, rfl, ?_⟩
      simp [Text.insertEntry]
    · rw [beq_false_of_ne heq] at hold
      obtain ⟨before, after, hsplit, hinsert⟩ := ih hrest hold
      have hlt : k < key := hfirst key (List.mem_map.2 ⟨_, mem_of_lookup hold, rfl⟩)
      refine ⟨(k, v) :: before, after, congrArg _ hsplit, ?_⟩
      simp [Text.insertEntry, not_lt_of_gt hlt, heq, hinsert]

end ExprGate.Text
