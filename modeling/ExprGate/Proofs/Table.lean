import Mathlib.Data.List.Nodup

/-!
# Association lists

The tables of the model are lists of pairs that are read with `List.lookup`. What is found is in
the table (`mem_of_lookup`), and if its keys differ it is the other way round too
(`lookup_of_mem`). Tables grow at the end, where a new key is no duplicate (`nodup_append_new`), and
with different keys an element is the only one with its key (`filter_key_eq_singleton`).
-/

set_option autoImplicit false

namespace ExprGate

variable {α β γ : Type}

/-- A list without duplicates has none with a new element at its end. -/
theorem nodup_append_new {l : List α} {x : α} (h : l.Nodup) (hx : x ∉ l) : (l ++ [x]).Nodup := by
  rw [← List.concat_eq_append]
  exact (List.nodup_concat l x).2 ⟨hx, h⟩

/-- An element is the only one with its key if no two elements have the same key. -/
theorem filter_key_eq_singleton [BEq γ] [LawfulBEq γ] {l : List α} {key : α → γ}
    (hkeys : (l.map key).Nodup) {x : α} (hx : x ∈ l) : l.filter (key · == key x) = [x] := by
  induction l with
  | nil => cases hx
  | cons y rest ih =>
    obtain ⟨hy, hrest⟩ := List.nodup_cons.1 hkeys
    obtain rfl | hx := List.mem_cons.1 hx
    · have hnone : rest.filter (key · == key x) = [] := by
        refine List.filter_eq_nil_iff.2 ?_
        intro z hz heq
        exact hy (List.mem_map.2 ⟨z, hz, eq_of_beq heq⟩)
      rw [List.filter_cons_of_pos (by simp), hnone]
    · have hne : ¬ (key y == key x) = true := by
        intro heq
        exact hy (List.mem_map.2 ⟨x, hx, (eq_of_beq heq).symm⟩)
      rw [List.filter_cons, if_neg hne, ih hrest hx]

/-- Entries are left out by their keys before or after their values are changed. -/
theorem filter_filterMap_values (l : List (α × β)) (f : β → Option γ) (p : α → Bool) :
    (l.filterMap fun (k, value) => (f value).map (Prod.mk k)).filter (fun entry => p entry.1) =
      (l.filter fun entry => p entry.1).filterMap fun (k, value) => (f value).map (Prod.mk k) := by
  rw [List.filter_filterMap, List.filterMap_filter]
  refine List.filterMap_congr ?_
  rintro ⟨k, value⟩ -
  dsimp only
  cases f value <;> cases hp : p k <;> simp [hp]

/-- Leaving out the entries of a key changes nothing at other keys. -/
theorem lookup_filter_of_ne [BEq α] [LawfulBEq α] {key other : α} (h : key ≠ other) (l : List (α × β)) :
    (l.filter (·.1 != other)).lookup key = l.lookup key := by
  induction l with
  | nil => rfl
  | cons entry rest ih =>
    obtain ⟨k, value⟩ := entry
    rw [List.lookup_cons]
    by_cases hk : k = other
    · subst hk
      rw [List.filter_cons_of_neg (by simp), beq_false_of_ne h]
      exact ih
    · rw [List.filter_cons_of_pos (by simpa using hk), List.lookup_cons, ih]

variable [DecidableEq α]

/-- Changing the values of a table changes what is found and not where. -/
theorem lookup_map_values (l : List (α × β)) (f : β → γ) (key : α) :
    (l.map fun (k, value) => (k, f value)).lookup key = (l.lookup key).map f := by
  induction l with
  | nil => rfl
  | cons entry rest ih =>
    obtain ⟨k, value⟩ := entry
    rw [List.map_cons, List.lookup_cons, List.lookup_cons]
    cases key == k with
    | true => rfl
    | false => exact ih

/-- What is found is in the table. -/
theorem mem_of_lookup {l : List (α × β)} {key : α} {value : β}
    (h : l.lookup key = some value) : (key, value) ∈ l := by
  obtain ⟨before, after, rfl, -⟩ := List.lookup_eq_some_iff.1 h
  simp

/-- What is in a table is found in it if no key occurs twice. -/
theorem lookup_of_mem {l : List (α × β)} (hkeys : (l.map Prod.fst).Nodup) {key : α} {value : β}
    (h : (key, value) ∈ l) : l.lookup key = some value := by
  induction l with
  | nil => cases h
  | cons entry rest ih =>
    obtain ⟨hhead, hrest⟩ := List.nodup_cons.1 hkeys
    rw [List.lookup_cons]
    obtain heq | hmem := List.mem_cons.1 h
    · subst heq
      simp
    · have hne : (key == entry.1) = false := by
        refine beq_false_of_ne ?_
        rintro rfl
        exact hhead (List.mem_map.2 ⟨_, hmem, rfl⟩)
      rw [hne]
      exact ih hrest hmem

/-- What is found are the keys of a table. -/
theorem isSome_lookup {l : List (α × β)} {key : α} :
    (l.lookup key).isSome = true ↔ key ∈ l.map Prod.fst := by
  induction l with
  | nil => simp
  | cons entry rest ih =>
    obtain ⟨k, value⟩ := entry
    rw [List.lookup_cons, List.map_cons, List.mem_cons, ← ih]
    by_cases hkey : key = k
    · simp [hkey]
    · simp [beq_false_of_ne hkey, hkey]

/-- What is found does not depend on the order of a table in which no key occurs twice. -/
theorem lookup_eq_of_perm {l l' : List (α × β)} (h : l.Perm l') (hkeys : (l.map Prod.fst).Nodup)
    (key : α) : l.lookup key = l'.lookup key := by
  have hkeys' : (l'.map Prod.fst).Nodup := (h.map Prod.fst).nodup_iff.1 hkeys
  refine Option.ext ?_
  intro value
  constructor
  · intro hfound
    exact lookup_of_mem hkeys' (h.mem_iff.1 (mem_of_lookup hfound))
  · intro hfound
    exact lookup_of_mem hkeys (h.mem_iff.2 (mem_of_lookup hfound))

end ExprGate
