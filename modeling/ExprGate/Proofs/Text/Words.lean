import ExprGate.Text.Words

/-!
# Which characters the words of a name have

A slash would divide the path of a file that is named after a type, an underscore the words of a
module, a blank the name itself. So it matters that none of them gets into a name when it is divided
into words and their case is changed. Dividing brings in no character (`mem_of_mem_words`). For case
mappings the tables decide: no run and no sequence leads to a reserved code point
(`CaseRun.Avoids`), so only a reserved character is mapped to one.
-/

set_option autoImplicit false

namespace ExprGate.Text

/-! ## Reserved characters -/

/-- The code points of white space, of `#`, `-`, `/` and `_`, and of the marks of direction and of
byte order. -/
def reservedCodes : List Nat :=
  [0x9, 0xA, 0xB, 0xC, 0xD, 0x20, 0x23, 0x2D, 0x2F, 0x5F, 0x85, 0xA0, 0x1680, 0x2000, 0x2001, 0x2002,
   0x2003, 0x2004, 0x2005, 0x2006, 0x2007, 0x2008, 0x2009, 0x200A, 0x200E, 0x200F, 0x2028, 0x2029,
   0x202F, 0x205F, 0x3000, 0xFEFF]

/-- Whether a character is a reserved one. -/
def isReserved (c : Char) : Bool :=
  reservedCodes.contains c.toNat

/-- A text without reserved characters. -/
def Unreserved (cs : List Char) : Prop :=
  ∀ c ∈ cs, isReserved c = false

/-- A property that no reserved code point has is one of other characters. -/
theorem isReserved_eq_false {p : Char → Bool} (h : ∀ n ∈ reservedCodes, p (Char.ofNat n) = false)
    {c : Char} (hc : p c = true) : isReserved c = false := by
  unfold isReserved
  rw [Bool.eq_false_iff, Ne, List.contains_iff_mem]
  intro hmem
  have hnot := h c.toNat hmem
  rw [Char.ofNat_toNat, hc] at hnot
  cases hnot

/-- Only a reserved code point gives a reserved character. -/
theorem isReserved_ofNat {n : Nat} (h : n ∉ reservedCodes) : isReserved (Char.ofNat n) = false := by
  have hcode : (Char.ofNat n).toNat = n ∨ (Char.ofNat n).toNat = 0 := by
    by_cases hvalid : n.isValidChar
    · left
      rw [Char.ofNat, dif_pos hvalid]
      rfl
    · right
      rw [Char.ofNat, dif_neg hvalid]
      rfl
  unfold isReserved
  rw [Bool.eq_false_iff, Ne, List.contains_iff_mem]
  obtain hcode | hcode := hcode
  · rw [hcode]
    exact h
  · rw [hcode]
    decide

/-! ## Case -/

/-- No code point of a run is mapped to a given one. -/
def CaseRun.Avoids (r : CaseRun) (n : Nat) : Prop :=
  (n : Int) < r.first + r.shift ∨ r.last + r.shift < n

instance (r : CaseRun) (n : Nat) : Decidable (r.Avoids n) :=
  inferInstanceAs (Decidable (_ ∨ _))

/-- A run that avoids a code point has it not as an image. -/
theorem CaseRun.Avoids.image?_ne {r : CaseRun} {n m k : Nat} (h : r.Avoids n) (hn : n ≠ 0)
    (hk : r.image? m = some k) : k ≠ n := by
  unfold CaseRun.image? at hk
  split at hk
  · rename_i hrange
    simp only [Bool.and_eq_true, decide_eq_true_eq] at hrange
    unfold CaseRun.Avoids at h
    have heq := Option.some.inj hk
    omega
  · cases hk

/-- Tables of case mappings that lead to no reserved code point. -/
structure AvoidReserved (runs : List CaseRun) (sequences : List (Nat × List Nat)) : Prop where
  runs : ∀ r ∈ runs, ∀ n ∈ reservedCodes, r.Avoids n
  sequences : ∀ e ∈ sequences, ∀ n ∈ e.2, n ∉ reservedCodes

/-- The mapping to upper case leads to no reserved code point. -/
theorem avoidReserved_upper : AvoidReserved upperRuns upperSequences where
  runs := by decide +kernel
  sequences := by decide +kernel

/-- The mapping to lower case leads to no reserved code point. -/
theorem avoidReserved_lower : AvoidReserved lowerRuns lowerSequences where
  runs := by decide +kernel
  sequences := by decide +kernel

/-- By tables that lead to no reserved code point, another character is mapped to none. -/
theorem unreserved_mapCase {runs : List CaseRun} {sequences : List (Nat × List Nat)}
    (h : AvoidReserved runs sequences) {c : Char} (hc : isReserved c = false) :
    Unreserved (mapCase runs sequences c) := by
  intro d hd
  unfold mapCase at hd
  split at hd
  · rename_i ns hlookup
    obtain ⟨before, after, hsplit, -⟩ := List.lookup_eq_some_iff.1 hlookup
    obtain ⟨n, hn, rfl⟩ := List.mem_map.1 hd
    exact isReserved_ofNat (h.sequences (c.toNat, ns) (by rw [hsplit]; simp) n hn)
  · split at hd
    · rename_i n hfind
      obtain ⟨r, hr, himage⟩ := List.exists_of_findSome?_eq_some hfind
      obtain rfl := List.mem_singleton.1 hd
      refine isReserved_ofNat ?_
      intro hn
      have hpositive : ∀ m ∈ reservedCodes, m ≠ 0 := by decide
      exact (h.runs r hr n hn).image?_ne (hpositive n hn) himage rfl
    · obtain rfl := List.mem_singleton.1 hd
      exact hc

/-- The ASCII mappings keep the reserved characters to themselves. -/
theorem isReserved_toUpper_toLower {c : Char} (hascii : c.toNat < 128) (hc : isReserved c = false) :
    isReserved c.toUpper = false ∧ isReserved c.toLower = false := by
  have hall : ∀ n < 128, isReserved (Char.ofNat n) = false →
      isReserved (Char.ofNat n).toUpper = false ∧ isReserved (Char.ofNat n).toLower = false := by
    decide +kernel
  rw [← Char.ofNat_toNat c] at hc ⊢
  exact hall c.toNat hascii hc

/-- In upper case a character that is not reserved has none. -/
theorem unreserved_upperChar {c : Char} (hc : isReserved c = false) : Unreserved (upperChar c) := by
  unfold upperChar
  split
  · rename_i hascii
    intro d hd
    obtain rfl := List.mem_singleton.1 hd
    exact (isReserved_toUpper_toLower hascii hc).1
  · exact unreserved_mapCase avoidReserved_upper hc

/-- In lower case a character that is not reserved has none. -/
theorem unreserved_lowerChar {c : Char} (hc : isReserved c = false) : Unreserved (lowerChar c) := by
  unfold lowerChar
  split
  · rename_i hascii
    intro d hd
    obtain rfl := List.mem_singleton.1 hd
    exact (isReserved_toUpper_toLower hascii hc).2
  · exact unreserved_mapCase avoidReserved_lower hc

/-- Upper case brings in no reserved character. -/
theorem Unreserved.upper {cs : List Char} (h : Unreserved cs) : Unreserved (upper cs) := by
  intro d hd
  obtain ⟨c, hc, hd⟩ := List.mem_flatMap.1 hd
  exact unreserved_upperChar (h c hc) d hd

/-- The characters of a text in lower case are final or other small sigmas, or come from one
character of the text. -/
theorem mem_lowerFrom {before cs : List Char} {d : Char} (h : d ∈ lowerFrom before cs) :
    d = Char.ofNat 0x3C2 ∨ d = Char.ofNat 0x3C3 ∨ ∃ c ∈ cs, d ∈ lowerChar c := by
  induction cs generalizing before with
  | nil => cases h
  | cons c rest ih =>
    unfold lowerFrom at h
    obtain h | h := List.mem_append.1 h
    · split at h
      · split at h
        · exact .inl (List.mem_singleton.1 h)
        · exact .inr (.inl (List.mem_singleton.1 h))
      · exact .inr (.inr ⟨c, List.mem_cons_self, h⟩)
    · obtain h | h | ⟨x, hx, h⟩ := ih h
      · exact .inl h
      · exact .inr (.inl h)
      · exact .inr (.inr ⟨x, List.mem_cons_of_mem _ hx, h⟩)

/-- Lower case brings in no reserved character. -/
theorem Unreserved.lower {cs : List Char} (h : Unreserved cs) : Unreserved (lower cs) := by
  intro d hd
  obtain rfl | rfl | ⟨c, hc, hd⟩ := mem_lowerFrom hd
  · rfl
  · rfl
  · exact unreserved_lowerChar (h c hc) d hd

/-! ## Words -/

/-- A character put before units comes first in their text. -/
theorem flatten_consCluster (c : Char) (units : List (List Char)) :
    (consCluster c units).flatten = c :: units.flatten := by
  unfold consCluster
  split
  · rfl
  · rfl
  · split <;> rfl

/-- The units of a text are the text. -/
theorem flatten_clusters (cs : List Char) : (clusters cs).flatten = cs := by
  induction cs with
  | nil => rfl
  | cons c rest ih =>
    refine (flatten_consCluster c (clusters rest)).trans ?_
    rw [ih]

/-- The words of a text consist of its units. -/
theorem mem_of_mem_divide {units : List (List Char)} {word : List (List Char)} {u : List Char}
    (hword : word ∈ divide units) (hu : u ∈ word) : u ∈ units := by
  induction units generalizing word with
  | nil =>
    obtain rfl := List.mem_singleton.1 hword
    cases hu
  | cons v rest ih =>
    unfold divide at hword
    split at hword
    · obtain rfl | hword := List.mem_cons.1 hword
      · cases hu
      · exact List.mem_cons_of_mem _ (ih hword hu)
    · cases hrest : divide rest with
      | nil =>
        simp only [hrest, List.mem_singleton] at hword
        rw [hword, List.mem_singleton] at hu
        exact hu ▸ List.mem_cons_self
      | cons first others =>
        -- the unit is a word of its own, or joins the word behind it
        have hcases : word ∈ [v] :: first :: others ∨ word ∈ (v :: first) :: others := by
          simp only [hrest] at hword
          cases rest with
          | nil => exact .inr hword
          | cons w after =>
            dsimp only at hword
            split at hword
            · exact .inl hword
            · exact .inr hword
        have hbehind (w : List (List Char)) (hw : w ∈ first :: others) (hmem : u ∈ w) :
            u ∈ v :: rest :=
          List.mem_cons_of_mem _ (ih (hrest ▸ hw) hmem)
        obtain hword | hword := hcases
        · obtain rfl | hword := List.mem_cons.1 hword
          · obtain rfl := List.mem_singleton.1 hu
            exact List.mem_cons_self
          · exact hbehind word hword hu
        · obtain rfl | hword := List.mem_cons.1 hword
          · obtain rfl | hu := List.mem_cons.1 hu
            · exact List.mem_cons_self
            · exact hbehind first List.mem_cons_self hu
          · exact hbehind word (List.mem_cons_of_mem _ hword) hu

/-- The characters in the words of a text are characters of the text. -/
theorem mem_of_mem_words {cs : List Char} {word : List (List Char)} {c : Char}
    (hword : word ∈ words cs) (hc : c ∈ word.flatten) : c ∈ cs := by
  obtain ⟨u, hu, hc⟩ := List.mem_flatten.1 hc
  have hunit := mem_of_mem_divide (List.mem_filter.1 hword).1 hu
  rw [← flatten_clusters cs]
  exact List.mem_flatten.2 ⟨u, hunit, hc⟩

/-- Capitalised words of a text without reserved characters have none. -/
theorem Unreserved.pascalCase {cs : List Char} (h : Unreserved cs) : Unreserved (pascalCase cs) := by
  intro d hd
  obtain ⟨word, hword, hd⟩ := List.mem_flatMap.1 hd
  have hunit (u : List Char) (hu : u ∈ word) : Unreserved u := by
    intro c hc
    exact h c (mem_of_mem_words hword (List.mem_flatten.2 ⟨u, hu, hc⟩))
  cases word with
  | nil => cases hd
  | cons u rest =>
    obtain hd | hd := List.mem_append.1 hd
    · exact (hunit u List.mem_cons_self).upper d hd
    · refine Unreserved.lower ?_ d hd
      intro c hc
      obtain ⟨v, hv, hc⟩ := List.mem_flatten.1 hc
      exact hunit v (List.mem_cons_of_mem _ hv) c hc

end ExprGate.Text
