import ExprGate.Proofs.Text.QualifiedName
import ExprGate.Proofs.Token.Identifier

/-!
# Names in small words

An identifier without underscore gives an identifier again when its words are put into lower case
and joined by underscores (`isWord_snakeName`). The first characters of words become characters that
start an identifier, since the table of lower case leads from characters of identifiers to letters
only (`lowerChar_eq`).

Nothing but the words in lower case is kept of a name, and all of them are: two names have the same
small form exactly if they have the same words up to case (`snakeName_eq_iff`).
-/

set_option autoImplicit false

namespace ExprGate.Text

open Token

/-! ## Characters of identifiers in lower case -/

/-- Each code point of a run is mapped into one of some ranges. The bounds are taken apart so that
they are computed once. -/
def CaseRun.leadsInto (ranges : List (Nat × Nat)) (r : CaseRun) : Bool :=
  match (r.first + r.shift).toNat, (r.last + r.shift).toNat with
  | first + 1, last + 1 =>
    (ranges.any fun (a, b) => Nat.ble a (first + 1) && Nat.ble (last + 1) b) ||
      (List.range (r.last + 1 - r.first)).all fun k =>
        (r.image? (r.first + k)).all fun n => ranges.any fun (a, b) => Nat.ble a n && Nat.ble n b
  | _, _ => false

/-- No code point of a run lies in one of some ranges. -/
def CaseRun.outside (ranges : List (Nat × Nat)) (r : CaseRun) : Bool :=
  ranges.all fun (a, b) => Nat.blt r.last a || Nat.blt b r.first

/-- A run that holds a code point holds it between its ends. -/
theorem CaseRun.image?_eq_some {r : CaseRun} {n k : Nat} (h : r.image? n = some k) :
    r.first ≤ n ∧ n ≤ r.last ∧ k = (n + r.shift : Int).toNat := by
  unfold image? at h
  split at h
  · rename_i hrange
    simp only [Bool.and_eq_true, decide_eq_true_eq] at hrange
    exact ⟨hrange.1.1, hrange.1.2, (Option.some.inj h).symm⟩
  · cases h

/-- What a code point is mapped to lies in one of the ranges that its run leads into. -/
theorem CaseRun.exists_range_of_leadsInto {ranges : List (Nat × Nat)} {r : CaseRun}
    (h : r.leadsInto ranges = true) {n k : Nat} (himage : r.image? n = some k) :
    ∃ range ∈ ranges, range.1 ≤ k ∧ k ≤ range.2 := by
  obtain ⟨hfirst, hlast, hk⟩ := image?_eq_some himage
  unfold leadsInto at h
  split at h
  case h_2 => cases h
  case h_1 first last hlow hhigh =>
    rw [Bool.or_eq_true, List.any_eq_true] at h
    obtain ⟨⟨a, b⟩, hrange, hin⟩ | hall := h
    · simp only [Bool.and_eq_true, Nat.ble_eq] at hin
      exact ⟨_, hrange, by dsimp only; omega, by dsimp only; omega⟩
    · have hmem : n - r.first ∈ List.range (r.last + 1 - r.first) := by
        rw [List.mem_range]
        omega
      have hone := List.all_eq_true.1 hall _ hmem
      rw [show r.first + (n - r.first) = n by omega, himage, Option.all_some,
        List.any_eq_true] at hone
      obtain ⟨range, hrange, hin⟩ := hone
      simp only [Bool.and_eq_true, Nat.ble_eq] at hin
      exact ⟨range, hrange, hin⟩

/-- No code point of a run that lies outside a table is in the table. -/
theorem CaseRun.not_contains_of_outside {t : CodeTable} {r : CaseRun}
    (h : r.outside t.ranges = true) {c : Char} {k : Nat} (himage : r.image? c.toNat = some k) :
    t.contains c = false := by
  obtain ⟨hfirst, hlast, -⟩ := image?_eq_some himage
  unfold CodeTable.contains
  rw [List.any_eq_false]
  rintro ⟨a, b⟩ hrange
  have hout := List.all_eq_true.1 h _ hrange
  simp only [Bool.or_eq_true, Nat.blt_eq] at hout
  simp only [Bool.and_eq_true, decide_eq_true_eq, not_and, not_le]
  omega

/-- The ranges of a table of characters beyond ASCII, with the small letters of ASCII. -/
def withLetters (t : CodeTable) : List (Nat × Nat) :=
  (0x61, 0x7A) :: t.ranges

/-- The ranges of a table lie beyond ASCII and hold code points of characters only. -/
def CodeTable.IsProper (t : CodeTable) : Prop :=
  ∀ range ∈ t.ranges, 128 ≤ range.1 ∧
    (range.2 < 0xD800 ∨ 0xDFFF < range.1 ∧ range.2 < 0x110000)

/-- The table of first characters is proper. -/
theorem isProper_startTable : startTable.IsProper := by
  unfold CodeTable.IsProper
  decide +kernel

/-- The table of further characters is proper. -/
theorem isProper_continueTable : continueTable.IsProper := by
  unfold CodeTable.IsProper
  decide +kernel

/-- A code point in the ranges is a small letter of ASCII, or a character of the table. -/
theorem CodeTable.IsProper.of_withLetters {t : CodeTable} (h : t.IsProper) {n : Nat}
    (hn : ∃ range ∈ withLetters t, range.1 ≤ n ∧ n ≤ range.2) :
    (0x61 ≤ n ∧ n ≤ 0x7A) ∨
      ¬ (Char.ofNat n).toNat < 128 ∧ t.contains (Char.ofNat n) = true := by
  obtain ⟨range, hrange, hfirst, hlast⟩ := hn
  obtain rfl | hrange := List.mem_cons.1 hrange
  · exact .inl ⟨hfirst, hlast⟩
  · right
    obtain ⟨hascii, hvalid⟩ := h range hrange
    have hcode : (Char.ofNat n).toNat = n := by
      rw [Char.ofNat, dif_pos (show n.isValidChar by unfold Nat.isValidChar; omega)]
      rfl
    rw [hcode]
    refine ⟨by omega, ?_⟩
    unfold contains
    rw [List.any_eq_true, hcode]
    exact ⟨range, hrange, by simp [hfirst, hlast]⟩

/-- A code point in the ranges of the first characters starts an identifier. -/
theorem isIdentStart_of_withLetters {n : Nat}
    (hn : ∃ range ∈ withLetters startTable, range.1 ≤ n ∧ n ≤ range.2) :
    isIdentStart (Char.ofNat n) = true := by
  have hletter : ∀ k < 0x7B, 0x61 ≤ k → isIdentStart (Char.ofNat k) = true := by
    decide
  obtain ⟨hlow, hhigh⟩ | ⟨hbeyond, hmem⟩ := isProper_startTable.of_withLetters hn
  · exact hletter n (by omega) hlow
  · rw [isIdentStart, if_neg hbeyond, hmem]

/-- A code point in the ranges of the other characters belongs to identifiers. -/
theorem isIdentContinue_of_withLetters {n : Nat}
    (hn : ∃ range ∈ withLetters continueTable, range.1 ≤ n ∧ n ≤ range.2) :
    isIdentContinue (Char.ofNat n) = true := by
  have hletter : ∀ k < 0x7B, 0x61 ≤ k → isIdentContinue (Char.ofNat k) = true := by
    decide
  obtain ⟨hlow, hhigh⟩ | ⟨hbeyond, hmem⟩ := isProper_continueTable.of_withLetters hn
  · exact hletter n (by omega) hlow
  · rw [isIdentContinue, if_neg hbeyond, hmem]

/-- Each run of the mapping to lower case leads to first characters of identifiers, or has no
characters of identifiers. -/
theorem lowerRuns_leadInto : ∀ r ∈ lowerRuns,
    r.leadsInto (withLetters startTable) = true ∧ r.leadsInto (withLetters continueTable) = true ∨
      r.outside startTable.ranges = true ∧ r.outside continueTable.ranges = true := by
  decide +kernel

/-- A character of identifiers is its own lower case, or has one that starts an identifier. -/
theorem lowerChar_eq {c : Char} (hc : isIdentStart c = true ∨ isIdentContinue c = true) :
    lowerChar c = [c] ∨ ∃ d rest, lowerChar c = d :: rest ∧ isIdentStart d = true ∧
      ∀ x ∈ d :: rest, isIdentContinue x = true := by
  unfold lowerChar
  split
  · rename_i hascii
    have hall : ∀ n < 128, (Char.ofNat n).toLower = Char.ofNat n ∨
        isIdentStart (Char.ofNat n).toLower = true ∧
          isIdentContinue (Char.ofNat n).toLower = true := by
      decide
    have hlower := hall c.toNat hascii
    rw [Char.ofNat_toNat] at hlower
    obtain heq | ⟨hstart, hcontinue⟩ := hlower
    · exact .inl (by rw [heq])
    · exact .inr ⟨_, [], rfl, hstart, by simpa using hcontinue⟩
  · rename_i hascii
    unfold mapCase
    split
    · rename_i ns hlookup
      obtain ⟨before, after, hsplit, -⟩ := List.lookup_eq_some_iff.1 hlookup
      have hmem : (c.toNat, ns) ∈ lowerSequences := by
        rw [hsplit]
        simp
      obtain ⟨-, rfl⟩ := Prod.mk.inj (List.mem_singleton.1 hmem)
      exact .inr ⟨_, _, rfl, by decide, List.all_eq_true.1 (by decide)⟩
    · split
      case h_2 => exact .inl rfl
      case h_1 n hfind =>
        obtain ⟨r, hr, himage⟩ := List.exists_of_findSome?_eq_some hfind
        obtain ⟨hstart, hcontinue⟩ | ⟨hstart, hcontinue⟩ := lowerRuns_leadInto r hr
        · have hs := isIdentStart_of_withLetters
            (CaseRun.exists_range_of_leadsInto hstart himage)
          have hi := isIdentContinue_of_withLetters
            (CaseRun.exists_range_of_leadsInto hcontinue himage)
          exact .inr ⟨_, [], rfl, hs, List.forall_mem_singleton.2 hi⟩
        · -- the letters in circles are no characters of identifiers
          rw [isIdentStart, if_neg hascii, isIdentContinue, if_neg hascii,
            CaseRun.not_contains_of_outside hstart himage,
            CaseRun.not_contains_of_outside hcontinue himage] at hc
          simp at hc

/-- Lower case keeps the characters of identifiers. -/
theorem isIdentContinue_of_mem_lowerFrom {before cs : List Char}
    (h : ∀ c ∈ cs, isIdentContinue c = true) {d : Char} (hd : d ∈ lowerFrom before cs) :
    isIdentContinue d = true := by
  obtain rfl | rfl | ⟨c, hc, hd⟩ := mem_lowerFrom hd
  · decide
  · decide
  · obtain heq | ⟨e, rest, heq, -, hall⟩ := lowerChar_eq (.inr (h c hc))
    · rw [heq] at hd
      obtain rfl := List.mem_singleton.1 hd
      exact h d hc
    · exact hall d (heq ▸ hd)

/-- An identifier in lower case is one again. -/
theorem lower_cons {c : Char} {rest : List Char} (hc : isIdentStart c = true)
    (hrest : ∀ d ∈ rest, isIdentContinue d = true) :
    ∃ d more, lower (c :: rest) = d :: more ∧ isIdentStart d = true ∧
      ∀ x ∈ more, isIdentContinue x = true := by
  have hlower (d : Char) (mapped : List Char) (hstart : isIdentStart d = true)
      (hmapped : ∀ x ∈ mapped, isIdentContinue x = true) :
      ∃ d' more, d :: mapped ++ lowerFrom [c] rest = d' :: more ∧ isIdentStart d' = true ∧
        ∀ x ∈ more, isIdentContinue x = true := by
    refine ⟨d, _, rfl, hstart, ?_⟩
    intro x hx
    obtain hx | hx := List.mem_append.1 hx
    · exact hmapped x hx
    · exact isIdentContinue_of_mem_lowerFrom hrest hx
  unfold lower lowerFrom
  dsimp only
  split
  · split
    · exact hlower (Char.ofNat 0x3C2) [] (by decide) (by simp)
    · exact hlower (Char.ofNat 0x3C3) [] (by decide) (by simp)
  · obtain heq | ⟨d, mapped, heq, hstart, hall⟩ := lowerChar_eq (.inl hc)
    · rw [heq]
      exact hlower c [] hc (by simp)
    · rw [heq]
      exact hlower d mapped hstart fun x hx => hall x (List.mem_cons_of_mem _ hx)

/-! ## Words -/

/-- Without gaps between words, dividing loses nothing. -/
theorem flatten_divide {units : List (List Char)} (h : ∀ u ∈ units, isWordGap u = false) :
    (divide units).flatten = units := by
  induction units with
  | nil => rfl
  | cons u rest ih =>
    have hrest := ih fun v hv => h v (List.mem_cons_of_mem _ hv)
    have hgap : ¬ isWordGap u = true := by simp [h u List.mem_cons_self]
    unfold divide
    rw [if_neg hgap]
    dsimp only
    cases hdivide : divide rest with
    | nil =>
      rw [hdivide] at hrest
      rw [← hrest]
      rfl
    | cons word others =>
      rw [hdivide, List.flatten_cons] at hrest
      have hjoined := congrArg (u :: ·) hrest
      cases rest with
      | nil => exact hjoined
      | cons v after =>
        dsimp only
        split
        · exact hjoined
        · exact hjoined

/-- No cluster is empty. -/
theorem ne_nil_of_mem_clusters {cs u : List Char} (h : u ∈ clusters cs) : u ≠ [] := by
  induction cs generalizing u with
  | nil => cases h
  | cons c rest ih =>
    change u ∈ consCluster c (clusters rest) at h
    unfold consCluster at h
    split at h
    · simp_all
    · simp_all
    · split at h <;> grind

/-- Without reserved characters, a text consists of its words. -/
theorem flatten_words {cs : List Char} (h : Unreserved cs) :
    ((words cs).map List.flatten).flatten = cs := by
  have hgap : ∀ u ∈ clusters cs, isWordGap u = false := by
    intro u hu
    have hmem : ∀ c ∈ u, isReserved c = false := by
      intro c hc
      refine h c ?_
      rw [← flatten_clusters cs]
      exact List.mem_flatten.2 ⟨u, hu, hc⟩
    rw [Bool.eq_false_iff]
    intro hword
    unfold isWordGap at hword
    simp only [Bool.or_eq_true, beq_iff_eq] at hword
    obtain (rfl | rfl) | rfl := hword
    · exact absurd (hmem '_' List.mem_cons_self) (by decide)
    · exact absurd (hmem '-' List.mem_cons_self) (by decide)
    · exact absurd (hmem ' ' List.mem_cons_self) (by decide)
  unfold words
  rw [← List.flatten_flatten, List.flatten_filter_not_isEmpty, flatten_divide hgap,
    flatten_clusters]

/-- No word is empty. -/
theorem flatten_ne_nil_of_mem_words {cs : List Char} {word : List (List Char)}
    (h : word ∈ words cs) : word.flatten ≠ [] := by
  obtain ⟨hdivide, hne⟩ := List.mem_filter.1 h
  obtain ⟨u, rest, rfl⟩ := List.exists_cons_of_ne_nil (show word ≠ [] by rintro rfl; cases hne)
  have hu := ne_nil_of_mem_clusters (mem_of_mem_divide hdivide List.mem_cons_self)
  simp [hu]

/-- The words of a name in lower case. -/
def lowerWords (s : String) : List (List Char) :=
  (words s.toList).map fun word => lower word.flatten

/-- The small form of a name of characters of identifiers consists of such characters. -/
theorem isIdentContinue_of_mem_snakeName {s : String}
    (h : ∀ c ∈ s.toList, isIdentContinue c = true) {d : Char} (hd : d ∈ (snakeName s).toList) :
    isIdentContinue d = true := by
  unfold snakeName snakeCase at hd
  rw [String.toList_ofList] at hd
  obtain hd | ⟨part, hpart, hd⟩ := mem_intercalate hd
  · obtain rfl := List.mem_singleton.1 hd
    decide
  · obtain ⟨word, hword, rfl⟩ := List.mem_map.1 hpart
    refine isIdentContinue_of_mem_lowerFrom ?_ hd
    intro c hc
    exact h c (mem_of_mem_words hword hc)

/-- An identifier without underscore is an identifier in small words too. -/
theorem isWord_snakeName {s : String} (hword : IsWord s) (hfree : Unreserved s.toList) :
    IsWord (snakeName s) := by
  obtain ⟨c, rest, hs, hstart, hcontinue⟩ := hword
  have hflatten := flatten_words hfree
  unfold IsWord snakeName snakeCase
  rw [String.toList_ofList]
  cases hwords : words s.toList with
  | nil =>
    rw [hwords, hs] at hflatten
    cases hflatten
  | cons word others =>
    have hne := flatten_ne_nil_of_mem_words (hwords ▸ List.mem_cons_self : word ∈ words s.toList)
    obtain ⟨c', rest', hword⟩ := List.exists_cons_of_ne_nil hne
    rw [hwords, List.map_cons, List.flatten_cons, hword, hs, List.cons_append] at hflatten
    obtain ⟨rfl, hrest⟩ := List.cons.inj hflatten
    have hown : ∀ d ∈ rest', isIdentContinue d = true := by
      intro d hd
      exact hcontinue d (hrest ▸ List.mem_append_left _ hd)
    obtain ⟨d, more, hlower, hd, hmore⟩ := lower_cons hstart hown
    have hothers : ∀ w ∈ others.map fun word => lower word.flatten, ∀ x ∈ w,
        isIdentContinue x = true := by
      intro w hw x hx
      obtain ⟨v, hv, rfl⟩ := List.mem_map.1 hw
      refine isIdentContinue_of_mem_lowerFrom ?_ hx
      intro y hy
      refine hcontinue y (hrest ▸ List.mem_append_right _ ?_)
      exact List.mem_flatten.2 ⟨_, List.mem_map_of_mem hv, hy⟩
    obtain ⟨tail, hjoined, htail⟩ := exists_intercalate_cons ['_'] (d :: more)
      (others.map fun word => lower word.flatten)
    rw [List.map_cons, hword, hlower, hjoined, List.cons_append]
    refine ⟨d, _, rfl, hd, ?_⟩
    intro x hx
    obtain hx | hx := List.mem_append.1 hx
    · exact hmore x hx
    · obtain hx | ⟨w, hw, hx⟩ := htail x hx
      · obtain rfl := List.mem_singleton.1 hx
        decide
      · exact hothers w hw x hx

/-- Two names without underscore have the same small form exactly if their words are the same up to
case. -/
theorem snakeName_eq_iff {s t : String} (hs : Unreserved s.toList) (ht : Unreserved t.toList)
    (hsne : s ≠ "") (htne : t ≠ "") : snakeName s = snakeName t ↔ lowerWords s = lowerWords t := by
  have hread {u : String} (hu : Unreserved u.toList) (hne : u ≠ "") :
      (snakeCase u.toList).splitOn '_' = lowerWords u := by
    refine List.splitOn_intercalate '_' ?_ ?_
    · intro w hw hmem
      obtain ⟨word, hword, rfl⟩ := List.mem_map.1 hw
      have hunreserved : Unreserved (lower word.flatten) := by
        refine Unreserved.lower ?_
        intro c hc
        exact hu c (mem_of_mem_words hword hc)
      exact absurd (hunreserved '_' hmem) (by decide)
    · intro hnil
      have hflatten := flatten_words hu
      rw [List.map_eq_nil_iff.1 hnil] at hflatten
      exact hne (String.toList_injective hflatten.symm)
  constructor
  · intro h
    have hchars : snakeCase s.toList = snakeCase t.toList := String.ofList_injective h
    rw [← hread hs hsne, hchars, hread ht htne]
  · intro h
    unfold snakeName snakeCase
    exact congrArg (fun l => String.ofList (['_'].intercalate l)) h

end ExprGate.Text
