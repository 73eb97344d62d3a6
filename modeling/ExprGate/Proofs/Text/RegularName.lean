import ExprGate.Proofs.Text.SnakeCase

/-!
# Regular names

A name of letters and digits of ASCII is regular if it starts with a capital, has no two capitals
side by side and no small letter right behind a digit. Its words start with capitals or digits and go
on without capitals (`divide_regular`), so each of them can be read off its lower case, and with them
the name (`IsRegular.eq_of_lowerWords_eq`). Names with acronyms are not regular: `ABName` and
`AbName` have the same words up to case.
-/

set_option autoImplicit false

namespace ExprGate.Text

/-- Whether a character may follow another one in a regular name: no capital follows a capital, and
no small letter a digit. -/
def followsRegularly (c d : Char) : Bool :=
  !(c.isUpper && d.isUpper) && !(c.isDigit && d.isLower)

/-- A name of letters and digits of ASCII that starts with a capital, has no two capitals side by
side and no small letter right behind a digit. -/
structure IsRegular (s : String) : Prop where
  letters : ∀ c ∈ s.toList, c.isAlphanum = true
  capital : ∃ c rest, s.toList = c :: rest ∧ c.isUpper = true
  follows : s.toList.IsChain fun c d => followsRegularly c d = true

/-- Letters and digits of ASCII are capitals, small letters or digits, and so are their units. -/
theorem unit_isAlphanum {c : Char} (h : c.isAlphanum = true) :
    c.toNat < 128 ∧ isWordGap [c] = false ∧
      (isUpperUnit [c], isLowerUnit [c], isDigitUnit [c]) = (c.isUpper, c.isLower, c.isDigit) ∧
        (c.isUpper, c.isLower, c.isDigit) ∈
          [(true, false, false), (false, true, false), (false, false, true)] := by
  have hascii : c.toNat < 128 := by
    have hbelow {a b : Char} (h : a.val ≤ c.val ∧ c.val ≤ b.val) (hb : b.toNat < 128) :
        c.toNat < 128 :=
      Nat.lt_of_le_of_lt (UInt32.le_iff_toNat_le.1 h.2) hb
    obtain hletter | hdigit := Bool.or_eq_true_iff.1 h
    · obtain hupper | hlower := Bool.or_eq_true_iff.1 hletter
      · exact hbelow (a := 'A') (b := 'Z') (of_decide_eq_true hupper) (by decide)
      · obtain ⟨hlow, hhigh⟩ := Bool.and_eq_true_iff.1 hlower
        exact hbelow (a := 'a') (b := 'z')
          ⟨of_decide_eq_true hlow, of_decide_eq_true hhigh⟩ (by decide)
    · obtain ⟨hlow, hhigh⟩ := Bool.and_eq_true_iff.1 hdigit
      exact hbelow (a := '0') (b := '9')
        ⟨of_decide_eq_true hlow, of_decide_eq_true hhigh⟩ (by decide)
  have hunit : ∀ n < 128, (Char.ofNat n).isAlphanum = true →
      isWordGap [Char.ofNat n] = false ∧
        (isUpperUnit [Char.ofNat n], isLowerUnit [Char.ofNat n], isDigitUnit [Char.ofNat n]) =
          ((Char.ofNat n).isUpper, (Char.ofNat n).isLower, (Char.ofNat n).isDigit) := by
    decide +kernel
  have hkind : ∀ n < 128, (Char.ofNat n).isAlphanum = true →
      ((Char.ofNat n).isUpper, (Char.ofNat n).isLower, (Char.ofNat n).isDigit) ∈
        [(true, false, false), (false, true, false), (false, false, true)] := by
    decide +kernel
  refine ⟨hascii, ?_⟩
  rw [← Char.ofNat_toNat c] at h ⊢
  obtain ⟨hgap, hkinds⟩ := hunit c.toNat hascii h
  exact ⟨hgap, hkinds, hkind c.toNat hascii h⟩

/-- Letters and digits of ASCII are units of their own. -/
theorem clusters_isAlphanum {cs : List Char} (h : ∀ c ∈ cs, c.isAlphanum = true) :
    clusters cs = cs.map fun c => [c] := by
  induction cs with
  | nil => rfl
  | cons c rest ih =>
    rw [List.forall_mem_cons] at h
    change consCluster c (clusters rest) = _
    rw [ih h.2]
    cases rest with
    | nil => rfl
    | cons d rest =>
      have hc : ¬ 128 ≤ c.toNat := Nat.not_le.2 (unit_isAlphanum h.1).1
      have hd : ¬ 128 ≤ d.toNat := Nat.not_le.2 (unit_isAlphanum (h.2 d List.mem_cons_self)).1
      simp [consCluster, joinsBefore, joinsAfter, hd, hc]

/-- On letters and digits of ASCII, the mapping to lower case goes character by character. -/
theorem lower_isAlphanum {cs : List Char} (h : ∀ c ∈ cs, c.isAlphanum = true) :
    lower cs = cs.map Char.toLower := by
  have hall (before : List Char) : lowerFrom before cs = cs.map Char.toLower := by
    induction cs generalizing before with
    | nil => rfl
    | cons c rest ih =>
      rw [List.forall_mem_cons] at h
      have hascii := (unit_isAlphanum h.1).1
      have hsigma : (c.toNat == 0x3A3) = false := by
        rw [beq_eq_false_iff_ne]
        omega
      unfold lowerFrom
      rw [hsigma, ih h.2, lowerChar, if_pos hascii]
      rfl
  exact hall []

/-- A word of a regular name: a capital or a digit, and then no capital. -/
def IsRegularWord (cs : List Char) : Prop :=
  ∃ c rest, cs = c :: rest ∧ c.isLower = false ∧ ∀ d ∈ rest, d.isUpper = false

/-- A word with its first character in upper case. -/
def withCapital : List Char → List Char
  | [] => []
  | c :: rest => c.toUpper :: rest

/-- A regular word is read off its lower case. -/
theorem IsRegularWord.withCapital_lower {cs : List Char} (h : IsRegularWord cs)
    (hletters : ∀ c ∈ cs, c.isAlphanum = true) : withCapital (lower cs) = cs := by
  obtain ⟨c, rest, rfl, hc, hrest⟩ := h
  have hascii (d : Char) (hd : d ∈ c :: rest) := (unit_isAlphanum (hletters d hd)).1
  have hfirst : ∀ n < 128, (Char.ofNat n).isLower = false →
      (Char.ofNat n).toLower.toUpper = Char.ofNat n := by
    decide +kernel
  have hother : ∀ n < 128, (Char.ofNat n).isUpper = false →
      (Char.ofNat n).toLower = Char.ofNat n := by
    decide +kernel
  have htail : rest.map Char.toLower = rest := by
    refine (List.map_congr_left ?_).trans (List.map_id rest)
    intro d hd
    have hlower := hother d.toNat (hascii d (List.mem_cons_of_mem _ hd))
    rw [Char.ofNat_toNat] at hlower
    exact hlower (hrest d hd)
  have hcapital := hfirst c.toNat (hascii c List.mem_cons_self)
  rw [Char.ofNat_toNat] at hcapital
  rw [lower_isAlphanum hletters, List.map_cons, htail, withCapital, hcapital hc]

/-- A word ends before each character of another kind, except between a capital and a small
letter. -/
theorem endsWord_regular {c d : Char} (hc : c.isAlphanum = true) (hd : d.isAlphanum = true)
    (hfollows : followsRegularly c d = true) (after : Option (List Char)) :
    (endsWord [c] [d] after = true → d.isLower = false) ∧
      (endsWord [c] [d] after = false → d.isUpper = false) := by
  obtain ⟨-, -, hunit, hkinds⟩ := unit_isAlphanum hc
  obtain ⟨-, -, hunit', hkinds'⟩ := unit_isAlphanum hd
  simp only [Prod.mk.injEq] at hunit hunit'
  simp only [List.mem_cons, Prod.mk.injEq, List.not_mem_nil, or_false] at hkinds hkinds'
  unfold followsRegularly at hfollows
  unfold endsWord
  rw [hunit.1, hunit.2.1, hunit.2.2, hunit'.1, hunit'.2.1, hunit'.2.2]
  obtain ⟨h1, h2, h3⟩ | ⟨h1, h2, h3⟩ | ⟨h1, h2, h3⟩ := hkinds <;>
    obtain ⟨h4, h5, h6⟩ | ⟨h4, h5, h6⟩ | ⟨h4, h5, h6⟩ := hkinds' <;>
      simp_all

/-- The words of a regular text are regular, the first one from its second character on. -/
theorem divide_regular {c : Char} {rest : List Char}
    (hletters : ∀ d ∈ c :: rest, d.isAlphanum = true)
    (hfollows : (c :: rest).IsChain fun a b => followsRegularly a b = true) :
    ∃ word others, divide ((c :: rest).map fun d => [d]) = word :: others ∧
      (∃ tail, word.flatten = c :: tail ∧ ∀ d ∈ tail, d.isUpper = false) ∧
        ∀ w ∈ others, IsRegularWord w.flatten := by
  induction rest generalizing c with
  | nil =>
    obtain ⟨-, hgap, -⟩ := unit_isAlphanum (hletters c List.mem_cons_self)
    refine ⟨[[c]], [], ?_, ⟨[], rfl, by simp⟩, by simp⟩
    simp [divide, hgap]
  | cons d rest ih =>
    obtain ⟨hfollow, hrest⟩ := List.isChain_cons_cons.1 hfollows
    rw [List.forall_mem_cons] at hletters
    obtain ⟨word, others, hdivide, ⟨tail, htail, hlower⟩, hregular⟩ := ih hletters.2 hrest
    obtain ⟨-, hgap, -⟩ := unit_isAlphanum hletters.1
    have hends := endsWord_regular hletters.1 (hletters.2 d List.mem_cons_self) hfollow
      (rest.map fun x => [x]).head?
    have hstep : divide ((c :: d :: rest).map fun x => [x]) =
        if endsWord [c] [d] (rest.map fun x => [x]).head? then [[c]] :: word :: others
        else ([c] :: word) :: others := by
      rw [List.map_cons] at hdivide
      rw [List.map_cons, List.map_cons, divide, hdivide, hgap]
      rfl
    rw [hstep]
    split
    · -- the next word does not start with a small letter
      rename_i htrue
      refine ⟨_, _, rfl, ⟨[], rfl, by simp⟩, ?_⟩
      rw [List.forall_mem_cons]
      exact ⟨⟨d, tail, htail, hends.1 htrue, hlower⟩, hregular⟩
    · -- the word goes on with no capital
      rename_i hfalse
      refine ⟨_, _, rfl, ⟨d :: tail, by rw [List.flatten_cons, htail]; rfl, ?_⟩, hregular⟩
      rw [List.forall_mem_cons]
      exact ⟨hends.2 (by simpa using hfalse), hlower⟩

/-- A regular name has no reserved characters. -/
theorem IsRegular.unreserved {s : String} (h : IsRegular s) : Unreserved s.toList := by
  intro c hc
  refine isReserved_eq_false (p := Char.isAlphanum) (by decide) (h.letters c hc)

/-- A regular name is determined by its words in lower case. -/
theorem IsRegular.eq_of_lowerWords_eq {s t : String} (hs : IsRegular s) (ht : IsRegular t)
    (h : lowerWords s = lowerWords t) : s = t := by
  have hread {u : String} (hu : IsRegular u) : (lowerWords u).flatMap withCapital = u.toList := by
    have hregular : ∀ word ∈ words u.toList, IsRegularWord word.flatten := by
      obtain ⟨c, rest, hchars, hcapital⟩ := hu.capital
      have hletters := hu.letters
      have hfollows := hu.follows
      rw [hchars] at hletters hfollows ⊢
      obtain ⟨first, others, hdivide, ⟨tail, htail, hlower⟩, hothers⟩ :=
        divide_regular hletters hfollows
      obtain ⟨-, -, -, hkinds⟩ := unit_isAlphanum (hletters c List.mem_cons_self)
      intro word hword
      have hmem := (List.mem_filter.1 hword).1
      rw [clusters_isAlphanum hletters, hdivide] at hmem
      obtain rfl | hmem := List.mem_cons.1 hmem
      · exact ⟨c, tail, htail, by simp_all, hlower⟩
      · exact hothers word hmem
    have hword : ∀ word ∈ words u.toList, withCapital (lower word.flatten) = word.flatten := by
      intro word hmem
      refine (hregular word hmem).withCapital_lower ?_
      intro c hc
      exact hu.letters c (mem_of_mem_words hmem hc)
    calc (lowerWords u).flatMap withCapital
        = (words u.toList).flatMap fun word => withCapital (lower word.flatten) := by
          rw [lowerWords, List.flatMap_map]
      _ = ((words u.toList).map List.flatten).flatten := by
          rw [List.flatMap_def, List.map_congr_left hword]
      _ = u.toList := flatten_words hu.unreserved
  exact String.toList_injective (by rw [← hread hs, h, hread ht])

end ExprGate.Text
