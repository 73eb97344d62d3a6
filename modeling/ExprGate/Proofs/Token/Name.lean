import ExprGate.Proofs.Token.Identifier

/-!
# Names where they are read

A name is read in front of a rest. An identifier that is read is a name with the rest behind it
(`isName_of_identifier?`), and a name is read wherever nothing of it can follow (`lexeme?_name`):
then neither its letters nor a raw prefix can be the beginning of a literal, since those go on with a
quotation mark or a hash (`Bare`).
-/

set_option autoImplicit false

namespace ExprGate.Token

open Text

/-- A text is a name: an identifier that is no keyword, or a raw one. -/
inductive IsName (name : String) : Prop where
  | plain (word : IsWord name) (free : isPlainIdent name = true)
  | raw (word : String) (spelled : IsWord word) (allowed : word ∉ neverRaw)
    (eq : name = "r#" ++ word)

/-- A name starts as an identifier does. -/
theorem IsName.exists_cons {name : String} (h : IsName name) :
    ∃ c rest, name.toList = c :: rest ∧ isIdentStart c = true := by
  cases h with
  | plain word free =>
    obtain ⟨c, rest, hchars, hc, -⟩ := word
    exact ⟨c, rest, hchars, hc⟩
  | raw word spelled allowed eq =>
    refine ⟨'r', '#' :: word.toList, ?_, by decide⟩
    rw [eq, String.toList_append]
    rfl

/-- No name is a keyword. -/
theorem IsName.isPlainIdent {name : String} (h : IsName name) : isPlainIdent name = true := by
  cases h with
  | plain word free => exact free
  | raw word spelled allowed eq =>
    have hkeywords : ∀ keyword ∈ keywords, keyword.toList.take 2 ≠ ['r', '#'] := by decide
    unfold Token.isPlainIdent
    rw [Bool.not_eq_true', Bool.eq_false_iff, Ne, List.contains_iff_mem]
    intro hmem
    refine hkeywords name hmem ?_
    rw [eq, String.toList_append]
    rfl

/-- The first character of an identifier is solid. -/
theorem solid_of_isIdentStart {c : Char} (h : isIdentStart c = true) : Solid c :=
  solid_of_reserved (by decide +kernel) h

/-- All characters of a word are solid. -/
theorem solid_of_isWord {word : String} (h : IsWord word) : ∀ c ∈ word.toList, Solid c := by
  obtain ⟨c, rest, hchars, hc, hrest⟩ := h
  rw [hchars, List.forall_mem_cons]
  exact ⟨solid_of_isIdentStart hc, fun d hd => solid_of_isIdentContinue (hrest d hd)⟩

/-- A character that starts a blank or a comment. -/
def Separates (c : Char) : Prop :=
  c = '/' ∨ isTokenBlank c = true

/-- A solid character starts neither a blank nor a comment. -/
theorem Solid.not_separates {c : Char} (h : Solid c) : ¬ Separates c := by
  rintro (hslash | hblank)
  · exact h.ne_slash hslash
  · rw [h.not_blank] at hblank
    cases hblank

/-! ## What is read -/

/-- The characters in front of what comes after an identifier are spelled as one. -/
theorem exists_word_of_afterIdent? {cs after : List Char} (h : afterIdent? cs = some after) :
    ∃ word, IsWord (String.ofList word) ∧ cs = word ++ after ∧
      cs.take (cs.length - after.length) = word := by
  cases cs with
  | nil => cases h
  | cons c rest =>
    rw [afterIdent?] at h
    split at h
    case isFalse => cases h
    case isTrue hstart =>
      obtain rfl := Option.some.inj h
      have hsplit : c :: rest = (c :: rest.takeWhile isIdentContinue) ++
          rest.dropWhile isIdentContinue := by
        rw [List.cons_append, List.takeWhile_append_dropWhile]
      refine ⟨c :: rest.takeWhile isIdentContinue, ?_, hsplit, ?_⟩
      · refine ⟨c, rest.takeWhile isIdentContinue, String.toList_ofList, hstart, ?_⟩
        intro d hd
        exact List.mem_takeWhile_imp hd
      · conv_lhs => rw [hsplit]
        rw [List.length_append, Nat.add_sub_cancel, List.take_left]

/-- An identifier that is read stands in front of the rest. -/
theorem isName_of_identifier? {cs after : List Char} {name : String}
    (h : identifier? cs = some (name, after)) (hfree : isPlainIdent name = true) :
    IsName name ∧ cs = name.toList ++ after := by
  unfold identifier? at h
  split at h
  · cases h
  · unfold identAny? at h
    split at h
    · rename_i rest
      split at h
      · cases h
      · rename_i after' hafter
        dsimp only at h
        split at h
        · cases h
        · rename_i hallowed
          obtain ⟨rfl, rfl⟩ := Prod.mk.inj (Option.some.inj h)
          obtain ⟨word, hword, hsplit, htake⟩ := exists_word_of_afterIdent? hafter
          rw [htake] at hallowed ⊢
          refine ⟨.raw _ hword (by simpa using hallowed) rfl, ?_⟩
          rw [hsplit]
          simp
    · obtain ⟨after', hafter, heq⟩ := Option.map_eq_some_iff.1 h
      obtain ⟨rfl, rfl⟩ := Prod.mk.inj heq
      obtain ⟨word, hword, hsplit, htake⟩ := exists_word_of_afterIdent? hafter
      rw [htake] at hfree ⊢
      exact ⟨.plain hword hfree, by rw [String.toList_ofList]; exact hsplit⟩

/-! ## Where nothing more of a name follows -/

/-- Characters of an identifier, and behind them the end or something that reading skips. -/
inductive Bare : List Char → Prop where
  | done {cs : List Char} (h : ∀ c ∈ cs.head?, Separates c) : Bare cs
  | cons {c : Char} {cs : List Char} (h : isIdentContinue c = true) (more : Bare cs) : Bare (c :: cs)

/-- What starts a blank or a comment does not go on an identifier. -/
theorem Separates.isIdentContinue_eq_false {c : Char} (h : Separates c) :
    isIdentContinue c = false := by
  rw [Bool.eq_false_iff]
  intro hcontinue
  exact (solid_of_isIdentContinue hcontinue).not_separates h

/-- The characters that tell a literal from an identifier with the same letters. -/
def literalMarks : List Char :=
  ['"', '\'', '#']

/-- No bare text starts with the mark of a literal. -/
theorem Bare.head_not_mem {c : Char} {cs : List Char} (h : Bare (c :: cs)) : c ∉ literalMarks := by
  intro hmem
  have hmarks : literalMarks.all
      (fun d => !isIdentContinue d && d != '/' && !isTokenBlank d) = true := by decide
  have hmark := List.all_eq_true.1 hmarks c hmem
  simp only [Bool.and_eq_true, Bool.not_eq_true', bne_iff_ne] at hmark
  obtain ⟨⟨hcontinue, hslash⟩, hblank⟩ := hmark
  cases h with
  | done h =>
    obtain htrue | htrue := h c rfl
    · exact hslash htrue
    · rw [hblank] at htrue
      cases htrue
  | cons h _ =>
    rw [hcontinue] at h
    cases h

/-- Behind a character of an identifier, a bare text is bare. -/
theorem Bare.tail {c : Char} {cs : List Char} (h : Bare (c :: cs)) (hc : isIdentContinue c = true) :
    Bare cs := by
  cases h with
  | done h =>
    have hfalse := (h c rfl).isIdentContinue_eq_false
    rw [hc] at hfalse
    cases hfalse
  | cons _ more => exact more

/-- A text of characters of identifiers is bare in front of a blank, a comment or the end. -/
theorem bare_append {word after : List Char} (hword : ∀ c ∈ word, isIdentContinue c = true)
    (hafter : ∀ c ∈ after.head?, Separates c) : Bare (word ++ after) := by
  induction word with
  | nil => exact .done hafter
  | cons c rest ih =>
    rw [List.forall_mem_cons] at hword
    exact .cons hword.1 (ih hword.2)

/-- The letters of a literal with their mark do not stand in front of a bare text. -/
theorem Bare.not_prefix {word rest cs : List Char} {d : Char} (h : Bare cs)
    (hword : ∀ c ∈ word, isIdentContinue c = true) (hd : d ∈ literalMarks) :
    ¬ word ++ d :: rest <+: cs := by
  intro hprefix
  induction word generalizing cs with
  | nil =>
    obtain ⟨behind, rfl⟩ := hprefix
    exact h.head_not_mem hd
  | cons c word ih =>
    rw [List.forall_mem_cons] at hword
    cases cs with
    | nil => cases List.prefix_nil.1 hprefix
    | cons c' cs =>
      obtain ⟨rfl, htail⟩ := List.cons_prefix_cons.1 hprefix
      exact ih (h.tail hword.1) hword.2 htail

/-- No literal opens where the characters of an identifier stand. -/
theorem quotedFrom?_eq_none {a : Alphabet} {isRaw : Bool} {cs : List Char}
    (hquote : ∀ rest, cs ≠ '"' :: rest) (hhash : ∀ rest, cs ≠ '#' :: rest) :
    quotedFrom? a isRaw cs = none := by
  have hdrop : cs.dropWhile (· == '#') = cs := by
    cases cs with
    | nil => rfl
    | cons c rest =>
      have hne : c ≠ '#' := fun heq => hhash rest (heq ▸ rfl)
      exact List.dropWhile_cons_of_neg (by simpa using hne)
  unfold quotedFrom?
  split
  · unfold rawFromHashes?
    dsimp only
    rw [hdrop]
    split
    · exact absurd rfl (hquote _)
    · rfl
  · split
    · exact absurd rfl (hquote _)
    · rfl

/-- No literal opens where a bare text stands. -/
theorem Bare.quotedFrom?_eq_none {a : Alphabet} {isRaw : Bool} {cs : List Char} (h : Bare cs) :
    quotedFrom? a isRaw cs = none := by
  refine Token.quotedFrom?_eq_none ?_ ?_
  · rintro rest rfl
    exact h.head_not_mem (by decide)
  · rintro rest rfl
    exact h.head_not_mem (by decide)

/-! ## The first character -/

/-- The first character of an identifier is none that cannot start one. -/
theorem ne_of_isIdentStart {c d : Char} (hc : isIdentStart c = true)
    (hd : isIdentStart d = false) : c ≠ d := by
  rintro rfl
  rw [hc] at hd
  cases hd

/-- No identifier starts with a digit. -/
theorem isDigit_eq_false {c : Char} (h : isIdentStart c = true) : c.isDigit = false := by
  rw [Bool.eq_false_iff]
  intro hdigit
  have hnot : ∀ n < 58, 48 ≤ n → isIdentStart (Char.ofNat n) = false := by decide
  unfold Char.isDigit at hdigit
  simp only [Bool.and_eq_true, decide_eq_true_eq, ge_iff_le, UInt32.le_iff_toNat_le] at hdigit
  obtain ⟨hlow, hhigh⟩ := hdigit
  have hfalse := hnot c.toNat (Nat.lt_succ_of_le hhigh) hlow
  rw [Char.ofNat_toNat, h] at hfalse
  cases hfalse

/-- No number does where an identifier starts. -/
theorem digitsFrom?_eq_none {c : Char} (h : isIdentStart c = true) (rest : List Char) :
    digitsFrom? 10 true (c :: rest) = none := by
  have hdigit := isDigit_eq_false h
  rw [digitsFrom?.eq_def]
  split
  · cases ‹c :: rest = []›
  · rfl
  · rename_i c' rest' _ heq
    obtain ⟨rfl, rfl⟩ := List.cons.inj heq
    cases hvalue : hexValue? c with
    | none => rfl
    | some d =>
      have hlarge : 10 ≤ d := by
        unfold hexValue? at hvalue
        split at hvalue
        · rename_i hrange
          have htrue : c.isDigit = true := by
            simpa [Char.isDigit, Char.le_def] using hrange
          rw [hdigit] at htrue
          cases htrue
        · split at hvalue
          · have := Option.some.inj hvalue
            omega
          · split at hvalue
            · have := Option.some.inj hvalue
              omega
            · cases hvalue
      simp [hdigit, hlarge]

/-- No number with a point starts as an identifier does. -/
theorem afterFloatDigits?_eq_none {c : Char} (h : isIdentStart c = true) (rest : List Char) :
    afterFloatDigits? (c :: rest) = none := by
  unfold afterFloatDigits?
  simp [isDigit_eq_false h]

/-- No number starts as an identifier does. -/
theorem afterDigits?_eq_none {c : Char} (h : isIdentStart c = true) (rest : List Char) :
    afterDigits? (c :: rest) = none := by
  have hzero := ne_of_isIdentStart h (d := '0') (by decide)
  unfold afterDigits?
  split
  all_goals try exact absurd (List.cons.inj ‹_ = _›).1 hzero
  exact digitsFrom?_eq_none h rest

/-- No operator starts as an identifier does. -/
theorem operatorChar?_eq_none {c : Char} (h : isIdentStart c = true) (rest : List Char) :
    operatorChar? (c :: rest) = none := by
  have hoperator : isOperatorChar c = false := by
    unfold isOperatorChar
    rw [Bool.eq_false_iff, Ne, List.contains_iff_mem]
    intro hmem
    have hnone : "~!@#$%^&*-=+|;:,<.>/?'".toList.any isIdentStart = false := by decide
    exact List.any_eq_false.1 hnone c hmem h
  unfold operatorChar?
  split
  · rfl
  · rfl
  · rename_i heq
    obtain ⟨rfl, rfl⟩ := List.cons.inj heq
    rw [hoperator]
    rfl
  · rfl

/-- No punctuation starts as an identifier does. -/
theorem punct?_eq_none {c : Char} (h : isIdentStart c = true) (rest : List Char) :
    punct? (c :: rest) = none := by
  unfold punct?
  rw [operatorChar?_eq_none h]

/-- Where a lexeme is neither a delimiter nor a literal nor an operator, it is an identifier. -/
theorem lexeme?_eq_identifier {c : Char} {rest : List Char} (hc : isIdentStart c = true)
    (hliteral : afterLiteral? (c :: rest) = none) :
    lexeme? (c :: rest) =
      (identifier? (c :: rest)).map fun (name, after) => (.tree (.ident name), after) := by
  have hdelimiters : ∀ d ∈ ['(', '[', '{', ')', ']', '}'], c ≠ d := by
    rintro d hd rfl
    have hnone : ['(', '[', '{', ')', ']', '}'].any isIdentStart = false := by decide
    exact List.any_eq_false.1 hnone c hd hc
  unfold lexeme?
  split
  case h_7 =>
    rw [hliteral]
    dsimp only
    rw [punct?_eq_none hc]
  all_goals
    rename_i heq
    exact absurd (List.cons.inj heq).1 (hdelimiters _ (by decide))

/-! ## Words and raw names -/

/-- A word is read up to its end. -/
theorem afterIdent?_append {c : Char} {rest after : List Char} (hc : isIdentStart c = true)
    (hrest : ∀ d ∈ rest, isIdentContinue d = true) (hafter : ∀ d ∈ after.head?, Separates d) :
    afterIdent? (c :: rest ++ after) = some after := by
  have hdrop : after.dropWhile isIdentContinue = after := by
    cases after with
    | nil => rfl
    | cons d after =>
      have hfalse := (hafter d rfl).isIdentContinue_eq_false
      exact List.dropWhile_cons_of_neg (by simp [hfalse])
  rw [List.cons_append, afterIdent?, if_pos hc, List.dropWhile_append_of_pos hrest, hdrop]

/-- Where a word and nothing more of it stands there is no literal. -/
theorem afterLiteral?_of_bare {c : Char} {cs : List Char} (hc : isIdentStart c = true)
    (hcs : Bare cs) : afterLiteral? (c :: cs) = none := by
  have hquote := ne_of_isIdentStart hc (d := '"') (by decide)
  have hapostrophe := ne_of_isIdentStart hc (d := '\'') (by decide)
  have hhash := ne_of_isIdentStart hc (d := '#') (by decide)
  have hplain {a : Alphabet} {isRaw : Bool} : quotedFrom? a isRaw (c :: cs) = none := by
    refine quotedFrom?_eq_none ?_ ?_
    · intro rest heq
      exact hquote (List.cons.inj heq).1
    · intro rest heq
      exact hhash (List.cons.inj heq).1
  have hstring : string? (c :: cs) = none := by
    unfold string?
    dsimp only
    split
    · rename_i heq
      obtain ⟨-, rfl⟩ := List.cons.inj heq
      rw [hcs.quotedFrom?_eq_none]
      rfl
    · rw [hplain]
      rfl
  have hother : afterOtherString? (c :: cs) = none := by
    unfold afterOtherString?
    dsimp only
    split
    all_goals try (rename_i heq; obtain ⟨-, rfl⟩ := List.cons.inj heq)
    · rw [(hcs.tail (by decide)).quotedFrom?_eq_none]
      rfl
    · rw [hcs.quotedFrom?_eq_none]
      rfl
    · rw [(hcs.tail (by decide)).quotedFrom?_eq_none]
      rfl
    · rw [hcs.quotedFrom?_eq_none]
      rfl
    · rfl
  unfold afterLiteral?
  rw [hstring]
  dsimp only
  rw [hother]
  dsimp only
  split
  · rename_i hchar
    split at hchar
    · rename_i heq
      obtain ⟨-, rfl⟩ := List.cons.inj heq
      exact absurd (by decide) hcs.head_not_mem
    · rename_i heq
      exact absurd (List.cons.inj heq).1 hapostrophe
    · cases hchar
  · rw [afterFloatDigits?_eq_none hc, afterDigits?_eq_none hc]
    rfl

/-- Nor is there one where a raw identifier stands. -/
theorem afterLiteral?_of_raw {c : Char} (hc : isIdentStart c = true) (cs : List Char) :
    afterLiteral? ('r' :: '#' :: c :: cs) = none := by
  have hquote := ne_of_isIdentStart hc (d := '"') (by decide)
  have hhash := ne_of_isIdentStart hc (d := '#') (by decide)
  have hraw : rawFromHashes? .text ('#' :: c :: cs) = none := by
    have hdrop : ('#' :: c :: cs).dropWhile (· == '#') = c :: cs := by
      simp [hhash]
    unfold rawFromHashes?
    dsimp only
    rw [hdrop]
    split
    · rename_i heq
      exact absurd (List.cons.inj heq).1 hquote
    · rfl
  have hstring : string? ('r' :: '#' :: c :: cs) = none := by
    change (rawFromHashes? .text ('#' :: c :: cs)).map _ = none
    rw [hraw]
    rfl
  have hother : afterOtherString? ('r' :: '#' :: c :: cs) = none := rfl
  unfold afterLiteral?
  rw [hstring]
  dsimp only
  rw [hother]
  dsimp only
  rw [afterFloatDigits?_eq_none (by decide), afterDigits?_eq_none (by decide)]
  rfl

/-- No literal starts where a word and nothing more of it stands. -/
theorem literalStarts_of_bare (c : Char) {cs : List Char} (hcs : Bare cs) :
    literalStarts.any (·.isPrefixOf (c :: cs)) = false := by
  rw [List.any_eq_false]
  intro start hstart hprefix
  have hmark : ∀ start ∈ literalStarts,
      ((start.tail.dropWhile isIdentContinue).head?.any (literalMarks.contains ·)) = true := by
    decide
  have hmark := hmark start hstart
  cases hdrop : start.tail.dropWhile isIdentContinue with
  | nil =>
    rw [hdrop] at hmark
    cases hmark
  | cons d rest =>
    rw [hdrop] at hmark
    have hd : d ∈ literalMarks := List.contains_iff_mem.1 hmark
    cases start with
    | nil => cases hdrop
    | cons c' letters =>
      obtain ⟨-, hletters⟩ := List.cons_prefix_cons.1 (List.isPrefixOf_iff_prefix.1 hprefix)
      rw [← List.takeWhile_append_dropWhile (p := isIdentContinue) (l := letters)] at hletters
      change letters.dropWhile isIdentContinue = d :: rest at hdrop
      rw [hdrop] at hletters
      exact hcs.not_prefix (fun c hc => List.mem_takeWhile_imp hc) hd hletters

/-- Nor does one where a raw identifier stands. -/
theorem literalStarts_of_raw {c : Char} (hc : isIdentStart c = true) {cs : List Char} :
    literalStarts.any (·.isPrefixOf ('r' :: '#' :: c :: cs)) = false := by
  have hquote := ne_of_isIdentStart hc (d := '"') (by decide)
  have hhash := ne_of_isIdentStart hc (d := '#') (by decide)
  simp [literalStarts, List.isPrefixOf, hquote.symm, hhash.symm]

/-- A name is read where it stands and nothing more of it follows. -/
theorem lexeme?_name {name : String} (hname : IsName name) {after : List Char}
    (hafter : ∀ c ∈ after.head?, Separates c) :
    lexeme? (name.toList ++ after) = some (.tree (.ident name), after) := by
  cases hname with
  | plain word free =>
    obtain ⟨c, rest, hchars, hc, hrest⟩ := word
    have hbare : Bare (rest ++ after) := bare_append hrest hafter
    have hident : identAny? (c :: (rest ++ after)) = some (name, after) := by
      have hread := afterIdent?_append hc hrest hafter
      unfold identAny?
      split
      · rename_i heq
        obtain ⟨-, hhash⟩ := List.cons.inj heq
        rw [hhash] at hbare
        exact absurd (by decide) hbare.head_not_mem
      · rw [List.cons_append] at hread
        rw [hread, Option.map_some, ← List.cons_append, List.length_append, Nat.add_sub_cancel,
          List.take_left, ← hchars, String.ofList_toList]
    rw [hchars, List.cons_append, lexeme?_eq_identifier hc (afterLiteral?_of_bare hc hbare)]
    unfold identifier?
    rw [literalStarts_of_bare c hbare, hident]
    rfl
  | raw word spelled allowed eq =>
    obtain ⟨c, rest, hchars, hc, hrest⟩ := spelled
    have hsplit : name.toList ++ after = 'r' :: '#' :: c :: (rest ++ after) := by
      rw [eq, String.toList_append, hchars]
      rfl
    have hident : identAny? ('r' :: '#' :: c :: (rest ++ after)) = some (name, after) := by
      have hread := afterIdent?_append hc hrest hafter
      have htake : String.ofList ((c :: rest ++ after).take
          ((c :: rest ++ after).length - after.length)) = word := by
        rw [List.length_append, Nat.add_sub_cancel, List.take_left, ← hchars, String.ofList_toList]
      rw [← List.cons_append]
      unfold identAny?
      split
      · rename_i heq
        obtain ⟨-, heq⟩ := List.cons.inj heq
        obtain ⟨-, rfl⟩ := List.cons.inj heq
        rw [hread]
        dsimp only
        rw [htake, if_neg (by simpa using allowed), eq]
      · rename_i hraw
        exact absurd rfl (hraw _)
    rw [hsplit, lexeme?_eq_identifier (by decide) (afterLiteral?_of_raw hc _)]
    unfold identifier?
    rw [literalStarts_of_raw hc, hident]
    rfl

end ExprGate.Token
