import ExprGate.Token.Literal
import ExprGate.Token.Printer

/-!
# String literals read back

A text that is written out as a string literal is read back as the same text
(`denoted?_stringLiteral`). Every character takes one step of the reader: an escape is read as the
character that it was written for (`cooked?_escapeInLiteral`), the code points in braces digit by
digit (`codePoint?_toDigits`). So whatever spells a text character by character denotes it in quotes
(`Spelled.string?`).
-/

set_option autoImplicit false

namespace ExprGate.Token

open Text

/-! ## Code points in braces -/

/-- A hexadecimal digit has the value that it is written for. -/
theorem hexValue?_digitChar : ∀ d < 16, hexValue? (Nat.digitChar d) = some d := by
  decide

/-- No hexadecimal digit is an underscore or a brace. -/
theorem digitChar_ne : ∀ d < 16, Nat.digitChar d ≠ '_' ∧ Nat.digitChar d ≠ '}' := by
  decide

/-- A digit is added to the value, unless there are six already. -/
theorem codePoint?_cons {value digits d : Nat} (rest : List Char) (hd : d < 16)
    (hdigits : digits < 6) :
    codePoint? value digits (Nat.digitChar d :: rest) =
      codePoint? (value * 16 + d) (digits + 1) rest := by
  obtain ⟨hunderscore, hbrace⟩ := digitChar_ne d hd
  rw [codePoint?.eq_def]
  split
  · rename_i heq
    cases heq
  · rename_i heq
    exact absurd (List.cons.inj heq).1 hunderscore
  · rename_i heq
    exact absurd (List.cons.inj heq).1 hbrace
  · rename_i heq
    obtain ⟨rfl, rfl⟩ := List.cons.inj heq
    rw [hexValue?_digitChar d hd]
    exact if_neg (by omega)

/-- The digits of a number of at most six digits are read as this number. -/
theorem codePoint?_toDigits {n : Nat} (rest : List Char) (hn : n < 0x1000000) :
    codePoint? 0 0 (Nat.toDigits 16 n ++ rest) =
      codePoint? n (Nat.toDigits 16 n).length rest := by
  induction n using Nat.strongRecOn generalizing rest with
  | ind n ih =>
    by_cases hsmall : n < 16
    · rw [Nat.toDigits_of_lt_base hsmall, List.singleton_append, codePoint?_cons rest hsmall (by omega),
        Nat.zero_mul, Nat.zero_add]
      rfl
    · have hlength : (Nat.toDigits 16 (n / 16)).length ≤ 5 :=
        (Nat.length_toDigits_le_iff (by omega) (by omega)).2 (by omega)
      rw [Nat.toDigits_of_base_le (by omega) (by omega), List.append_assoc, List.singleton_append,
        ih (n / 16) (by omega) _ (by omega), codePoint?_cons rest (by omega) (by omega),
        List.length_append, List.length_singleton]
      congr 1
      omega

/-- The number of a character is a code point. -/
theorem isCodePoint_toNat (c : Char) : isCodePoint c.toNat = true := by
  unfold isCodePoint
  have hvalid := c.valid
  unfold UInt32.isValidChar Nat.isValidChar at hvalid
  simpa using hvalid

/-- The number of a character in braces is read as the character. -/
theorem codePoint?_hexDigits (c : Char) (rest : List Char) :
    codePoint? 0 0 (hexDigits c.toNat ++ '}' :: rest) = some (c, rest) := by
  have hbound : c.toNat < 0x1000000 := by
    have hpoint := isCodePoint_toNat c
    unfold isCodePoint at hpoint
    simp only [Bool.or_eq_true, Bool.and_eq_true, decide_eq_true_eq] at hpoint
    omega
  have hlength : (Nat.toDigits 16 c.toNat).length ≠ 0 := by
    rw [Ne, List.length_eq_zero_iff]
    exact Nat.toDigits_ne_nil
  unfold hexDigits
  rw [codePoint?_toDigits _ hbound, codePoint?, isCodePoint_toNat]
  simp [hlength, Char.ofNat_toNat]

/-! ## Escapes -/

/-- An escaped character is read in one step. -/
theorem cooked?_escape {fuel : Nat} {c : Char} (escape : List Char) {rest : List Char}
    (h : escape? .text (escape ++ rest) = some (some c, rest)) :
    cooked? .text (fuel + 1) ('\\' :: (escape ++ rest)) =
      (cooked? .text fuel rest).map fun (value, after) => (c :: value, after) := by
  rw [cooked?, h]
  rfl

/-- A character that is written as it stands is read in one step. -/
theorem cooked?_plain {fuel : Nat} {c : Char} (rest : List Char) (hquote : c ≠ '"')
    (hreturn : c ≠ '\r') (hescape : c ≠ '\\') :
    cooked? .text (fuel + 1) (c :: rest) =
      (cooked? .text fuel rest).map fun (value, after) => (c :: value, after) := by
  rw [cooked?.eq_def]
  split
  · cases ‹fuel + 1 = 0›
  · rename_i heq
    cases heq
  · rename_i heq
    exact absurd (List.cons.inj heq).1 hquote
  · rename_i heq
    exact absurd (List.cons.inj heq).1 hreturn
  · rename_i heq
    exact absurd (List.cons.inj heq).1 hescape
  · rename_i hfuel heq
    obtain ⟨rfl, rfl⟩ := List.cons.inj heq
    obtain rfl := Nat.succ.inj hfuel
    rfl

/-- A character is read in one step, however it is written in a literal. -/
theorem cooked?_escapeInLiteral {fuel : Nat} (next : Option Char) (c : Char) (rest : List Char) :
    cooked? .text (fuel + 1) (escapeInLiteral next c ++ rest) =
      (cooked? .text fuel rest).map fun (value, after) => (c :: value, after) := by
  unfold escapeInLiteral
  split
  · rename_i hzero
    have hnul : c = Char.ofNat 0 := by rw [← hzero, Char.ofNat_toNat]
    obtain rfl := hnul
    split
    · exact cooked?_escape ['x', '0', '0'] rfl
    · exact cooked?_escape ['0'] rfl
  · unfold quoteChar
    by_cases hquote : c = '"'
    · obtain rfl := hquote
      exact cooked?_escape ['"'] rfl
    by_cases hescape : c = '\\'
    · obtain rfl := hescape
      exact cooked?_escape ['\\'] rfl
    by_cases hline : c = '\n'
    · obtain rfl := hline
      exact cooked?_escape ['n'] rfl
    by_cases hreturn : c = '\r'
    · obtain rfl := hreturn
      exact cooked?_escape ['r'] rfl
    by_cases htab : c = '\t'
    · obtain rfl := htab
      exact cooked?_escape ['t'] rfl
    simp only [beq_iff_eq, hquote, hescape, hline, hreturn, htab, ‹c.toNat ≠ 0›, if_false]
    split
    · rw [List.cons_append]
      refine cooked?_escape ('u' :: '{' :: (hexDigits c.toNat ++ ['}'])) ?_
      rw [List.cons_append, List.cons_append, List.append_assoc, List.singleton_append, escape?,
        codePoint?_hexDigits]
      simp
    · exact cooked?_plain rest hquote hreturn hescape

/-! ## Literals -/

/-- Characters between quotes that spell a text: each character of the text is written in one of the
ways in which it can be. -/
inductive Spelled : List Char → List Char → Prop where
  | nil : Spelled [] []
  | cons {written text : List Char} (next : Option Char) (c : Char) (h : Spelled written text) :
    Spelled (escapeInLiteral next c ++ written) (c :: text)

/-- What spells a text is read as this text, up to the closing quote. -/
theorem Spelled.cooked? {written text : List Char} (h : Spelled written text) {fuel : Nat}
    (rest : List Char) (hfuel : text.length < fuel) :
    Token.cooked? .text fuel (written ++ '"' :: rest) = some (text, rest) := by
  induction h generalizing fuel with
  | nil =>
    obtain ⟨fuel, rfl⟩ := Nat.exists_eq_succ_of_ne_zero (Nat.ne_of_gt hfuel)
    rfl
  | cons next c _ ih =>
    obtain ⟨fuel, rfl⟩ := Nat.exists_eq_succ_of_ne_zero (Nat.ne_of_gt (Nat.zero_lt_of_lt hfuel))
    rw [List.append_assoc, cooked?_escapeInLiteral, ih (Nat.lt_of_succ_lt_succ hfuel)]
    rfl

/-- No character is written as nothing. -/
theorem length_escapeInLiteral_pos (next : Option Char) (c : Char) :
    0 < (escapeInLiteral next c).length := by
  unfold escapeInLiteral quoteChar
  repeat' split
  all_goals simp

/-- What spells a text is no shorter than it. -/
theorem Spelled.length_le {written text : List Char} (h : Spelled written text) :
    text.length ≤ written.length := by
  induction h with
  | nil => exact Nat.le_refl 0
  | cons next c _ ih =>
    have hpos := length_escapeInLiteral_pos next c
    rw [List.length_append, List.length_cons]
    omega

/-- What spells a text denotes it when it is put in quotes. -/
theorem Spelled.string? {written text : List Char} (h : Spelled written text) :
    Token.string? ('"' :: (written ++ ['"'])) = some (text, []) := by
  -- each character takes at most as many steps as it is written with
  have hread : Token.cooked? .text ((written ++ ['"']).length + 1) (written ++ ['"']) =
      some (text, []) := by
    refine h.cooked? [] ?_
    have hle := h.length_le
    rw [List.length_append]
    omega
  change ((Token.cooked? .text _ _).map fun (value, rest) => (value, afterSuffix rest)) = _
  rw [hread]
  rfl

/-- The characters of a literal spell its text. -/
theorem spelled_literalChars (cs : List Char) : Spelled (literalChars cs) cs := by
  induction cs with
  | nil => exact .nil
  | cons c rest ih => exact .cons rest.head? c ih

/-- In quotes a character is written as in a literal where no digit follows. -/
theorem quoteChar_eq_escapeInLiteral (c : Char) : quoteChar c = escapeInLiteral none c := by
  unfold escapeInLiteral
  split
  · rename_i hzero
    have hnul : c = Char.ofNat 0 := by rw [← hzero, Char.ofNat_toNat]
    subst hnul
    rfl
  · rfl

/-- The characters of a quoted text spell the text. -/
theorem spelled_quoteChar (cs : List Char) : Spelled (cs.flatMap quoteChar) cs := by
  induction cs with
  | nil => exact .nil
  | cons c rest ih =>
    rw [List.flatMap_cons, quoteChar_eq_escapeInLiteral]
    exact .cons none c ih

/-- The text that a tree denotes, if it is a string literal. -/
def Tree.denoted? : Tree → Option String
  | .literal text => stringValue? text
  | _ => none

/-- The string literal of a text denotes the text. -/
theorem denoted?_stringLiteral (s : String) : (stringLiteral s).denoted? = some s := by
  unfold stringLiteral Tree.denoted? stringValue?
  dsimp only
  rw [String.toList_ofList, (spelled_literalChars s.toList).string?]
  exact congrArg some String.ofList_toList

end ExprGate.Token
