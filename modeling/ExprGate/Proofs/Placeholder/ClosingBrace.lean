import ExprGate.Proofs.Placeholder.Delimiting
import ExprGate.Proofs.Text.Utf8
import Mathlib.Data.Nat.Find
import Mathlib.Order.Bounds.Basic

/-!
# Counting braces

The scan for a closing brace keeps count of the placeholders that are open. What it finds can be
said without the scan: the first `}` in front of which there are as many `}` as `${`
(`closingBrace?_eq_some_iff`). The text in front of such a brace is balanced: none of its beginnings
has more `}` than `${`, and the whole text has as many of both (`balances_iff`). Positions may be
counted in bytes as well, since the bytes of the three characters are in no other encoding
(`closesAt_utf8`).

So a placeholder that is written with a balanced fallback is read as it is written, whatever stands
behind it (`closingBrace?_delimits`).
-/

set_option autoImplicit false

namespace ExprGate.Placeholder

open Text

/-! ## Counts -/

/-- The characters, or bytes, that the scan for a closing brace tells from others. -/
structure Marks (α : Type) where
  dollar : α
  brace : α
  closing : α

namespace Marks

/-- The marks as characters. -/
def ofChars : Marks Char :=
  ⟨'$', '{', '}'⟩

/-- The marks as bytes. -/
def ofBytes : Marks UInt8 :=
  ⟨0x24, 0x7B, 0x7D⟩

variable {α : Type} [DecidableEq α]

/-- How often a placeholder is opened in a text. Two openings never overlap. -/
def openings (m : Marks α) : List α → Nat
  | [] => 0
  | c :: rest => (if c = m.dollar ∧ rest.head? = some m.brace then 1 else 0) + m.openings rest

/-- How many closing braces there are in a text. -/
def closings (m : Marks α) (text : List α) : Nat :=
  text.count m.closing

/-- At a position is a closing brace, with as many of them in front of it as openings. -/
def ClosesAt (m : Marks α) (text : List α) (i : Nat) : Prop :=
  text[i]? = some m.closing ∧ m.closings (text.take i) = m.openings (text.take i)

end Marks

open Marks

/-- A text in which each opening has its closing brace behind it, as has a number of openings in
front of the text. -/
@[mk_iff]
structure IsBalanced (depth : Nat) (text : List Char) : Prop where
  notEarly : ∀ front, front <+: text → ofChars.closings front ≤ ofChars.openings front + depth
  complete : ofChars.closings text = ofChars.openings text + depth

instance (depth : Nat) (text : List Char) : Decidable (IsBalanced depth text) :=
  decidable_of_iff
    ((∀ front ∈ text.inits, ofChars.closings front ≤ ofChars.openings front + depth) ∧
      ofChars.closings text = ofChars.openings text + depth)
    (by simp only [isBalanced_iff, List.mem_inits])

/-! ## Positions -/

section
variable {α : Type} [DecidableEq α] {m : Marks α} {text : List α}

/-- At the brace behind a text a placeholder is closed if the text has as many closing braces as
openings. -/
theorem Marks.closesAt_length {body after : List α} :
    m.ClosesAt (body ++ m.closing :: after) body.length ↔ m.closings body = m.openings body := by
  simp [ClosesAt]

/-- A position closes a placeholder if the text is divided there at a brace, with equal counts in
front of it. -/
theorem Marks.closesAt_iff {i : Nat} :
    m.ClosesAt text i ↔
      ∃ body after, text = body ++ m.closing :: after ∧ body.length = i ∧
        m.closings body = m.openings body := by
  constructor
  · rintro ⟨hclosing, hcount⟩
    obtain ⟨hi, hget⟩ := List.getElem?_eq_some_iff.1 hclosing
    refine ⟨text.take i, text.drop (i + 1), ?_, List.length_take_of_le hi.le, hcount⟩
    rw [← hget, ← List.drop_eq_getElem_cons, List.take_append_drop]
  · rintro ⟨body, after, rfl, rfl, hcount⟩
    exact closesAt_length.2 hcount

/-- A position that closes a placeholder does so in every longer text. -/
theorem Marks.ClosesAt.append {i : Nat} (h : m.ClosesAt text i) (rest : List α) :
    m.ClosesAt (text ++ rest) i := by
  obtain ⟨body, after, rfl, hi, hcount⟩ := closesAt_iff.1 h
  apply closesAt_iff.2
  refine ⟨body, after ++ rest, ?_, hi, hcount⟩
  simp

/-- In front of a text, one without dollar signs adds no openings. -/
theorem Marks.openings_append_of_not_mem {front : List α} (h : m.dollar ∉ front) (rest : List α) :
    m.openings (front ++ rest) = m.openings rest := by
  induction front with
  | nil => rfl
  | cons c front ih =>
    rw [List.mem_cons, not_or] at h
    have hc : ¬ (c = m.dollar ∧ (front ++ rest).head? = some m.brace) := fun hc => h.1 hc.1.symm
    rw [List.cons_append, openings, if_neg hc, Nat.zero_add, ih h.2]

/-- A dollar sign opens a placeholder if a brace follows it. -/
theorem Marks.openings_dollar (rest : List α) :
    m.openings (m.dollar :: rest) =
      (if rest.head? = some m.brace then 1 else 0) + m.openings rest := by
  simp [openings]

/-- At the end of a text, what is no brace adds no opening. -/
theorem Marks.openings_concat (front : List α) {c : α} (hc : c ≠ m.brace) :
    m.openings (front ++ [c]) = m.openings front := by
  induction front with
  | nil => simp [openings]
  | cons d front ih =>
    have hhead : (front ++ [c]).head? = some m.brace ↔ front.head? = some m.brace := by
      cases front <;> simp [hc]
    simp only [List.cons_append, openings, hhead, ih]

/-- A text has at least the openings of its beginning. -/
theorem Marks.openings_le_append (front rest : List α) :
    m.openings front ≤ m.openings (front ++ rest) := by
  induction front with
  | nil => simp [openings]
  | cons c front ih =>
    simp only [List.cons_append, openings]
    split
    case isFalse => omega
    case isTrue hc =>
      have hhead : (front ++ rest).head? = some m.brace := by
        rw [List.head?_append, hc.2, Option.some_or]
      rw [if_pos ⟨hc.1, hhead⟩]
      omega

/-- At the end of a text, a closing brace adds one to their number. -/
theorem Marks.closings_concat_closing (front : List α) :
    m.closings (front ++ [m.closing]) = m.closings front + 1 := by
  simp [closings]

/-- A text with too many closing braces has a position where a placeholder is closed. -/
theorem Marks.exists_closesAt (h : m.openings text < m.closings text) :
    ∃ i < text.length, m.ClosesAt text i := by
  induction text using List.reverseRecOn with
  | nil => simp [closings] at h
  | append_singleton front c ih =>
    by_cases hfront : m.openings front < m.closings front
    · obtain ⟨i, hi, hcloses⟩ := ih hfront
      refine ⟨i, ?_, hcloses.append [c]⟩
      simp
      omega
    · -- the last character is the first closing brace that is too many
      have hopenings := openings_le_append (m := m) front [c]
      by_cases hc : c = m.closing
      · subst hc
        rw [closings_concat_closing] at h
        refine ⟨front.length, by simp, closesAt_length.2 ?_⟩
        omega
      · have hclosings : m.closings (front ++ [c]) = m.closings front := by simp [closings, hc]
        omega

/-- If some position closes a placeholder, there is a first one. -/
theorem Marks.exists_isLeast {i : Nat} (h : m.ClosesAt text i) :
    ∃ first, IsLeast {j | m.ClosesAt text j} first := by
  classical
  have hexists : ∃ j, m.ClosesAt text j := ⟨i, h⟩
  exact ⟨Nat.find hexists, Nat.find_spec hexists, fun j hj => Nat.find_min' hexists hj⟩

end

/-! ## Balanced texts -/

/-- An opening in front of a text adds one to their number. -/
theorem openings_opening (rest : List Char) :
    ofChars.openings ('$' :: '{' :: rest) = ofChars.openings rest + 1 := by
  simp [openings, ofChars, Nat.add_comm]

/-- A character that starts no opening leaves their number as it is. -/
theorem openings_other {c : Char} {rest : List Char}
    (hopening : ∀ inner, c :: rest ≠ '$' :: '{' :: inner) :
    ofChars.openings (c :: rest) = ofChars.openings rest := by
  have hc : ¬ (c = ofChars.dollar ∧ rest.head? = some ofChars.brace) := by
    rintro ⟨rfl, hhead⟩
    obtain ⟨inner, rfl⟩ := List.head?_eq_some_iff.1 hhead
    exact hopening inner rfl
  rw [openings, if_neg hc, Nat.zero_add]

/-- A closing brace in front of a text adds one to their number. -/
theorem closings_closing (rest : List Char) :
    ofChars.closings ('}' :: rest) = ofChars.closings rest + 1 :=
  List.count_cons_self

/-- A character that is no closing brace leaves their number as it is. -/
theorem closings_other {c : Char} (hc : c ≠ '}') (rest : List Char) :
    ofChars.closings (c :: rest) = ofChars.closings rest :=
  List.count_cons_of_ne hc

/-- The empty text is balanced where no placeholder is open. -/
theorem isBalanced_nil {depth : Nat} : IsBalanced depth [] ↔ depth = 0 := by
  constructor
  · intro h
    have hcomplete := h.complete
    simp [closings, openings] at hcomplete
    omega
  · rintro rfl
    refine ⟨?_, rfl⟩
    intro front hbegins
    rw [List.prefix_nil.1 hbegins]
    exact Nat.zero_le _

/-- The empty beginning never has a closing brace too many. -/
theorem isBalanced_cons {depth : Nat} {c : Char} {rest : List Char} :
    IsBalanced depth (c :: rest) ↔
      (∀ front, front <+: rest →
        ofChars.closings (c :: front) ≤ ofChars.openings (c :: front) + depth) ∧
      ofChars.closings (c :: rest) = ofChars.openings (c :: rest) + depth := by
  constructor
  · intro h
    exact ⟨fun front hbegins => h.notEarly _ (List.prefix_cons_inj c |>.2 hbegins), h.complete⟩
  · rintro ⟨hfront, hcomplete⟩
    refine ⟨?_, hcomplete⟩
    intro front hbegins
    obtain rfl | ⟨front', rfl, hbegins'⟩ := List.prefix_cons_iff.1 hbegins
    · exact Nat.zero_le _
    · exact hfront front' hbegins'

/-- Behind an opening, one more placeholder is open. -/
theorem isBalanced_opening {depth : Nat} {rest : List Char} :
    IsBalanced depth ('$' :: '{' :: rest) ↔ IsBalanced (depth + 1) rest := by
  have hcount (text : List Char) :
      ofChars.closings ('$' :: '{' :: text) = ofChars.closings text := by
    rw [closings_other (by decide), closings_other (by decide)]
  rw [isBalanced_cons]
  constructor
  · rintro ⟨hfront, hcomplete⟩
    rw [hcount, openings_opening] at hcomplete
    refine ⟨?_, by omega⟩
    intro front hbegins
    have hle := hfront ('{' :: front) ((List.prefix_cons_inj _).2 hbegins)
    rw [hcount, openings_opening] at hle
    omega
  · intro h
    have hcomplete := h.complete
    refine ⟨?_, ?_⟩
    · intro front hbegins
      obtain rfl | ⟨front', rfl, hbegins'⟩ := List.prefix_cons_iff.1 hbegins
      · exact Nat.zero_le _
      · have hle := h.notEarly front' hbegins'
        rw [hcount, openings_opening]
        omega
    · rw [hcount, openings_opening]
      omega

/-- Behind a closing brace, one placeholder fewer is open. -/
theorem isBalanced_closing {depth : Nat} {rest : List Char} :
    IsBalanced (depth + 1) ('}' :: rest) ↔ IsBalanced depth rest := by
  have hcount (text : List Char) : ofChars.openings ('}' :: text) = ofChars.openings text :=
    openings_other (by simp)
  rw [isBalanced_cons, isBalanced_iff]
  apply and_congr
  · apply forall₂_congr
    intro front _
    rw [closings_closing, hcount]
    omega
  · rw [closings_closing, hcount]
    omega

/-- Where no placeholder is open, no balanced text starts with a closing brace. -/
theorem not_isBalanced_closing {rest : List Char} : ¬ IsBalanced 0 ('}' :: rest) := by
  intro h
  have hle := h.notEarly ['}'] (by simp)
  exact absurd hle (by decide)

/-- Behind any other character, as many placeholders are open as in front of it. -/
theorem isBalanced_other {depth : Nat} {c : Char} {rest : List Char}
    (hopening : ∀ inner, c :: rest ≠ '$' :: '{' :: inner) (hclosing : c ≠ '}') :
    IsBalanced depth (c :: rest) ↔ IsBalanced depth rest := by
  have hcount {front : List Char} (hbegins : front <+: rest) :
      ofChars.openings (c :: front) = ofChars.openings front := by
    apply openings_other
    intro inner heq
    obtain ⟨rfl, rfl⟩ := List.cons.inj heq
    obtain ⟨behind, rfl⟩ := hbegins
    exact hopening (inner ++ behind) rfl
  rw [isBalanced_cons, isBalanced_iff]
  apply and_congr
  · apply forall₂_congr
    intro front hbegins
    rw [hcount hbegins, closings_other hclosing]
  · rw [hcount List.prefix_rfl, closings_other hclosing]

/-- The scan goes through balanced texts without stopping, and through no others. -/
theorem balances_iff {depth : Nat} {text : List Char} :
    Balances depth text ↔ IsBalanced depth text := by
  constructor
  · intro h
    induction h with
    | nil => exact isBalanced_nil.2 rfl
    | opening _ ih => exact isBalanced_opening.2 ih
    | closing _ ih => exact isBalanced_closing.2 ih
    | other hopening hclosing _ ih => exact (isBalanced_other hopening hclosing).2 ih
  · intro h
    induction depth, text using closingBraceAt?.induct with
    | case1 depth =>
      obtain rfl := isBalanced_nil.1 h
      exact .nil
    | case2 depth rest ih => exact .opening (ih (isBalanced_opening.1 h))
    | case3 rest => exact absurd h not_isBalanced_closing
    | case4 depth rest ih => exact .closing (ih (isBalanced_closing.1 h))
    | case5 depth c rest hopening hzero hsucc ih =>
      have hclosing : c ≠ '}' := by
        rintro rfl
        cases depth with
        | zero => exact hzero rfl rfl
        | succ depth => exact hsucc depth rfl rfl
      have hopening' (inner : List Char) : c :: rest ≠ '$' :: '{' :: inner := by
        intro heq
        obtain ⟨rfl, rfl⟩ := List.cons.inj heq
        exact hopening inner rfl rfl
      exact .other hopening' hclosing (ih ((isBalanced_other hopening' hclosing).1 h))

/-! ## The first position -/

/-- In front of the first position where a placeholder is closed, the text is balanced. -/
theorem isBalanced_of_isLeast {body after : List Char}
    (h : IsLeast {i | ofChars.ClosesAt (body ++ '}' :: after) i} body.length) :
    IsBalanced 0 body := by
  obtain ⟨hcloses, hfirst⟩ := h
  refine ⟨?_, closesAt_length.1 hcloses⟩
  intro front hbegins
  by_contra hle
  obtain ⟨i, hi, hearly⟩ := Marks.exists_closesAt (Nat.not_le.1 hle)
  obtain ⟨behind, rfl⟩ := hbegins
  have hlength := hfirst ((hearly.append behind).append _)
  rw [List.length_append] at hlength
  omega

/-- No placeholder is closed inside of a balanced text. -/
theorem IsBalanced.isLeast {body : List Char} (h : IsBalanced 0 body) (after : List Char) :
    IsLeast {i | ofChars.ClosesAt (body ++ '}' :: after) i} body.length := by
  refine ⟨closesAt_length.2 h.complete, ?_⟩
  intro i hi
  obtain ⟨front, behind, hsplit, rfl, hcount⟩ := closesAt_iff.1 hi
  by_contra hlt
  -- with its brace, the text in front of an earlier position has a closing brace too many
  have hbegins : front ++ ['}'] <+: body := by
    have hfront : front ++ ['}'] <+: body ++ '}' :: after := ⟨behind, by simp [hsplit, ofChars]⟩
    apply List.prefix_of_prefix_length_le hfront (List.prefix_append body _)
    simp
    omega
  have hle := h.notEarly _ hbegins
  have hclosings : ofChars.closings (front ++ ['}']) = ofChars.closings front + 1 :=
    Marks.closings_concat_closing front
  rw [hclosings, openings_concat front (by decide)] at hle
  omega

/-- The scan divides a text at the first position where a placeholder is closed. -/
theorem closingBrace?_eq_some_iff {text body after : List Char} :
    closingBrace? text = some (body, after) ↔
      text = body ++ '}' :: after ∧ IsLeast {i | ofChars.ClosesAt text i} body.length := by
  unfold closingBrace?
  rw [closingBraceAt?_eq_some, balances_iff]
  apply and_congr_right
  rintro rfl
  exact ⟨fun h => h.isLeast after, isBalanced_of_isLeast⟩

/-- The scan finds no brace just if no position of the text closes a placeholder. -/
theorem closingBrace?_eq_none_iff {text : List Char} :
    closingBrace? text = none ↔ ∀ i, ¬ ofChars.ClosesAt text i := by
  constructor
  · intro hnone i hi
    obtain ⟨first, hfirst⟩ := Marks.exists_isLeast hi
    obtain ⟨body, after, hsplit, rfl, -⟩ := closesAt_iff.1 hfirst.1
    rw [closingBrace?_eq_some_iff.2 ⟨hsplit, hfirst⟩] at hnone
    cases hnone
  · intro h
    cases hscan : closingBrace? text with
    | none => rfl
    | some parts => exact absurd (closingBrace?_eq_some_iff.1 hscan).2.1 (h _)

/-! ## Positions in bytes -/

/-- A text has as many openings in its bytes as in its characters. -/
theorem openings_utf8 (text : List Char) :
    ofBytes.openings (utf8 text) = ofChars.openings text := by
  induction text with
  | nil => rfl
  | cons c rest ih =>
    by_cases hc : c = '$'
    · subst hc
      have hhead : (utf8 rest).head? = some ofBytes.brace ↔ rest.head? = some ofChars.brace :=
        head?_utf8 (c := '{') (by decide) rest
      have hbytes : ofBytes.openings (byte '$' :: utf8 rest) = _ := openings_dollar (utf8 rest)
      have hchars : ofChars.openings ('$' :: rest) = _ := openings_dollar rest
      rw [utf8_cons, utf8EncodeChar_of_lt (by decide), List.singleton_append, hbytes, hchars]
      simp only [hhead, ih]
    · have hbyte : ofBytes.dollar ∉ String.utf8EncodeChar c := by
        intro hmem
        exact hc ((byte_mem_utf8EncodeChar (c := '$') (by decide)).1 hmem)
      have hdollar : ofChars.dollar ∉ [c] := by simpa [ofChars] using Ne.symm hc
      have hchars : ofChars.openings (c :: rest) = ofChars.openings rest :=
        openings_append_of_not_mem hdollar rest
      rw [utf8_cons, openings_append_of_not_mem hbyte, ih, hchars]

/-- A text has as many closing braces in its bytes as in its characters. -/
theorem closings_utf8 (text : List Char) :
    ofBytes.closings (utf8 text) = ofChars.closings text :=
  count_utf8 (c := '}') (by decide) text

/-- The positions in the bytes of a text where a placeholder is closed are those in the text. -/
theorem closesAt_utf8 {text : List Char} {i : Nat} :
    ofBytes.ClosesAt (utf8 text) i ↔
      ∃ body after, text = body ++ '}' :: after ∧ (utf8 body).length = i ∧
        ofChars.closings body = ofChars.openings body := by
  have hsplit {front back : List UInt8} :
      utf8 text = front ++ ofBytes.closing :: back ↔
        ∃ body after, text = body ++ '}' :: after ∧ utf8 body = front ∧ utf8 after = back :=
    utf8_eq_append_cons (c := '}') (by decide)
  rw [closesAt_iff]
  constructor
  · rintro ⟨front, back, hbytes, rfl, hcount⟩
    obtain ⟨body, after, rfl, rfl, rfl⟩ := hsplit.1 hbytes
    rw [closings_utf8, openings_utf8] at hcount
    exact ⟨body, after, rfl, rfl, hcount⟩
  · rintro ⟨body, after, htext, rfl, hcount⟩
    refine ⟨utf8 body, utf8 after, hsplit.2 ⟨body, after, htext, rfl, rfl⟩, rfl, ?_⟩
    rw [closings_utf8, openings_utf8, hcount]

/-- How many bytes the scan goes through in front of the closing brace. -/
def closingOffset? (text : List Char) : Option Nat :=
  (closingBrace? text).map fun (body, _) => (utf8 body).length

/-- The scan divides the bytes of a text, too, at the first position that closes a placeholder. -/
theorem isLeast_utf8 {text body after : List Char} (h : closingBrace? text = some (body, after)) :
    IsLeast {i | ofBytes.ClosesAt (utf8 text) i} (utf8 body).length := by
  obtain ⟨rfl, hcloses, hfirst⟩ := closingBrace?_eq_some_iff.1 h
  refine ⟨closesAt_utf8.2 ⟨body, after, rfl, rfl, closesAt_length.1 hcloses⟩, ?_⟩
  intro i hi
  obtain ⟨front, behind, hsplit, rfl, hfront⟩ := closesAt_utf8.1 hi
  have hle : body.length ≤ front.length :=
    hfirst (closesAt_iff.2 ⟨front, behind, hsplit, rfl, hfront⟩)
  have hbegins : front <+: body ++ '}' :: after := ⟨_, hsplit.symm⟩
  obtain ⟨more, rfl⟩ := List.prefix_of_prefix_length_le (List.prefix_append body _) hbegins hle
  rw [utf8_append, List.length_append]
  omega

/-- There is no offset just if no position in the bytes closes a placeholder. -/
theorem closingOffset?_eq_none_iff {text : List Char} :
    closingOffset? text = none ↔ ∀ i, ¬ ofBytes.ClosesAt (utf8 text) i := by
  unfold closingOffset?
  rw [Option.map_eq_none_iff, closingBrace?_eq_none_iff]
  constructor
  · intro h i hi
    obtain ⟨body, after, hsplit, -, hcount⟩ := closesAt_utf8.1 hi
    exact h _ (closesAt_iff.2 ⟨body, after, hsplit, rfl, hcount⟩)
  · intro h i hi
    obtain ⟨body, after, hsplit, -, hcount⟩ := closesAt_iff.1 hi
    exact h _ (closesAt_utf8.2 ⟨body, after, hsplit, rfl, hcount⟩)

/-- The offset is the first position in the bytes where a placeholder is closed. -/
theorem closingOffset?_eq_some_iff {text : List Char} {i : Nat} :
    closingOffset? text = some i ↔ IsLeast {j | ofBytes.ClosesAt (utf8 text) j} i := by
  constructor
  · intro h
    obtain ⟨⟨body, after⟩, hscan, rfl⟩ := Option.map_eq_some_iff.1 h
    exact isLeast_utf8 hscan
  · intro h
    cases hoffset : closingOffset? text with
    | none => exact absurd h.1 (closingOffset?_eq_none_iff.1 hoffset i)
    | some j =>
      obtain ⟨⟨body, after⟩, hscan, rfl⟩ := Option.map_eq_some_iff.1 hoffset
      exact congrArg some ((isLeast_utf8 hscan).unique h)

-- two characters, three bytes
example : closingOffset? ['$', 'é', '}'] = some 3 := by
  decide

/-! ## Main result -/

/-- A template starts with a placeholder that is read with this name and this fallback, and goes on
with this text. -/
def StartsWith (template name : List Char) (fallback? : Option (List Char)) (rest : List Char) :
    Prop :=
  ∃ p : Placeholder, template = p.text ++ rest ∧
    pieces template = .placeholder p :: pieces rest ∧ p.name = name ∧ p.fallback? = fallback?

/-- A template with a placeholder in front starts with the name, the fallback and the rest that the
scan and the division of its body give. -/
theorem startsWith_of_closingBrace? {inner body rest name : List Char}
    {fallback? : Option (List Char)} (hbody : closingBrace? inner = some (body, rest))
    (hsplit : splitFallback body = (name, fallback?)) :
    StartsWith ('$' :: '{' :: inner) name fallback? rest := by
  refine ⟨⟨body⟩, ?_, pieces_opening hbody, congrArg Prod.fst hsplit, congrArg Prod.snd hsplit⟩
  rw [closingBrace?_eq_append hbody]
  simp [Placeholder.text]

/-- The scan finds the first position where a placeholder is closed, counted in characters and in
bytes. So a placeholder with a plain name, and one with a balanced fallback besides, is read as it
is written in front of any text. -/
theorem closingBrace?_delimits :
    (∀ text body after, closingBrace? text = some (body, after) ↔
      text = body ++ '}' :: after ∧ IsLeast {i | ofChars.ClosesAt text i} body.length) ∧
    (∀ text i, closingOffset? text = some i ↔
      IsLeast {j | ofBytes.ClosesAt (utf8 text) j} i) ∧
    (∀ text, closingOffset? text = none ↔ ∀ i, ¬ ofBytes.ClosesAt (utf8 text) i) ∧
    (∀ name fallback rest, IsPlainName name → IsBalanced 0 fallback →
      StartsWith ('$' :: '{' :: (name ++ ':' :: '-' :: (fallback ++ '}' :: rest))) name
        (some fallback) rest) ∧
    ∀ name rest, IsPlainName name →
      StartsWith ('$' :: '{' :: (name ++ '}' :: rest)) name none rest := by
  refine ⟨?_, ?_, ?_, ?_, ?_⟩
  · intro text body after
    exact closingBrace?_eq_some_iff
  · intro text i
    exact closingOffset?_eq_some_iff
  · intro text
    exact closingOffset?_eq_none_iff
  · intro name fallback rest hname hfallback
    have hbody := closingBrace?_fallback hname (balances_iff.2 hfallback) rest
    exact startsWith_of_closingBrace? hbody (splitFallback_append hname fallback)
  · intro name rest hname
    have hbody := closingBrace?_name hname rest
    exact startsWith_of_closingBrace? hbody (splitFallback_of_isPlainName hname)

/-- A placeholder in the fallback of another one, with characters of more than one byte, is read as
it is written; so is one with a name only, whatever stands behind it. -/
theorem closingBrace?_delimits_nested :
    IsPlainName ['é'] ∧ IsBalanced 0 ['$', '{', 'b', ':', '-', 'ü', '}'] ∧
      StartsWith ['$', '{', 'é', ':', '-', '$', '{', 'b', ':', '-', 'ü', '}', '}', '}', 'c'] ['é']
        (some ['$', '{', 'b', ':', '-', 'ü', '}']) ['}', 'c'] ∧
      StartsWith ['$', '{', 'é', '}', ':', '-'] ['é'] none [':', '-'] := by
  have hname : IsPlainName ['é'] := ⟨by unfold IsVerbatim; decide, by decide, by decide⟩
  have hbalanced : IsBalanced 0 ['$', '{', 'b', ':', '-', 'ü', '}'] := by decide
  obtain ⟨-, -, -, hfallback, hplain⟩ := closingBrace?_delimits
  exact ⟨hname, hbalanced, hfallback ['é'] _ ['}', 'c'] hname hbalanced,
    hplain ['é'] [':', '-'] hname⟩

end ExprGate.Placeholder
