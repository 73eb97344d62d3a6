import ExprGate.Proofs.Placeholder.Verbatim
import Mathlib.Data.List.Infix

/-!
# Where placeholders end

The scan for a closing brace divides its text at a brace, in front of which it has gone through a
text with as many closing braces as openings (`closingBraceAt?_eq_some`). Such a text is complete in
itself: every placeholder that begins in the body of a placeholder is closed there. Hence a text in
which no placeholder is left open has parts of the same kind only, the texts behind its placeholders
as well as the fallbacks inside them (`IsClosed.after`, `isClosed_fallback`).
-/

set_option autoImplicit false

namespace ExprGate.Placeholder

/-! ## The scan for a closing brace -/

/-- A text that the scan for a closing brace goes through without stopping, when a number of
placeholders are open in front of it and none behind it. -/
inductive Balances : Nat → List Char → Prop where
  | nil : Balances 0 []
  | opening {depth : Nat} {rest : List Char} (h : Balances (depth + 1) rest) :
    Balances depth ('$' :: '{' :: rest)
  | closing {depth : Nat} {rest : List Char} (h : Balances depth rest) :
    Balances (depth + 1) ('}' :: rest)
  | other {depth : Nat} {c : Char} {rest : List Char}
    (hopening : ∀ inner, c :: rest ≠ '$' :: '{' :: inner) (hclosing : c ≠ '}')
    (h : Balances depth rest) : Balances depth (c :: rest)

/-- The scan goes past a character that starts no placeholder and is no brace. -/
theorem closingBraceAt?_cons {depth : Nat} {c : Char} {rest : List Char}
    (hopening : ∀ inner, c :: rest ≠ '$' :: '{' :: inner) (hclosing : c ≠ '}') :
    closingBraceAt? depth (c :: rest) =
      (closingBraceAt? depth rest).map fun (body, after) => (c :: body, after) := by
  rw [closingBraceAt?.eq_def]
  split
  · rename_i heq
    cases heq
  · rename_i inner heq
    exact absurd heq (hopening inner)
  · rename_i heq
    cases heq
    exact absurd rfl hclosing
  · rename_i heq
    cases heq
    exact absurd rfl hclosing
  · rename_i heq
    cases heq
    rfl

/-- Behind a text that it goes through, the scan stops at a brace. -/
theorem Balances.closingBraceAt?_append {depth : Nat} {body : List Char}
    (h : Balances depth body) (after : List Char) :
    closingBraceAt? depth (body ++ '}' :: after) = some (body, after) := by
  induction h with
  | nil => rfl
  | opening _ ih => simp [closingBraceAt?, ih]
  | closing _ ih => simp [closingBraceAt?, ih]
  | @other depth c rest hopening hclosing _ ih =>
    have hopening' (inner : List Char) : c :: (rest ++ '}' :: after) ≠ '$' :: '{' :: inner := by
      intro heq
      obtain ⟨rfl, htail⟩ := List.cons.inj heq
      cases rest with
      | nil => cases htail
      | cons d rest =>
        obtain ⟨rfl, -⟩ := List.cons.inj htail
        exact hopening rest rfl
    rw [List.cons_append, closingBraceAt?_cons hopening' hclosing, ih]
    rfl

/-- The scan divides a text at a brace behind a text that it goes through. -/
theorem closingBraceAt?_eq_some {depth : Nat} {text body after : List Char} :
    closingBraceAt? depth text = some (body, after) ↔
      text = body ++ '}' :: after ∧ Balances depth body := by
  constructor
  · intro h
    fun_induction closingBraceAt? depth text generalizing body after with
    | case1 => cases h
    | case2 depth rest ih =>
      obtain ⟨⟨b, a⟩, hb, he⟩ := Option.map_eq_some_iff.1 h
      obtain ⟨rfl, rfl⟩ := Prod.mk.inj he
      obtain ⟨rfl, hbalances⟩ := ih hb
      exact ⟨rfl, hbalances.opening⟩
    | case3 rest =>
      obtain ⟨rfl, rfl⟩ := Prod.mk.inj (Option.some.inj h)
      exact ⟨rfl, .nil⟩
    | case4 depth rest ih =>
      obtain ⟨⟨b, a⟩, hb, he⟩ := Option.map_eq_some_iff.1 h
      obtain ⟨rfl, rfl⟩ := Prod.mk.inj he
      obtain ⟨rfl, hbalances⟩ := ih hb
      exact ⟨rfl, hbalances.closing⟩
    | case5 depth c rest hopening hzero hsucc ih =>
      obtain ⟨⟨b, a⟩, hb, he⟩ := Option.map_eq_some_iff.1 h
      obtain ⟨rfl, rfl⟩ := Prod.mk.inj he
      obtain ⟨rfl, hbalances⟩ := ih hb
      refine ⟨rfl, hbalances.other ?_ ?_⟩
      · intro inner heq
        obtain ⟨rfl, rfl⟩ := List.cons.inj heq
        exact hopening _ rfl rfl
      · rintro rfl
        cases depth with
        | zero => exact hzero rfl rfl
        | succ depth => exact hsucc depth rfl rfl
  · rintro ⟨rfl, h⟩
    exact h.closingBraceAt?_append after

/-- The text is the body, the closing brace and what is behind it. -/
theorem closingBrace?_eq_append {text body after : List Char}
    (h : closingBrace? text = some (body, after)) : text = body ++ '}' :: after :=
  (closingBraceAt?_eq_some.1 h).1

/-! ## Closed texts -/

/-- A text in which every placeholder that begins has its closing brace. -/
def IsClosed (text : List Char) : Prop :=
  ∀ before rest, text = before ++ '$' :: '{' :: rest → closingBrace? rest ≠ none

/-- Whether a text does not start with a placeholder that it leaves open. -/
def startsClosed : List Char → Bool
  | '$' :: '{' :: rest => (closingBrace? rest).isSome
  | _ => true

/-- A text is closed if none of its ends starts with a placeholder that it leaves open. -/
theorem all_tails_iff_isClosed {text : List Char} :
    text.tails.all startsClosed = true ↔ IsClosed text := by
  rw [List.all_eq_true]
  constructor
  · rintro h before rest rfl
    have hstart := h _ ((List.mem_tails _ _).2 ⟨before, rfl⟩)
    exact Option.isSome_iff_ne_none.1 hstart
  · intro h ending hending
    obtain ⟨before, rfl⟩ := (List.mem_tails _ _).1 hending
    unfold startsClosed
    split
    · exact Option.isSome_iff_ne_none.2 (h before _ rfl)
    · rfl

instance (text : List Char) : Decidable (IsClosed text) :=
  decidable_of_iff _ all_tails_iff_isClosed

/-- The end of a closed text is closed. -/
theorem IsClosed.of_append (before : List Char) {rest : List Char} (h : IsClosed (before ++ rest)) :
    IsClosed rest := by
  intro start inner heq
  apply h (before ++ start) inner
  rw [heq, List.append_assoc]

/-- Behind its first character a closed text is closed. -/
theorem IsClosed.tail {c : Char} {rest : List Char} (h : IsClosed (c :: rest)) : IsClosed rest :=
  IsClosed.of_append [c] h

/-- A placeholder in front of a closed text has its closing brace. -/
theorem IsClosed.closingBrace?_ne_none {rest : List Char} (h : IsClosed ('$' :: '{' :: rest)) :
    closingBrace? rest ≠ none :=
  h [] rest rfl

/-- What is behind a placeholder of a closed text is closed. -/
theorem IsClosed.after {rest body after : List Char} (h : IsClosed ('$' :: '{' :: rest))
    (hbody : closingBrace? rest = some (body, after)) : IsClosed after := by
  rw [closingBrace?_eq_append hbody] at h
  exact IsClosed.of_append ('$' :: '{' :: (body ++ ['}'])) (by simpa using h)

/-- Where the scan goes through a text that starts inside more placeholders, it stops if it starts
inside fewer of them. -/
theorem Balances.closingBraceAt?_ne_none {depth outer : Nat} {body : List Char}
    (h : Balances depth body) (hdepth : outer < depth) : closingBraceAt? outer body ≠ none := by
  induction h generalizing outer with
  | nil => cases hdepth
  | opening _ ih => simpa [closingBraceAt?] using ih (Nat.succ_lt_succ hdepth)
  | closing _ ih =>
    cases outer with
    | zero => simp [closingBraceAt?]
    | succ outer => simpa [closingBraceAt?] using ih (Nat.lt_of_succ_lt_succ hdepth)
  | other hopening hclosing _ ih =>
    rw [closingBraceAt?_cons hopening hclosing]
    simpa using ih hdepth

/-- A text that the scan goes through closes the placeholders that begin in it. -/
theorem Balances.isClosed {depth : Nat} {body : List Char} (h : Balances depth body) :
    IsClosed body := by
  induction h with
  | nil =>
    intro before rest heq
    exact absurd heq (by simp)
  | opening hrest ih =>
    intro before inner heq
    match before with
    | [] =>
      obtain rfl : _ = inner := by simpa using heq
      exact hrest.closingBraceAt?_ne_none (Nat.succ_pos _)
    | [c] => simp at heq
    | c :: d :: before =>
      apply ih before inner
      simpa using (List.cons.inj (List.cons.inj heq).2).2
  | closing _ ih =>
    intro before inner heq
    match before with
    | [] => simp at heq
    | c :: before => exact ih before inner (List.cons.inj heq).2
  | other hopening _ _ ih =>
    intro before inner heq
    match before with
    | [] => exact absurd heq (hopening inner)
    | c :: before => exact ih before inner (List.cons.inj heq).2

/-- The body of a placeholder closes the placeholders that begin in it. -/
theorem isClosed_body {text body after : List Char}
    (h : closingBrace? text = some (body, after)) : IsClosed body :=
  (closingBraceAt?_eq_some.1 h).2.isClosed

/-- A body with a fallback is the name, `:-` and the fallback. -/
theorem splitFallback_eq_append {body name fallback : List Char}
    (h : splitFallback body = (name, some fallback)) :
    body = name ++ ':' :: '-' :: fallback := by
  fun_induction splitFallback body generalizing name fallback with
  | case1 => cases h
  | case2 rest =>
    obtain ⟨rfl, hrest⟩ := Prod.mk.inj h
    obtain rfl := Option.some.inj hrest
    rfl
  | case3 => cases h
  | case4 c rest _ _ n f hsplit ih =>
    obtain ⟨rfl, rfl⟩ := Prod.mk.inj h
    rw [ih hsplit]
    rfl

/-- The body of a placeholder with a fallback is its name, `:-` and the fallback. -/
theorem body_eq_append {p : Placeholder} {fallback : List Char}
    (h : p.fallback? = some fallback) : p.body = p.name ++ ':' :: '-' :: fallback := by
  apply splitFallback_eq_append
  rw [← h]
  rfl

/-- The fallback of a placeholder closes the placeholders that begin in it. -/
theorem isClosed_fallback {text body after fallback : List Char}
    (h : closingBrace? text = some (body, after))
    (hfallback : (Placeholder.mk body).fallback? = some fallback) : IsClosed fallback := by
  have hbody := isClosed_body h
  have heq : body = _ := body_eq_append hfallback
  rw [heq] at hbody
  exact IsClosed.of_append ((Placeholder.mk body).name ++ [':', '-'])
    (by simpa using hbody)

/-! ## Seams

A token is an opening `${`, or a backslash with the opening that it escapes. -/

/-- No token of a template lies across the seam of two texts. -/
structure Parted (s t : List Char) : Prop where
  opening : s.getLast? = some '$' → t.head? ≠ some '{'
  escape : s.getLast? = some '\\' → ∀ rest, t ≠ '$' :: '{' :: rest

/-- A seam that is free of tokens stays so if less stands in front of it. -/
theorem Parted.of_append (before : List Char) {s t : List Char} (h : Parted (before ++ s) t) :
    Parted s t := by
  have hlast {c : Char} (hs : s.getLast? = some c) : (before ++ s).getLast? = some c := by
    rw [List.getLast?_append, hs, Option.some_or]
  exact ⟨fun hs => h.opening (hlast hs), fun hs => h.escape (hlast hs)⟩

/-- A seam that is free of tokens stays so without the first character in front of it. -/
theorem Parted.tail {c : Char} {rest t : List Char} (h : Parted (c :: rest) t) : Parted rest t :=
  Parted.of_append [c] h

/-- A text that starts with no opening starts with none after another text is put behind it. -/
theorem Parted.ne_opening {c : Char} {rest t : List Char} (h : Parted (c :: rest) t)
    (hopening : ∀ inner, c :: rest ≠ '$' :: '{' :: inner) (inner : List Char) :
    c :: (rest ++ t) ≠ '$' :: '{' :: inner := by
  intro heq
  match rest with
  | [] =>
    obtain ⟨rfl, rfl⟩ := List.cons.inj heq
    exact h.opening rfl rfl
  | d :: rest =>
    simp only [List.cons_append, List.cons.injEq] at heq
    obtain ⟨rfl, rfl, -⟩ := heq
    exact hopening rest rfl

/-- A text that starts with no escape starts with none after another text is put behind it. -/
theorem Parted.ne_escape {c : Char} {rest t : List Char} (h : Parted (c :: rest) t)
    (hescape : ∀ inner, c :: rest ≠ '\\' :: '$' :: '{' :: inner) (inner : List Char) :
    c :: (rest ++ t) ≠ '\\' :: '$' :: '{' :: inner := by
  intro heq
  match rest with
  | [] =>
    obtain ⟨rfl, rfl⟩ := List.cons.inj heq
    exact h.escape rfl inner rfl
  | [d] =>
    simp only [List.cons_append, List.nil_append, List.cons.injEq] at heq
    obtain ⟨-, rfl, rfl⟩ := heq
    exact h.opening rfl rfl
  | d :: e :: rest =>
    simp only [List.cons_append, List.cons.injEq] at heq
    obtain ⟨rfl, rfl, rfl, -⟩ := heq
    exact hescape rest rfl

/-- A placeholder that is closed in a text is closed at the same place in a longer one. -/
theorem closingBrace?_append {rest body after : List Char}
    (h : closingBrace? rest = some (body, after)) (t : List Char) :
    closingBrace? (rest ++ t) = some (body, after ++ t) := by
  obtain ⟨rfl, hbody⟩ := closingBraceAt?_eq_some.1 h
  refine closingBraceAt?_eq_some.2 ⟨?_, hbody⟩
  rw [List.append_assoc, List.cons_append]

/-! ## Placeholders with a fallback -/

/-- A name as it can be written in front of a fallback. -/
structure IsPlainName (name : List Char) : Prop where
  verbatim : IsVerbatim name
  closing : '}' ∉ name
  delimiter : ¬ [':', '-'] <:+: name

/-- Without its first character a plain name is a plain name. -/
theorem IsPlainName.tail {c : Char} {name : List Char} (h : IsPlainName (c :: name)) :
    IsPlainName name := by
  refine ⟨h.verbatim.tail, fun hmem => h.closing (List.mem_cons_of_mem c hmem), ?_⟩
  intro hpart
  exact h.delimiter (hpart.trans (List.suffix_cons c name).isInfix)

/-- The scan goes through a text without braces as it goes through what follows. -/
theorem Balances.verbatim_append {depth : Nat} {text rest : List Char} (h : IsVerbatim text)
    (hclosing : '}' ∉ text) (hparted : Parted text rest) (hrest : Balances depth rest) :
    Balances depth (text ++ rest) := by
  induction text with
  | nil => exact hrest
  | cons c text ih =>
    rw [List.mem_cons, not_or] at hclosing
    exact .other (hparted.ne_opening fun _ => h.ne_opening) (Ne.symm hclosing.1)
      (ih h.tail hclosing.2 hparted.tail)

/-- A character that starts neither `:-` nor an opening is part of the name. -/
theorem splitFallback_cons {c : Char} {rest : List Char}
    (hdelimiter : ∀ inner, c :: rest ≠ ':' :: '-' :: inner)
    (hopening : ∀ inner, c :: rest ≠ '$' :: '{' :: inner) :
    splitFallback (c :: rest) = (c :: (splitFallback rest).1, (splitFallback rest).2) := by
  rw [splitFallback.eq_def]
  split
  · rename_i heq
    cases heq
  · rename_i inner heq
    exact absurd heq (hdelimiter inner)
  · rename_i inner heq
    exact absurd heq (hopening inner)
  · rename_i heq
    cases heq
    rfl

/-- No token lies across the front of a `:`. -/
theorem parted_delimiter (name rest : List Char) : Parted name (':' :: rest) :=
  ⟨fun _ => by simp, fun _ _ => by simp⟩

/-- The body of a placeholder is divided behind a plain name. -/
theorem splitFallback_append {name : List Char} (h : IsPlainName name) (fallback : List Char) :
    splitFallback (name ++ ':' :: '-' :: fallback) = (name, some fallback) := by
  induction name with
  | nil => rfl
  | cons c name ih =>
    have hopening : ∀ inner, c :: (name ++ ':' :: '-' :: fallback) ≠ '$' :: '{' :: inner :=
      (parted_delimiter (c :: name) ('-' :: fallback)).ne_opening fun _ => h.verbatim.ne_opening
    have hdelimiter : ∀ inner, c :: (name ++ ':' :: '-' :: fallback) ≠ ':' :: '-' :: inner := by
      intro inner heq
      match name with
      | [] => simp at heq
      | d :: name =>
        simp only [List.cons_append, List.cons.injEq] at heq
        obtain ⟨rfl, rfl, -⟩ := heq
        exact h.delimiter ⟨[], name, rfl⟩
    rw [List.cons_append, splitFallback_cons hdelimiter hopening, ih h.tail]

/-- A plain name is a body without fallback. -/
theorem splitFallback_of_isPlainName {name : List Char} (h : IsPlainName name) :
    splitFallback name = (name, none) := by
  induction name with
  | nil => rfl
  | cons c name ih =>
    have hdelimiter (inner : List Char) : c :: name ≠ ':' :: '-' :: inner := by
      intro heq
      exact h.delimiter ⟨[], inner, heq.symm⟩
    rw [splitFallback_cons hdelimiter fun _ => h.verbatim.ne_opening, ih h.tail]

/-- A placeholder that is written with a plain name only is read so. -/
theorem closingBrace?_name {name : List Char} (h : IsPlainName name) (after : List Char) :
    closingBrace? (name ++ '}' :: after) = some (name, after) := by
  have hparted : Parted name [] := ⟨fun _ => by simp, fun _ _ => by simp⟩
  have hbody := Balances.verbatim_append h.verbatim h.closing hparted .nil
  rw [List.append_nil] at hbody
  exact closingBraceAt?_eq_some.2 ⟨rfl, hbody⟩

/-- A placeholder that is written with a plain name and a balanced fallback is read so. -/
theorem closingBrace?_fallback {name fallback : List Char} (h : IsPlainName name)
    (hfallback : Balances 0 fallback) (after : List Char) :
    closingBrace? (name ++ ':' :: '-' :: (fallback ++ '}' :: after)) =
      some (name ++ ':' :: '-' :: fallback, after) := by
  have hdelimited : Balances 0 (':' :: '-' :: fallback) :=
    .other (by simp) (by decide) (.other (by simp) (by decide) hfallback)
  have hbody : Balances 0 (name ++ ':' :: '-' :: fallback) :=
    .verbatim_append h.verbatim h.closing (parted_delimiter name _) hdelimited
  refine closingBraceAt?_eq_some.2 ⟨?_, hbody⟩
  simp

end ExprGate.Placeholder
