/-!
# Placeholders of a template

A template is text with placeholders: `${name}`, or `${name:-fallback}` where the fallback may
hold further placeholders. A backslash directly before `${` makes these two characters literal.
`pieces` reads a template from left to right into literals and placeholders. Whether a piece can
be expanded plays no part in the reading, so the pieces of a template are a function of its text.

The measure `weight` of a list of pieces is what the expansion of a template descends on:
reading never gives pieces that weigh more than the text (`weight_pieces_le`), and a fallback is
lighter than its placeholder (`length_fallback_lt`).
-/

set_option autoImplicit false

namespace ExprGate.Placeholder

/-- Auxiliary to `closingBrace?`: `depth` placeholders are open inside the body. -/
def closingBraceAt? : Nat → List Char → Option (List Char × List Char)
  | _, [] => none
  | depth, '$' :: '{' :: rest =>
    (closingBraceAt? (depth + 1) rest).map fun (body, after) => ('$' :: '{' :: body, after)
  | 0, '}' :: rest => some ([], rest)
  | depth + 1, '}' :: rest =>
    (closingBraceAt? depth rest).map fun (body, after) => ('}' :: body, after)
  | depth, c :: rest =>
    (closingBraceAt? depth rest).map fun (body, after) => (c :: body, after)

/-- Divides the text behind `${` at the brace that closes this placeholder: the first `}` before
which as many `}` as `${` have been met. There is none in an unterminated placeholder. -/
def closingBrace? (text : List Char) : Option (List Char × List Char) :=
  closingBraceAt? 0 text

/-- Divides a placeholder's body at the first `:-`, unless a nested `${` comes before it. -/
def splitFallback : List Char → List Char × Option (List Char)
  | [] => ([], none)
  | ':' :: '-' :: fallback => ([], some fallback)
  | '$' :: '{' :: rest => ('$' :: '{' :: rest, none)
  | c :: rest =>
    let (name, fallback) := splitFallback rest
    (c :: name, fallback)

end ExprGate.Placeholder

namespace ExprGate

/-- A placeholder as it stands in a template. -/
structure Placeholder where
  /-- The text between the braces. -/
  body : List Char
deriving DecidableEq, Repr

end ExprGate

namespace ExprGate.Placeholder

/-- The name whose value replaces the placeholder. -/
def name (p : Placeholder) : List Char :=
  (splitFallback p.body).1

/-- The text that stands in for a missing value. -/
def fallback? (p : Placeholder) : Option (List Char) :=
  (splitFallback p.body).2

/-- The placeholder as it is written. -/
def text (p : Placeholder) : List Char :=
  '$' :: '{' :: (p.body ++ ['}'])

/-- A part of a template: text that stands for itself, or a placeholder. -/
inductive Piece where
  | literal (text : List Char)
  | placeholder (p : Placeholder)
deriving DecidableEq, Repr

/-- Body, brace and rest make up the text, however many placeholders are open in front of it. -/
theorem length_of_closingBraceAt? {depth : Nat} {text body after : List Char}
    (h : closingBraceAt? depth text = some (body, after)) :
    text.length = body.length + after.length + 1 := by
  fun_induction closingBraceAt? depth text generalizing body after with
  | case1 => simp at h
  | case2 depth rest ih =>
    obtain ⟨⟨b, a⟩, hb, he⟩ := Option.map_eq_some_iff.1 h
    simp only [Prod.mk.injEq] at he
    obtain ⟨rfl, rfl⟩ := he
    simp [ih hb]
    omega
  | case3 rest =>
    simp only [Option.some.injEq, Prod.mk.injEq] at h
    obtain ⟨rfl, rfl⟩ := h
    simp
  | case4 depth rest ih =>
    obtain ⟨⟨b, a⟩, hb, he⟩ := Option.map_eq_some_iff.1 h
    simp only [Prod.mk.injEq] at he
    obtain ⟨rfl, rfl⟩ := he
    simp [ih hb]
    omega
  | case5 depth c rest _ _ _ ih =>
    obtain ⟨⟨b, a⟩, hb, he⟩ := Option.map_eq_some_iff.1 h
    simp only [Prod.mk.injEq] at he
    obtain ⟨rfl, rfl⟩ := he
    simp [ih hb]
    omega

/-- Body, brace and rest make up the text. -/
theorem length_of_closingBrace? {text body after : List Char}
    (h : closingBrace? text = some (body, after)) :
    text.length = body.length + after.length + 1 :=
  length_of_closingBraceAt? h

/-- The pieces of a template, from left to right. An unterminated placeholder is literal, with
all that follows it. -/
def pieces : List Char → List Piece
  | [] => []
  | '\\' :: '$' :: '{' :: rest => .literal ['$', '{'] :: pieces rest
  | '$' :: '{' :: rest =>
    match h : closingBrace? rest with
    | none => [.literal ('$' :: '{' :: rest)]
    | some (body, after) =>
      have := length_of_closingBrace? h
      .placeholder ⟨body⟩ :: pieces after
  | c :: rest => .literal [c] :: pieces rest
termination_by text => text.length

/-- How much of a template a piece can account for. -/
def Piece.weight : Piece → Nat
  | .literal _ => 1
  | .placeholder p => p.text.length

/-- The weight of a list of pieces. -/
def weight : List Piece → Nat
  | [] => 0
  | p :: ps => p.weight + weight ps

/-- No piece is without weight. -/
theorem Piece.weight_pos (p : Piece) : 0 < p.weight := by
  cases p <;> simp [Piece.weight, Placeholder.text]

/-- The weight of a list is that of its first piece and of the others. -/
@[simp]
theorem weight_cons (p : Piece) (ps : List Piece) : weight (p :: ps) = p.weight + weight ps :=
  rfl

/-- A list of pieces is lighter without its first piece. -/
theorem weight_lt_cons (p : Piece) (ps : List Piece) : weight ps < weight (p :: ps) := by
  have := p.weight_pos
  simp
  omega

/-- The pieces of a template weigh no more than the template is long. -/
theorem weight_pieces_le (text : List Char) : weight (pieces text) ≤ text.length := by
  fun_induction pieces text with
  | case1 => simp [weight]
  | case2 rest ih => simp [Piece.weight]; omega
  | case3 rest h => simp [weight, Piece.weight]
  | case4 rest body after h this ih =>
    have := length_of_closingBrace? h
    simp [Piece.weight, Placeholder.text]
    omega
  | case5 c rest _ _ ih => simp [Piece.weight]; omega

/-- A body with a fallback is as long as its two parts and the `:-` between them. -/
theorem length_of_splitFallback {body name fallback : List Char}
    (h : splitFallback body = (name, some fallback)) :
    body.length = name.length + fallback.length + 2 := by
  fun_induction splitFallback body generalizing name fallback with
  | case1 => simp at h
  | case2 f =>
    simp only [Prod.mk.injEq, Option.some.injEq] at h
    obtain ⟨rfl, rfl⟩ := h
    simp
  | case3 => simp at h
  | case4 c rest _ _ n f hs ih =>
    simp only [Prod.mk.injEq] at h
    obtain ⟨rfl, rfl⟩ := h
    simp [ih hs]
    omega

/-- A fallback is a proper part of its placeholder. -/
theorem length_fallback_lt {p : Placeholder} {fallback : List Char}
    (h : p.fallback? = some fallback) : fallback.length < p.text.length := by
  have hs : splitFallback p.body = ((splitFallback p.body).1, some fallback) := by
    rw [← h]
    rfl
  have := length_of_splitFallback hs
  simp [Placeholder.text]
  omega

end ExprGate.Placeholder
