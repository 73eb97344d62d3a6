import ExprGate.Placeholder.Expand
import ExprGate.Text.Search

/-!
# Templates without placeholders

A text in which `${` does not occur is read as literals only (`pieces_of_verbatim`), so it expands
to itself whatever is bound (`expand_of_verbatim`). In front of such a text, a placeholder expands
to the expansion of its value (`expandPieces_bound`).
-/

set_option autoImplicit false

namespace ExprGate.Placeholder

open Text

/-- The two characters with which a placeholder begins. -/
def opening : List Char := ['$', '{']

/-- A text in which no placeholder begins. -/
def IsVerbatim (text : List Char) : Prop :=
  occursIn opening text = false

/-- The rest of a verbatim text is verbatim. -/
theorem IsVerbatim.tail {c : Char} {rest : List Char} (h : IsVerbatim (c :: rest)) :
    IsVerbatim rest := by
  unfold IsVerbatim occursIn at h
  exact (Bool.or_eq_false_iff.1 h).2

/-- A verbatim text does not start with a placeholder. -/
theorem IsVerbatim.ne_opening {text rest : List Char} (h : IsVerbatim text) :
    text ≠ '$' :: '{' :: rest := by
  rintro rfl
  unfold IsVerbatim occursIn opening at h
  simp at h

/-- A text without dollar sign is verbatim. -/
theorem IsVerbatim.of_not_mem {text : List Char} (h : '$' ∉ text) : IsVerbatim text := by
  induction text with
  | nil => rfl
  | cons c rest ih =>
    rw [List.mem_cons, not_or] at h
    have hhead : ('$' == c) = false := by simpa using h.1
    have hrest : occursIn opening rest = false := ih h.2
    unfold IsVerbatim occursIn
    rw [hrest, opening, List.isPrefixOf, hhead]
    rfl

/-- A character that starts neither a placeholder nor an escape is read as a literal. -/
theorem pieces_cons {c : Char} {rest : List Char}
    (hopening : ∀ after, c :: rest ≠ '$' :: '{' :: after)
    (hescape : ∀ after, c :: rest ≠ '\\' :: '$' :: '{' :: after) :
    pieces (c :: rest) = .literal [c] :: pieces rest := by
  rw [pieces.eq_def]
  split
  · rename_i heq
    cases heq
  · rename_i after heq
    exact absurd heq (hescape after)
  · rename_i after heq
    exact absurd heq (hopening after)
  · rename_i heq
    cases heq
    rfl

/-- A verbatim text is read as its characters. -/
theorem pieces_of_verbatim {text : List Char} (h : IsVerbatim text) :
    pieces text = text.map fun c => .literal [c] := by
  induction text with
  | nil =>
    rw [pieces]
    rfl
  | cons c rest ih =>
    have hescape (after : List Char) : c :: rest ≠ '\\' :: '$' :: '{' :: after := by
      rintro heq
      cases heq
      exact h.tail.ne_opening rfl
    rw [pieces_cons (fun _ => h.ne_opening) hescape, ih h.tail, List.map_cons]

/-- A literal in front of other pieces stands for itself. -/
theorem expandPieces_literal {b : Bindings} {mode : Mode} {inProgress : List (List Char)}
    {ps : List Piece} {after : List Char} (text : List Char)
    (hafter : expandPieces b mode inProgress ps = .ok after) :
    expandPieces b mode inProgress (.literal text :: ps) = .ok (text ++ after) := by
  rw [expandPieces, hafter]
  rfl

/-- Literals expand to their text. -/
theorem expandPieces_literals (b : Bindings) (mode : Mode) (inProgress : List (List Char))
    (text : List Char) :
    expandPieces b mode inProgress (text.map fun c => .literal [c]) = .ok text := by
  induction text with
  | nil => rw [List.map_nil, expandPieces]
  | cons c rest ih => exact expandPieces_literal [c] ih

/-- A verbatim text expands to itself. -/
theorem expand_of_verbatim (b : Bindings) (mode : Mode) (inProgress : List (List Char))
    {text : List Char} (h : IsVerbatim text) : expand b mode inProgress text = .ok text := by
  unfold expand
  rw [pieces_of_verbatim h, expandPieces_literals]

/-- What a placeholder expands to: its name comes up in its own replacement, or it has a value or
a fallback to expand, or it is missing. -/
theorem expandPieces_placeholder (b : Bindings) (mode : Mode) (inProgress : List (List Char))
    (p : Placeholder) (ps : List Piece) :
    expandPieces b mode inProgress (.placeholder p :: ps) =
      if p.name ∈ inProgress then .error (.cyclic (inProgress ++ [p.name]))
      else
        match (b.value? p.name).or p.fallback? with
        | some text => do
          let replaced ← expand b mode (inProgress ++ [p.name]) text
          let after ← expandPieces b mode inProgress ps
          .ok (replaced ++ after)
        | none =>
          match mode with
          | .strict => .error (.undefined p.name)
          | .lenient => (expandPieces b mode inProgress ps).map (p.text ++ ·) := by
  rw [expandPieces.eq_def]
  dsimp only
  by_cases hname : p.name ∈ inProgress
  · rw [dif_pos hname, if_pos hname]
  · rw [dif_neg hname, if_neg hname]
    split
    · rename_i value hvalue
      rw [hvalue, Option.some_or]
      rfl
    · rename_i fallback hvalue hfallback
      rw [hvalue, hfallback, Option.none_or]
      rfl
    · rename_i hvalue hfallback
      rw [hvalue, hfallback, Option.none_or]
      cases mode with
      | strict => rfl
      | lenient => cases expandPieces b .lenient inProgress ps <;> rfl

/-- A placeholder with a value or a fallback expands to the expansion of this text. -/
theorem expandPieces_text {b : Bindings} {mode : Mode} {inProgress : List (List Char)}
    {p : Placeholder} {ps : List Piece} {text replaced after : List Char}
    (hname : p.name ∉ inProgress) (htext : (b.value? p.name).or p.fallback? = some text)
    (hreplaced : expand b mode (inProgress ++ [p.name]) text = .ok replaced)
    (hafter : expandPieces b mode inProgress ps = .ok after) :
    expandPieces b mode inProgress (.placeholder p :: ps) = .ok (replaced ++ after) := by
  rw [expandPieces_placeholder, if_neg hname, htext]
  dsimp only
  rw [hreplaced, hafter]
  rfl

/-- A placeholder whose name has a value expands to the expansion of the value. -/
theorem expandPieces_bound {b : Bindings} {mode : Mode} {inProgress : List (List Char)}
    {p : Placeholder} {ps : List Piece} {value replaced after : List Char}
    (hname : p.name ∉ inProgress) (hvalue : b.value? p.name = some value)
    (hreplaced : expand b mode (inProgress ++ [p.name]) value = .ok replaced)
    (hafter : expandPieces b mode inProgress ps = .ok after) :
    expandPieces b mode inProgress (.placeholder p :: ps) = .ok (replaced ++ after) :=
  expandPieces_text hname (by rw [hvalue, Option.some_or]) hreplaced hafter

/-- A placeholder whose name has no value expands to the expansion of its fallback. -/
theorem expandPieces_fallback {b : Bindings} {mode : Mode} {inProgress : List (List Char)}
    {p : Placeholder} {ps : List Piece} {fallback replaced after : List Char}
    (hname : p.name ∉ inProgress) (hvalue : b.value? p.name = none)
    (hfallback : p.fallback? = some fallback)
    (hreplaced : expand b mode (inProgress ++ [p.name]) fallback = .ok replaced)
    (hafter : expandPieces b mode inProgress ps = .ok after) :
    expandPieces b mode inProgress (.placeholder p :: ps) = .ok (replaced ++ after) :=
  expandPieces_text hname (by rw [hvalue, hfallback, Option.none_or]) hreplaced hafter

/-- A placeholder that is left open is literal, with all that follows it. -/
theorem pieces_unclosed {rest : List Char} (h : closingBrace? rest = none) :
    pieces ('$' :: '{' :: rest) = [.literal ('$' :: '{' :: rest)] := by
  rw [pieces]
  split
  · rfl
  · rename_i hsome
    rw [h] at hsome
    cases hsome

/-- A placeholder is read up to its closing brace. -/
theorem pieces_opening {rest body after : List Char} (h : closingBrace? rest = some (body, after)) :
    pieces ('$' :: '{' :: rest) = .placeholder ⟨body⟩ :: pieces after := by
  rw [pieces]
  split
  · rename_i hnone
    rw [h] at hnone
    cases hnone
  · rename_i hsome
    rw [h] at hsome
    cases hsome
    rfl

end ExprGate.Placeholder
