import ExprGate.Proofs.Placeholder.Lookup

/-!
# Expansion by rules

`Lookup.Expands` gives the text or the error that an expansion ends with, by one rule for each thing
that can stand in front of a text. An expansion that ends has a derivation of finite depth, and what
is derived is its outcome (`expand_eq_some_iff`). So there is an induction over expansions that end,
also for a lookup under which others go on for ever.
-/

set_option autoImplicit false

namespace ExprGate.Placeholder

namespace Lookup

/-- What the expansion of a text ends with. -/
inductive Expands (l : Lookup) (mode : Mode) :
    List (List Char) → List Char → Except Cause (List Char) → Prop where
  | nil {inProgress : List (List Char)} : Expands l mode inProgress [] (.ok [])
  | escape {inProgress : List (List Char)} {rest : List Char} {result : Except Cause (List Char)}
    (h : Expands l mode inProgress rest result) :
    Expands l mode inProgress ('\\' :: '$' :: '{' :: rest) (result.map (['$', '{'] ++ ·))
  | char {inProgress : List (List Char)} {c : Char} {rest : List Char}
    {result : Except Cause (List Char)} (hopening : ∀ inner, c :: rest ≠ '$' :: '{' :: inner)
    (hescape : ∀ inner, c :: rest ≠ '\\' :: '$' :: '{' :: inner)
    (h : Expands l mode inProgress rest result) :
    Expands l mode inProgress (c :: rest) (result.map ([c] ++ ·))
  | unclosed {inProgress : List (List Char)} {rest : List Char} (h : closingBrace? rest = none) :
    Expands l mode inProgress ('$' :: '{' :: rest) (.ok ('$' :: '{' :: rest))
  | cyclic {inProgress : List (List Char)} {p : Placeholder} {rest after : List Char}
    (hbody : closingBrace? rest = some (p.body, after)) (hname : p.name ∈ inProgress) :
    Expands l mode inProgress ('$' :: '{' :: rest) (.error (.cyclic (inProgress ++ [p.name])))
  | undefined {inProgress : List (List Char)} {p : Placeholder} {rest after : List Char}
    (hbody : closingBrace? rest = some (p.body, after)) (hname : p.name ∉ inProgress)
    (htext : l.text? p = none) (hmode : mode = .strict) :
    Expands l mode inProgress ('$' :: '{' :: rest) (.error (.undefined p.name))
  | kept {inProgress : List (List Char)} {p : Placeholder} {rest after : List Char}
    {result : Except Cause (List Char)} (hbody : closingBrace? rest = some (p.body, after))
    (hname : p.name ∉ inProgress) (htext : l.text? p = none) (hmode : mode = .lenient)
    (hafter : Expands l mode inProgress after result) :
    Expands l mode inProgress ('$' :: '{' :: rest) (result.map (p.text ++ ·))
  | failed {inProgress : List (List Char)} {p : Placeholder} {rest after text : List Char}
    {cause : Cause} (hbody : closingBrace? rest = some (p.body, after))
    (hname : p.name ∉ inProgress) (htext : l.text? p = some text)
    (h : Expands l mode (inProgress ++ [p.name]) text (.error cause)) :
    Expands l mode inProgress ('$' :: '{' :: rest) (.error cause)
  | replaced {inProgress : List (List Char)} {p : Placeholder} {rest after text out : List Char}
    {result : Except Cause (List Char)} (hbody : closingBrace? rest = some (p.body, after))
    (hname : p.name ∉ inProgress) (htext : l.text? p = some text)
    (h : Expands l mode (inProgress ++ [p.name]) text (.ok out))
    (hafter : Expands l mode inProgress after result) :
    Expands l mode inProgress ('$' :: '{' :: rest) (result.map (out ++ ·))

variable {l : Lookup} {mode : Mode} {inProgress : List (List Char)}

/-- What is derived is what the expansion ends with. -/
theorem Expands.expand_eq {text : List Char} {result : Except Cause (List Char)}
    (h : l.Expands mode inProgress text result) :
    l.expand mode inProgress text = some result := by
  induction h with
  | nil => exact expand_nil
  | escape _ ih => rw [expand_escape, ih, Outcome.ok_append, Option.map_some]
  | char hopening hescape _ ih =>
    rw [expand_char hopening hescape, ih, Outcome.ok_append, Option.map_some]
  | unclosed hnone => exact expand_unclosed hnone
  | cyclic hbody hname =>
    rw [expand_placeholder hbody, replacement_of_mem hname, Outcome.error_append]
  | undefined hbody hname htext hmode =>
    obtain rfl := hmode
    rw [expand_placeholder hbody, replacement_strict hname htext, Outcome.error_append]
  | kept hbody hname htext hmode _ ih =>
    obtain rfl := hmode
    rw [expand_placeholder hbody, replacement_lenient hname htext, ih, Outcome.ok_append,
      Option.map_some]
  | failed hbody hname htext _ ih =>
    rw [expand_placeholder hbody, replacement_of_text hname htext, ih, Outcome.error_append]
  | replaced hbody hname htext _ _ ih ihafter =>
    rw [expand_placeholder hbody, replacement_of_text hname htext, ih, ihafter, Outcome.ok_append,
      Option.map_some]

/-- A text that is read as a literal first is derived from what is read behind it. -/
theorem Expands.of_literal {text literal : List Char} {ps : List Piece}
    {result : Except Cause (List Char)} (hpieces : pieces text = .literal literal :: ps)
    (hafter : ∀ rest, pieces rest = ps → l.Expands mode inProgress rest result) :
    l.Expands mode inProgress text (result.map (literal ++ ·)) := by
  obtain ⟨rest, rfl, rfl, rfl⟩ | ⟨rest, rfl, hnone, rfl, rfl⟩ |
    ⟨c, rest, rfl, hopening, hescape, rfl, rfl⟩ := literal_of_pieces hpieces
  · exact .escape (hafter rest rfl)
  · -- nothing is left to read behind a placeholder that is left open
    have hend := hafter [] (by rw [pieces])
    cases hend with
    | nil =>
      have hout : (Except.ok [] : Except Cause (List Char)).map ('$' :: '{' :: rest ++ ·) =
          .ok ('$' :: '{' :: rest) := by simp [Except.map]
      rw [hout]
      exact .unclosed hnone
  · exact .char hopening hescape (hafter rest rfl)

/-- What the pieces of a text expand to can be derived, if their expansion ends. -/
theorem expands_of_expandPieces {ps : List Piece} {result : Except Cause (List Char)}
    (h : l.expandPieces mode inProgress ps = some result) {text : List Char}
    (hpieces : pieces text = ps) : l.Expands mode inProgress text result := by
  -- the induction is on the depth of the recursion, so each recursive call may be assumed derived
  refine expandPieces.partial_correctness l mode
    (fun inProgress ps result => ∀ text, pieces text = ps → l.Expands mode inProgress text result)
    ?_ inProgress ps result h text hpieces
  intro call ih inProgress ps result hresult text hpieces
  cases ps with
  | nil =>
    obtain rfl := Option.some.inj hresult
    obtain rfl := eq_nil_of_pieces hpieces
    exact .nil
  | cons piece ps =>
    cases piece with
    | literal literal =>
      obtain ⟨after, hafter, heq⟩ := Option.bind_eq_some_iff.1 hresult
      obtain rfl := Option.some.inj heq
      exact Expands.of_literal hpieces (ih _ _ _ hafter)
    | placeholder p =>
      obtain ⟨rest, behind, rfl, hbody, rfl⟩ := placeholder_of_pieces hpieces
      dsimp only at hresult
      by_cases hname : p.name ∈ inProgress
      · rw [if_pos (List.contains_iff_mem.2 hname)] at hresult
        obtain rfl := Option.some.inj hresult
        exact .cyclic hbody hname
      rw [if_neg (mt List.contains_iff_mem.1 hname)] at hresult
      cases htext : l.text? p with
      | some text =>
        rw [htext] at hresult
        obtain ⟨first, hfirst, hrest⟩ := Option.bind_eq_some_iff.1 hresult
        have hreplaced := ih _ _ _ hfirst text rfl
        cases first with
        | error cause =>
          obtain rfl := Option.some.inj hrest
          exact .failed hbody hname htext hreplaced
        | ok out =>
          obtain ⟨after, hafter, heq⟩ := Option.bind_eq_some_iff.1 hrest
          obtain rfl := Option.some.inj heq
          exact .replaced hbody hname htext hreplaced (ih _ _ _ hafter behind rfl)
      | none =>
        rw [htext] at hresult
        cases mode with
        | strict =>
          obtain rfl := Option.some.inj hresult
          exact .undefined hbody hname htext rfl
        | lenient =>
          obtain ⟨after, hafter, heq⟩ := Option.bind_eq_some_iff.1 hresult
          obtain rfl := Option.some.inj heq
          exact .kept hbody hname htext rfl (ih _ _ _ hafter behind rfl)

/-- An expansion ends with what can be derived, and goes on for ever if nothing can. -/
theorem expand_eq_some_iff {text : List Char} {result : Except Cause (List Char)} :
    l.expand mode inProgress text = some result ↔ l.Expands mode inProgress text result :=
  ⟨fun h => expands_of_expandPieces h rfl, Expands.expand_eq⟩

end Lookup

end ExprGate.Placeholder
