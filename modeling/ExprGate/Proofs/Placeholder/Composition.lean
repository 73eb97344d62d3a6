import ExprGate.Proofs.Placeholder.Lookup

/-!
# Expansion part by part

Two texts one behind the other expand one after the other, if the first one closes every placeholder
that the scan meets in it (`Lookup.Meets`) and no token lies across the seam (`Parted`).

So what stands for itself is copied wherever it stands, and a placeholder contributes what its value,
its fallback or the placeholder itself comes to, whatever surrounds it (`expand_composes`).
-/

set_option autoImplicit false

namespace ExprGate.Placeholder

/-! ## What the scan meets -/

namespace Lookup

/-- The scan of a text meets an unescaped `${`, with a text behind it. It goes past a placeholder
if this can be replaced. -/
inductive Meets (l : Lookup) (mode : Mode) (inProgress : List (List Char)) :
    List Char → List Char → Prop where
  | here (rest : List Char) : Meets l mode inProgress ('$' :: '{' :: rest) rest
  | escape {rest inner : List Char} (h : Meets l mode inProgress rest inner) :
    Meets l mode inProgress ('\\' :: '$' :: '{' :: rest) inner
  | char {c : Char} {rest inner : List Char} (hopening : ∀ after, c :: rest ≠ '$' :: '{' :: after)
    (hescape : ∀ after, c :: rest ≠ '\\' :: '$' :: '{' :: after)
    (h : Meets l mode inProgress rest inner) : Meets l mode inProgress (c :: rest) inner
  | behind {p : Placeholder} {rest after inner out : List Char}
    (hbody : closingBrace? rest = some (p.body, after))
    (hreplaced : l.replacement mode inProgress p = some (.ok out))
    (h : Meets l mode inProgress after inner) : Meets l mode inProgress ('$' :: '{' :: rest) inner

variable {l : Lookup} {mode : Mode} {inProgress : List (List Char)}

/-- Two texts one behind the other expand one after the other. -/
theorem expand_append_of_parted {s t : List Char}
    (hclosed : ∀ inner, l.Meets mode inProgress s inner → closingBrace? inner ≠ none)
    (h : Parted s t) :
    l.expand mode inProgress (s ++ t) =
      l.expand mode inProgress s ++ l.expand mode inProgress t := by
  fun_induction pieces s with
  | case1 => rw [List.nil_append, expand_nil, Outcome.nil_append]
  | case2 rest ih =>
    have hrest := ih (fun inner hmeets => hclosed inner hmeets.escape) h.tail.tail.tail
    simp only [List.cons_append]
    rw [expand_escape, expand_escape, hrest, Outcome.append_assoc]
  | case3 rest hnone => exact absurd hnone (hclosed rest (.here rest))
  | case4 rest body after hbody _ ih =>
    simp only [List.cons_append]
    let p : Placeholder := ⟨body⟩
    have hlonger : closingBrace? (rest ++ t) = some (p.body, after ++ t) :=
      closingBrace?_append hbody t
    rw [expand_placeholder (p := p) hbody, expand_placeholder hlonger]
    -- behind a placeholder that cannot be replaced nothing is met, and nothing counts
    cases hreplaced : l.replacement mode inProgress p with
    | none => rfl
    | some replaced =>
      cases replaced with
      | error cause => rfl
      | ok out =>
        have hafter : Parted after t := by
          rw [closingBrace?_eq_append hbody] at h
          exact Parted.of_append ('$' :: '{' :: (body ++ ['}'])) (by simpa using h)
        have hrest := ih (fun inner hmeets => hclosed inner (.behind hbody hreplaced hmeets)) hafter
        rw [hrest, Outcome.append_assoc]
  | case5 c rest hescape hopening ih =>
    have hopening' : ∀ inner, c :: rest ≠ '$' :: '{' :: inner := by simpa using hopening
    have hescape' : ∀ inner, c :: rest ≠ '\\' :: '$' :: '{' :: inner := by simpa using hescape
    have hrest := ih (fun inner hmeets => hclosed inner (.char hopening' hescape' hmeets)) h.tail
    rw [List.cons_append, expand_char (h.ne_opening hopening') (h.ne_escape hescape'),
      expand_char hopening' hescape', hrest, Outcome.append_assoc]

/-! ## Texts without placeholders -/

/-- In a verbatim text the scan meets nothing. -/
theorem not_meets_of_verbatim {s inner : List Char} (h : IsVerbatim s) :
    ¬ l.Meets mode inProgress s inner := by
  intro hmeets
  induction hmeets with
  | here rest => exact h.ne_opening rfl
  | escape _ _ => exact h.tail.ne_opening rfl
  | char _ _ _ ih => exact ih h.tail
  | behind _ _ _ _ => exact h.ne_opening rfl

/-- A verbatim text comes to itself. -/
theorem expand_of_isVerbatim {s : List Char} (h : IsVerbatim s) :
    l.expand mode inProgress s = some (.ok s) := by
  induction s with
  | nil => exact expand_nil
  | cons c rest ih =>
    have hescape (after : List Char) : c :: rest ≠ '\\' :: '$' :: '{' :: after := by
      intro heq
      obtain ⟨-, rfl⟩ := List.cons.inj heq
      exact h.tail.ne_opening rfl
    rw [expand_char (fun _ => h.ne_opening) hescape, ih h.tail, Outcome.ok_append_ok]
    rfl

/-- A verbatim text is copied in front of a placeholder, if it does not escape it. -/
theorem expand_verbatim_append {s rest : List Char} (h : IsVerbatim s)
    (hescape : s.getLast? ≠ some '\\') :
    l.expand mode inProgress (s ++ '$' :: '{' :: rest) =
      some (.ok s) ++ l.expand mode inProgress ('$' :: '{' :: rest) := by
  have hparted : Parted s ('$' :: '{' :: rest) := by
    refine ⟨fun _ => by simp, fun hlast => absurd hlast hescape⟩
  rw [expand_append_of_parted (fun inner hmeets => absurd hmeets (not_meets_of_verbatim h)) hparted,
    expand_of_isVerbatim h]

/-! ## The law of composition -/

/-- Expansion goes part by part. In all fields `++` stops at the first part that is an error. -/
structure Composes (l : Lookup) (mode : Mode) : Prop where
  /-- A text that closes what the scan meets in it, in front of any text. -/
  append : ∀ inProgress s t,
    (∀ inner, l.Meets mode inProgress s inner → closingBrace? inner ≠ none) →
    s.getLast? ≠ some '$' → s.getLast? ≠ some '\\' →
    l.expand mode inProgress (s ++ t) =
      l.expand mode inProgress s ++ l.expand mode inProgress t
  /-- A text without `${` at the end. -/
  verbatim : ∀ inProgress s, IsVerbatim s → l.expand mode inProgress s = some (.ok s)
  /-- A text without `${` in front of a placeholder, also if it ends with a dollar sign. -/
  before : ∀ inProgress s rest, IsVerbatim s → s.getLast? ≠ some '\\' →
    l.expand mode inProgress (s ++ '$' :: '{' :: rest) =
      some (.ok s) ++ l.expand mode inProgress ('$' :: '{' :: rest)
  /-- A placeholder whose name has a value. -/
  value : ∀ inProgress (p : Placeholder) rest after value,
    closingBrace? rest = some (p.body, after) → p.name ∉ inProgress →
    l.value? p.name = some value →
    l.expand mode inProgress ('$' :: '{' :: rest) =
      l.expand mode (inProgress ++ [p.name]) value ++ l.expand mode inProgress after
  /-- A placeholder whose name has no value, with a fallback. -/
  fallback : ∀ inProgress (p : Placeholder) rest after fallback,
    closingBrace? rest = some (p.body, after) → p.name ∉ inProgress →
    l.value? p.name = none → p.fallback? = some fallback →
    l.expand mode inProgress ('$' :: '{' :: rest) =
      l.expand mode (inProgress ++ [p.name]) fallback ++ l.expand mode inProgress after
  /-- A placeholder with neither, where that is no error. -/
  kept : mode = .lenient → ∀ inProgress (p : Placeholder) rest after,
    closingBrace? rest = some (p.body, after) → p.name ∉ inProgress →
    l.value? p.name = none → p.fallback? = none →
    l.expand mode inProgress ('$' :: '{' :: rest) =
      some (.ok p.text) ++ l.expand mode inProgress after

/-- Under every lookup, expansion goes part by part. -/
theorem expand_composes (l : Lookup) (mode : Mode) : l.Composes mode := by
  refine ⟨?append, ?verbatim, ?before, ?value, ?fallback, ?kept⟩
  case append =>
    intro inProgress s t hclosed hdollar hescape
    have hparted : Parted s t :=
      ⟨fun hlast => absurd hlast hdollar, fun hlast => absurd hlast hescape⟩
    exact expand_append_of_parted hclosed hparted
  case verbatim =>
    intro inProgress s hs
    exact expand_of_isVerbatim hs
  case before =>
    intro inProgress s rest hs hescape
    exact expand_verbatim_append hs hescape
  case value =>
    intro inProgress p rest after value hbody hname hvalue
    have htext := text?_of_value hvalue
    rw [expand_placeholder hbody, replacement_of_text hname htext]
  case fallback =>
    intro inProgress p rest after fallback hbody hname hvalue hfallback
    have htext := (text?_of_no_value hvalue).trans hfallback
    rw [expand_placeholder hbody, replacement_of_text hname htext]
  case kept =>
    rintro rfl inProgress p rest after hbody hname hvalue hfallback
    have htext := (text?_of_no_value hvalue).trans hfallback
    rw [expand_placeholder hbody, replacement_lenient hname htext]

end Lookup

end ExprGate.Placeholder
