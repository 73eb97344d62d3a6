import ExprGate.Placeholder.Lookup
import ExprGate.Proofs.Placeholder.Spelling
import Mathlib.Data.List.Basic
import Mathlib.Data.Set.Finite.Basic

/-!
# Expansion, one step of the text at a time

A template expands step by step: an escape, a character or a placeholder in front, and behind it the
rest (`expand_escape`, `expand_char`, `expand_placeholder`). Outcomes are put together by `++`, which
stops at the first text that is an error or does not end.

On a lookup that has finitely many values this is the expansion under bindings: such a lookup is that
of some bindings (`Lookup.IsFinite.exists_bindings`), and under these both expansions agree
(`expand_lookup`), so the one always has an outcome.
-/

set_option autoImplicit false

namespace ExprGate.Placeholder

/-! ## Outcomes one behind the other -/

namespace Outcome

/-- Behind an error nothing counts. -/
@[simp]
theorem error_append (cause : Cause) (second : Outcome) :
    some (.error cause) ++ second = some (.error cause) :=
  rfl

/-- Two texts are put one behind the other. -/
@[simp]
theorem ok_append_ok (text after : List Char) :
    (some (.ok text) ++ some (.ok after) : Outcome) = some (.ok (text ++ after)) :=
  rfl

/-- An error behind a text is the outcome of both. -/
@[simp]
theorem ok_append_error (text : List Char) (cause : Cause) :
    (some (.ok text) ++ some (.error cause) : Outcome) = some (.error cause) :=
  rfl

/-- A text in front of an outcome is put in front of its text. -/
theorem ok_append (text : List Char) (second : Outcome) :
    some (.ok text) ++ second = second.map (·.map (text ++ ·)) :=
  rfl

/-- The empty text in front changes no outcome. -/
@[simp]
theorem nil_append (outcome : Outcome) : some (.ok []) ++ outcome = outcome := by
  match outcome with
  | none => rfl
  | some (.error cause) => rfl
  | some (.ok text) => rfl

/-- The empty text behind changes no outcome. -/
theorem append_nil (outcome : Outcome) : outcome ++ some (.ok []) = outcome := by
  match outcome with
  | none => rfl
  | some (.error cause) => rfl
  | some (.ok text) => simp

/-- Outcomes one behind the other need no parentheses. -/
theorem append_assoc (first second third : Outcome) :
    first ++ second ++ third = first ++ (second ++ third) := by
  match first, second, third with
  | none, _, _ => rfl
  | some (.error cause), _, _ => rfl
  | some (.ok text), none, _ => rfl
  | some (.ok text), some (.error cause), _ => rfl
  | some (.ok text), some (.ok after), none => rfl
  | some (.ok text), some (.ok after), some (.error cause) => rfl
  | some (.ok text), some (.ok after), some (.ok last) => simp

end Outcome

namespace Lookup

variable {l : Lookup} {mode : Mode} {inProgress : List (List Char)}

/-! ## Steps of an expansion -/

/-- No pieces come to the empty text. -/
theorem expandPieces_nil : l.expandPieces mode inProgress [] = some (.ok []) := by
  rw [expandPieces]

/-- A literal piece stands in front of what the others come to. -/
theorem expandPieces_literal (text : List Char) (ps : List Piece) :
    l.expandPieces mode inProgress (.literal text :: ps) =
      some (.ok text) ++ l.expandPieces mode inProgress ps := by
  rw [expandPieces, Outcome.ok_append]
  cases l.expandPieces mode inProgress ps <;> rfl

/-- The replacement of a placeholder stands in front of what the other pieces come to. -/
theorem expandPieces_placeholder (p : Placeholder) (ps : List Piece) :
    l.expandPieces mode inProgress (.placeholder p :: ps) =
      l.replacement mode inProgress p ++ l.expandPieces mode inProgress ps := by
  rw [expandPieces.eq_def, replacement.eq_def]
  dsimp only
  by_cases hname : inProgress.contains p.name
  · rw [if_pos hname, if_pos hname, Outcome.error_append]
  rw [if_neg hname, if_neg hname]
  cases l.text? p with
  | some text =>
    have hexpand : l.expand mode (inProgress ++ [p.name]) text =
        l.expandPieces mode (inProgress ++ [p.name]) (pieces text) := rfl
    dsimp only
    rw [hexpand]
    match l.expandPieces mode (inProgress ++ [p.name]) (pieces text) with
    | none => rfl
    | some (.error cause) => rfl
    | some (.ok replaced) => cases l.expandPieces mode inProgress ps <;> rfl
  | none =>
    cases mode with
    | strict => rfl
    | lenient => cases l.expandPieces .lenient inProgress ps <;> rfl

/-- The empty template comes to the empty text. -/
@[simp]
theorem expand_nil : l.expand mode inProgress [] = some (.ok []) := by
  rw [expand, pieces, expandPieces_nil]

/-- An escaped opening comes to the opening. -/
theorem expand_escape (rest : List Char) :
    l.expand mode inProgress ('\\' :: '$' :: '{' :: rest) =
      some (.ok ['$', '{']) ++ l.expand mode inProgress rest := by
  rw [expand, pieces, expandPieces_literal]
  rfl

/-- A character that starts no token comes to itself. -/
theorem expand_char {c : Char} {rest : List Char}
    (hopening : ∀ after, c :: rest ≠ '$' :: '{' :: after)
    (hescape : ∀ after, c :: rest ≠ '\\' :: '$' :: '{' :: after) :
    l.expand mode inProgress (c :: rest) = some (.ok [c]) ++ l.expand mode inProgress rest := by
  rw [expand, pieces_cons hopening hescape, expandPieces_literal]
  rfl

/-- A placeholder that is not closed comes to itself, with all that follows it. -/
theorem expand_unclosed {rest : List Char} (h : closingBrace? rest = none) :
    l.expand mode inProgress ('$' :: '{' :: rest) = some (.ok ('$' :: '{' :: rest)) := by
  rw [expand, pieces_unclosed h, expandPieces_literal, expandPieces_nil, Outcome.append_nil]

/-- A placeholder in front of a template comes to its replacement. -/
theorem expand_placeholder {p : Placeholder} {rest after : List Char}
    (h : closingBrace? rest = some (p.body, after)) :
    l.expand mode inProgress ('$' :: '{' :: rest) =
      l.replacement mode inProgress p ++ l.expand mode inProgress after := by
  rw [expand, pieces_opening h, expandPieces_placeholder]
  rfl

/-- A placeholder whose name is in progress has a cyclic error for its replacement. -/
theorem replacement_of_mem {p : Placeholder} (h : p.name ∈ inProgress) :
    l.replacement mode inProgress p = some (.error (.cyclic (inProgress ++ [p.name]))) := by
  simp [replacement, h]

/-- A value or fallback replaces a placeholder by what it comes to, with the name in progress. -/
theorem replacement_of_text {p : Placeholder} {text : List Char} (hname : p.name ∉ inProgress)
    (htext : l.text? p = some text) :
    l.replacement mode inProgress p = l.expand mode (inProgress ++ [p.name]) text := by
  simp [replacement, hname, htext]

/-- In the strict mode a placeholder without value and fallback is undefined. -/
theorem replacement_strict {p : Placeholder} (hname : p.name ∉ inProgress)
    (htext : l.text? p = none) :
    l.replacement .strict inProgress p = some (.error (.undefined p.name)) := by
  simp [replacement, hname, htext]

/-- In the lenient mode a placeholder without value and fallback stays as it is written. -/
theorem replacement_lenient {p : Placeholder} (hname : p.name ∉ inProgress)
    (htext : l.text? p = none) : l.replacement .lenient inProgress p = some (.ok p.text) := by
  simp [replacement, hname, htext]

/-- The value of its name stands in for a placeholder. -/
theorem text?_of_value {p : Placeholder} {value : List Char} (h : l.value? p.name = some value) :
    l.text? p = some value := by
  rw [text?, h, Option.some_or]

/-- Where the name has no value, the fallback stands in for a placeholder. -/
theorem text?_of_no_value {p : Placeholder} (h : l.value? p.name = none) :
    l.text? p = p.fallback? := by
  rw [text?, h, Option.none_or]

end Lookup

/-! ## Finitely many values -/

/-- Under bindings the expansion has an outcome, and it is the one that the bindings give. -/
theorem expandPieces_lookup (b : Bindings) (mode : Mode) (inProgress : List (List Char))
    (ps : List Piece) :
    b.lookup.expandPieces mode inProgress ps = some (expandPieces b mode inProgress ps) := by
  fun_induction expandPieces b mode inProgress ps with
  | case1 => exact Lookup.expandPieces_nil
  | case2 inProgress text ps ih =>
    rw [Lookup.expandPieces_literal, ih]
    cases expandPieces b mode inProgress ps <;> rfl
  | case3 inProgress p ps hname =>
    rw [Lookup.expandPieces_placeholder, Lookup.replacement_of_mem hname, Outcome.error_append]
  | case4 inProgress p ps hname value hvalue _ ihvalue ihafter =>
    have htext : b.lookup.text? p = some value := Lookup.text?_of_value hvalue
    rw [Lookup.expandPieces_placeholder, Lookup.replacement_of_text hname htext, Lookup.expand,
      ihvalue, ihafter]
    cases expandPieces b mode (inProgress ++ [p.name]) (pieces value) <;>
      cases expandPieces b mode inProgress ps <;> rfl
  | case5 inProgress p ps hname fallback hvalue hfallback _ _ _ ihfallback ihafter =>
    have htext : b.lookup.text? p = some fallback :=
      (Lookup.text?_of_no_value hvalue).trans hfallback
    rw [Lookup.expandPieces_placeholder, Lookup.replacement_of_text hname htext, Lookup.expand,
      ihfallback, ihafter]
    cases expandPieces b mode (inProgress ++ [p.name]) (pieces fallback) <;>
      cases expandPieces b mode inProgress ps <;> rfl
  | case6 inProgress p ps hname hvalue hfallback hmode =>
    obtain rfl := hmode
    have htext : b.lookup.text? p = none := (Lookup.text?_of_no_value hvalue).trans hfallback
    rw [Lookup.expandPieces_placeholder, Lookup.replacement_strict hname htext,
      Outcome.error_append]
  | case7 inProgress p ps hname hvalue hfallback hmode ih =>
    obtain rfl := hmode
    have htext : b.lookup.text? p = none := (Lookup.text?_of_no_value hvalue).trans hfallback
    rw [Lookup.expandPieces_placeholder, Lookup.replacement_lenient hname htext, ih]
    cases expandPieces b .lenient inProgress ps <;> rfl

/-- Bindings expand a text as their lookup does. -/
theorem expand_lookup (b : Bindings) (mode : Mode) (inProgress : List (List Char))
    (text : List Char) :
    b.lookup.expand mode inProgress text = some (expand b mode inProgress text) :=
  expandPieces_lookup b mode inProgress (pieces text)

/-- Bindings replace the placeholders of a template as their lookup does. -/
theorem replace_lookup (b : Bindings) (mode : Mode) (template : String) :
    b.lookup.replace mode template = some (replace b mode template) := by
  rw [Lookup.replace, expand_lookup, replace]
  cases expand b mode [] template.toList <;> rfl

/-- A lookup with values for finitely many names. -/
def Lookup.IsFinite (l : Lookup) : Prop :=
  {name | l.value? name ≠ none}.Finite

/-- The lookup of bindings has values for finitely many names. -/
theorem isFinite_lookup (b : Bindings) : b.lookup.IsFinite := by
  refine Set.Finite.subset (b.entries.map Prod.fst).finite_toSet ?_
  intro name hname
  obtain ⟨value, hvalue⟩ := Option.ne_none_iff_exists'.1 hname
  exact mem_of_value? hvalue

/-- A lookup with finitely many values is that of some bindings. -/
theorem Lookup.IsFinite.exists_bindings {l : Lookup} (h : l.IsFinite) :
    ∃ b : Bindings, b.lookup = l := by
  have hfinite : {name | l.value? name ≠ none}.Finite := h
  obtain ⟨names, hnames⟩ : ∃ names : List (List Char),
      ∀ name, name ∈ names ↔ l.value? name ≠ none :=
    ⟨hfinite.toFinset.toList, by simp⟩
  refine ⟨⟨names.map fun name => (name, (l.value? name).getD [])⟩, ?_⟩
  have hvalue (name : List Char) :
      (names.map fun n => (n, (l.value? n).getD [])).lookup name = l.value? name := by
    cases hbound : l.value? name with
    | none =>
      have hfree : ∀ n ∈ names, name ≠ n := by
        rintro n hn rfl
        exact (hnames name).1 hn hbound
      simpa using hfree
    | some value =>
      have hmem : name ∈ names := (hnames name).2 (by simp [hbound])
      rw [List.lookup_graph _ hmem, hbound, Option.getD_some]
  obtain ⟨value?⟩ := l
  exact congrArg Lookup.mk (funext hvalue)

end ExprGate.Placeholder
