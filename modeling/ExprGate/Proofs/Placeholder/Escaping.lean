import ExprGate.Proofs.Placeholder.Composition

/-!
# Escaped texts

`escape` puts a backslash in front of every `${` of a text. The escaped text has no other tokens
than these escapes: no opening arises where a text behind it begins (`escape_ne_opening`). So it
expands to the text that was escaped, whatever the lookup (`expand_escaped`), as a template and as
the value or the fallback of a placeholder at any depth.
-/

set_option autoImplicit false

namespace ExprGate.Placeholder

/-- A text with a backslash in front of every `${`, read from left to right. -/
def escape : List Char → List Char
  | [] => []
  | '$' :: '{' :: rest => '\\' :: '$' :: '{' :: escape rest
  | c :: rest => c :: escape rest

/-- A character that starts no placeholder stays as it is. -/
theorem escape_cons {c : Char} {rest : List Char} (h : ∀ inner, c :: rest ≠ '$' :: '{' :: inner) :
    escape (c :: rest) = c :: escape rest := by
  rw [escape.eq_def]
  split
  · rename_i heq
    cases heq
  · rename_i inner heq
    exact absurd heq (h inner)
  · rename_i heq
    cases heq
    rfl

/-- Only a brace in front of a text comes to the front of the escaped text. -/
theorem eq_brace_of_escape {text inner : List Char} (h : escape text = '{' :: inner) :
    ∃ rest, text = '{' :: rest := by
  fun_cases escape text with
  | case1 => simp [escape] at h
  | case2 rest => simp [escape] at h
  | case3 c rest hopening =>
    rw [escape_cons (by simpa using hopening)] at h
    obtain ⟨rfl, -⟩ := List.cons.inj h
    exact ⟨rest, rfl⟩

/-- An escaped text does not start with a placeholder. -/
theorem escape_ne_opening (text inner : List Char) : escape text ≠ '$' :: '{' :: inner := by
  intro h
  fun_cases escape text with
  | case1 => simp [escape] at h
  | case2 rest => simp [escape] at h
  | case3 c rest hopening =>
    rw [escape_cons (by simpa using hopening)] at h
    obtain ⟨rfl, hrest⟩ := List.cons.inj h
    obtain ⟨rest', rfl⟩ := eq_brace_of_escape hrest
    exact hopening rest' rfl rfl

namespace Lookup

variable {l : Lookup} {mode : Mode} {inProgress : List (List Char)}

/-- An escaped text expands to the text. -/
theorem expand_escaped (text : List Char) :
    l.expand mode inProgress (escape text) = some (.ok text) := by
  fun_induction escape text with
  | case1 => exact expand_nil
  | case2 rest ih =>
    rw [expand_escape, ih, Outcome.ok_append_ok]
    rfl
  | case3 c rest hopening ih =>
    have hopening' (inner : List Char) : c :: escape rest ≠ '$' :: '{' :: inner := by
      intro heq
      obtain ⟨rfl, hrest⟩ := List.cons.inj heq
      obtain ⟨rest', rfl⟩ := eq_brace_of_escape hrest
      exact hopening rest' rfl rfl
    have hescape (inner : List Char) : c :: escape rest ≠ '\\' :: '$' :: '{' :: inner := by
      intro heq
      exact escape_ne_opening rest inner (List.cons.inj heq).2
    rw [expand_char hopening' hescape, ih, Outcome.ok_append_ok]
    rfl

/-- Expansion undoes escaping. -/
structure Unescapes (l : Lookup) (mode : Mode) : Prop where
  /-- In a template. -/
  template : ∀ text : String,
    l.replace mode (String.ofList (escape text.toList)) = some (.ok text)
  /-- In the value of a placeholder, in a template or at any depth. -/
  value : ∀ inProgress (p : Placeholder) rest after text,
    closingBrace? rest = some (p.body, after) → p.name ∉ inProgress →
    l.value? p.name = some (escape text) →
    l.expand mode inProgress ('$' :: '{' :: rest) =
      some (.ok text) ++ l.expand mode inProgress after
  /-- In a fallback in which the braces are balanced, in a template or at any depth. -/
  fallback : ∀ inProgress name text after, IsPlainName name → Balances 0 (escape text) →
    name ∉ inProgress → l.value? name = none →
    l.expand mode inProgress
        ('$' :: '{' :: (name ++ ':' :: '-' :: (escape text ++ '}' :: after))) =
      some (.ok text) ++ l.expand mode inProgress after

/-- Under every lookup, expansion undoes escaping. -/
theorem expand_unescapes (l : Lookup) (mode : Mode) : l.Unescapes mode := by
  refine ⟨?template, ?value, ?fallback⟩
  case template =>
    intro text
    rw [replace, String.toList_ofList, expand_escaped]
    simp
  case value =>
    intro inProgress p rest after text hbody hname hvalue
    rw [expand_placeholder hbody, replacement_of_text hname (text?_of_value hvalue),
      expand_escaped]
  case fallback =>
    intro inProgress name text after hplain hbalanced hname hvalue
    have hbody := closingBrace?_fallback hplain hbalanced after
    have hsplit := splitFallback_append hplain (escape text)
    let p : Placeholder := ⟨name ++ ':' :: '-' :: escape text⟩
    have hp : p.name = name := congrArg Prod.fst hsplit
    have hfallback : p.fallback? = some (escape text) := congrArg Prod.snd hsplit
    have htext : l.text? p = some (escape text) :=
      (text?_of_no_value (by rw [hp, hvalue])).trans hfallback
    rw [expand_placeholder (p := p) hbody, replacement_of_text (by rwa [hp]) htext, expand_escaped]

end Lookup

end ExprGate.Placeholder
