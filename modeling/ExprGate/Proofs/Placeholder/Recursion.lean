import ExprGate.Proofs.Placeholder.Composition
import Mathlib.Data.Prod.Lex
import Mathlib.Logic.Relation

/-!
# The recursion of expansion

For a placeholder that has a value or a fallback, expansion calls itself on that text, with one more
name in progress (`Lookup.Enters`). A name in progress is never entered again, so the names in
progress are pairwise distinct (`Lookup.Reaches.nodup`).

If a lookup has finitely many values, no call leads to calls within calls for ever
(`wellFounded_enters`): entering a value uses up one of the bound names, and a fallback leaves them
as they are and is shorter than the text that it stands in. Hence every template comes to a text or
an error (`replace_ends`).
-/

set_option autoImplicit false

namespace ExprGate.Placeholder

/-- A call of the expansion: the text, and the names that are being replaced around it. -/
structure Call where
  inProgress : List (List Char)
  text : List Char

namespace Lookup

/-- The scan of a call's text comes to a placeholder. -/
def Reads (l : Lookup) (mode : Mode) (call : Call) (p : Placeholder) : Prop :=
  ∃ rest after, l.Meets mode call.inProgress call.text rest ∧
    closingBrace? rest = some (p.body, after)

/-- A call makes another one, for the text that takes the place of a placeholder. -/
inductive Enters (l : Lookup) (mode : Mode) (call : Call) : Call → Prop where
  | intro {p : Placeholder} {text : List Char} (hreads : l.Reads mode call p)
    (hname : p.name ∉ call.inProgress) (htext : l.text? p = some text) :
    Enters l mode call ⟨call.inProgress ++ [p.name], text⟩

/-- A call leads to another one, at any depth. -/
def Reaches (l : Lookup) (mode : Mode) : Call → Call → Prop :=
  Relation.ReflTransGen (l.Enters mode)

variable {l : Lookup} {mode : Mode}

/-! ## Names in progress -/

/-- A call puts no name in progress twice. -/
theorem Enters.nodup {call inner : Call} (h : l.Enters mode call inner)
    (hcall : call.inProgress.Nodup) : inner.inProgress.Nodup := by
  cases h with
  | intro _ hname _ =>
    have hconcat := List.Nodup.concat hname hcall
    rwa [List.concat_eq_append] at hconcat

/-- In whatever a call leads to, no name is in progress twice. -/
theorem Reaches.nodup {call inner : Call} (h : l.Reaches mode call inner)
    (hcall : call.inProgress.Nodup) : inner.inProgress.Nodup := by
  induction h with
  | refl => exact hcall
  | tail _ henters ih => exact henters.nodup ih

/-! ## Depth of the recursion -/

/-- What stands behind a met opening is shorter than the text by the opening at least. -/
theorem Meets.length_le {inProgress : List (List Char)} {text rest : List Char}
    (h : l.Meets mode inProgress text rest) : rest.length + 2 ≤ text.length := by
  induction h with
  | here rest => simp
  | escape _ ih => simp; omega
  | char _ _ _ ih => simp; omega
  | behind hbody _ _ ih =>
    have hlength := length_of_closingBrace? hbody
    simp
    omega

/-- A placeholder is no longer than the text in which it is read. -/
theorem Reads.length_le {call : Call} {p : Placeholder} (h : l.Reads mode call p) :
    p.text.length ≤ call.text.length := by
  obtain ⟨rest, after, hmeets, hbody⟩ := h
  have hrest := hmeets.length_le
  have hlength := length_of_closingBrace? hbody
  simp [Placeholder.text]
  omega

/-- The bound names that are still free in a call, and then the length of its text. -/
def size (b : Bindings) (call : Call) : ℕ ×ₗ ℕ :=
  toLex ((b.unused call.inProgress).length, call.text.length)

/-- A call within a call is smaller. -/
theorem size_lt_of_enters {b : Bindings} {call inner : Call}
    (h : b.lookup.Enters mode call inner) : size b inner < size b call := by
  cases h with
  | @intro p text hreads hname htext =>
    rw [size, size, Prod.Lex.toLex_lt_toLex]
    obtain hvalue | ⟨-, hfallback⟩ := Option.or_eq_some_iff.1 htext
    · exact .inl (length_unused_lt hvalue hname)
    · have hshorter := length_fallback_lt hfallback
      have hread := hreads.length_le
      have hunused := length_unused_le b call.inProgress p.name
      dsimp only
      omega

/-- Under a lookup with finitely many values, calls within calls come to an end. -/
theorem wellFounded_enters (h : l.IsFinite) (mode : Mode) :
    WellFounded fun inner outer => l.Enters mode outer inner := by
  obtain ⟨b, rfl⟩ := h.exists_bindings
  exact Subrelation.wf size_lt_of_enters (InvImage.wf (size b) wellFounded_lt)

/-! ## Outcomes -/

/-- Expansion under a lookup always ends. -/
structure Ends (l : Lookup) (mode : Mode) : Prop where
  /-- Every template comes to a text or a failure. -/
  outcome : ∀ template, (∃ text, l.replace mode template = some (.ok text)) ∨
    ∃ failure, l.replace mode template = some (.error failure)
  /-- There is no endless chain of calls within calls. -/
  depth : WellFounded fun inner outer => l.Enters mode outer inner
  /-- In all calls that a template leads to, the names in progress are pairwise distinct. -/
  distinct : ∀ template call, l.Reaches mode ⟨[], template⟩ call → call.inProgress.Nodup

/-- Expansion ends under every lookup with finitely many values. -/
theorem replace_ends {l : Lookup} (h : l.IsFinite) (mode : Mode) : l.Ends mode := by
  refine ⟨?outcome, wellFounded_enters h mode, ?distinct⟩
  case outcome =>
    intro template
    obtain ⟨b, rfl⟩ := h.exists_bindings
    rw [replace_lookup]
    cases Placeholder.replace b mode template with
    | ok text => exact .inl ⟨text, rfl⟩
    | error failure => exact .inr ⟨failure, rfl⟩
  case distinct =>
    intro template call hreaches
    exact hreaches.nodup List.nodup_nil

/-- Two names whose values are each other. -/
def circular : Bindings :=
  Bindings.ofList [("a", "$\x7bb\x7d"), ("b", "$\x7ba\x7d")]

/-- Expansion ends also where values refer to each other. -/
theorem replace_ends_circular : circular.lookup.IsFinite ∧ circular.lookup.Ends .lenient :=
  ⟨isFinite_lookup circular, replace_ends (isFinite_lookup circular) .lenient⟩

end Lookup

end ExprGate.Placeholder
