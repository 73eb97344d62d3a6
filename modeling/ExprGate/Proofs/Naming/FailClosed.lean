import ExprGate.Proofs.Naming
import ExprGate.Proofs.Placeholder.Spelling

/-!
# Naming fails closed

A name is the strict expansion of a pattern, so a placeholder without value is an error and no part
of a name. What may still look like a placeholder in a name is one that the pattern leaves open, or
a dollar sign and a brace that the expansion brings together. Without these, no name contains `${`
(`evaluatorName_failsClosed`), and both do occur (`evaluatorName_containsOpening`).
-/

set_option autoImplicit false

namespace ExprGate.Naming

open Placeholder

/-- Names without dollar signs are bound to values without them. -/
theorem IsDollarFree.bindings {className : String} {method : Option String}
    (h : IsDollarFree className method) : (bindings className method).IsDollarFree := by
  intro name value hvalue
  obtain rfl | ⟨m, rfl, rfl⟩ := value?_bindings hvalue
  · exact h.className
  · exact h.method m rfl

/-- A type and a method whose names do not start with a brace. -/
structure IsBraceFree (className : String) (method : Option String) : Prop where
  className : className.toList.head? ≠ some '{'
  method : ∀ name, method = some name → name.toList.head? ≠ some '{'

/-- Names that do not start with a brace are bound to values that do not. -/
theorem IsBraceFree.bindings {className : String} {method : Option String}
    (h : IsBraceFree className method) : (bindings className method).IsBraceFree := by
  intro name value hvalue
  obtain rfl | ⟨m, rfl, rfl⟩ := value?_bindings hvalue
  · exact h.className
  · exact h.method m rfl

/-- The name of an evaluator is what its pattern expands to. -/
theorem expand_of_evaluatorName {n : Naming} {className name : String} {method : Option String}
    (h : n.evaluatorName className method = .ok name) :
    expand (bindings className method) .strict [] (n.patternFor method).toList =
      .ok name.toList := by
  rw [evaluatorName_eq] at h
  split at h
  · cases h
  · rename_i text hexpand
    split at h
    · cases h
    · rw [hexpand, ← Except.ok.inj h, String.toList_ofList]

/-- Naming fails closed: for a pattern without backslashes in which every placeholder is closed, and
names without dollar sign, no name contains `${`, unless the pattern puts a dollar sign directly in
front of something that is replaced or at the end of a fallback, and a brace comes to stand behind
it. -/
theorem evaluatorName_failsClosed {n : Naming} {className name : String} {method : Option String}
    (hescape : '\\' ∉ (n.patternFor method).toList)
    (hclosed : IsClosed (n.patternFor method).toList) (hfree : IsDollarFree className method)
    (hapart : DollarsApart (n.patternFor method).toList ∨
      BracesApart (n.patternFor method).toList ∧ IsBraceFree className method)
    (h : n.evaluatorName className method = .ok name) :
    Text.contains name openingText = false := by
  have hspells := spells_of_expand (expand_of_evaluatorName h)
  exact hspells.isVerbatim hfree.bindings
    ⟨hclosed, hescape, hapart.imp_right (And.imp_right IsBraceFree.bindings)⟩

/-- The standard pattern for methods gives a name without `${`. -/
theorem evaluatorName_failsClosed_orders :
    Naming.standard.evaluatorName "app::Orders" (some "list") =
        .ok "app::Orders$list$SimpleJelEvaluator" ∧
      Text.contains "app::Orders$list$SimpleJelEvaluator" openingText = false := by
  have hfree : IsDollarFree "app::Orders" (some "list") :=
    ⟨by decide, fun name h => by cases h; decide⟩
  have hname : Naming.standard.evaluatorName "app::Orders" (some "list") =
      .ok "app::Orders$list$SimpleJelEvaluator" := evaluatorName_standard hfree
  have hbraces : BracesApart (Naming.standard.patternFor (some "list")).toList :=
    ⟨by decide, by decide⟩
  have hstart : IsBraceFree "app::Orders" (some "list") :=
    ⟨by decide, fun name h => by cases h; decide⟩
  exact ⟨hname, evaluatorName_failsClosed (by decide) (by decide) hfree
    (.inr ⟨hbraces, hstart⟩) hname⟩

/-- Patterns of which one leaves a placeholder open and the other brings a dollar sign and a brace
together. -/
def openPatterns : Naming :=
  ⟨"$\x7bclass\x7d$\x7bmethod", "$\x7bclass\x7d$$\x7bx:-\x7b\x7d"⟩

/-- Both have no backslash and give names that contain `${`. -/
theorem evaluatorName_containsOpening :
    IsDollarFree "app::T" (some "run") ∧
      ('\\' ∉ openPatterns.classPattern.toList ∧
        openPatterns.evaluatorName "app::T" none = .ok "app::T$\x7bmethod" ∧
        Text.contains "app::T$\x7bmethod" openingText = true) ∧
      '\\' ∉ openPatterns.methodPattern.toList ∧
        openPatterns.evaluatorName "app::T" (some "run") = .ok "app::T$\x7b" ∧
        Text.contains "app::T$\x7b" openingText = true := by
  have hfree : IsDollarFree "app::T" (some "run") := ⟨by decide, fun name h => by cases h; decide⟩
  have hplain : IsVerbatim "app::T".toList := .of_not_mem (by decide)
  -- the placeholder that is left open is literal
  have hunclosed : expand (bindings "app::T" none) .strict [] openPatterns.classPattern.toList =
      .ok "app::T$\x7bmethod".toList := by
    have hpieces : pieces openPatterns.classPattern.toList =
        .placeholder ⟨"class".toList⟩ :: pieces ('$' :: '{' :: "method".toList) :=
      pieces_opening rfl
    have hopen : pieces ('$' :: '{' :: "method".toList) =
        [.literal ('$' :: '{' :: "method".toList)] := pieces_unclosed rfl
    have hend : expandPieces (bindings "app::T" none) .strict []
        [.literal ('$' :: '{' :: "method".toList)] = .ok ('$' :: '{' :: "method".toList ++ []) :=
      expandPieces_literal _ (by rw [expandPieces])
    unfold expand
    rw [hpieces, hopen]
    exact expandPieces_bound List.not_mem_nil (value?_class "app::T" none)
      (expand_of_verbatim _ _ _ hplain) hend
  -- the dollar sign comes from the pattern and the brace from the fallback
  have hseam : expand (bindings "app::T" (some "run")) .strict []
      openPatterns.methodPattern.toList = .ok "app::T$\x7b".toList := by
    have hpieces : pieces openPatterns.methodPattern.toList =
        .placeholder ⟨"class".toList⟩ :: pieces ('$' :: '$' :: '{' :: "x:-\x7b\x7d".toList) :=
      pieces_opening rfl
    have hdollar : pieces ('$' :: '$' :: '{' :: "x:-\x7b\x7d".toList) =
        .literal ['$'] :: .placeholder ⟨"x:-\x7b".toList⟩ :: pieces [] := by
      rw [pieces_cons (by simp) (by simp)]
      exact congrArg _ (pieces_opening rfl)
    have hend : expandPieces (bindings "app::T" (some "run")) .strict []
        [.placeholder ⟨"x:-\x7b".toList⟩] = .ok (['{'] ++ []) :=
      expandPieces_fallback List.not_mem_nil rfl rfl
        (expand_of_verbatim _ _ _ (.of_not_mem (by decide))) (by rw [expandPieces])
    unfold expand
    rw [hpieces, hdollar, pieces]
    exact expandPieces_bound List.not_mem_nil (value?_class "app::T" (some "run"))
      (expand_of_verbatim _ _ _ hplain) (expandPieces_literal ['$'] hend)
  exact ⟨hfree, ⟨by decide, evaluatorName_of_expand hunclosed (by decide), by decide⟩,
    by decide, evaluatorName_of_expand hseam (by decide), by decide⟩

end ExprGate.Naming
