import ExprGate.Naming
import ExprGate.Proofs.Placeholder.Verbatim

/-!
# The names that the standard patterns give

For a type and a method without dollar sign the standard patterns give `standardName`: the type, the
method between dollar signs if there is one, and a suffix. The first dollar sign ends the type, and
what is behind it has another one exactly if there is a method, so different declarations get
different names (`standardName_injective`).
-/

set_option autoImplicit false

namespace ExprGate.Naming

open Placeholder

/-- The text with which a placeholder begins. -/
def openingText : String := "$\x7b"

/-- The end of both standard patterns, behind a dollar sign. -/
def standardSuffix : List Char := "SimpleJelEvaluator".toList

/-- There is no further dollar sign in the suffix. -/
theorem dollar_not_mem_standardSuffix : '$' ∉ standardSuffix := by
  decide

/-- What the standard patterns put between the type and the suffix. -/
def methodPart : Option String → List Char
  | none => []
  | some method => '$' :: method.toList

/-- The name that the standard patterns give. -/
def standardName (className : String) (method : Option String) : String :=
  String.ofList (className.toList ++ methodPart method ++ '$' :: standardSuffix)

/-- A type and a method in whose names there is no dollar sign. -/
structure IsDollarFree (className : String) (method : Option String) : Prop where
  className : '$' ∉ className.toList
  method : ∀ name, method = some name → '$' ∉ name.toList

/-- The placeholder for the type has the type's name as its value. -/
theorem value?_class (className : String) (method : Option String) :
    (bindings className method).value? "class".toList = some className.toList :=
  List.lookup_cons_self

/-- The placeholder for the method has the method's name as its value. -/
theorem value?_method (className method : String) :
    (bindings className (some method)).value? "method".toList = some method.toList := by
  rfl

/-- A value of the placeholders is the name of the type or that of the method. -/
theorem value?_bindings {className : String} {method : Option String} {name value : List Char}
    (h : (bindings className method).value? name = some value) :
    value = className.toList ∨ ∃ m, method = some m ∧ value = m.toList := by
  have hkey : (name, value) ∈ (bindings className method).entries := by
    obtain ⟨before, after, heq, -⟩ := List.lookup_eq_some_iff.1 h
    rw [heq]
    exact List.mem_append_right before List.mem_cons_self
  unfold bindings Bindings.ofList at hkey
  obtain ⟨⟨_, text⟩, htext, heq⟩ := List.mem_map.1 hkey
  obtain ⟨-, rfl⟩ := Prod.mk.inj heq
  obtain htext | htext := List.mem_cons.1 htext
  · obtain ⟨-, rfl⟩ := Prod.mk.inj htext
    exact .inl rfl
  · obtain ⟨m, hm, heq⟩ := Option.map_eq_some_iff.1 (Option.mem_toList.1 htext)
    obtain ⟨-, rfl⟩ := Prod.mk.inj heq
    exact .inr ⟨m, hm, rfl⟩

/-- A name is what its pattern strictly expands to, unless that is blank. -/
theorem evaluatorName_eq (n : Naming) (className : String) (method : Option String) :
    n.evaluatorName className method =
      match expand (bindings className method) .strict [] (n.patternFor method).toList with
      | .error cause => .error (.badPattern (n.patternFor method) ⟨n.patternFor method, cause⟩)
      | .ok text =>
        if text.all Text.isBlank then .error (.emptyName (n.patternFor method))
        else .ok (String.ofList text) := by
  unfold evaluatorName replace
  dsimp only
  cases expand (bindings className method) .strict [] (n.patternFor method).toList with
  | error cause => rfl
  | ok text => simp only [Text.isBlankText, String.toList_ofList]

/-- A text that is not blank is the name if the pattern expands to it. -/
theorem evaluatorName_of_expand {n : Naming} {className : String} {method : Option String}
    {text : List Char}
    (h : expand (bindings className method) .strict [] (n.patternFor method).toList = .ok text)
    (hblank : text.all Text.isBlank = false) :
    n.evaluatorName className method = .ok (String.ofList text) := by
  rw [evaluatorName_eq, h]
  exact if_neg (by rw [hblank]; exact Bool.false_ne_true)

/-- A pattern without placeholders is the name of all evaluators. -/
theorem evaluatorName_verbatim {n : Naming} (className : String) {method : Option String}
    (h : IsVerbatim (n.patternFor method).toList)
    (hblank : (n.patternFor method).toList.all Text.isBlank = false) :
    n.evaluatorName className method = .ok (n.patternFor method) := by
  rw [evaluatorName_of_expand (expand_of_verbatim _ _ _ h) hblank, String.ofList_toList]

/-- The suffix of the standard patterns expands to itself. -/
theorem expandPieces_standardSuffix (b : Bindings) (mode : Mode) :
    expandPieces b mode [] (pieces ('$' :: standardSuffix)) = .ok ('$' :: standardSuffix) :=
  expand_of_verbatim b mode [] rfl

/-- The standard pattern for types puts the suffix behind the type. -/
theorem expand_defaultClassPattern {className : String} (h : '$' ∉ className.toList) :
    expand (bindings className none) .strict [] defaultClassPattern.toList =
      .ok (className.toList ++ '$' :: standardSuffix) := by
  have hpieces : pieces defaultClassPattern.toList =
      .placeholder ⟨"class".toList⟩ :: pieces ('$' :: standardSuffix) :=
    pieces_opening rfl
  unfold expand
  rw [hpieces]
  exact expandPieces_bound List.not_mem_nil (value?_class className none)
    (expand_of_verbatim _ _ _ (.of_not_mem h)) (expandPieces_standardSuffix _ _)

/-- The standard pattern for methods puts the method and the suffix behind the type. -/
theorem expand_defaultMethodPattern {className method : String} (h : '$' ∉ className.toList)
    (hmethod : '$' ∉ method.toList) :
    expand (bindings className (some method)) .strict [] defaultMethodPattern.toList =
      .ok (className.toList ++ '$' :: (method.toList ++ '$' :: standardSuffix)) := by
  have htail : pieces ('$' :: '$' :: '{' :: ("method\x7d".toList ++ '$' :: standardSuffix)) =
      .literal ['$'] :: .placeholder ⟨"method".toList⟩ :: pieces ('$' :: standardSuffix) := by
    rw [pieces_cons (by simp) (by simp)]
    exact congrArg _ (pieces_opening rfl)
  have hpieces : pieces defaultMethodPattern.toList =
      .placeholder ⟨"class".toList⟩ ::
        pieces ('$' :: '$' :: '{' :: ("method\x7d".toList ++ '$' :: standardSuffix)) :=
    pieces_opening rfl
  have hname : expandPieces (bindings className (some method)) .strict []
      (.placeholder ⟨"method".toList⟩ :: pieces ('$' :: standardSuffix)) =
        .ok (method.toList ++ '$' :: standardSuffix) :=
    expandPieces_bound List.not_mem_nil (value?_method className method)
      (expand_of_verbatim _ _ _ (.of_not_mem hmethod)) (expandPieces_standardSuffix _ _)
  unfold expand
  rw [hpieces, htail]
  exact expandPieces_bound List.not_mem_nil (value?_class className (some method))
    (expand_of_verbatim _ _ _ (.of_not_mem h)) (expandPieces_literal ['$'] hname)

/-- The standard patterns name every declaration without dollar sign. -/
theorem evaluatorName_standard {className : String} {method : Option String}
    (h : IsDollarFree className method) :
    Naming.standard.evaluatorName className method = .ok (standardName className method) := by
  have hexpand : expand (bindings className method) .strict []
      (Naming.standard.patternFor method).toList =
        .ok (className.toList ++ methodPart method ++ '$' :: standardSuffix) := by
    cases method with
    | none =>
      rw [methodPart, List.append_nil]
      exact expand_defaultClassPattern h.className
    | some name =>
      rw [methodPart, List.append_assoc, List.cons_append]
      exact expand_defaultMethodPattern h.className (h.method name rfl)
  refine evaluatorName_of_expand hexpand ?_
  rw [List.all_eq_false]
  exact ⟨'$', by simp, by decide⟩

/-- What stands in front of the first dollar sign determines where it is. -/
theorem append_dollar_inj {a b s t : List Char} (ha : '$' ∉ a) (hb : '$' ∉ b)
    (h : a ++ '$' :: s = b ++ '$' :: t) : a = b ∧ s = t := by
  induction a generalizing b with
  | nil =>
    cases b with
    | nil => exact ⟨rfl, (List.cons.inj h).2⟩
    | cons d b =>
      obtain ⟨rfl, -⟩ := List.cons.inj h
      exact absurd List.mem_cons_self hb
  | cons c a ih =>
    cases b with
    | nil =>
      obtain ⟨rfl, -⟩ := List.cons.inj h
      exact absurd List.mem_cons_self ha
    | cons d b =>
      obtain ⟨rfl, htail⟩ := List.cons.inj h
      obtain ⟨rfl, rfl⟩ := ih (List.not_mem_of_not_mem_cons ha) (List.not_mem_of_not_mem_cons hb) htail
      exact ⟨rfl, rfl⟩

/-- Different declarations without dollar sign have different standard names. -/
theorem standardName_injective {className className' : String} {method method' : Option String}
    (h : IsDollarFree className method) (h' : IsDollarFree className' method')
    (heq : standardName className method = standardName className' method') :
    className = className' ∧ method = method' := by
  have hlists := String.ofList_injective heq
  cases method with
  | none =>
    cases method' with
    | none =>
      simp only [methodPart, List.append_nil] at hlists
      obtain ⟨hclass, -⟩ := append_dollar_inj h.className h'.className hlists
      exact ⟨String.toList_injective hclass, rfl⟩
    | some name' =>
      simp only [methodPart, List.append_nil, List.append_assoc, List.cons_append] at hlists
      obtain ⟨-, hsuffix⟩ := append_dollar_inj h.className h'.className hlists
      have hmem : '$' ∈ standardSuffix := by
        rw [hsuffix]
        simp
      exact absurd hmem dollar_not_mem_standardSuffix
  | some name =>
    cases method' with
    | none =>
      simp only [methodPart, List.append_nil, List.append_assoc, List.cons_append] at hlists
      obtain ⟨-, hsuffix⟩ := append_dollar_inj h.className h'.className hlists
      have hmem : '$' ∈ standardSuffix := by
        rw [← hsuffix]
        simp
      exact absurd hmem dollar_not_mem_standardSuffix
    | some name' =>
      simp only [methodPart, List.append_assoc, List.cons_append] at hlists
      obtain ⟨hclass, hrest⟩ := append_dollar_inj h.className h'.className hlists
      obtain ⟨hname, -⟩ := append_dollar_inj (h.method name rfl) (h'.method name' rfl) hrest
      exact ⟨String.toList_injective hclass, congrArg some (String.toList_injective hname)⟩

end ExprGate.Naming
