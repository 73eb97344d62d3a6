import ExprGate.Proofs.Naming
import ExprGate.Proofs.Placeholder.DryRun

/-!
# Trying out patterns

Patterns are tried out on one type and one method. This tells how they come out for all names in
which something is to be read and no placeholder begins (`IsNameable`): the sample has the same
error, or has a name too (`evaluatorName_sameOutcome`). So patterns that pass the trial name
everything (`validate_iff`).
-/

set_option autoImplicit false

namespace ExprGate.Naming

open Placeholder

/-- A name with a character that is not blank, and without `${`. -/
structure IsNameable (name : String) : Prop where
  notBlank : ∃ c ∈ name.toList, Text.isBlank c = false
  verbatim : Text.contains name openingText = false

/-- Two attempts at a name agree: both give one, or both give the same error. -/
inductive SameOutcome : Except NamingError String → Except NamingError String → Prop where
  | named (name name' : String) : SameOutcome (.ok name) (.ok name')
  | failed (e : NamingError) : SameOutcome (.error e) (.error e)

/-- The names of a type and possibly one of its methods are nameable. -/
structure AreNameable (className : String) (method : Option String) : Prop where
  className : IsNameable className
  method : ∀ name, method = some name → IsNameable name

/-- The samples of the dry run are nameable. -/
theorem areNameable_samples : AreNameable sampleClass (some sampleMethod) := by
  refine ⟨⟨⟨'a', by decide, by decide⟩, by decide⟩, ?_⟩
  rintro name heq
  obtain rfl := Option.some.inj heq
  exact ⟨⟨'m', by decide, by decide⟩, by decide⟩

/-- The sample of a type is nameable by itself. -/
theorem areNameable_sampleClass : AreNameable sampleClass none :=
  ⟨areNameable_samples.className, fun _ h => by cases h⟩

/-- The characters of a nameable name are a plain value. -/
theorem IsNameable.isPlainValue {name : String} (h : IsNameable name) :
    IsPlainValue name.toList :=
  ⟨h.verbatim, List.all_eq_false.2 (by simpa using h.notBlank)⟩

/-- Which names have values depends on whether there is a method. -/
theorem value?_bindings_eq_none {className : String} {method : Option String} {name : List Char} :
    (bindings className method).value? name = none ↔
      name ≠ "class".toList ∧ (method.isSome → name ≠ "method".toList) := by
  unfold bindings Bindings.ofList Bindings.value?
  rw [List.lookup_eq_none_iff]
  cases method with
  | none => simp [classPlaceholder]
  | some m => simp [classPlaceholder, methodPlaceholder]

/-- Nameable names are interchangeable as values. -/
theorem interchangeable_bindings {className className' : String} {method method' : Option String}
    (h : AreNameable className method) (h' : AreNameable className' method')
    (hmethod : method.isSome = method'.isSome) :
    (bindings className method).Interchangeable (bindings className' method') := by
  have hplain {className : String} {method : Option String} (h : AreNameable className method)
      (name value : List Char) (hvalue : (bindings className method).value? name = some value) :
      IsPlainValue value := by
    obtain rfl | ⟨m, hm, rfl⟩ := value?_bindings hvalue
    · exact h.className.isPlainValue
    · exact (h.method m hm).isPlainValue
  refine ⟨?_, hplain h, hplain h'⟩
  intro name
  rw [value?_bindings_eq_none, value?_bindings_eq_none, hmethod]

/-- Patterns come out the same for all nameable types, and for all nameable methods. -/
theorem evaluatorName_sameOutcome (n : Naming) {className className' : String}
    {method method' : Option String} (h : AreNameable className method)
    (h' : AreNameable className' method') (hmethod : method.isSome = method'.isSome) :
    SameOutcome (n.evaluatorName className method) (n.evaluatorName className' method') := by
  have hpattern : n.patternFor method = n.patternFor method' := by
    unfold patternFor
    rw [hmethod]
  have halike := expand_alike (interchangeable_bindings h h' hmethod) .strict []
    (n.patternFor method').toList
  rw [evaluatorName_eq, evaluatorName_eq, hpattern]
  revert halike
  generalize expand (bindings className method) .strict [] (n.patternFor method').toList = x
  generalize expand (bindings className' method') .strict [] (n.patternFor method').toList = x'
  rintro (⟨cause⟩ | hblank)
  · exact .failed _
  · dsimp only
    rw [hblank]
    split
    · exact .failed _
    · exact .named _ _

/-- Attempts that agree give an error alike. -/
theorem SameOutcome.error_iff {x y : Except NamingError String} (h : SameOutcome x y)
    (e : NamingError) : x = .error e ↔ y = .error e := by
  cases h with
  | named name name' => simp
  | failed e' => rfl

/-- Patterns pass the trial exactly if no sample has an error. -/
theorem validate_iff_samples (n : Naming) :
    n.validate = .ok () ↔
      (∀ e, n.evaluatorName sampleClass none ≠ .error e) ∧
        ∀ e, n.evaluatorName sampleClass (some sampleMethod) ≠ .error e := by
  unfold validate
  cases n.evaluatorName sampleClass none with
  | error e =>
    constructor
    · intro h
      cases h
    · rintro ⟨h, -⟩
      exact absurd rfl (h e)
  | ok typeName =>
    cases n.evaluatorName sampleClass (some sampleMethod) with
    | error e =>
      constructor
      · intro h
        cases h
      · rintro ⟨-, h⟩
        exact absurd rfl (h e)
    | ok methodName => exact ⟨fun _ => ⟨nofun, nofun⟩, fun _ => rfl⟩

/-- Patterns pass the trial exactly if no nameable type and method has an error. -/
theorem validate_iff (n : Naming) :
    n.validate = .ok () ↔
      ∀ className method, AreNameable className method → ∀ e,
        n.evaluatorName className method ≠ .error e := by
  rw [validate_iff_samples]
  constructor
  · rintro ⟨htype, hmethod⟩ className method h e herror
    cases method with
    | none =>
      have hsame := evaluatorName_sameOutcome n h areNameable_sampleClass rfl
      exact htype e ((hsame.error_iff e).1 herror)
    | some name =>
      have hsame := evaluatorName_sameOutcome n h areNameable_samples rfl
      exact hmethod e ((hsame.error_iff e).1 herror)
  · intro h
    exact ⟨h _ _ areNameable_sampleClass, h _ _ areNameable_samples⟩

/-- The standard patterns are valid. -/
theorem validate_standard : Naming.standard.validate = .ok () := by
  have htype : IsDollarFree sampleClass none := ⟨by decide, nofun⟩
  have hmethod : IsDollarFree sampleClass (some sampleMethod) :=
    ⟨by decide, fun name h => by cases h; decide⟩
  rw [validate_iff_samples, evaluatorName_standard htype, evaluatorName_standard hmethod]
  exact ⟨nofun, nofun⟩

end ExprGate.Naming
