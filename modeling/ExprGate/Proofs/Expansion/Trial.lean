import ExprGate.Proofs.Access.Resolution
import ExprGate.Proofs.Artifact.Build
import ExprGate.Proofs.Expansion.MarkerType
import ExprGate.Proofs.Naming.DryRun

/-!
# The trial of the patterns decides

The expansion of a marker type tries its patterns out on sample names. The outcome is that for all
nameable names, so patterns pass the trial exactly if they never fail, and with a marker type that
was accepted neither the generator nor a resolver meets an error of naming (`trial_decides`).
-/

set_option autoImplicit false

namespace ExprGate.Expansion

open Grammar Token Marker Naming

/-- What the trial of two patterns tells about all types and methods. -/
structure TrialDecides (n : Naming) : Prop where
  /-- A type comes out like the sample type. -/
  types : ∀ className, IsNameable className →
    SameOutcome (n.evaluatorName className none) (n.evaluatorName sampleClass none)
  /-- A method comes out like the sample method. -/
  methods : ∀ className method, IsNameable className → IsNameable method →
    SameOutcome (n.evaluatorName className (some method))
      (n.evaluatorName sampleClass (some sampleMethod))
  /-- The patterns pass exactly if no type and no method has an error. -/
  validate : n.validate = .ok () ↔
    ∀ className method, AreNameable className method → ∀ e,
      n.evaluatorName className method ≠ .error e
  /-- Once a marker type with the patterns is accepted, the generator has no error of naming. -/
  generator : ∀ args item m, MarkerType.ofTokens args item = .ok m → m.descriptor.naming = n →
    ∀ runtime (marker : Marker) (element : Artifact.Element), marker.descriptor.naming = n →
      AreNameable element.className element.methodName? → ∀ e,
        Artifact.build runtime marker element ≠ .error (.noName e)
  /-- Once a marker type with the patterns is accepted, no resolver has an error of naming. -/
  resolver : ∀ args item m, MarkerType.ofTokens args item = .ok m → m.descriptor.naming = n →
    ∀ {κ φ : Type} (r : Access.Resolver κ φ) (site : Access.CallSite) (w : Access.World κ),
      r.naming = n → AreNameable site.typeName site.method → ∀ e,
        (r.resolve site w).1 ≠ .error (.naming e)

/-- The trial of two patterns decides whether they name all types and methods. -/
theorem trial_decides (n : Naming) : TrialDecides n := by
  have haccepted {args item : List Tree} {m : MarkerType}
      (h : MarkerType.ofTokens args item = .ok m) (hnaming : m.descriptor.naming = n) :
      n.validate = .ok () := by
    rw [← hnaming]
    exact (MarkerType.accepted_of_ofTokens h).validate
  refine ⟨?_, ?_, validate_iff n, ?_, ?_⟩
  · intro className h
    exact evaluatorName_sameOutcome n ⟨h, nofun⟩ areNameable_sampleClass rfl
  · intro className method h hmethod
    have hnameable : AreNameable className (some method) := by
      refine ⟨h, ?_⟩
      rintro name heq
      obtain rfl := Option.some.inj heq
      exact hmethod
    exact evaluatorName_sameOutcome n hnameable areNameable_samples rfl
  · intro args item m h hnaming runtime marker element hmarker hnameable e herror
    have hfailed := Artifact.build_noName herror
    rw [hmarker] at hfailed
    exact (validate_iff n).1 (haccepted h hnaming) _ _ hnameable e hfailed
  · intro args item m h hnaming κ φ r site w hr hnameable e herror
    have hfailed := Access.Resolver.resolve_naming herror
    rw [hr] at hfailed
    exact (validate_iff n).1 (haccepted h hnaming) _ _ hnameable e hfailed

end ExprGate.Expansion
