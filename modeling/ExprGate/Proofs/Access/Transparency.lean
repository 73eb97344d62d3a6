import ExprGate.Proofs.Access.Requests
import ExprGate.Proofs.Naming
import ExprGate.Proofs.Table

/-!
# Keeping instances changes no decision

A gate without memory would build the evaluator of a site anew for each request, and evaluate it on
the request's context only: `Gate.decideAnew`. A gate that keeps instances answers in the same way
if its evaluators are stateless, that is, if all instances that a factory builds reply alike,
whatever they have been evaluated on before (`Factory.IsStateless`).

The kept instances of such a gate reply as new ones would (`Gate.IsTransparent`). Resolving
preserves this, since an instance is built by the factory of its own site, so every answer of every
run is that of the gate without memory, and no answer depends on the requests before it
(`Moment.answers_serveAll`).
-/

set_option autoImplicit false

namespace ExprGate.Access

variable {κ τ : Type}

/-! ## Decisions without memory -/

/-- The decision about a context if nothing has been kept, built or evaluated before. -/
def Gate.decideAnew (g : Gate κ) (site : CallSite) (context : κ) : Except GateError Unit :=
  match site.evaluatorName g.naming with
  | .error e => .error (.binding (.naming e))
  | .ok name =>
    match g.registry.get? name with
    | none => .error (.binding (.notFound name))
    | some registration =>
      match registration.factory.outcome 0 with
      | .failed reason => .error (.binding (.instantiation name (.failed reason)))
      | .panicked payload =>
        .error (.binding (.instantiation name (.panicked payload.message)))
      | .built evaluator =>
        match g.contract.view? evaluator with
        | none => .error (.binding (.contractMismatch name g.contract.expected))
        | some decider => verdict site (decider.respond [] context)

/-- The answer to a request that the decision calls for. -/
def Request.answerAnew (q : Request κ τ) (g : Gate κ) : Request.Answer τ :=
  (g.decideAnew q.site q.context).map fun _ => q.result?

/-- A factory that always succeeds, and whose evaluators are stateless: either all of them have the
contract and reply to a context as one function does, or none of them has the contract. -/
def Factory.IsStateless (contract : Contract κ (Decider κ)) (f : Factory κ) : Prop :=
  (∃ reply : κ → Reply Bool, ∀ n, ∃ evaluator decider, f.outcome n = .built evaluator ∧
      contract.view? evaluator = some decider ∧
      ∀ past context, decider.respond past context = reply context) ∨
    ∀ n, ∃ evaluator, f.outcome n = .built evaluator ∧ contract.view? evaluator = none

/-- A registry of such factories. -/
def Registry.IsStateless (contract : Contract κ (Decider κ)) (registry : Registry κ) : Prop :=
  ∀ name g, registry.get? name = some g → g.factory.IsStateless contract

/-- A factory that always succeeds is run with success. -/
theorem Registration.run_of_built {g : Registration κ} {w : World κ} {evaluator : Evaluator κ}
    (h : g.factory.outcome (w.runsOf g.serial) = .built evaluator) :
    ∃ w', g.run w = (.ok ⟨w.instances, evaluator⟩, w') := by
  unfold Registration.run
  rw [h]
  exact ⟨_, rfl⟩

/-! ## Building and resolving -/

/-- What building for a site comes to in a registry of stateless evaluators: an error is the one of
the decision without memory, and an instance replies as that decision does. -/
theorem Resolver.instantiate_decideAnew {g : Gate κ} (h : g.registry.IsStateless g.contract)
    (site : CallSite) (w : World κ) :
    (∀ e, (Resolver.instantiate g site w).1 = .error e →
      ∀ context, g.decideAnew site context = .error (.binding e)) ∧
    ∀ s, (Resolver.instantiate g site w).1 = .ok s →
      ∀ past context, verdict site (s.evaluator.respond past context) =
        g.decideAnew site context := by
  unfold Resolver.instantiate Gate.decideAnew
  cases hname : site.evaluatorName g.naming with
  | error e => simp
  | ok name =>
    cases hg : g.registry.get? name with
    | none => simp [hg]
    | some registration =>
      simp only [hg]
      -- the decision looks at the first instance, and building gives the next one
      obtain ⟨reply, hreply⟩ | hmismatch := h name registration hg
      · obtain ⟨first, firstDecider, houtcome, hview, hfirst⟩ := hreply 0
        obtain ⟨evaluator, decider, hbuilt, hview', hrespond⟩ :=
          hreply (w.runsOf registration.serial)
        obtain ⟨w', hrun⟩ := Registration.run_of_built hbuilt
        simp [hrun, houtcome, hview, hview', hfirst, hrespond]
      · obtain ⟨first, houtcome, hview⟩ := hmismatch 0
        obtain ⟨evaluator, hbuilt, hview'⟩ := hmismatch (w.runsOf registration.serial)
        obtain ⟨w', hrun⟩ := Registration.run_of_built hbuilt
        simp [hrun, houtcome, hview, hview']

/-- Every kept instance replies to its site as the decision without memory does. -/
def Gate.IsTransparent (g : Gate κ) : Prop :=
  ∀ site s, g.cache.get? site = some s → ∀ past context,
    verdict site (s.evaluator.respond past context) = g.decideAnew site context

/-- Decisions without memory depend on the names, the registry and the contract only, which do not
change in a resolution. -/
theorem Gate.decideAnew_resolve (g : Gate κ) (site : CallSite) (w : World κ) :
    Gate.decideAnew (g.resolve site w).2.1 = g.decideAnew := by
  obtain ⟨hnaming, hcontract, hregistry⟩ := g.resolve_frame site w
  funext x context
  unfold Gate.decideAnew
  rw [hnaming, hcontract, hregistry]

/-- An instance that a site is resolved to replies as the decision without memory does, and where
there is none that decision is the same error. -/
theorem Gate.IsTransparent.answers {g : Gate κ} (ht : g.IsTransparent)
    (h : g.registry.IsStateless g.contract) (site : CallSite) (w : World κ) :
    (∀ e, (g.resolve site w).1 = .error e →
      ∀ context, g.decideAnew site context = .error (.binding e)) ∧
    ∀ s, (g.resolve site w).1 = .ok s → ∀ past context,
      verdict site (s.evaluator.respond past context) = g.decideAnew site context := by
  cases hkept : g.cache.get? site with
  | some s =>
    rw [Resolver.resolve_of_kept w hkept]
    constructor
    · intro e he
      cases he
    · intro t ht'
      cases ht'
      exact ht site s hkept
  | none =>
    have hbuild := Resolver.instantiate_decideAnew h site w
    rw [Resolver.resolve_of_not_kept w hkept]
    split <;> rename_i hresult <;> rw [hresult] at hbuild <;> exact hbuild

/-- Resolving keeps instances only that reply as the decision without memory does. -/
theorem Gate.IsTransparent.resolve {g : Gate κ} (ht : g.IsTransparent)
    (h : g.registry.IsStateless g.contract) (site : CallSite) (w : World κ) :
    Gate.IsTransparent (g.resolve site w).2.1 := by
  intro x s hs
  rw [Gate.decideAnew_resolve]
  rw [Resolver.get?_resolve] at hs
  split at hs
  · rename_i hx
    subst hx
    exact (ht.answers h x w).2 s (eq_ok_of_toOption hs)
  · exact ht x s hs

/-- A gate whose kept instances reply like new ones decides as if it had no memory. -/
theorem Gate.IsTransparent.check {g : Gate κ} (ht : g.IsTransparent)
    (h : g.registry.IsStateless g.contract) (site : CallSite) (context : κ) (w : World κ) :
    (g.check site context w).1 = g.decideAnew site context := by
  obtain ⟨herror, hok⟩ := ht.answers h site w
  cases hresolved : (g.resolve site w).1 with
  | error e => rw [Gate.check_of_error context hresolved, herror e hresolved context]
  | ok s =>
    rw [Gate.check_of_ok context hresolved]
    exact hok s hresolved _ context

/-! ## Runs of requests -/

/-- A gate of stateless evaluators whose instances reply as those of another gate would if that had
no memory. -/
structure Gate.ActsLike (g start : Gate κ) : Prop where
  stateless : g.registry.IsStateless g.contract
  transparent : g.IsTransparent
  decisions : g.decideAnew = start.decideAnew

/-- A new gate of stateless evaluators acts as if it had no memory, since it has none. -/
theorem Gate.actsLike_new (naming : Naming) (contract : Contract κ (Decider κ))
    {registry : Registry κ} (h : registry.IsStateless contract) :
    Gate.ActsLike { naming, contract, registry } { naming, contract, registry } where
  stateless := h
  transparent site s hs := by cases hs
  decisions := rfl

/-- Serving a request gives the answer of a gate without memory, and goes on like that. -/
theorem Gate.ActsLike.event {m : Moment κ} {start : Gate κ} (h : m.gate.ActsLike start)
    (q : Request κ τ) :
    (q.event m).answer = q.answerAnew start ∧ (q.event m).after.gate.ActsLike start := by
  refine ⟨?_, ?_⟩
  · unfold Request.event Request.answerAnew
    rw [Request.serve_eq, h.transparent.check h.stateless, h.decisions]
  · obtain ⟨-, hcontract, hregistry⟩ := m.gate.resolve_frame q.site m.world
    rw [q.event_gate]
    constructor
    case stateless =>
      rw [hcontract, hregistry]
      exact h.stateless
    case transparent => exact h.transparent.resolve h.stateless q.site m.world
    case decisions => rw [Gate.decideAnew_resolve, h.decisions]

/-- So it is with all answers of a run. -/
theorem Gate.ActsLike.serveAll {m : Moment κ} {start : Gate κ} (h : m.gate.ActsLike start)
    (requests : List (Request κ τ)) :
    (m.serveAll requests).1.map Event.answer = requests.map (·.answerAnew start) := by
  induction requests generalizing m with
  | nil => rfl
  | cons q rest ih =>
    obtain ⟨hanswer, hnext⟩ := h.event q
    rw [List.map_cons, ← hanswer, ← ih hnext]
    rfl

/-- For every registry of stateless evaluators, all patterns and every run of requests to a new
gate: each answer is the one of a gate without memory, so the answers to some requests are the same
whatever has been requested before them. -/
theorem Moment.answers_serveAll (naming : Naming) (contract : Contract κ (Decider κ))
    (registry : Registry κ) (h : registry.IsStateless contract) (w w' : World κ)
    (earlier earlier' requests : List (Request κ τ)) :
    let gate : Gate κ := { naming, contract, registry }
    (Moment.serveAll ⟨gate, w⟩ requests).1.map Event.answer =
        requests.map (·.answerAnew gate) ∧
      ((Moment.serveAll ⟨gate, w⟩ (earlier ++ requests)).1.map Event.answer).drop earlier.length =
        ((Moment.serveAll ⟨gate, w'⟩ (earlier' ++ requests)).1.map Event.answer).drop
          earlier'.length := by
  intro gate
  have hanswers (w : World κ) (requests : List (Request κ τ)) :
      (Moment.serveAll ⟨gate, w⟩ requests).1.map Event.answer =
        requests.map (·.answerAnew gate) :=
    Gate.ActsLike.serveAll (Gate.actsLike_new naming contract h) requests
  refine ⟨hanswers w requests, ?_⟩
  rw [hanswers, hanswers, List.map_append, List.map_append, List.drop_left' (List.length_map _),
    List.drop_left' (List.length_map _)]

/-- A registry with one evaluator, which panics for zero and allows one. -/
def pagesRegistry : Registry Nat :=
  ({} : Registry Nat).register "shop::Page$SimpleJelEvaluator"
    ⟨0, .always (.decider ⟨fun _ n =>
      if n = 0 then .panicked (.text "no page") else .value (n == 1)⟩)⟩

/-- Requests to two sites that look for this evaluator, and to one that looks for another. -/
def pagesRequests : List (Request Nat Unit) :=
  [.check ⟨"shop::Page<u8>", none⟩ 0, .guard ⟨"shop::Page<u16>", none⟩ 1 (),
   .check ⟨"shop::Page<u8>", none⟩ 2, .guardAsync ⟨"shop::Cart", none⟩ 1 ()]

/-- The answers to these requests, whatever has happened before. -/
theorem answers_serveAll_pages :
    pagesRegistry.IsStateless (Contract.decision "usize") ∧
      ∀ (w : World Nat), (Moment.serveAll
          ⟨{ naming := .standard, contract := .decision "usize", registry := pagesRegistry }, w⟩
          pagesRequests).1.map Event.answer =
        [.error (.evaluation "shop::Page" "no page"), .ok (some ()),
         .error (.denied "shop::Page"),
         .error (.binding (.notFound "shop::Cart$SimpleJelEvaluator"))] := by
  have hstateless : pagesRegistry.IsStateless (Contract.decision "usize") := by
    intro name g hg
    obtain ⟨-, rfl⟩ := Prod.mk.inj (List.mem_singleton.1 (mem_of_lookup hg))
    exact .inl ⟨_, fun n => ⟨_, _, rfl, rfl, fun past context => rfl⟩⟩
  refine ⟨hstateless, ?_⟩
  intro w
  rw [(Moment.answers_serveAll .standard (Contract.decision "usize") pagesRegistry hstateless w w
    [] [] pagesRequests).1]
  have hname (site : CallSite) (hmethod : site.method = none) (hfree : '$' ∉ site.typeName.toList) :
      site.evaluatorName .standard = .ok (Naming.standardName site.typeName none) := by
    unfold CallSite.evaluatorName
    rw [hmethod]
    exact Naming.evaluatorName_standard ⟨hfree, fun _ h => by cases h⟩
  simp only [pagesRequests, List.map_cons, List.map_nil, Request.answerAnew, Gate.decideAnew,
    Request.site, Request.context, hname ⟨"shop::Page<u8>", none⟩ rfl (by decide),
    hname ⟨"shop::Page<u16>", none⟩ rfl (by decide), hname ⟨"shop::Cart", none⟩ rfl (by decide)]
  rfl

end ExprGate.Access
