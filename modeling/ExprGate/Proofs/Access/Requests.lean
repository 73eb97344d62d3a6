import ExprGate.Access.Requests
import ExprGate.Proofs.Access.Resolution

/-!
# The gate fails closed

Whatever requests are served, a wrapped call runs exactly when its request is answered favourably,
and that happens only if the evaluator of the request's site was evaluated on the request's context
and replied `true`. `Event.Evaluated` says that an evaluation took place and what it came to;
`Event.Faithful` says that the answer is the one that this calls for, kind by kind.

Every event of a run is faithful (`Request.faithful_event`). An instance that was evaluated once is
kept, so every later request on its site is decided by it, also if the evaluation was a panic
(`Moment.evaluated_of_kept`).
-/

set_option autoImplicit false

namespace ExprGate.Access

variable {κ τ : Type}

/-! ## What an event comes to -/

/-- The request's site was resolved to the instance `s`, which is kept for it, and that was
evaluated once, on the request's context, with the given reply. -/
structure Event.Evaluated (e : Event κ τ) (s : Shared (Decider κ)) (reply : Reply Bool) : Prop where
  resolved : (e.before.gate.resolve e.request.site e.before.world).1 = .ok s
  kept : e.after.gate.cache.get? e.request.site = some s
  replied : s.evaluator.respond (e.before.world.historyOf s.id) e.request.context = reply
  logged : e.after.world.evaluations =
    e.before.world.evaluations ++ [(s.id, e.request.context)]

/-- The answer and the effects of an event are those that the resolution of its site and the reply
of the evaluator call for. -/
structure Event.Faithful (e : Event κ τ) : Prop where
  /-- The wrapped call runs once if the answer is favourable, and else it does not run. -/
  calls : e.after.world.calls = e.before.world.calls + if e.isCall then 1 else 0
  /-- A favourable answer is the result of the wrapped call. -/
  result : ∀ r, e.answer = .ok r → r = e.request.result?
  allowed : e.answer.isOk ↔ ∃ s, e.Evaluated s (.value true)
  denied : ∀ label, e.answer = .error (.denied label) ↔
    label = e.request.site.label ∧ ∃ s, e.Evaluated s (.value false)
  panicked : ∀ label message, e.answer = .error (.evaluation label message) ↔
    label = e.request.site.label ∧
      ∃ s payload, e.Evaluated s (.panicked payload) ∧ message = payload.message
  unbound : ∀ source, e.answer = .error (.binding source) ↔
    (e.before.gate.resolve e.request.site e.before.world).1 = .error source
  /-- Without evaluator, nothing is evaluated. -/
  unevaluated : ∀ source, e.answer = .error (.binding source) →
    e.after.world.evaluations = e.before.world.evaluations
  /-- Kept instances stay kept. -/
  kept : ∀ site s, e.before.gate.cache.get? site = some s →
    e.after.gate.cache.get? site = some s

/-- An event has one evaluation at most. -/
theorem Event.Evaluated.unique {e : Event κ τ} {s t : Shared (Decider κ)}
    {reply reply' : Reply Bool} (h : e.Evaluated s reply) (h' : e.Evaluated t reply') :
    s = t ∧ reply = reply' := by
  have hinstance : s = t := by
    have hresolved := h.resolved
    rw [h'.resolved] at hresolved
    cases hresolved
    rfl
  subst hinstance
  exact ⟨rfl, h.replied.symm.trans h'.replied⟩

/-! ## Serving a request -/

/-- Without evaluator the gate answers with the reason and does nothing more. -/
theorem Gate.check_of_error {g : Gate κ} {site : CallSite} {w : World κ} {source : ResolveError}
    (context : κ) (h : (g.resolve site w).1 = .error source) :
    g.check site context w = (.error (.binding source), (g.resolve site w).2) := by
  unfold Gate.check
  rcases hresolve : g.resolve site w with ⟨result, g', w'⟩
  rw [hresolve] at h
  cases h
  rfl

/-- With an evaluator the gate evaluates once and answers with its verdict. -/
theorem Gate.check_of_ok {g : Gate κ} {site : CallSite} {w : World κ} {s : Shared (Decider κ)}
    (context : κ) (h : (g.resolve site w).1 = .ok s) :
    g.check site context w =
      (verdict site (s.evaluator.respond (w.historyOf s.id) context),
        (g.resolve site w).2.1,
        { (g.resolve site w).2.2 with
          evaluations := w.evaluations ++ [(s.id, context)] }) := by
  have hpast := (g.resolve_world site w).1
  unfold Gate.check
  rcases hresolve : g.resolve site w with ⟨result, g', w'⟩
  rw [hresolve] at h hpast
  cases h
  simp only [World.evaluate, World.historyOf] at hpast ⊢
  rw [hpast]

/-- A call runs after a favourable decision only. -/
theorem Gate.guard_eq (g : Gate κ) (site : CallSite) (context : κ) (result : τ) (w : World κ) :
    g.guard site context result w =
      ((g.check site context w).1.map fun _ => result,
        (g.check site context w).2.1,
        if (g.check site context w).1.isOk then (g.check site context w).2.2.call
        else (g.check site context w).2.2) := by
  unfold Gate.guard
  rcases g.check site context w with ⟨answer, g', w'⟩
  cases answer with
  | error e => rfl
  | ok _ => rfl

/-- All forms of requests are served alike: the gate checks the context, and a wrapped call runs
after a favourable answer. -/
theorem Request.serve_eq (q : Request κ τ) (m : Moment κ) :
    q.serve m =
      ((m.gate.check q.site q.context m.world).1.map fun _ => q.result?,
        ⟨(m.gate.check q.site q.context m.world).2.1,
          if q.result?.isSome && (m.gate.check q.site q.context m.world).1.isOk then
            (m.gate.check q.site q.context m.world).2.2.call
          else (m.gate.check q.site q.context m.world).2.2⟩) := by
  have hresult (answer : Except GateError Unit) (result : τ) :
      (answer.map fun _ => result).map some = answer.map fun _ => some result := by
    cases answer <;> rfl
  cases q with
  | check site context => rfl
  | guard site context result =>
    simp only [Request.serve, Gate.guard_eq, hresult]
    simp [Request.site, Request.context, Request.result?]
  | guardAsync site context result =>
    simp only [Request.serve, Gate.guard_eq, hresult]
    simp [Request.site, Request.context, Request.result?]

/-- An event changes the gate as resolving its site does. -/
theorem Request.event_gate (q : Request κ τ) (m : Moment κ) :
    (q.event m).after.gate = (m.gate.resolve q.site m.world).2.1 := by
  unfold Request.event
  rw [Request.serve_eq]
  cases hresolved : (m.gate.resolve q.site m.world).1 with
  | error source => rw [Gate.check_of_error q.context hresolved]
  | ok s => rw [Gate.check_of_ok q.context hresolved]

/-- If the site cannot be resolved, the event is an error without evaluation and without call. -/
theorem Request.event_of_error {q : Request κ τ} {m : Moment κ} {source : ResolveError}
    (h : (m.gate.resolve q.site m.world).1 = .error source) :
    (q.event m).answer = .error (.binding source) ∧
      (q.event m).after.world.evaluations = m.world.evaluations ∧
      (q.event m).after.world.calls = m.world.calls := by
  have hworld := m.gate.resolve_world q.site m.world
  unfold Request.event
  rw [Request.serve_eq, Gate.check_of_error q.context h]
  simpa [Except.map, Except.isOk, Except.toBool] using hworld

/-- If the site is resolved, its instance is evaluated, and the call runs after a favourable
verdict. -/
theorem Request.event_of_ok {q : Request κ τ} {m : Moment κ} {s : Shared (Decider κ)}
    (h : (m.gate.resolve q.site m.world).1 = .ok s) :
    ∃ reply, (q.event m).Evaluated s reply ∧
      (q.event m).answer = (verdict q.site reply).map (fun _ => q.result?) ∧
      (q.event m).after.world.calls = m.world.calls + if (q.event m).isCall then 1 else 0 := by
  have hcalls := (m.gate.resolve_world q.site m.world).2
  have hkept := Resolver.resolve_ok_kept h
  have hgate := q.event_gate m
  refine ⟨s.evaluator.respond (m.world.historyOf s.id) q.context, ⟨h, ?_, rfl, ?_⟩, ?_, ?_⟩
  · rw [hgate]
    exact hkept
  · unfold Request.event
    rw [Request.serve_eq, Gate.check_of_ok q.context h]
    dsimp only
    split <;> rfl
  · unfold Request.event
    rw [Request.serve_eq, Gate.check_of_ok q.context h]
  · unfold Event.isCall Request.event
    rw [Request.serve_eq, Gate.check_of_ok q.context h]
    cases hreply : verdict q.site (s.evaluator.respond (m.world.historyOf s.id) q.context) with
    | error e => simpa [Except.map, Except.isOk, Except.toBool] using hcalls
    | ok _ =>
      cases q.result? <;> simpa [Except.map, Except.isOk, Except.toBool, World.call] using hcalls

/-! ## Every event is faithful -/

/-- An event without evaluator is faithful if it is an error and does nothing. -/
theorem Event.faithful_of_error {e : Event κ τ} {source : ResolveError}
    (hresolved : (e.before.gate.resolve e.request.site e.before.world).1 = .error source)
    (hanswer : e.answer = .error (.binding source))
    (hevaluations : e.after.world.evaluations = e.before.world.evaluations)
    (hcalls : e.after.world.calls = e.before.world.calls)
    (hkept : ∀ site s, e.before.gate.cache.get? site = some s →
      e.after.gate.cache.get? site = some s) : e.Faithful := by
  have hnone (s : Shared (Decider κ)) (reply : Reply Bool) : ¬ e.Evaluated s reply := by
    intro h
    have hs := h.resolved
    rw [hresolved] at hs
    cases hs
  constructor
  case calls => simpa [Event.isCall, hanswer, Except.isOk, Except.toBool] using hcalls
  case result => simp [hanswer]
  case allowed => simp [hanswer, hnone, Except.isOk, Except.toBool]
  case denied => simp [hanswer, hnone]
  case panicked => simp [hanswer, hnone]
  case unbound => simp [hanswer, hresolved]
  case unevaluated =>
    intro _ _
    exact hevaluations
  case kept => exact hkept

/-- An event with an evaluation is faithful if its answer is the verdict and the call follows the
answer. -/
theorem Event.faithful_of_evaluated {e : Event κ τ} {s : Shared (Decider κ)} {reply : Reply Bool}
    (hevaluated : e.Evaluated s reply)
    (hanswer : e.answer = (verdict e.request.site reply).map fun _ => e.request.result?)
    (hcalls : e.after.world.calls = e.before.world.calls + if e.isCall then 1 else 0)
    (hkept : ∀ site s, e.before.gate.cache.get? site = some s →
      e.after.gate.cache.get? site = some s) : e.Faithful := by
  -- the resolution fixes the instance, so the evaluation and its reply are the only ones
  have honly (x : Reply Bool) : (∃ t, e.Evaluated t x) ↔ x = reply := by
    constructor
    · rintro ⟨t, ht⟩
      exact (ht.unique hevaluated).2
    · rintro rfl
      exact ⟨s, hevaluated⟩
  have hpanic (message : String) :
      (∃ t payload, e.Evaluated t (.panicked payload) ∧ message = payload.message) ↔
        ∃ payload, reply = .panicked payload ∧ message = payload.message := by
    constructor
    · rintro ⟨t, payload, ht, hmessage⟩
      exact ⟨payload, (hevaluated.unique ht).2, hmessage⟩
    · rintro ⟨payload, rfl, hmessage⟩
      exact ⟨s, payload, hevaluated, hmessage⟩
  have hunbound (source : ResolveError) : e.answer ≠ .error (.binding source) := by
    rw [hanswer]
    rcases reply with ⟨_ | _⟩ | payload <;> simp [verdict, Except.map]
  constructor
  case calls => exact hcalls
  case kept => exact hkept
  case result =>
    intro r hr
    rw [hanswer] at hr
    rcases reply with ⟨_ | _⟩ | payload <;> simp_all [verdict, Except.map]
  case allowed =>
    rw [honly, hanswer]
    rcases reply with ⟨_ | _⟩ | payload <;> simp [verdict, Except.map, Except.isOk, Except.toBool]
  case denied =>
    intro label
    rw [honly, hanswer]
    rcases reply with ⟨_ | _⟩ | payload <;> simp [verdict, Except.map, eq_comm]
  case panicked =>
    intro label message
    rw [hpanic, hanswer]
    rcases reply with ⟨_ | _⟩ | payload <;> simp [verdict, Except.map, eq_comm]
  case unbound =>
    intro source
    constructor
    · intro h
      exact absurd h (hunbound source)
    · intro h
      rw [hevaluated.resolved] at h
      cases h
  case unevaluated =>
    intro source h
    exact absurd h (hunbound source)

/-- Every event is faithful. -/
theorem Request.faithful_event (q : Request κ τ) (m : Moment κ) : (q.event m).Faithful := by
  have hkept (site : CallSite) (s : Shared (Decider κ)) (h : m.gate.cache.get? site = some s) :
      (q.event m).after.gate.cache.get? site = some s := by
    rw [q.event_gate m]
    exact Resolver.resolve_keeps m.world h
  cases hresolved : (m.gate.resolve q.site m.world).1 with
  | error source =>
    obtain ⟨hanswer, hevaluations, hcalls⟩ := Request.event_of_error hresolved
    exact Event.faithful_of_error hresolved hanswer hevaluations hcalls hkept
  | ok s =>
    obtain ⟨reply, hevaluated, hanswer, hcalls⟩ := Request.event_of_ok hresolved
    exact Event.faithful_of_evaluated hevaluated hanswer hcalls hkept

/-! ## Runs -/

/-- An instance that is kept decides every request on its site. -/
theorem Request.event_of_kept {q : Request κ τ} {m : Moment κ} {s : Shared (Decider κ)}
    (h : m.gate.cache.get? q.site = some s) : ∃ reply, (q.event m).Evaluated s reply := by
  have hresolved : (m.gate.resolve q.site m.world).1 = .ok s := by
    rw [Resolver.resolve_of_kept m.world h]
  obtain ⟨reply, hevaluated, -⟩ := Request.event_of_ok hresolved
  exact ⟨reply, hevaluated⟩

/-- An instance that is kept for a site decides all later requests on the site. -/
theorem Moment.evaluated_of_kept {m : Moment κ} {site : CallSite} {s : Shared (Decider κ)}
    (h : m.gate.cache.get? site = some s) (requests : List (Request κ τ)) :
    ∀ e ∈ (m.serveAll requests).1, e.request.site = site → ∃ reply, e.Evaluated s reply := by
  induction requests generalizing m with
  | nil =>
    intro e he
    cases he
  | cons q rest ih =>
    intro e he hsite
    obtain rfl | he := List.mem_cons.1 he
    · subst hsite
      exact Request.event_of_kept h
    · exact ih ((q.faithful_event m).kept site s h) e he hsite

/-- For every gate and every run of requests, whatever factories and evaluators do: each request
has one event, which is faithful, so a call runs only after the evaluator of its site has replied
`true`; the calls that have run are as many as the wrapping requests with a favourable answer; and
once an instance has been evaluated for a site, panic or not, it decides all later requests on that
site. -/
theorem Moment.serveAll_faithful (m : Moment κ) (requests : List (Request κ τ)) :
    (m.serveAll requests).1.map Event.request = requests ∧
      (∀ e ∈ (m.serveAll requests).1, e.Faithful) ∧
      (m.serveAll requests).2.world.calls =
        m.world.calls + (m.serveAll requests).1.countP Event.isCall ∧
      (m.serveAll requests).1.Pairwise fun e later =>
        ∀ s reply, e.Evaluated s reply → later.request.site = e.request.site →
          ∃ reply', later.Evaluated s reply' := by
  induction requests generalizing m with
  | nil =>
    refine ⟨rfl, ?_, rfl, List.Pairwise.nil⟩
    intro e he
    cases he
  | cons q rest ih =>
    obtain ⟨hrequests, hfaithful, hcalls, hpairs⟩ := ih (q.event m).after
    have hevent := q.faithful_event m
    refine ⟨congrArg (q :: ·) hrequests, ?_, ?_, ?_⟩
    · intro e he
      obtain rfl | he := List.mem_cons.1 he
      · exact hevent
      · exact hfaithful e he
    · have hfirst : (q.event m).after.world.calls =
          m.world.calls + if (q.event m).isCall then 1 else 0 := hevent.calls
      change ((q.event m).after.serveAll rest).2.world.calls =
        m.world.calls + (q.event m :: ((q.event m).after.serveAll rest).1).countP Event.isCall
      rw [List.countP_cons, hcalls, hfirst]
      omega
    · refine List.pairwise_cons.2 ⟨?_, hpairs⟩
      intro later hlater s reply hevaluated hsite
      exact Moment.evaluated_of_kept hevaluated.kept rest later hlater hsite

end ExprGate.Access
