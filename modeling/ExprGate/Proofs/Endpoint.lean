import Mathlib.Data.List.Dedup
import ExprGate.Endpoint
import ExprGate.Proofs.Access.Retention
import ExprGate.Proofs.Access.Transparency

/-!
# The policy of the secured endpoint

`Call.policy?` writes down what the service promises: who may make which guarded call, what an
allowed call gives, and how a refused one is answered. It knows nothing of evaluators, names and
caches.

The rules keep no state, so the gate of the service decides as a gate without memory would
(`Service.Stands.acts`), and such a gate decides as the policy says, call by call
(`Call.decideAnew_policy`). One call after another the gate keeps the evaluators of the sites used
so far, whatever was answered there; the site without rule is the only one for which nothing is kept
(`Service.Stands.step_guarded`).
-/

set_option autoImplicit false

namespace ExprGate.Endpoint

open Access Placeholder

/-! ## The policy -/

/-- The caller has a token, and it is not empty. -/
def Claims.HasToken (c : Claims) : Prop :=
  ∃ token, c.rawToken = some token ∧ token ≠ ""

/-- Claims are authenticated if they have a token that is not empty. -/
theorem Claims.isAuthenticated_iff (c : Claims) : c.isAuthenticated = true ↔ c.HasToken := by
  simp [Claims.isAuthenticated, Claims.HasToken, Option.any_eq_true]

/-- Claims have the groups that they list. -/
theorem Claims.hasGroup_iff (c : Claims) (group : String) :
    c.hasGroup group = true ↔ group ∈ c.groups := by
  simp [Claims.hasGroup]

instance (c : Claims) : Decidable c.HasToken :=
  decidable_of_iff _ c.isAuthenticated_iff

/-- A call that gives `result` to those who may make it; others are denied the site. -/
def allowIf (allowed : Prop) [Decidable allowed] (site : String) (result : Result) :
    Except GateError Result :=
  if allowed then .ok result else .error (.denied site)

/-- What a guarded call is to be answered with. -/
def Call.policy? (orders : List String) (claims : Claims) :
    Call → Option (Except GateError Result)
  | .list => some <|
    allowIf claims.HasToken "secured_endpoint::orders::Orders::list" (.orders orders)
  | .deleteAll => some <|
    allowIf (claims.HasToken ∧ "admin" ∈ claims.groups)
      "secured_endpoint::orders::Orders::delete_all" (.count orders.length)
  | .exportOrders => some <|
    allowIf (claims.HasToken ∧ "auditor" ∈ claims.groups)
      "secured_endpoint::orders::Orders::export" (.text (",".intercalate orders))
  | .monthlyReport => some <|
    allowIf (claims.HasToken ∧ "auditor" ∈ claims.groups)
      "secured_endpoint::orders::Reports" (.text "monthly")
  | .audit => some <|
    .error (.evaluation "secured_endpoint::orders::Orders::audit" "claims backend unavailable")
  | .count => some <|
    .error (.binding (.notFound "secured_endpoint::orders::Orders_count$MpJwtSecuredBy"))
  | .dummy _ | .names | .claims _ => none

/-- The site at which a call is guarded. -/
def Call.site? (call : Call) : Option CallSite :=
  (call.guarded? []).map Prod.fst

/-- The sites with a rule that some calls use. -/
def ruledSites (calls : List Call) : List CallSite :=
  (calls.filter (· ≠ .count)).filterMap Call.site?

/-- The site of a call has nothing to do with the orders. -/
theorem Call.site?_of_guarded {call : Call} {orders : List String} {site : CallSite}
    {result : Result} (h : call.guarded? orders = some (site, result)) :
    call.site? = some site := by
  cases call <;> cases h <;> rfl

/-- A call that is not guarded has no site. -/
theorem Call.site?_of_unguarded {call : Call} {orders : List String}
    (h : call.guarded? orders = none) : call.site? = none := by
  cases call <;> first | rfl | cases h

/-- The policy says nothing about a call that is not guarded. -/
theorem Call.policy?_of_unguarded {call : Call} {orders : List String} {claims : Claims}
    (h : call.guarded? orders = none) : call.policy? orders claims = none := by
  cases call <;> first | rfl | cases h

/-- One call more adds its site, if it has one with a rule. -/
theorem mem_ruledSites_concat {calls : List Call} {call : Call} {site : CallSite} :
    site ∈ ruledSites (calls ++ [call]) ↔
      site ∈ ruledSites calls ∨ call ≠ .count ∧ call.site? = some site := by
  unfold ruledSites
  rw [List.filter_append, List.filterMap_append, List.mem_append]
  by_cases hcount : call = .count <;> simp [hcount]

/-! ## The rules -/

/-- The end of both patterns of `SecuredBy`. -/
def ruleSuffix : List Char := '$' :: "MpJwtSecuredBy".toList

/-- The name that the patterns of `SecuredBy` give. -/
def ruleName (className : String) (method : Option String) : String :=
  String.ofList <|
    className.toList ++ ((method.elim [] fun name => '_' :: name.toList) ++ ruleSuffix)

/-- The class pattern is a placeholder for the class and a text behind it. -/
theorem pieces_classPattern : pieces securedBy.classPattern.toList =
    .placeholder ⟨"class".toList⟩ :: pieces ruleSuffix :=
  pieces_opening rfl

/-- The pattern for methods is two placeholders with a low line between them, and the suffix. -/
theorem pieces_methodPattern : pieces securedBy.methodPattern.toList =
    .placeholder ⟨"class".toList⟩ :: .literal ['_'] :: .placeholder ⟨"method".toList⟩ ::
      pieces ruleSuffix := by
  have hclass : pieces securedBy.methodPattern.toList =
      .placeholder ⟨"class".toList⟩ ::
        pieces ('_' :: '$' :: '{' :: ("method\x7d".toList ++ ruleSuffix)) :=
    pieces_opening rfl
  rw [hclass, pieces_cons (by simp) (by simp)]
  exact congrArg _ (congrArg _ (pieces_opening rfl))

/-- The end of the patterns comes to itself. -/
theorem expandPieces_ruleSuffix (b : Bindings) :
    expandPieces b .strict [] (pieces ruleSuffix) = .ok ruleSuffix :=
  expand_of_verbatim b .strict [] rfl

/-- The patterns of `SecuredBy` name every declaration without dollar sign. -/
theorem evaluatorName_securedBy {className : String} {method : Option String}
    (h : Naming.IsDollarFree className method) :
    securedBy.evaluatorName className method = .ok (ruleName className method) := by
  have hclass (b : Bindings) :
      expand b .strict ["class".toList] className.toList = .ok className.toList :=
    expand_of_verbatim b .strict _ (.of_not_mem h.className)
  have hexpand : expand (Naming.bindings className method) .strict []
      (securedBy.patternFor method).toList =
        .ok (className.toList ++
          ((method.elim [] fun name => '_' :: name.toList) ++ ruleSuffix)) := by
    cases method with
    | none =>
      refine (congrArg _ pieces_classPattern).trans ?_
      exact expandPieces_bound List.not_mem_nil (Naming.value?_class className none) (hclass _)
        (expandPieces_ruleSuffix _)
    | some name =>
      have hmethod : expandPieces (Naming.bindings className (some name)) .strict []
          (.placeholder ⟨"method".toList⟩ :: pieces ruleSuffix) = .ok (name.toList ++ ruleSuffix) :=
        expandPieces_bound List.not_mem_nil (Naming.value?_method className name)
          (expand_of_verbatim _ _ _ (.of_not_mem (h.method name rfl))) (expandPieces_ruleSuffix _)
      refine (congrArg _ pieces_methodPattern).trans ?_
      exact expandPieces_bound List.not_mem_nil (Naming.value?_class className (some name))
        (hclass _) (expandPieces_literal ['_'] hmethod)
  refine Naming.evaluatorName_of_expand hexpand ?_
  rw [List.all_eq_false]
  have hdollar : '$' ∈ ruleSuffix := List.mem_cons_self
  exact ⟨'$', by simp [hdollar], by decide⟩

/-- The names at the site of a call have no dollar sign. -/
theorem Call.isDollarFree {call : Call} {site : CallSite} (h : call.site? = some site) :
    Naming.IsDollarFree site.typeName site.method := by
  cases call <;> cases h <;> exact ⟨by decide, by rintro _ ⟨⟩ <;> decide⟩

/-- The rules keep no state: an evaluator that decides looks at the claims only. -/
theorem rules_stateless (contract : String) :
    ∀ rule ∈ rules, (Factory.always rule.2).IsStateless (.decision contract) := by
  have hdecider (reply : Claims → Reply Bool) :
      (Factory.always (.decider ⟨fun _ => reply⟩)).IsStateless (.decision contract) :=
    .inl ⟨reply, fun _ => ⟨_, _, rfl, rfl, fun _ _ => rfl⟩⟩
  have hinteger (n : Int64) :
      (Factory.always (integerRule n)).IsStateless (.decision contract) :=
    .inr fun _ => ⟨_, rfl, rfl⟩
  simp only [rules, List.forall_mem_cons]
  exact ⟨hinteger 2, hinteger 3, hdecider _, hdecider _, hdecider _, hdecider _, hdecider _,
    List.forall_mem_nil _⟩

/-- The registered rules keep no state. -/
theorem registry_isStateless (contract : String) :
    registry.IsStateless (.decision contract) := by
  intro name g hg
  obtain ⟨i, hi, heq⟩ := List.mem_mapIdx.1 (mem_of_lookup hg)
  obtain ⟨-, rfl⟩ := Prod.mk.inj heq
  exact rules_stateless contract _ (List.getElem_mem hi)

/-! ## A gate without memory follows the policy -/

/-- The gate of a service before its first call. -/
def newGate : Gate Claims :=
  { naming := securedBy, contract := .decision "secured_endpoint::auth::Claims", registry }

/-- A rule decides about the site whose name it is registered under. -/
theorem decideAnew_of_rule {site : CallSite} {i : Nat} {decider : Decider Claims}
    (hfree : Naming.IsDollarFree site.typeName site.method)
    (hrule : registry.get? (ruleName site.typeName site.method) =
      some ⟨i, .always (.decider decider)⟩) (claims : Claims) :
    newGate.decideAnew site claims = verdict site (decider.respond [] claims) := by
  have hname : site.evaluatorName newGate.naming = .ok (ruleName site.typeName site.method) :=
    evaluatorName_securedBy hfree
  have hget : newGate.registry.get? (ruleName site.typeName site.method) =
      some ⟨i, .always (.decider decider)⟩ := hrule
  simp only [Gate.decideAnew, hname, hget]
  rfl

/-- At a site whose name is not registered no rule is found. -/
theorem decideAnew_of_no_rule {site : CallSite}
    (hfree : Naming.IsDollarFree site.typeName site.method)
    (hrule : registry.get? (ruleName site.typeName site.method) = none) (claims : Claims) :
    newGate.decideAnew site claims =
      .error (.binding (.notFound (ruleName site.typeName site.method))) := by
  have hname : site.evaluatorName newGate.naming = .ok (ruleName site.typeName site.method) :=
    evaluatorName_securedBy hfree
  have hget : newGate.registry.get? (ruleName site.typeName site.method) = none := hrule
  simp only [Gate.decideAnew, hname, hget]

/-- A call runs for those whom the rule accepts. -/
theorem map_verdict_value {accepted : Bool} {allowed : Prop} [Decidable allowed]
    (h : accepted = true ↔ allowed) {site : CallSite} {label : String} (hlabel : site.label = label)
    (result : Result) :
    ((verdict site (.value accepted)).map fun _ => result) = allowIf allowed label result := by
  subst hlabel
  unfold allowIf
  cases accepted with
  | true => exact (if_pos (h.1 rfl)).symm
  | false => exact (if_neg fun hallowed => Bool.false_ne_true (h.2 hallowed)).symm

/-- A gate without memory answers every guarded call as the policy says. -/
theorem Call.decideAnew_policy {call : Call} {orders : List String} {site : CallSite}
    {result : Result} (h : call.guarded? orders = some (site, result)) (claims : Claims) :
    call.policy? orders claims =
      some ((newGate.decideAnew site claims).map fun _ => result) := by
  have hfree := Call.isDollarFree (Call.site?_of_guarded h)
  have htoken := claims.isAuthenticated_iff
  have hmember (group : String) :
      (claims.isAuthenticated && claims.hasGroup group) = true ↔
        claims.HasToken ∧ group ∈ claims.groups := by
    rw [Bool.and_eq_true, claims.isAuthenticated_iff, claims.hasGroup_iff]
  cases call <;> cases h
  case list =>
    rw [decideAnew_of_rule hfree rfl]
    exact congrArg some (map_verdict_value htoken (by decide) _).symm
  case deleteAll =>
    rw [decideAnew_of_rule hfree rfl]
    exact congrArg some (map_verdict_value (hmember "admin") (by decide) _).symm
  case exportOrders =>
    rw [decideAnew_of_rule hfree rfl]
    exact congrArg some (map_verdict_value (hmember "auditor") (by decide) _).symm
  case monthlyReport =>
    rw [decideAnew_of_rule hfree rfl]
    exact congrArg some (map_verdict_value (hmember "auditor") (by decide) _).symm
  case audit =>
    rw [decideAnew_of_rule hfree rfl]
    rfl
  case count =>
    rw [decideAnew_of_no_rule hfree rfl]
    rfl

/-- The policy has no evaluator to offer for `count`, and for this call only. -/
theorem Call.policy?_binding (call : Call) (orders : List String) (claims : Claims) :
    (∃ source, call.policy? orders claims = some (.error (.binding source))) ↔ call = .count := by
  have hallow (allowed : Prop) [Decidable allowed] (site : String) (result : Result)
      (source : ResolveError) : allowIf allowed site result ≠ .error (.binding source) := by
    unfold allowIf
    split <;> simp
  cases call <;> simp [Call.policy?, hallow]

/-- So a gate without memory lacks an evaluator for this call only. -/
theorem Call.decideAnew_binding {call : Call} {orders : List String} {site : CallSite}
    {result : Result} (h : call.guarded? orders = some (site, result)) (claims : Claims) :
    (∃ source, newGate.decideAnew site claims = .error (.binding source)) ↔ call = .count := by
  rw [← call.policy?_binding orders claims, Call.decideAnew_policy h claims]
  refine exists_congr fun source => ?_
  cases newGate.decideAnew site claims with
  | ok _ => simp [Except.map]
  | error e => simp [Except.map]

/-! ## Calls one after another -/

/-- How a service over some orders stands after some calls. -/
structure Service.Stands (s : Service) (orders : List String) (calls : List Call) : Prop where
  orders : s.orders = orders
  /-- The gate decides as a new one without memory. -/
  acts : s.gate.ActsLike newGate
  keyed : s.gate.cache.IsKeyed
  /-- The gate keeps an evaluator for each site that was used, other than the one without rule. -/
  kept : ∀ site, (∃ e, s.gate.cache.get? site = some e) ↔ site ∈ ruledSites calls

/-- A new service stands at the beginning. -/
theorem Service.stands_start (orders : List String) : (Service.start orders).Stands orders [] where
  orders := rfl
  acts := Gate.actsLike_new securedBy _ (registry_isStateless _)
  keyed := List.nodup_nil
  kept site := by
    constructor
    · rintro ⟨e, he⟩
      cases he
    · intro hsite
      cases hsite

/-- The gate keeps as many evaluators as different sites with a rule have been used. -/
theorem Service.Stands.size {s : Service} {orders : List String} {calls : List Call}
    (h : s.Stands orders calls) : s.gate.cache.size = (ruledSites calls).dedup.length := by
  rw [Cache.size_eq_length_filledSites]
  refine List.Perm.length_eq ?_
  rw [List.perm_ext_iff_of_nodup h.keyed.nodup_filledSites (List.nodup_dedup _)]
  intro site
  rw [h.keyed.mem_filledSites, List.mem_dedup]
  exact h.kept site

/-- A gate that acts like a new one resolves the site of every guarded call but `count`. -/
theorem resolve_isSome_iff {g : Gate Claims} (h : g.ActsLike newGate) {call : Call}
    {orders : List String} {site : CallSite} {result : Result}
    (hcall : call.guarded? orders = some (site, result)) (w : World Claims) :
    (∃ e, (g.resolve site w).1.toOption = some e) ↔ call ≠ .count := by
  obtain ⟨herror, hok⟩ := h.transparent.answers h.stateless site w
  rw [h.decisions] at herror hok
  -- any claims will do, since the lack of a rule is the same for all
  have hbinding := Call.decideAnew_binding hcall ⟨none, []⟩
  cases hresolved : (g.resolve site w).1 with
  | error source =>
    have hcount : call = .count := hbinding.1 ⟨source, herror source hresolved _⟩
    simp [Except.toOption, hcount]
  | ok e =>
    have hcount : call ≠ .count := by
      intro heq
      obtain ⟨source, hsource⟩ := hbinding.2 heq
      rw [← hok e hresolved []] at hsource
      generalize e.evaluator.respond [] ⟨none, []⟩ = reply at hsource
      rcases reply with ⟨_ | _⟩ | payload <;> cases hsource
    simp [Except.toOption, hcount]

/-- A guarded call is answered as the policy says, and from then on an evaluator is kept for its
site, unless that has no rule. -/
theorem Service.Stands.step_guarded {s : Service} {orders : List String} {calls : List Call}
    (h : s.Stands orders calls) {call : Call} {site : CallSite} {result : Result}
    (hcall : call.guarded? orders = some (site, result)) (claims : Claims) :
    (∃ answer, call.policy? orders claims = some answer ∧
        (s.step claims call).1 = .guarded answer) ∧
      (s.step claims call).2.Stands orders (calls ++ [call]) := by
  have hserved : s.step claims call =
      (.guarded (s.gate.guard site claims result s.world).1,
        { s with
          gate := (s.gate.guard site claims result s.world).2.1
          world := (s.gate.guard site claims result s.world).2.2 }) := by
    unfold Service.step
    rw [h.orders, hcall]
  let q : Request Claims Result := .guard site claims result
  have hgate : (s.gate.guard site claims result s.world).2.1 =
      (s.gate.resolve site s.world).2.1 :=
    q.event_gate ⟨s.gate, s.world⟩
  have hacts : (s.gate.guard site claims result s.world).2.1.ActsLike newGate :=
    (Gate.ActsLike.event (m := ⟨s.gate, s.world⟩) h.acts q).2
  have hanswer : (s.gate.guard site claims result s.world).1 =
      (newGate.decideAnew site claims).map fun _ => result := by
    rw [Gate.guard_eq, h.acts.transparent.check h.acts.stateless, h.acts.decisions]
  rw [hserved]
  refine ⟨⟨_, Call.decideAnew_policy hcall claims, congrArg Answer.guarded hanswer⟩, ?_⟩
  constructor
  case orders => exact h.orders
  case acts => exact hacts
  case keyed =>
    dsimp only
    rw [hgate]
    exact h.keyed.resolve site s.world
  case kept =>
    intro x
    dsimp only
    rw [hgate, Resolver.get?_resolve, mem_ruledSites_concat, ← h.kept x,
      Call.site?_of_guarded hcall]
    split
    · rename_i hx
      rw [hx, resolve_isSome_iff h.acts hcall]
      constructor
      · exact fun hcount => .inr ⟨hcount, rfl⟩
      · rintro (⟨e, he⟩ | ⟨hcount, -⟩)
        · -- what is kept is the answer of the resolution
          refine (resolve_isSome_iff h.acts hcall s.world).1 ⟨e, ?_⟩
          rw [Resolver.resolve_of_kept s.world he]
          rfl
        · exact hcount
    · rename_i hx
      have hne : some site ≠ some x := fun heq => hx (Option.some.inj heq).symm
      simp [hne]

/-- A call that is not guarded leaves the gate as it is. -/
theorem Service.Stands.step_unguarded {s : Service} {orders : List String} {calls : List Call}
    (h : s.Stands orders calls) {call : Call} (hcall : call.guarded? orders = none)
    (claims : Claims) : (s.step claims call).2.Stands orders (calls ++ [call]) := by
  have hgate : (s.step claims call).2.gate = s.gate ∧ (s.step claims call).2.orders = s.orders := by
    rw [← h.orders] at hcall
    unfold Service.step
    rw [hcall]
    cases call <;> exact ⟨rfl, rfl⟩
  constructor
  case orders => exact hgate.2.trans h.orders
  case acts =>
    rw [hgate.1]
    exact h.acts
  case keyed =>
    rw [hgate.1]
    exact h.keyed
  case kept =>
    intro site
    rw [hgate.1, h.kept, mem_ruledSites_concat, Call.site?_of_unguarded hcall]
    simp

/-- Whatever is called, the service goes on to stand as it should, and a guarded call is answered as
the policy says. -/
theorem Service.Stands.step {s : Service} {orders : List String} {calls : List Call}
    (h : s.Stands orders calls) (claims : Claims) (call : Call) :
    (∀ answer, call.policy? orders claims = some answer →
        (s.step claims call).1 = .guarded answer) ∧
      (s.step claims call).2.Stands orders (calls ++ [call]) := by
  cases hcall : call.guarded? orders with
  | none =>
    refine ⟨?_, h.step_unguarded hcall claims⟩
    intro answer hanswer
    rw [Call.policy?_of_unguarded hcall] at hanswer
    cases hanswer
  | some guarded =>
    obtain ⟨site, result⟩ := guarded
    obtain ⟨⟨policy, hpolicy, hserved⟩, hnext⟩ := h.step_guarded hcall claims
    refine ⟨?_, hnext⟩
    intro answer hanswer
    rw [hpolicy] at hanswer
    rw [hserved, Option.some.inj hanswer]

/-- Answers the calls of callers one after another; each answer comes with the number of evaluators
that the gate keeps after it. -/
def Service.serve (s : Service) : List (Claims × Call) → List (Answer × Nat)
  | [] => []
  | (claims, call) :: rest =>
    ((s.step claims call).1, (s.step claims call).2.gate.cache.size) ::
      (s.step claims call).2.serve rest

/-- A run serves the calls of one caller. -/
theorem Service.run_eq_serve (s : Service) (claims : Claims) (calls : List Call) :
    s.run claims calls = s.serve (calls.map fun call => (claims, call)) := by
  induction calls generalizing s with
  | nil => rfl
  | cons call rest ih => exact congrArg (_ :: ·) (ih _)

/-- Every call is served. -/
theorem Service.length_serve (s : Service) (requests : List (Claims × Call)) :
    (s.serve requests).length = requests.length := by
  induction requests generalizing s with
  | nil => rfl
  | cons _ rest ih => exact congrArg (· + 1) (ih _)

/-- How a call is served that is the last of some calls: as the policy says. -/
structure Enforced (orders : List String) (calls : List Call) (claims : Claims) (call : Call)
    (served : Answer × Nat) : Prop where
  /-- A guarded call is answered as the policy says. -/
  answer : ∀ answer, call.policy? orders claims = some answer → served.1 = .guarded answer
  /-- The gate keeps one evaluator for each site that has been used, other than the one without
  rule. -/
  kept : served.2 = (ruledSites calls).dedup.length

/-- A service that stands as it should goes on to enforce the policy. -/
theorem Service.Stands.enforced {s : Service} {orders : List String} {calls : List Call}
    (h : s.Stands orders calls) (requests : List (Claims × Call)) (i : Nat) {claims : Claims}
    {call : Call} (hi : requests[i]? = some (claims, call)) :
    ∃ served, (s.serve requests)[i]? = some served ∧
      Enforced orders (calls ++ (requests.take (i + 1)).map Prod.snd) claims call served := by
  induction requests generalizing s calls i with
  | nil => cases hi
  | cons request rest ih =>
    obtain ⟨claims', call'⟩ := request
    obtain ⟨hanswer, hnext⟩ := h.step claims' call'
    cases i with
    | zero =>
      obtain ⟨rfl, rfl⟩ := Prod.mk.inj (Option.some.inj hi)
      exact ⟨_, rfl, hanswer, hnext.size⟩
    | succ i =>
      obtain ⟨served, hserved, henforced⟩ := ih hnext i hi
      refine ⟨served, hserved, ?_⟩
      rwa [List.append_assoc] at henforced

/-- For all orders and all sequences of calls by any callers: every call is served, each guarded
call is answered as the policy says of its caller, whatever has been called before, and after each
call the gate keeps as many evaluators as different sites have been used, not counting the one
without rule. A run is the case of one caller. -/
theorem Service.serve_enforces_policy (orders : List String) :
    (∀ requests : List (Claims × Call),
        ((start orders).serve requests).length = requests.length ∧
          ∀ i claims call, requests[i]? = some (claims, call) →
            ∃ served, ((start orders).serve requests)[i]? = some served ∧
              Enforced orders ((requests.take (i + 1)).map Prod.snd) claims call served) ∧
      ∀ claims calls, (start orders).run claims calls =
        (start orders).serve (calls.map fun call => (claims, call)) := by
  refine ⟨?_, (start orders).run_eq_serve⟩
  intro requests
  refine ⟨(start orders).length_serve requests, ?_⟩
  intro i claims call hi
  exact (Service.stands_start orders).enforced requests i hi

end ExprGate.Endpoint
