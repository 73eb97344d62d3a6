import ExprGate.Access.Gate

/-!
# A secured endpoint

An orders service whose calls are guarded by rules about the caller's claims. Its rules are the
evaluators of two markers: `SecuredBy`, with patterns of its own, decides about claims;
`Evaluable`, with the standard patterns, gives values without declared type. One rule panics, and
one call has no rule at all.
-/

set_option autoImplicit false

namespace ExprGate.Endpoint

open Access

/-- What a caller claims about itself. -/
structure Claims where
  /-- The token, if the caller has one. -/
  rawToken : Option String
  groups : List String
deriving DecidableEq, Repr

/-- Whether the caller is a member of a group. -/
def Claims.hasGroup (c : Claims) (group : String) : Bool :=
  c.groups.contains group

/-- Whether the caller has a token that is not empty. -/
def Claims.isAuthenticated (c : Claims) : Bool :=
  c.rawToken.any fun token => !token.isEmpty

/-- The patterns of the marker `SecuredBy`. -/
def securedBy : Naming :=
  ⟨"$\x7bclass\x7d$MpJwtSecuredBy", "$\x7bclass\x7d_$\x7bmethod\x7d$MpJwtSecuredBy"⟩

/-- The patterns of the marker `Evaluable`. -/
def evaluable : Naming :=
  .standard

/-- A rule that depends on the claims alone. -/
def claimsRule (rule : Claims → Bool) : Evaluator Claims :=
  .decider ⟨fun _ claims => .value (rule claims)⟩

/-- A rule that gives an integer, whatever the context. -/
def integerRule (n : Int64) : Evaluator Claims :=
  .dynamic fun _ => .int n

/-- The rules by evaluator name. -/
def rules : List (String × Evaluator Claims) :=
  [("secured_endpoint::foo::Dummy$SimpleJelEvaluator", integerRule 2),
   ("secured_endpoint::foo::Dummy$eval_method$SimpleJelEvaluator", integerRule 3),
   ("secured_endpoint::orders::Reports$MpJwtSecuredBy",
    claimsRule fun jwt => jwt.isAuthenticated && jwt.hasGroup "auditor"),
   ("secured_endpoint::orders::Orders_list$MpJwtSecuredBy",
    claimsRule fun jwt => jwt.isAuthenticated),
   ("secured_endpoint::orders::Orders_delete_all$MpJwtSecuredBy",
    claimsRule fun jwt => jwt.isAuthenticated && jwt.hasGroup "admin"),
   ("secured_endpoint::orders::Orders_export$MpJwtSecuredBy",
    claimsRule fun jwt => jwt.isAuthenticated && jwt.hasGroup "auditor"),
   ("secured_endpoint::orders::Orders_audit$MpJwtSecuredBy",
    .decider ⟨fun _ _ => .panicked (.text "claims backend unavailable")⟩)]

/-- The registry that holds the rules. -/
def registry : Registry Claims :=
  ⟨rules.mapIdx fun i (name, evaluator) => (name, ⟨i, .always evaluator⟩)⟩

/-- A call to the service. -/
inductive Call where
  | list
  | deleteAll
  | exportOrders
  | audit
  | count
  | monthlyReport
  /-- The rule of the type `Dummy`, or of a method of it. -/
  | dummy (method : Option String)
  /-- The registered names. -/
  | names
  /-- The claims themselves, and the membership in the given groups. -/
  | claims (groups : List String)
deriving DecidableEq, Repr

/-- What a guarded call gives. -/
inductive Result where
  | orders (items : List String)
  | count (n : Nat)
  | text (s : String)
deriving DecidableEq, Repr

/-- The answer to a call. -/
inductive Answer where
  | guarded (result : Except GateError Result)
  | evaluated (result : Except ResolveError Int64)
  | names (names : List String)
  | claims (rawToken : Option String) (memberships : List Bool)

/-- The type that holds the orders. -/
def ordersType : String := "secured_endpoint::orders::Orders"

/-- The site at which a call is guarded, and what the call gives once it runs. -/
def Call.guarded? (orders : List String) : Call → Option (CallSite × Result)
  | .list => some (⟨ordersType, some "list"⟩, .orders orders)
  | .deleteAll => some (⟨ordersType, some "delete_all"⟩, .count orders.length)
  | .exportOrders => some (⟨ordersType, some "export"⟩, .text (",".intercalate orders))
  | .audit => some (⟨ordersType, some "audit"⟩, .count 0)
  | .count => some (⟨ordersType, some "count"⟩, .count orders.length)
  | .monthlyReport => some (⟨"secured_endpoint::orders::Reports", none⟩, .text "monthly")
  | _ => none

/-- A running service. -/
structure Service where
  orders : List String
  gate : Gate Claims
  dynamics : Resolver Claims (DynamicValue → DynamicValue)
  world : World Claims := {}

/-- A service over some orders, with nothing resolved yet. -/
def Service.start (orders : List String) : Service where
  orders
  gate := { naming := securedBy, contract := .decision "secured_endpoint::auth::Claims", registry }
  dynamics := { naming := evaluable, contract := .untyped, registry }

/-- Answers a call. -/
def Service.step (s : Service) (claims : Claims) (call : Call) : Answer × Service :=
  match call.guarded? s.orders with
  | some (site, result) =>
    let (answer, gate, world) := s.gate.guard site claims result s.world
    (.guarded answer, { s with gate, world })
  | none =>
    match call with
    | .dummy method =>
      let site := ⟨"secured_endpoint::foo::Dummy", method⟩
      let (answer, dynamics, world) := s.dynamics.resolve site s.world
      let value : DynamicValue → Int64
        | .int n => n
        | .other => -1
      (.evaluated (answer.map fun shared => value (shared.evaluator .other)),
        { s with dynamics, world })
    | .claims groups => (.claims claims.rawToken (groups.map claims.hasGroup), s)
    | _ => (.names registry.names, s)

/-- Answers calls one after another; each answer comes with the number of evaluators that the gate
keeps after it. -/
def Service.run (s : Service) (claims : Claims) : List Call → List (Answer × Nat)
  | [] => []
  | call :: calls =>
    let (answer, s) := s.step claims call
    (answer, s.gate.cache.size) :: s.run claims calls

end ExprGate.Endpoint
