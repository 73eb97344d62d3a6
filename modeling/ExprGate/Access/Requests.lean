import ExprGate.Access.Gate

/-!
# Requests to a gate

A gate is asked to decide about a context, to guard a call, or to guard a call whose result comes
later. The third form decides before the future of the call exists, and awaits it then, so it
guards like the second. Requests are served one after another: each finds the gate and the world
as the one before left them. The transcript of a run keeps for each request how things were before
and after it.
-/

set_option autoImplicit false

namespace ExprGate.Access

/-- A request to a gate over contexts of type `κ`; wrapped calls give results of type `τ`. -/
inductive Request (κ τ : Type) where
  /-- A decision. -/
  | check (site : CallSite) (context : κ)
  /-- A decision and, if it is favourable, a call with its result. -/
  | guard (site : CallSite) (context : κ) (result : τ)
  /-- The same for a call whose result is awaited. -/
  | guardAsync (site : CallSite) (context : κ) (result : τ)

variable {κ τ : Type}

/-- The site that a request wants to enter. -/
def Request.site : Request κ τ → CallSite
  | .check site _ => site
  | .guard site _ _ => site
  | .guardAsync site _ _ => site

/-- The context that is decided about. -/
def Request.context : Request κ τ → κ
  | .check _ context => context
  | .guard _ context _ => context
  | .guardAsync _ context _ => context

/-- The result of the wrapped call, if there is one. -/
def Request.result? : Request κ τ → Option τ
  | .check _ _ => none
  | .guard _ _ result => some result
  | .guardAsync _ _ result => some result

/-- A gate and what has happened so far. -/
structure Moment (κ : Type) where
  gate : Gate κ
  world : World κ

/-- An answer: the result of the wrapped call, if there is one, or why the call did not run. -/
abbrev Request.Answer (τ : Type) := Except GateError (Option τ)

/-- Serves a request. -/
def Request.serve (q : Request κ τ) (m : Moment κ) : Request.Answer τ × Moment κ :=
  match q with
  | .check site context =>
    let (answer, gate, world) := m.gate.check site context m.world
    (answer.map fun _ => none, ⟨gate, world⟩)
  | .guard site context result | .guardAsync site context result =>
    let (answer, gate, world) := m.gate.guard site context result m.world
    (answer.map some, ⟨gate, world⟩)

/-- A request that has been served. -/
structure Event (κ τ : Type) where
  request : Request κ τ
  before : Moment κ
  answer : Request.Answer τ
  after : Moment κ

/-- Serving a request at a moment, with all that is to be seen of it. -/
def Request.event (q : Request κ τ) (m : Moment κ) : Event κ τ :=
  ⟨q, m, (q.serve m).1, (q.serve m).2⟩

/-- Serves requests one after another. -/
def Moment.serveAll (m : Moment κ) : List (Request κ τ) → List (Event κ τ) × Moment κ
  | [] => ([], m)
  | q :: rest =>
    let (events, last) := (q.event m).after.serveAll rest
    (q.event m :: events, last)

/-- Whether the request wraps a call and was answered favourably. -/
def Event.isCall (e : Event κ τ) : Bool :=
  e.request.result?.isSome && e.answer.isOk

end ExprGate.Access
