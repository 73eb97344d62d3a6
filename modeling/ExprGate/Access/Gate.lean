import ExprGate.Access.Resolver

/-!
# The gate

A gate guards calls. It resolves the evaluator of the call's site, evaluates it on the context,
and lets the call run only if the answer is `true`. Everything else is an error: a refusal, a
panic of the evaluator, or the lack of a usable evaluator, after which nothing is evaluated.
-/

set_option autoImplicit false

namespace ExprGate.Access

/-- Why a guarded call did not run. -/
inductive GateError where
  /-- The evaluator answered `false`. -/
  | denied (site : String)
  /-- No evaluator could be resolved. -/
  | binding (source : ResolveError)
  /-- The evaluator panicked with the given wording. -/
  | evaluation (site message : String)
deriving DecidableEq, Repr

/-- The wording of a gate error. -/
def GateError.message : GateError → String
  | .denied site => "access denied to `" ++ site ++ "`"
  | .binding source => source.message
  | .evaluation site message => "gate evaluation failed for `" ++ site ++ "`: " ++ message

/-- Whether the call was refused by its evaluator. -/
def GateError.isDenied : GateError → Bool
  | .denied _ => true
  | _ => false

/-- Whether the call had no usable evaluator. -/
def GateError.isBinding : GateError → Bool
  | .binding _ => true
  | _ => false

/-- A resolver of deciding evaluators. -/
abbrev Gate (κ : Type) := Resolver κ (Decider κ)

variable {κ τ : Type}

/-- What the reply of a site's evaluator means for a call. -/
def verdict (site : CallSite) : Reply Bool → Except GateError Unit
  | .value true => .ok ()
  | .value false => .error (.denied site.label)
  | .panicked payload => .error (.evaluation site.label payload.message)

/-- Decides whether a context may enter a site. -/
def Gate.check (g : Gate κ) (site : CallSite) (context : κ) (w : World κ) :
    Except GateError Unit × Gate κ × World κ :=
  match g.resolve site w with
  | (.error e, g, w) => (.error (.binding e), g, w)
  | (.ok s, g, w) =>
    let (reply, w) := w.evaluate s context
    (verdict site reply, g, w)

/-- Runs a call, which gives `result`, if the gate lets the context in. -/
def Gate.guard (g : Gate κ) (site : CallSite) (context : κ) (result : τ) (w : World κ) :
    Except GateError τ × Gate κ × World κ :=
  match g.check site context w with
  | (.error e, g, w) => (.error e, g, w)
  | (.ok (), g, w) => (.ok result, g, w.call)

/-- The gate as it is shown to a reader. -/
def Gate.describe (g : Gate κ) : String :=
  "AccessGate \x7b resolver: " ++ Resolver.describe g ++ " \x7d"

end ExprGate.Access
