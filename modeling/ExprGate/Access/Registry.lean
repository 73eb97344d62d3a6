import ExprGate.Access.World
import ExprGate.Text.Quoted

/-!
# The registry of evaluators

A registry maps evaluator names to factories. A later registration under a name replaces the
earlier one. Running a factory is recorded in the world; a factory that panics is a failed run
like any other.
-/

set_option autoImplicit false

namespace ExprGate.Access

/-- A factory with the serial number of its registration, which copies of a registry share. -/
structure Registration (κ : Type) where
  serial : Nat
  factory : Factory κ

/-- Registrations by name, each name once. -/
structure Registry (κ : Type) where
  entries : List (String × Registration κ) := []

/-- Why a factory gave no evaluator. -/
inductive InstantiationError where
  /-- The factory failed with a reason. -/
  | failed (reason : String)
  /-- The factory panicked; the message is the wording of the panic. -/
  | panicked (message : String)
deriving DecidableEq, Repr

/-- The wording of an instantiation error. -/
def InstantiationError.message : InstantiationError → String
  | .failed reason => "constructor failed: " ++ reason
  | .panicked message => "constructor panicked: " ++ message

variable {κ : Type}

/-- The registration under a name. -/
def Registry.get? (r : Registry κ) (name : String) : Option (Registration κ) :=
  r.entries.lookup name

/-- Whether a name is registered. -/
def Registry.contains (r : Registry κ) (name : String) : Bool :=
  (r.get? name).isSome

/-- Registers a factory under a name, in place of an earlier one. -/
def Registry.register (r : Registry κ) (name : String) (registration : Registration κ) :
    Registry κ :=
  ⟨r.entries.filter (fun e => e.1 != name) ++ [(name, registration)]⟩

/-- How many names are registered. -/
def Registry.size (r : Registry κ) : Nat :=
  r.entries.length

/-- The registered names, sorted. -/
def Registry.names (r : Registry κ) : List String :=
  (r.entries.map Prod.fst).mergeSort (fun a b => decide (a ≤ b))

/-- The registry as it is shown to a reader. -/
def Registry.describe (r : Registry κ) : String :=
  "EvaluatorRegistry \x7b names: " ++ Text.quotedList r.names ++ " \x7d"

/-- Runs the factory of a registration. -/
def Registration.run (g : Registration κ) (w : World κ) :
    Except InstantiationError (Shared (Evaluator κ)) × World κ :=
  let w' := { w with runs := w.runs ++ [g.serial] }
  match g.factory.outcome (w.runsOf g.serial) with
  | .built evaluator => (.ok ⟨w.instances, evaluator⟩, { w' with instances := w.instances + 1 })
  | .failed reason => (.error (.failed reason), w')
  | .panicked payload => (.error (.panicked payload.message), w')

end ExprGate.Access
