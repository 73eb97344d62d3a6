import ExprGate.Access.Evaluator

/-!
# What has happened so far

Factories and evaluators may behave differently from one time to the next. The `World` records
the events on which that can depend: the runs of factories, the evaluations of each instance, and
beside them how many instances have been built and how many guarded calls have run.
-/

set_option autoImplicit false

namespace ExprGate.Access

/-- An instance of an evaluator: all holders of one instance share its number. -/
structure Shared (φ : Type) where
  /-- The number of the instance, counted over all instances that were built. -/
  id : Nat
  /-- The evaluator itself. -/
  evaluator : φ

/-- The events so far. -/
structure World (κ : Type) where
  /-- The registrations whose factories have run, by serial number, oldest first. -/
  runs : List Nat := []
  /-- How many instances have been built. -/
  instances : Nat := 0
  /-- The evaluations of deciding evaluators: instance and context, oldest first. -/
  evaluations : List (Nat × κ) := []
  /-- How many guarded calls have run. -/
  calls : Nat := 0

variable {κ : Type}

/-- How often the factory of a registration has run. -/
def World.runsOf (w : World κ) (serial : Nat) : Nat :=
  w.runs.count serial

/-- The contexts on which an instance has been evaluated, oldest first. -/
def World.historyOf (w : World κ) (id : Nat) : List κ :=
  w.evaluations.filterMap fun (number, context) =>
    if number = id then some context else none

/-- Evaluates an instance on a context. -/
def World.evaluate (w : World κ) (s : Shared (Decider κ)) (context : κ) :
    Reply Bool × World κ :=
  (s.evaluator.respond (w.historyOf s.id) context,
    { w with evaluations := w.evaluations ++ [(s.id, context)] })

/-- Records a guarded call. -/
def World.call (w : World κ) : World κ :=
  { w with calls := w.calls + 1 }

end ExprGate.Access
