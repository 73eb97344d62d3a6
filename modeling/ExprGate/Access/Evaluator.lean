/-!
# Evaluators

An evaluator answers contexts. It has one of a few contracts, which fix what it is given and what
it gives back; those of the gate decide, with `true` for access. A deciding evaluator may keep
state, so its reply depends on the contexts that it has been evaluated on before, and it may
panic instead of replying.

Factories build evaluators. What a run of a factory comes to depends on how often it has run
before; a run may fail or panic.
-/

set_option autoImplicit false

namespace ExprGate.Access

/-- What a panic carries. -/
inductive Payload where
  /-- A text. -/
  | text (message : String)
  /-- A value that is not a text. -/
  | opaqueValue
deriving DecidableEq, Repr

/-- The wording of a panic. -/
def Payload.message : Payload → String
  | .text message => message
  | .opaqueValue => "non-string panic payload"

/-- What an evaluation comes to. -/
inductive Reply (ρ : Type) where
  | value (result : ρ)
  | panicked (payload : Payload)
deriving DecidableEq, Repr

/-- A deciding evaluator over contexts of type `κ`. -/
structure Decider (κ : Type) where
  /-- The reply to a context, given the earlier contexts, oldest first. -/
  respond : List κ → κ → Reply Bool

/-- A value without declared type. -/
inductive DynamicValue where
  | int (n : Int64)
  | other
deriving DecidableEq, Repr

/-- An evaluator of any contract; `κ` is the context type of the gate. -/
inductive Evaluator (κ : Type) where
  /-- Decides about a context. -/
  | decider (d : Decider κ)
  /-- Gives a number for a context. -/
  | measure (f : κ → Int64)
  /-- Decides about a byte. -/
  | byteDecider (f : UInt8 → Bool)
  /-- Maps values without declared type to such values. -/
  | dynamic (f : DynamicValue → DynamicValue)

/-- A contract that callers ask for: how evaluators of it are recognised, and what it is called. -/
structure Contract (κ φ : Type) where
  /-- The evaluator at this contract, if it has it. -/
  view? : Evaluator κ → Option φ
  /-- The contract as messages name it. -/
  expected : String

/-- The name under which messages show a shared evaluator from `context` to `output`. -/
def contractName (context output : String) : String :=
  "alloc::sync::Arc<dyn jel_core::evaluator::Evaluator<Context = " ++ context ++
    ", Output = " ++ output ++ ">>"

/-- The contract of the gate, for contexts of the named type. -/
def Contract.decision {κ : Type} (context : String) : Contract κ (Decider κ) where
  view?
    | .decider d => some d
    | _ => none
  expected := contractName context "bool"

/-- The contract of numbers, for contexts of the named type. -/
def Contract.number {κ : Type} (context : String) : Contract κ (κ → Int64) where
  view?
    | .measure f => some f
    | _ => none
  expected := contractName context "i64"

/-- The name of the type of values without declared type. -/
def dynamicTypeName : String :=
  "dyn core::any::Any + core::marker::Send + core::marker::Sync"

/-- The contract of values without declared type. -/
def Contract.untyped {κ : Type} : Contract κ (DynamicValue → DynamicValue) where
  view?
    | .dynamic f => some f
    | _ => none
  expected := contractName dynamicTypeName ("alloc::boxed::Box<" ++ dynamicTypeName ++ ">")

/-- What a run of a factory comes to. -/
inductive Outcome (κ : Type) where
  | built (evaluator : Evaluator κ)
  | failed (reason : String)
  | panicked (payload : Payload)

/-- A source of evaluators. -/
structure Factory (κ : Type) where
  /-- The outcome of a run, given the number of earlier runs. -/
  outcome : Nat → Outcome κ

/-- A factory that gives the same evaluator at every run. -/
def Factory.always {κ : Type} (evaluator : Evaluator κ) : Factory κ :=
  ⟨fun _ => .built evaluator⟩

end ExprGate.Access
