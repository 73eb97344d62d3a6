import ExprGate.Access.Gate
import ExprGate.Text.Search

/-!
# Scenarios

A scenario plays steps against one registry and three resolvers: a gate over texts, a resolver
of numbers and one of values without declared type. The resolvers look into copies of the
registry that are taken when they are opened, so a registration counts from the next opening on;
opening also empties the caches. The factories of a registration are told how often they have
run, whichever copy they are run from.
-/

set_option autoImplicit false

namespace ExprGate.Access

/-- The call sites of scenarios, by the name under which steps refer to them, with their types. -/
def knownTypes : List (String × String) :=
  [("Orders", "jel_driver::sites::Orders"),
   ("Reports", "jel_driver::sites::Reports"),
   ("Page<u8>", "jel_driver::sites::Page<u8>"),
   ("Page<String>", "jel_driver::sites::Page<alloc::string::String>"),
   ("Page<Page<u8>>", "jel_driver::sites::Page<jel_driver::sites::Page<u8>>"),
   ("Pair<Orders,u8>", "jel_driver::sites::Pair<jel_driver::sites::Orders, u8>"),
   ("nested::Deep", "jel_driver::sites::nested::Deep"),
   ("Vec<Orders>", "alloc::vec::Vec<jel_driver::sites::Orders>"),
   ("Option<u8>", "core::option::Option<u8>"),
   ("str", "str"),
   ("u8", "u8"),
   ("unit", "()"),
   ("slice", "[jel_driver::sites::Orders]"),
   ("array", "[u8; 3]"),
   ("tuple", "(jel_driver::sites::Orders, u8)"),
   ("tuple_generic", "(jel_driver::sites::Page<u8>, u8)"),
   ("reference", "&str"),
   ("dyn_any", "dyn core::any::Any"),
   ("fn_pointer", "fn(u8) -> u8")]

/-- The call site of a known type and possibly a method of it. -/
def knownSite? (key : String) (method : Option String) : Option CallSite :=
  (knownTypes.lookup key).map fun fullType => ⟨fullType, method⟩

/-- How a scripted evaluator decides. -/
inductive Rule where
  /-- `true` for one text only. -/
  | equals (text : String)
  /-- `true` for texts with a given part. -/
  | contains (part : String)
  /-- `true` for the first evaluations of an instance. -/
  | first (count : Nat)
  /-- No answer but a panic. -/
  | panics (payload : Payload)
  /-- Always the same. -/
  | constant (value : Bool)
deriving DecidableEq, Repr

/-- The evaluator that follows a rule. -/
def Rule.decider : Rule → Decider String
  | .equals text => ⟨fun _ context => .value (context == text)⟩
  | .contains part => ⟨fun _ context => .value (Text.contains context part)⟩
  | .first count => ⟨fun earlier _ => .value (decide (earlier.length < count))⟩
  | .panics payload => ⟨fun _ _ => .panicked payload⟩
  | .constant value => ⟨fun _ _ => .value value⟩

/-- What a scripted factory builds. -/
inductive Product where
  /-- An evaluator that follows a rule. -/
  | ruled (rule : Rule)
  /-- An evaluator that is the same at every run and whose building is not counted. -/
  | fixed (value : Bool)
  /-- The length of a text in bytes. -/
  | byteLength
  /-- A decision about bytes, which no resolver asks for. -/
  | byte
  /-- One more than an integer, and minus one for anything else. -/
  | successor
deriving DecidableEq, Repr

/-- One more than an integer, wrapping around, and minus one for any other value. -/
def successorOf : DynamicValue → DynamicValue
  | .int n => .int (n + 1)
  | .other => .int (-1)

/-- The evaluator that a scripted factory builds. -/
def Product.evaluator : Product → Evaluator String
  | .ruled rule => .decider rule.decider
  | .fixed value => .decider (Rule.constant value).decider
  | .byteLength => .measure fun text => Int64.ofNat text.utf8ByteSize
  | .byte => .byteDecider fun _ => true
  | .successor => .dynamic successorOf

/-- Whether runs of the factory count as builds. -/
def Product.isCounted : Product → Bool
  | .fixed _ => false
  | _ => true

/-- What a run of a scripted factory does. -/
inductive Run where
  | succeeds
  | fails (reason : String)
  | panics (payload : Payload)
deriving DecidableEq, Repr

/-- The run at a position; the last run of a script repeats, and an empty script succeeds. -/
def runAt (script : List Run) (n : Nat) : Run :=
  script[n]?.getD (script.getLast?.getD .succeeds)

/-- The factory of a product whose runs follow a script; a fixed evaluator is built whatever the
script says. -/
def Product.factory (p : Product) (script : List Run) : Factory String where
  outcome n :=
    match if p.isCounted then runAt script n else .succeeds with
    | .succeeds => .built p.evaluator
    | .fails reason => .failed reason
    | .panics payload => .panicked payload

/-- A step of a scenario. -/
inductive Step where
  | register (name : String) (product : Product) (script : List Run)
  | reopen (standardNaming : Bool)
  | registry (name : Option String)
  | describe
  | site (site : CallSite)
  | sameKey (site other : CallSite)
  | name (site : CallSite)
  | check (site : CallSite) (context : String)
  | guard (site : CallSite) (context : String)
  | resolve (site : CallSite)
  | race (site : CallSite) (threads : Nat)
  | resolveNumber (site : CallSite) (context : String)
  | resolveDynamic (site : CallSite) (context : DynamicValue)

/-- The answer to a step. -/
inductive Answer where
  | registered (size : Nat) (names : List String)
  | opened (naming : Naming)
  | registry (size : Nat) (names : List String) (contains : Option Bool) (shown : String)
  | described (gate rule : String)
  | site (typeName : String) (method : Option String) (label : String)
  | sameKey (same : Bool)
  | name (result : Except NamingError String)
  | checked (result : Except GateError Unit)
  | guarded (result : Except GateError Nat)
  | resolved (result : Except ResolveError Nat)
  | raced (failed : Nat) (instances : List Nat)
  | computed (result : Except ResolveError (Int64 × Nat))

/-- The registry, the resolvers and the events of a scenario. -/
structure Scenario where
  naming : Naming
  registry : Registry String := {}
  /-- The serial numbers of the registrations whose runs count as builds. -/
  counted : List Nat := []
  /-- How many registrations there have been. -/
  registrations : Nat := 0
  gate : Gate String
  numbers : Resolver String (String → Int64)
  dynamics : Resolver String (DynamicValue → DynamicValue)
  world : World String := {}
  /-- The instances that answers have shown, in order. -/
  shown : List Nat := []

/-- Opens the three resolvers over a copy of the registry, with empty caches. -/
def Scenario.reopen (s : Scenario) (standardNaming : Bool) : Scenario :=
  { s with
    gate :=
      { naming := if standardNaming then .standard else s.naming
        contract := .decision "str"
        registry := s.registry }
    numbers := { naming := s.naming, contract := .number "str", registry := s.registry }
    dynamics := { naming := s.naming, contract := .untyped, registry := s.registry } }

/-- A scenario at its beginning, with everything open over the empty registry. -/
def Scenario.start (naming : Naming) : Scenario :=
  { naming
    gate := { naming, contract := .decision "str", registry := {} }
    numbers := { naming, contract := .number "str", registry := {} }
    dynamics := { naming, contract := .untyped, registry := {} } }

/-- How often factories have run whose runs count as builds. -/
def Scenario.builds (s : Scenario) : Nat :=
  s.world.runs.countP s.counted.contains

/-- The number under which answers show an instance: instances are numbered as they appear. -/
def Scenario.present (s : Scenario) (id : Nat) : Nat × Scenario :=
  match s.shown.idxOf? id with
  | some k => (k, s)
  | none => (s.shown.length, { s with shown := s.shown ++ [id] })

/-- Resolves a site as often as there are threads: the failures, and the numbers of the instances
that the others got. -/
def Scenario.race (s : Scenario) (site : CallSite) : Nat → Nat × List Nat × Scenario
  | 0 => (0, [], s)
  | threads + 1 =>
    let (result, gate, world) := s.gate.resolve site s.world
    let s := { s with gate, world }
    match result with
    | .error _ =>
      let (failed, instances, s) := s.race site threads
      (failed + 1, instances, s)
    | .ok shared =>
      let (k, s) := s.present shared.id
      let (failed, instances, s) := s.race site threads
      (failed, if instances.contains k then instances else k :: instances, s)

/-- Plays a step. -/
def Scenario.step (s : Scenario) : Step → Answer × Scenario
  | .register name product script =>
    let registration := ⟨s.registrations, product.factory script⟩
    let registry := s.registry.register name registration
    (.registered registry.size registry.names,
      { s with
        registry
        registrations := s.registrations + 1
        counted := if product.isCounted then s.registrations :: s.counted else s.counted })
  | .reopen standardNaming =>
    let s := s.reopen standardNaming
    (.opened s.gate.naming, s)
  | .registry name =>
    (.registry s.registry.size s.registry.names (name.map s.registry.contains)
      s.registry.describe, s)
  | .describe => (.described s.gate.describe "FnEvaluator \x7b .. \x7d", s)
  | .site site => (.site site.typeName site.method site.label, s)
  | .sameKey site other => (.sameKey (site == other), s)
  | .name site => (.name (site.evaluatorName s.gate.naming), s)
  | .check site context =>
    let (result, gate, world) := s.gate.check site context s.world
    (.checked result, { s with gate, world })
  | .guard site context =>
    let (result, gate, world) := s.gate.guard site context context.utf8ByteSize s.world
    (.guarded result, { s with gate, world })
  | .resolve site =>
    let (result, gate, world) := s.gate.resolve site s.world
    let s := { s with gate, world }
    match result with
    | .error e => (.resolved (.error e), s)
    | .ok shared =>
      let (k, s) := s.present shared.id
      (.resolved (.ok k), s)
  | .race site threads =>
    let (failed, instances, s) := s.race site threads
    (.raced failed instances, s)
  | .resolveNumber site context =>
    let (result, numbers, world) := s.numbers.resolve site s.world
    (.computed (result.map fun shared => (shared.evaluator context, numbers.cache.size)),
      { s with numbers, world })
  | .resolveDynamic site context =>
    let (result, dynamics, world) := s.dynamics.resolve site s.world
    let value : DynamicValue → Int64
      | .int n => n
      | .other => -1
    (.computed (result.map fun shared => (value (shared.evaluator context), dynamics.cache.size)),
      { s with dynamics, world })

/-- What is observed after a step: its answer, how many evaluators the gate keeps, how many
factory runs count as builds, and how many guarded calls have run. -/
structure Observation where
  answer : Answer
  cached : Nat
  builds : Nat
  calls : Nat

/-- Plays steps one after another. -/
def Scenario.play (s : Scenario) : List Step → List Observation
  | [] => []
  | step :: steps =>
    let (answer, s) := s.step step
    ⟨answer, s.gate.cache.size, s.builds, s.world.calls⟩ :: s.play steps

end ExprGate.Access
