import ExprGate.Access.CallSite
import ExprGate.Access.Registry

/-!
# Resolving call sites

A resolver finds the evaluator of a call site under one contract and keeps it. Each site has a
cell. Resolving looks for a filled cell, else makes sure that the site has a cell, else fills it
from the registry; a failure leaves the cell empty, so that the next caller tries again.
-/

set_option autoImplicit false

namespace ExprGate.Access

/-- Why a call site has no usable evaluator. -/
inductive ResolveError where
  /-- Nothing is registered under the name. -/
  | notFound (name : String)
  /-- The factory under the name gave no evaluator. -/
  | instantiation (name : String) (source : InstantiationError)
  /-- The evaluator under the name has another contract. -/
  | contractMismatch (name expected : String)
  /-- There is no name to look for. -/
  | naming (source : NamingError)
deriving DecidableEq, Repr

/-- The wording of a resolve error. -/
def ResolveError.message : ResolveError → String
  | .notFound name => "binding not found: no evaluator registered as `" ++ name ++ "`"
  | .instantiation name source =>
    "binding not found: evaluator `" ++ name ++ "` could not be instantiated: " ++ source.message
  | .contractMismatch name expected =>
    "binding not found: evaluator `" ++ name ++ "` does not implement `" ++ expected ++ "`"
  | .naming source => "binding not found: " ++ source.message

/-- The evaluator name that was looked for, when it came to that. -/
def ResolveError.name? : ResolveError → Option String
  | .notFound name => some name
  | .instantiation name _ => some name
  | .contractMismatch name _ => some name
  | .naming _ => none

/-- The cells of the call sites met so far. -/
structure Cache (φ : Type) where
  cells : List (CallSite × Option (Shared φ)) := []

variable {κ φ : Type}

/-- The instance in a site's cell. -/
def Cache.get? (c : Cache φ) (site : CallSite) : Option (Shared φ) :=
  (c.cells.lookup site).join

/-- Gives the site an empty cell unless it has one. -/
def Cache.ensure (c : Cache φ) (site : CallSite) : Cache φ :=
  if (c.cells.lookup site).isSome then c else ⟨c.cells ++ [(site, none)]⟩

/-- Puts an instance into the site's cell. -/
def Cache.fill (c : Cache φ) (site : CallSite) (s : Shared φ) : Cache φ :=
  ⟨c.cells.map fun (key, content) => if key = site then (key, some s) else (key, content)⟩

/-- How many cells are filled. -/
def Cache.size (c : Cache φ) : Nat :=
  c.cells.countP fun (_, content) => content.isSome

/-- Finds and keeps the evaluators of call sites under one contract. -/
structure Resolver (κ φ : Type) where
  naming : Naming
  contract : Contract κ φ
  registry : Registry κ
  cache : Cache φ := {}

/-- Builds the evaluator of a site from the registry. -/
def Resolver.instantiate (r : Resolver κ φ) (site : CallSite) (w : World κ) :
    Except ResolveError (Shared φ) × World κ :=
  match site.evaluatorName r.naming with
  | .error e => (.error (.naming e), w)
  | .ok name =>
    match r.registry.get? name with
    | none => (.error (.notFound name), w)
    | some registration =>
      match registration.run w with
      | (.error e, w) => (.error (.instantiation name e), w)
      | (.ok s, w) =>
        match r.contract.view? s.evaluator with
        | some view => (.ok ⟨s.id, view⟩, w)
        | none => (.error (.contractMismatch name r.contract.expected), w)

/-- Fills the site's empty cell, or gives what another caller has put there meanwhile. -/
def Resolver.initialise (r : Resolver κ φ) (site : CallSite) (w : World κ) :
    Except ResolveError (Shared φ) × Resolver κ φ × World κ :=
  match r.cache.get? site with
  | some s => (.ok s, r, w)
  | none =>
    match r.instantiate site w with
    | (.ok s, w) => (.ok s, { r with cache := r.cache.fill site s }, w)
    | (.error e, w) => (.error e, r, w)

/-- The evaluator of a site, built at the first use. -/
def Resolver.resolve (r : Resolver κ φ) (site : CallSite) (w : World κ) :
    Except ResolveError (Shared φ) × Resolver κ φ × World κ :=
  match r.cache.get? site with
  | some s => (.ok s, r, w)
  | none => Resolver.initialise { r with cache := r.cache.ensure site } site w

/-- Resolves sites one after another: the answers, and the resolver and the world after them. -/
def Resolver.resolveAll (r : Resolver κ φ) (w : World κ) :
    List CallSite → List (Except ResolveError (Shared φ)) × Resolver κ φ × World κ
  | [] => ([], r, w)
  | site :: rest =>
    let (answer, r, w) := r.resolve site w
    let (answers, r, w) := r.resolveAll w rest
    (answer :: answers, r, w)

/-- The naming patterns as they are shown to a reader. -/
def describeNaming (n : Naming) : String :=
  "NamingConvention \x7b class_pattern: " ++ Text.quoted n.classPattern ++
    ", method_pattern: " ++ Text.quoted n.methodPattern ++ " \x7d"

/-- The resolver as it is shown to a reader. -/
def Resolver.describe (r : Resolver κ φ) : String :=
  "EvaluatorResolver \x7b naming: " ++ describeNaming r.naming ++ ", registry: " ++
    r.registry.describe ++ ", cached: " ++ toString r.cache.size ++ " \x7d"

end ExprGate.Access
