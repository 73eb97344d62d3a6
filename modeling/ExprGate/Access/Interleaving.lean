import ExprGate.Access.Resolver

/-!
# Interleaved callers

Several callers may resolve sites of one resolver at the same time. A call takes three atomic
steps: it looks for a filled cell of its site, it fetches the site's cell, entering an empty one if
there is none, and it initialises the cell that it has fetched. Only one caller initialises a cell
at a time; a cell that has been filled meanwhile is not built again, and a failure leaves it empty.

Cells are told apart by numbers and not by sites: a caller holds on to the cell that it fetched,
whatever the map says later. A schedule lists whose step comes next, so the runs of all schedules
are all the ways in which the steps can interleave.
-/

set_option autoImplicit false

namespace ExprGate.Access

/-- How far a call has got. -/
inductive Stage (φ : Type) where
  /-- Nothing has been done. -/
  | idle
  /-- No filled cell was found. -/
  | missed
  /-- The cell of the site has been fetched. -/
  | holds (cell : Nat)
  /-- The call has its answer. -/
  | answered (result : Except ResolveError (Shared φ))

/-- A call that resolves a site. -/
structure Caller (φ : Type) where
  site : CallSite
  stage : Stage φ := .idle

/-- A factory run that gave an evaluator of the resolver's contract. -/
structure Construction where
  /-- The site of the call that ran the factory. -/
  site : CallSite
  /-- The cell that was filled. -/
  cell : Nat
  /-- The number of the instance. -/
  id : Nat

/-- What the callers of a resolver share. -/
structure Arena (κ φ : Type) where
  naming : Naming
  contract : Contract κ φ
  registry : Registry κ
  /-- The cell of each site. -/
  index : List (CallSite × Nat) := []
  /-- The contents of the cells by number. -/
  cells : List (Option (Shared φ)) := []
  world : World κ
  /-- The constructions so far, oldest first. -/
  built : List Construction := []

variable {κ φ : Type}

/-- The instance in a cell. -/
def Arena.contents (a : Arena κ φ) (cell : Nat) : Option (Shared φ) :=
  a.cells[cell]?.join

/-- The resolver as a caller finds it: each site with the contents of its cell. -/
def Arena.resolver (a : Arena κ φ) : Resolver κ φ where
  naming := a.naming
  contract := a.contract
  registry := a.registry
  cache := ⟨a.index.map fun (site, cell) => (site, a.contents cell)⟩

/-- The first step of a call: a filled cell answers it. -/
def Arena.lookUp (a : Arena κ φ) (site : CallSite) : Stage φ × Arena κ φ :=
  match (a.index.lookup site).bind a.contents with
  | some s => (.answered (.ok s), a)
  | none => (.missed, a)

/-- The second step of a call: it fetches the cell of its site, which is new and empty if the site
has none. -/
def Arena.fetch (a : Arena κ φ) (site : CallSite) : Stage φ × Arena κ φ :=
  match a.index.lookup site with
  | some cell => (.holds cell, a)
  | none =>
    (.holds a.cells.length,
      { a with index := a.index ++ [(site, a.cells.length)], cells := a.cells ++ [none] })

/-- Fills a cell with the instance that a site's call has built. -/
def Arena.construct (a : Arena κ φ) (site : CallSite) (cell : Nat) (s : Shared φ) (w : World κ) :
    Arena κ φ :=
  { a with
    cells := a.cells.set cell (some s)
    world := w
    built := a.built ++ [⟨site, cell, s.id⟩] }

/-- The third step of a call: it is answered with the contents of the cell that it holds, which is
filled first if it is empty. -/
def Arena.initialise (a : Arena κ φ) (site : CallSite) (cell : Nat) : Stage φ × Arena κ φ :=
  match a.contents cell with
  | some s => (.answered (.ok s), a)
  | none =>
    match a.resolver.instantiate site a.world with
    | (.ok s, w) => (.answered (.ok s), a.construct site cell s w)
    | (.error e, w) => (.answered (.error e), { a with world := w })

/-- The next step of a call; a call that has its answer does nothing. -/
def Arena.advance (a : Arena κ φ) (caller : Caller φ) : Stage φ × Arena κ φ :=
  match caller.stage with
  | .idle => a.lookUp caller.site
  | .missed => a.fetch caller.site
  | .holds cell => a.initialise caller.site cell
  | .answered result => (.answered result, a)

/-- Callers and what they share. -/
structure Crowd (κ φ : Type) where
  arena : Arena κ φ
  callers : List (Caller φ)

/-- Callers of a new resolver, one for each of the given sites, before their first step. -/
def Crowd.start (naming : Naming) (contract : Contract κ φ) (registry : Registry κ)
    (w : World κ) (sites : List CallSite) : Crowd κ φ where
  arena := { naming, contract, registry, world := w }
  callers := sites.map fun site => { site }

/-- The next step of the caller at a position. -/
def Crowd.step (c : Crowd κ φ) (i : Nat) : Crowd κ φ :=
  match c.callers[i]? with
  | none => c
  | some caller =>
    let (stage, arena) := c.arena.advance caller
    { arena, callers := c.callers.set i { caller with stage } }

/-- The steps of a schedule, one after another. -/
def Crowd.run (c : Crowd κ φ) (schedule : List Nat) : Crowd κ φ :=
  schedule.foldl Crowd.step c

end ExprGate.Access
