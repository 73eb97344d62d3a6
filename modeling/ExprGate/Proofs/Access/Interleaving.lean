import ExprGate.Access.Interleaving
import ExprGate.Proofs.Access.Resolution
import ExprGate.Proofs.Table

/-!
# Callers of one site share one instance

The shared state of callers is `Sound` when every site has one cell and every filled cell comes
from one construction, made for the site whose cell it is. A caller is `Settled` when the cell that
it holds is the one that the map has for its site, and its answer is what that cell contains. The
steps of other callers cannot unsettle it, because the shared state only grows: `Arena.Extends`
says that sites keep their cells and cells their instances.

Each step of a call keeps the shared state sound, extends it and settles the caller, so after every
schedule the crowd is consistent (`Crowd.Consistent.run`). The three steps of a call that no other
caller interrupts are one `Resolver.resolve` (`Crowd.Consistent.run_undisturbed`).
-/

set_option autoImplicit false

namespace ExprGate.Access

variable {κ φ : Type}

/-! ## Growth of the shared state -/

/-- A later state of what callers share: nothing that a caller has seen is taken back. -/
structure Arena.Extends (a b : Arena κ φ) : Prop where
  /-- Sites keep their cells. -/
  index : a.index <+: b.index
  /-- Filled cells keep their instances. -/
  contents : ∀ cell s, a.contents cell = some s → b.contents cell = some s
  /-- Constructions are not undone. -/
  built : a.built <+: b.built
  /-- All callers look into the same registry for the same names. -/
  fixed : b.naming = a.naming ∧ b.contract = a.contract ∧ b.registry = a.registry

/-- Every state extends itself. -/
theorem Arena.Extends.refl (a : Arena κ φ) : a.Extends a where
  index := List.prefix_refl _
  contents _ _ h := h
  built := List.prefix_refl _
  fixed := ⟨rfl, rfl, rfl⟩

/-- A later state of a later state is a later state. -/
theorem Arena.Extends.trans {a b c : Arena κ φ} (hab : a.Extends b) (hbc : b.Extends c) :
    a.Extends c where
  index := hab.index.trans hbc.index
  contents cell s h := hbc.contents cell s (hab.contents cell s h)
  built := hab.built.trans hbc.built
  fixed := by
    obtain ⟨hnaming, hcontract, hregistry⟩ := hab.fixed
    obtain ⟨hnaming', hcontract', hregistry'⟩ := hbc.fixed
    exact ⟨hnaming'.trans hnaming, hcontract'.trans hcontract, hregistry'.trans hregistry⟩

/-- A site keeps its cell. -/
theorem Arena.Extends.lookup {a b : Arena κ φ} (h : a.Extends b) {site : CallSite} {cell : Nat}
    (hcell : a.index.lookup site = some cell) : b.index.lookup site = some cell :=
  h.index.lookup_eq_some hcell

/-! ## The invariant -/

/-- What holds between two steps of callers for what they share. -/
structure Arena.Sound (a : Arena κ φ) : Prop where
  /-- No site has two cells. -/
  sites : (a.index.map Prod.fst).Nodup
  /-- The cells are numbered as their sites were met, so no two sites share one. -/
  numbered : a.index.map Prod.snd = List.range a.cells.length
  /-- A filled cell has been filled by a construction. -/
  filled : ∀ cell s, a.contents cell = some s → ∃ b ∈ a.built, b.cell = cell ∧ b.id = s.id
  /-- A construction is in the cell of the site for which it was made. -/
  placed : ∀ b ∈ a.built, a.index.lookup b.site = some b.cell ∧
    ∃ s, a.contents b.cell = some s ∧ s.id = b.id
  /-- No cell is filled twice. -/
  once : (a.built.map Construction.cell).Nodup
  /-- No two constructions give one instance. -/
  instances : (a.built.map Construction.id).Nodup
  /-- Instances that will be built are new. -/
  fresh : ∀ b ∈ a.built, b.id < a.world.instances

/-- A caller's cell is the cell of its site, and its answer is what that cell contains. -/
def Caller.Settled (caller : Caller φ) (a : Arena κ φ) : Prop :=
  match caller.stage with
  | .idle => True
  | .missed => True
  | .holds cell => a.index.lookup caller.site = some cell
  | .answered (.ok s) => ∃ cell, a.index.lookup caller.site = some cell ∧ a.contents cell = some s
  | .answered (.error _) => True

/-- Steps of other callers leave a caller settled. -/
theorem Caller.Settled.mono {caller : Caller φ} {a b : Arena κ φ} (h : caller.Settled a)
    (hab : a.Extends b) : caller.Settled b := by
  unfold Caller.Settled at h ⊢
  split at h
  · trivial
  · trivial
  · exact hab.lookup h
  · obtain ⟨cell, hcell, hs⟩ := h
    exact ⟨cell, hab.lookup hcell, hab.contents cell _ hs⟩
  · trivial

/-- The shared state of callers before their first step is sound. -/
theorem Arena.Sound.start (naming : Naming) (contract : Contract κ φ) (registry : Registry κ)
    (w : World κ) : Arena.Sound { naming, contract, registry, world := w } where
  sites := List.nodup_nil
  numbered := rfl
  filled cell s h := by simp [Arena.contents] at h
  placed b hb := by cases hb
  once := List.nodup_nil
  instances := List.nodup_nil
  fresh b hb := by cases hb

/-- The cell of a site has been entered. -/
theorem Arena.Sound.cell_lt {a : Arena κ φ} (h : a.Sound) {site : CallSite} {cell : Nat}
    (hcell : a.index.lookup site = some cell) : cell < a.cells.length := by
  have hmem : cell ∈ a.index.map Prod.snd := by
    obtain ⟨l, r, hsplit, -⟩ := List.lookup_eq_some_iff.1 hcell
    rw [hsplit]
    simp
  rw [h.numbered] at hmem
  exact List.mem_range.1 hmem

/-! ## The three steps -/

/-- What a step of a caller does for the crowd. -/
structure Arena.Progress (a : Arena κ φ) (site : CallSite) (out : Stage φ × Arena κ φ) : Prop where
  sound : out.2.Sound
  grown : a.Extends out.2
  settled : Caller.Settled ⟨site, out.1⟩ out.2

/-- Looking up leaves the shared state alone and answers with the contents of the site's cell. -/
theorem Arena.Sound.lookUp {a : Arena κ φ} (h : a.Sound) (site : CallSite) :
    a.Progress site (a.lookUp site) := by
  unfold Arena.lookUp
  split
  · rename_i s hs
    obtain ⟨cell, hcell, hcontents⟩ := Option.bind_eq_some_iff.1 hs
    exact ⟨h, .refl a, cell, hcell, hcontents⟩
  · exact ⟨h, .refl a, trivial⟩

/-- An empty cell at the end changes no contents. -/
theorem Arena.contents_append_none (a : Arena κ φ) (index : List (CallSite × Nat)) (cell : Nat) :
    Arena.contents { a with index := index, cells := a.cells ++ [none] } cell =
      a.contents cell := by
  unfold Arena.contents
  rw [List.getElem?_append]
  split
  · rfl
  · rename_i hlt
    have hnone : a.cells[cell]? = none := List.getElem?_eq_none (Nat.le_of_not_lt hlt)
    rw [hnone, List.getElem?_singleton]
    split <;> rfl

/-- Fetching gives the caller the cell of its site. A new cell is empty and has a new number. -/
theorem Arena.Sound.fetch {a : Arena κ φ} (h : a.Sound) (site : CallSite) :
    a.Progress site (a.fetch site) := by
  unfold Arena.fetch
  split
  · rename_i cell hcell
    exact ⟨h, .refl a, hcell⟩
  · rename_i hnone
    have hcontents := a.contents_append_none (a.index ++ [(site, a.cells.length)])
    have hgrown : a.index <+: a.index ++ [(site, a.cells.length)] := List.prefix_append _ _
    refine ⟨?_, ?_, ?_⟩
    · constructor
      case sites =>
        have hsite : site ∉ a.index.map Prod.fst := by
          intro hmem
          obtain ⟨entry, hentry, rfl⟩ := List.mem_map.1 hmem
          have := List.lookup_eq_none_iff.1 hnone entry hentry
          simp at this
        rw [List.map_append]
        exact nodup_append_new h.sites hsite
      case numbered => simp [h.numbered, List.range_succ]
      case filled =>
        intro cell s hs
        rw [hcontents] at hs
        exact h.filled cell s hs
      case placed =>
        intro b hb
        obtain ⟨hindex, hfilled⟩ := h.placed b hb
        rw [hcontents]
        exact ⟨hgrown.lookup_eq_some hindex, hfilled⟩
      case once => exact h.once
      case instances => exact h.instances
      case fresh => exact h.fresh
    · refine ⟨hgrown, ?_, List.prefix_refl _, rfl, rfl, rfl⟩
      intro cell s hs
      rwa [hcontents]
    · simp [Caller.Settled, List.lookup_append, hnone]

/-- A factory run that gives no instance of the contract changes only what has happened. -/
theorem Arena.Sound.failed {a : Arena κ φ} (h : a.Sound) (w : World κ)
    (hw : a.world.instances ≤ w.instances) :
    Arena.Sound { a with world := w } ∧ a.Extends { a with world := w } := by
  refine ⟨⟨h.sites, h.numbered, h.filled, h.placed, h.once, h.instances, ?_⟩, ?_⟩
  · intro b hb
    exact Nat.lt_of_lt_of_le (h.fresh b hb) hw
  · exact ⟨List.prefix_refl _, fun _ _ hs => hs, List.prefix_refl _, rfl, rfl, rfl⟩

/-- After a construction the filled cell contains the new instance. -/
theorem Arena.contents_construct_self (a : Arena κ φ) (site : CallSite) {cell : Nat}
    (s : Shared φ) (w : World κ) (hlt : cell < a.cells.length) :
    (a.construct site cell s w).contents cell = some s := by
  unfold Arena.contents Arena.construct
  rw [List.getElem?_set_self hlt]
  rfl

/-- A construction leaves the other cells alone. -/
theorem Arena.contents_construct_of_ne (a : Arena κ φ) (site : CallSite) {cell x : Nat}
    (s : Shared φ) (w : World κ) (hne : x ≠ cell) :
    (a.construct site cell s w).contents x = a.contents x := by
  unfold Arena.contents Arena.construct
  rw [List.getElem?_set_ne (Ne.symm hne)]

/-- A construction extends the shared state, since the cell that it fills was empty. -/
theorem Arena.extends_construct (a : Arena κ φ) (site : CallSite) {cell : Nat}
    (s : Shared φ) (w : World κ) (hempty : a.contents cell = none) :
    a.Extends (a.construct site cell s w) where
  index := List.prefix_refl _
  contents x t hx := by
    have hne : x ≠ cell := by
      rintro rfl
      rw [hempty] at hx
      cases hx
    rwa [Arena.contents_construct_of_ne a site s w hne]
  built := List.prefix_append _ _
  fixed := ⟨rfl, rfl, rfl⟩

/-- No earlier construction filled an empty cell. -/
theorem Arena.Sound.not_built {a : Arena κ φ} (h : a.Sound) {cell : Nat}
    (hempty : a.contents cell = none) : ∀ b ∈ a.built, b.cell ≠ cell := by
  rintro b hb rfl
  obtain ⟨-, s, hs, -⟩ := h.placed b hb
  rw [hempty] at hs
  cases hs

/-- A construction under a new instance number, for a site whose cell is empty, keeps the shared
state sound. -/
theorem Arena.Sound.construct {a : Arena κ φ} (h : a.Sound) {site : CallSite} {cell : Nat}
    {s : Shared φ} {w : World κ} (hcell : a.index.lookup site = some cell)
    (hempty : a.contents cell = none) (hid : s.id = a.world.instances)
    (hw : w.instances = a.world.instances + 1) : (a.construct site cell s w).Sound := by
  have hself := a.contents_construct_self site s w (h.cell_lt hcell)
  have hgrown := a.extends_construct site s w hempty
  have hnew := h.not_built hempty
  constructor
  case sites => exact h.sites
  case numbered =>
    show a.index.map Prod.snd = List.range (a.cells.set cell (some s)).length
    rw [List.length_set]
    exact h.numbered
  case filled =>
    intro x t hx
    by_cases hxc : x = cell
    · subst hxc
      rw [hself] at hx
      cases hx
      exact ⟨⟨site, x, s.id⟩, by simp [Arena.construct], rfl, rfl⟩
    · rw [Arena.contents_construct_of_ne a site s w hxc] at hx
      obtain ⟨b, hb, hbx⟩ := h.filled x t hx
      exact ⟨b, hgrown.built.subset hb, hbx⟩
  case placed =>
    intro b hb
    obtain hb | rfl : b ∈ a.built ∨ b = ⟨site, cell, s.id⟩ := by
      simpa [Arena.construct] using hb
    · obtain ⟨hindex, t, ht, hbt⟩ := h.placed b hb
      exact ⟨hindex, t, hgrown.contents b.cell t ht, hbt⟩
    · exact ⟨hcell, s, hself, rfl⟩
  case once =>
    rw [Arena.construct, List.map_append]
    apply nodup_append_new h.once
    intro hmem
    obtain ⟨b, hb, heq⟩ := List.mem_map.1 hmem
    exact hnew b hb heq
  case instances =>
    rw [Arena.construct, List.map_append]
    apply nodup_append_new h.instances
    intro hmem
    obtain ⟨b, hb, heq⟩ := List.mem_map.1 hmem
    have hlt := h.fresh b hb
    have hsame : b.id = s.id := heq
    omega
  case fresh =>
    intro b hb
    show b.id < w.instances
    rw [hw]
    obtain hb | rfl : b ∈ a.built ∨ b = ⟨site, cell, s.id⟩ := by
      simpa [Arena.construct] using hb
    · exact Nat.lt_succ_of_lt (h.fresh b hb)
    · exact Nat.lt_succ_of_le (Nat.le_of_eq hid)

/-- Initialising answers with the contents of the caller's cell, or fills it, or fails. -/
theorem Arena.Sound.initialise {a : Arena κ φ} (h : a.Sound) {site : CallSite} {cell : Nat}
    (hcell : a.index.lookup site = some cell) :
    a.Progress site (a.initialise site cell) := by
  unfold Arena.initialise
  split
  · rename_i s hs
    exact ⟨h, .refl a, cell, hcell, hs⟩
  · rename_i hempty
    split
    · rename_i s w hbuild
      obtain ⟨hid, hw⟩ := Resolver.instantiate_ok_id hbuild
      exact ⟨h.construct hcell hempty hid hw, a.extends_construct site s w hempty, cell, hcell,
        a.contents_construct_self site s w (h.cell_lt hcell)⟩
    · rename_i e w hbuild
      have hw := (a.resolver.instantiate_frame site a.world).2.2
      rw [hbuild] at hw
      obtain ⟨hsound, hgrown⟩ := h.failed w hw
      exact ⟨hsound, hgrown, trivial⟩

/-- Every step of a settled caller keeps the shared state sound, extends it, and leaves the caller
settled. -/
theorem Arena.Sound.advance {a : Arena κ φ} (h : a.Sound) {caller : Caller φ}
    (hsettled : caller.Settled a) : a.Progress caller.site (a.advance caller) := by
  unfold Arena.advance
  split
  · exact h.lookUp caller.site
  · exact h.fetch caller.site
  · rename_i cell hstage
    have hcell : a.index.lookup caller.site = some cell := by
      simpa [Caller.Settled, hstage] using hsettled
    exact h.initialise hcell
  · rename_i result hstage
    refine ⟨h, .refl a, ?_⟩
    simpa [Caller.Settled, hstage] using hsettled

/-! ## Schedules -/

/-- The invariant of a crowd. -/
structure Crowd.Consistent (c : Crowd κ φ) : Prop where
  sound : c.arena.Sound
  settled : ∀ caller ∈ c.callers, caller.Settled c.arena

/-- Callers that have not begun are consistent. -/
theorem Crowd.consistent_start (naming : Naming) (contract : Contract κ φ) (registry : Registry κ)
    (w : World κ) (sites : List CallSite) :
    (Crowd.start naming contract registry w sites).Consistent where
  sound := Arena.Sound.start naming contract registry w
  settled caller hcaller := by
    obtain ⟨site, -, rfl⟩ := List.mem_map.1 hcaller
    trivial

/-- A step of any caller keeps a crowd consistent and extends what the callers share. -/
theorem Crowd.Consistent.step {c : Crowd κ φ} (h : c.Consistent) (i : Nat) :
    (c.step i).Consistent ∧ c.arena.Extends (c.step i).arena := by
  unfold Crowd.step
  split
  · exact ⟨h, .refl _⟩
  · rename_i caller hi
    have hcaller := List.mem_of_getElem? hi
    obtain ⟨hsound, hgrown, hsettled⟩ := h.sound.advance (h.settled caller hcaller)
    refine ⟨⟨hsound, ?_⟩, hgrown⟩
    intro other hother
    obtain hother | rfl := List.mem_or_eq_of_mem_set hother
    · exact (h.settled other hother).mono hgrown
    · exact hsettled

/-- Every schedule keeps a crowd consistent and extends what the callers share. -/
theorem Crowd.Consistent.run {c : Crowd κ φ} (h : c.Consistent) (schedule : List Nat) :
    (c.run schedule).Consistent ∧ c.arena.Extends (c.run schedule).arena := by
  induction schedule generalizing c with
  | nil => exact ⟨h, .refl _⟩
  | cons i rest ih =>
    obtain ⟨hstep, hgrown⟩ := h.step i
    obtain ⟨hrun, hrest⟩ := ih hstep
    exact ⟨hrun, hgrown.trans hrest⟩

/-- Callers keep their sites. -/
theorem Crowd.sites_run (c : Crowd κ φ) (schedule : List Nat) :
    (c.run schedule).callers.map Caller.site = c.callers.map Caller.site := by
  induction schedule generalizing c with
  | nil => rfl
  | cons i rest ih =>
    refine (ih (c.step i)).trans ?_
    unfold Crowd.step
    split
    · rfl
    · rename_i caller hi
      obtain ⟨hlt, rfl⟩ := List.getElem?_eq_some_iff.1 hi
      rw [List.map_set]
      have hkept := List.set_getElem_self (i := i) (by simpa using hlt :
        i < (c.callers.map Caller.site).length)
      rwa [List.getElem_map] at hkept

/-- Entries of one cell are of one site. -/
theorem Arena.Sound.site_of_cell {a : Arena κ φ} (h : a.Sound) {x y : CallSite} {cell : Nat}
    (hx : a.index.lookup x = some cell) (hy : a.index.lookup y = some cell) : x = y := by
  have hnodup : (a.index.map Prod.snd).Nodup := by
    rw [h.numbered]
    exact List.nodup_range
  have heq := List.inj_on_of_nodup_map hnodup (mem_of_lookup hx) (mem_of_lookup hy) rfl
  exact congrArg Prod.fst heq

/-! ## A call without other callers -/

/-- What a caller finds kept for a site is the contents of the site's cell. -/
theorem Arena.get?_resolver (a : Arena κ φ) (site : CallSite) :
    a.resolver.cache.get? site = (a.index.lookup site).bind a.contents := by
  unfold Arena.resolver Cache.get?
  rw [lookup_map_values]
  cases a.index.lookup site <;> rfl

/-- Fetching a cell makes sure that the site has one. -/
theorem Arena.resolver_fetch (a : Arena κ φ) (site : CallSite) :
    (a.fetch site).2.resolver = { a.resolver with cache := a.resolver.cache.ensure site } := by
  unfold Arena.fetch Cache.ensure Arena.resolver
  rw [lookup_map_values]
  split
  · rename_i cell hcell
    simp [hcell]
  · rename_i hnone
    have hcontents := a.contents_append_none (a.index ++ [(site, a.cells.length)])
    have hnew : a.contents a.cells.length = none := by simp [Arena.contents]
    simp [hnone, hcontents, hnew]

/-- A caller that has fetched holds the cell of its site, and nothing has happened. -/
theorem Arena.fetch_holds (a : Arena κ φ) (site : CallSite) :
    (a.fetch site).2.world = a.world ∧ ∃ cell, (a.fetch site).1 = .holds cell ∧
      (a.fetch site).2.index.lookup site = some cell := by
  unfold Arena.fetch
  split
  · rename_i cell hcell
    exact ⟨rfl, cell, rfl, hcell⟩
  · rename_i hnone
    refine ⟨rfl, a.cells.length, rfl, ?_⟩
    simp [List.lookup_append, hnone]

/-- A construction fills the cell of its site, and no other site has that cell. -/
theorem Arena.Sound.resolver_construct {a : Arena κ φ} (h : a.Sound) {site : CallSite}
    {cell : Nat} (s : Shared φ) (w : World κ) (hcell : a.index.lookup site = some cell) :
    (a.construct site cell s w).resolver =
      { a.resolver with cache := a.resolver.cache.fill site s } := by
  have hcells : (a.construct site cell s w).resolver.cache.cells =
      (a.resolver.cache.fill site s).cells := by
    unfold Cache.fill Arena.resolver
    rw [List.map_map]
    refine List.map_congr_left ?_
    rintro ⟨x, k⟩ hentry
    by_cases hx : x = site
    · have hk : k = cell := by
        have hlookup := lookup_of_mem h.sites hentry
        rw [hx, hcell] at hlookup
        exact (Option.some.inj hlookup).symm
      simp [hx, hk, a.contents_construct_self site s w (h.cell_lt hcell)]
    · have hk : k ≠ cell := by
        rintro rfl
        exact hx (h.site_of_cell (lookup_of_mem h.sites hentry) hcell)
      simp [hx, a.contents_construct_of_ne site s w hk]
  exact congrArg (fun cells => { a.resolver with cache := ⟨cells⟩ }) hcells

/-- The third step of a call initialises the cell of its site. -/
theorem Arena.Sound.initialise_eq {a : Arena κ φ} (h : a.Sound) {site : CallSite} {cell : Nat}
    (hcell : a.index.lookup site = some cell) :
    (a.initialise site cell).1 = .answered (a.resolver.initialise site a.world).1 ∧
      (a.initialise site cell).2.resolver = (a.resolver.initialise site a.world).2.1 ∧
      (a.initialise site cell).2.world = (a.resolver.initialise site a.world).2.2 := by
  have hkept : a.resolver.cache.get? site = a.contents cell := by
    rw [a.get?_resolver, hcell]
    rfl
  unfold Arena.initialise Resolver.initialise
  rw [hkept]
  cases a.contents cell with
  | some s => exact ⟨rfl, rfl, rfl⟩
  | none =>
    rcases a.resolver.instantiate site a.world with ⟨result, w⟩
    cases result with
    | ok s => exact ⟨rfl, h.resolver_construct s w hcell, rfl⟩
    | error e => exact ⟨rfl, rfl, rfl⟩

/-- A step of a caller advances it and leaves the other callers alone. -/
theorem Crowd.step_eq {c : Crowd κ φ} {i : Nat} {caller : Caller φ}
    (hi : c.callers[i]? = some caller) :
    (c.step i).arena = (c.arena.advance caller).2 ∧
      (c.step i).callers[i]? = some ⟨caller.site, (c.arena.advance caller).1⟩ := by
  obtain ⟨hlt, -⟩ := List.getElem?_eq_some_iff.1 hi
  unfold Crowd.step
  rw [hi]
  exact ⟨rfl, List.getElem?_set_self hlt⟩

/-- A caller whose three steps are not interleaved with others resolves its site. -/
theorem Crowd.Consistent.run_undisturbed {c : Crowd κ φ} (h : c.Consistent) {i : Nat}
    {site : CallSite} (hi : c.callers[i]? = some { site }) :
    (c.run [i, i, i]).callers[i]? =
        some ⟨site, .answered (c.arena.resolver.resolve site c.arena.world).1⟩ ∧
      (c.run [i, i, i]).arena.resolver =
        (c.arena.resolver.resolve site c.arena.world).2.1 ∧
      (c.run [i, i, i]).arena.world =
        (c.arena.resolver.resolve site c.arena.world).2.2 := by
  -- the first step looks the site up; a miss leads on to its cell, and any other step does nothing
  obtain ⟨harena₁, hcaller₁⟩ := Crowd.step_eq hi
  have hlook := c.arena.get?_resolver site
  cases hkept : (c.arena.index.lookup site).bind c.arena.contents with
  | some s =>
    have hadvance : c.arena.advance { site } = (.answered (.ok s), c.arena) := by
      simp [Arena.advance, Arena.lookUp, hkept]
    rw [hadvance] at harena₁ hcaller₁
    obtain ⟨harena₂, hcaller₂⟩ := Crowd.step_eq hcaller₁
    obtain ⟨harena₃, hcaller₃⟩ := Crowd.step_eq hcaller₂
    rw [Resolver.resolve_of_kept c.arena.world (hlook.trans hkept)]
    have harena : (c.run [i, i, i]).arena = c.arena :=
      harena₃.trans (harena₂.trans harena₁)
    exact ⟨hcaller₃, congrArg Arena.resolver harena, congrArg Arena.world harena⟩
  | none =>
    have hadvance : c.arena.advance { site } = (.missed, c.arena) := by
      simp [Arena.advance, Arena.lookUp, hkept]
    rw [hadvance] at harena₁ hcaller₁
    obtain ⟨harena₂, hcaller₂⟩ := Crowd.step_eq hcaller₁
    obtain ⟨hworld, cell, hstage, hcell⟩ := c.arena.fetch_holds site
    have hfetch : (c.step i).arena.advance ⟨site, .missed⟩ = c.arena.fetch site := by
      rw [harena₁]
      rfl
    rw [hfetch] at harena₂ hcaller₂
    rw [hstage] at hcaller₂
    obtain ⟨harena₃, hcaller₃⟩ := Crowd.step_eq hcaller₂
    have hinitialise : ((c.step i).step i).arena.advance ⟨site, .holds cell⟩ =
        (c.arena.fetch site).2.initialise site cell := by
      rw [harena₂]
      rfl
    rw [hinitialise] at harena₃ hcaller₃
    obtain ⟨hanswer, hresolver, hlast⟩ :=
      (h.sound.fetch site).sound.initialise_eq hcell
    rw [c.arena.resolver_fetch site, hworld] at hanswer hresolver hlast
    have hresolve : c.arena.resolver.resolve site c.arena.world =
        Resolver.initialise { c.arena.resolver with
          cache := c.arena.resolver.cache.ensure site } site c.arena.world := by
      unfold Resolver.resolve
      rw [hlook.trans hkept]
    rw [hresolve]
    refine ⟨?_, ?_, ?_⟩
    · rw [← hanswer]
      exact hcaller₃
    · rw [← hresolver]
      exact congrArg Arena.resolver harena₃
    · rw [← hlast]
      exact congrArg Arena.world harena₃

/-! ## What callers may rely on -/

/-- What callers may rely on, however their steps interleave. -/
structure Crowd.Coherent (c : Crowd κ φ) : Prop where
  /-- A site has at most one cell. -/
  one_cell : (c.arena.index.map Prod.fst).Nodup
  /-- A cell is filled at most once. -/
  filled_once : (c.arena.built.map Construction.cell).Nodup
  /-- At most one construction for a site succeeds. -/
  built_once : ∀ site, (c.arena.built.map Construction.site).count site ≤ 1
  /-- Callers of one site that are answered with an instance are answered with the same. -/
  same_instance : ∀ x ∈ c.callers, ∀ y ∈ c.callers, x.site = y.site → ∀ s t,
    x.stage = .answered (.ok s) → y.stage = .answered (.ok t) → s = t
  /-- The instance of a caller was constructed for a call of its own site, and for no other. -/
  own_instance : ∀ x ∈ c.callers, ∀ s, x.stage = .answered (.ok s) →
    (∃ b ∈ c.arena.built, b.id = s.id) ∧ ∀ b ∈ c.arena.built, b.id = s.id → b.site = x.site

/-- The invariant gives callers what they rely on. -/
theorem Crowd.Consistent.coherent {c : Crowd κ φ} (h : c.Consistent) : c.Coherent where
  one_cell := h.sound.sites
  filled_once := h.sound.once
  built_once := by
    refine List.nodup_iff_count_le_one.1 (List.Nodup.map_on ?_ (h.sound.once.of_map _))
    intro b hb b' hb' hsite
    have hcell := (h.sound.placed b hb).1
    have hcell' := (h.sound.placed b' hb').1
    rw [hsite, hcell'] at hcell
    exact List.inj_on_of_nodup_map h.sound.once hb hb' (Option.some.inj hcell).symm
  same_instance x hx y hy hsite s t hs ht := by
    have hx' := h.settled x hx
    have hy' := h.settled y hy
    simp only [Caller.Settled, hs, ht] at hx' hy'
    obtain ⟨cell, hcell, hcontents⟩ := hx'
    obtain ⟨cell', hcell', hcontents'⟩ := hy'
    rw [hsite, hcell'] at hcell
    cases hcell
    rw [hcontents] at hcontents'
    cases hcontents'
    rfl
  own_instance x hx s hs := by
    have hx' := h.settled x hx
    simp only [Caller.Settled, hs] at hx'
    obtain ⟨cell, hcell, hcontents⟩ := hx'
    obtain ⟨b, hb, rfl, hid⟩ := h.sound.filled cell s hcontents
    refine ⟨⟨b, hb, hid⟩, ?_⟩
    intro b' hb' hid'
    have heq : b' = b :=
      List.inj_on_of_nodup_map h.sound.instances hb' hb (hid'.trans hid.symm)
    rw [heq]
    exact h.sound.site_of_cell (h.sound.placed b hb).1 hcell

/-- For all callers and their sites, all factories and every schedule of the callers' steps: each
site gets one cell that is filled once, callers of one site share one instance that was constructed
once and for that site, and later steps only add to what there is. -/
theorem Crowd.coherent_run (naming : Naming) (contract : Contract κ φ) (registry : Registry κ)
    (w : World κ) (sites : List CallSite) (before after : List Nat) :
    let earlier := (Crowd.start naming contract registry w sites).run before
    let later := earlier.run after
    later.Coherent ∧ earlier.arena.Extends later.arena ∧
      later.callers.map Caller.site = sites := by
  intro earlier later
  have hearlier := ((Crowd.consistent_start naming contract registry w sites).run before).1
  obtain ⟨hlater, hgrown⟩ := hearlier.run after
  refine ⟨hlater.coherent, hgrown, ?_⟩
  rw [Crowd.sites_run, Crowd.sites_run, Crowd.start, List.map_map]
  exact List.map_id sites

end ExprGate.Access
