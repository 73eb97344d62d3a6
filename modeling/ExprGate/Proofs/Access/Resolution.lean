import ExprGate.Access.Resolver

/-!
# What resolving a site comes to

A resolver keeps the instance of every site that it has resolved. The cells of its cache are read
back through `Cache.get?`: making sure of a cell changes no instance (`Cache.get?_ensure`), filling
a cell changes the instance of its own site only (`Cache.get?_fill_self`, `Cache.get?_fill_of_ne`).

Building an instance succeeds in one way, which `Resolver.instantiate_ok` spells out: the name of
the site is registered, the factory under it runs and gives an evaluator of the resolver's contract,
under the next instance number. `Resolver.resolve_of_kept` and `Resolver.resolve_of_not_kept` say
what resolving does; what it leaves alone follows from them. What every resolution preserves, a run
of resolutions preserves (`Resolver.resolveAll_preserves`).
-/

set_option autoImplicit false

namespace ExprGate.Access

variable {κ φ : Type}

/-! ## The cells of a cache -/

/-- Making sure that a site has a cell changes no instance, since a new cell is empty. -/
@[simp]
theorem Cache.get?_ensure (c : Cache φ) (site x : CallSite) : (c.ensure site).get? x = c.get? x := by
  unfold Cache.ensure
  split
  · rfl
  · rename_i h
    have hnone : c.cells.lookup site = none := Option.not_isSome_iff_eq_none.1 h
    unfold Cache.get?
    rw [List.lookup_append]
    by_cases hx : x = site
    · rw [hx, hnone]
      simp
    · have hbeq : (x == site) = false := by simpa using hx
      simp [List.lookup_cons, hbeq]

/-- A site that is made sure of has a cell. -/
theorem Cache.lookup_ensure_isSome (c : Cache φ) (site : CallSite) :
    ((c.ensure site).cells.lookup site).isSome := by
  unfold Cache.ensure
  split
  · assumption
  · simp [List.lookup_append]

/-- Filling a cell leaves every key where it is and changes the contents of one key only. -/
theorem Cache.lookup_fill (c : Cache φ) (site x : CallSite) (s : Shared φ) :
    (c.fill site s).cells.lookup x =
      (c.cells.lookup x).map fun content => if x = site then some s else content := by
  unfold Cache.fill
  generalize c.cells = cells
  induction cells with
  | nil => rfl
  | cons entry rest ih =>
    obtain ⟨key, content⟩ := entry
    by_cases hx : x = key
    · subst hx
      by_cases hs : x = site <;> simp [hs]
    · have hbeq : (x == key) = false := by simpa using hx
      have hkey : (if key = site then (key, some s) else (key, content)).1 = key := by
        split <;> rfl
      rw [List.map_cons, List.lookup_cons, hkey, hbeq, List.lookup_cons, hbeq]
      exact ih

/-- A cell that is filled holds what it was filled with. -/
theorem Cache.get?_fill_self {c : Cache φ} {site : CallSite} (s : Shared φ)
    (h : (c.cells.lookup site).isSome) : (c.fill site s).get? site = some s := by
  obtain ⟨content, hcontent⟩ := Option.isSome_iff_exists.1 h
  simp [Cache.get?, Cache.lookup_fill, hcontent]

/-- Filling a cell leaves the other cells alone. -/
theorem Cache.get?_fill_of_ne {c : Cache φ} {site x : CallSite} (s : Shared φ) (h : x ≠ site) :
    (c.fill site s).get? x = c.get? x := by
  simp [Cache.get?, Cache.lookup_fill, h]

/-! ## Running factories -/

/-- A successful factory run gives the evaluator that the factory builds at this run, under the
next instance number. -/
theorem Registration.run_ok {g : Registration κ} {w w' : World κ} {s : Shared (Evaluator κ)}
    (h : g.run w = (.ok s, w')) :
    g.factory.outcome (w.runsOf g.serial) = .built s.evaluator ∧ s.id = w.instances ∧
      w'.instances = w.instances + 1 := by
  unfold Registration.run at h
  split at h
  · rename_i evaluator hbuilt
    obtain ⟨rfl, rfl⟩ := by simpa using h
    exact ⟨hbuilt, rfl, rfl⟩
  · simp at h
  · simp at h

/-- A factory run leaves the evaluations, the calls and the instances of the past alone. -/
theorem Registration.run_frame (g : Registration κ) (w : World κ) :
    (g.run w).2.evaluations = w.evaluations ∧ (g.run w).2.calls = w.calls ∧
      w.instances ≤ (g.run w).2.instances := by
  unfold Registration.run
  split <;> simp

/-- Building succeeds in one way: the name is computed and registered, the factory run gives an
evaluator, and that evaluator has the resolver's contract. -/
theorem Resolver.instantiate_ok {r : Resolver κ φ} {site : CallSite} {w w' : World κ}
    {s : Shared φ} (h : r.instantiate site w = (.ok s, w')) :
    ∃ name g evaluator, site.evaluatorName r.naming = .ok name ∧
      r.registry.get? name = some g ∧ g.run w = (.ok ⟨s.id, evaluator⟩, w') ∧
      r.contract.view? evaluator = some s.evaluator := by
  unfold Resolver.instantiate at h
  split at h
  · simp at h
  · rename_i name hname
    split at h
    · simp at h
    · rename_i g hg
      split at h
      · simp at h
      · rename_i built w₁ hrun
        split at h
        · rename_i view hview
          obtain ⟨rfl, rfl⟩ := by simpa using h
          exact ⟨name, g, built.evaluator, hname, hg, hrun, hview⟩
        · simp at h

/-- Building reports an error of naming only if the patterns give no name. -/
theorem Resolver.instantiate_naming {r : Resolver κ φ} {site : CallSite} {w : World κ}
    {e : NamingError} (h : (r.instantiate site w).1 = .error (.naming e)) :
    site.evaluatorName r.naming = .error e := by
  unfold Resolver.instantiate at h
  split at h
  · rename_i hname
    cases h
    exact hname
  · split at h
    · cases h
    · split at h
      · cases h
      · split at h <;> cases h

/-- A newly built instance has the next instance number. -/
theorem Resolver.instantiate_ok_id {r : Resolver κ φ} {site : CallSite} {w w' : World κ}
    {s : Shared φ} (h : r.instantiate site w = (.ok s, w')) :
    s.id = w.instances ∧ w'.instances = w.instances + 1 := by
  obtain ⟨name, g, evaluator, -, -, hrun, -⟩ := Resolver.instantiate_ok h
  exact (Registration.run_ok hrun).2

/-- Building leaves the evaluations, the calls and the instances of the past alone. -/
theorem Resolver.instantiate_frame (r : Resolver κ φ) (site : CallSite) (w : World κ) :
    (r.instantiate site w).2.evaluations = w.evaluations ∧
      (r.instantiate site w).2.calls = w.calls ∧
      w.instances ≤ (r.instantiate site w).2.instances := by
  unfold Resolver.instantiate
  split
  · exact ⟨rfl, rfl, Nat.le_refl _⟩
  · split
    · exact ⟨rfl, rfl, Nat.le_refl _⟩
    · rename_i g _
      have hframe := g.run_frame w
      split
      · rename_i hrun
        simpa only [hrun] using hframe
      · rename_i hrun
        rw [hrun] at hframe
        split <;> exact hframe

/-! ## Resolving -/

/-- What an answer gives as a value is its success. -/
theorem eq_ok_of_toOption {ε α : Type} {x : Except ε α} {a : α} (h : x.toOption = some a) :
    x = .ok a := by
  cases x with
  | error e => cases h
  | ok b =>
    obtain rfl := Option.some.inj h
    rfl

/-- A kept instance is handed out as it is, and nothing else happens. -/
theorem Resolver.resolve_of_kept {r : Resolver κ φ} {site : CallSite} {s : Shared φ}
    (w : World κ) (h : r.cache.get? site = some s) : r.resolve site w = (.ok s, r, w) := by
  simp [Resolver.resolve, h]

/-- A site without kept instance has one built. A success is kept, and a failure leaves the cell
empty. -/
theorem Resolver.resolve_of_not_kept {r : Resolver κ φ} {site : CallSite} (w : World κ)
    (h : r.cache.get? site = none) :
    r.resolve site w =
      match r.instantiate site w with
      | (.ok s, w') => (.ok s, { r with cache := (r.cache.ensure site).fill site s }, w')
      | (.error e, w') => (.error e, { r with cache := r.cache.ensure site }, w') := by
  have hbuild : Resolver.instantiate { r with cache := r.cache.ensure site } site w =
      r.instantiate site w := rfl
  have hempty : (r.cache.ensure site).get? site = none := by rw [Cache.get?_ensure, h]
  have hresolve : r.resolve site w =
      Resolver.initialise { r with cache := r.cache.ensure site } site w := by
    simp only [Resolver.resolve, h]
  rw [hresolve]
  rcases hresult : r.instantiate site w with ⟨result, w'⟩
  rw [hresult] at hbuild
  cases result with
  | error e => simp [Resolver.initialise, hempty, hbuild]
  | ok s => simp [Resolver.initialise, hempty, hbuild]

/-- A resolution reports an error of naming only if the patterns give no name. -/
theorem Resolver.resolve_naming {r : Resolver κ φ} {site : CallSite} {w : World κ}
    {e : NamingError} (h : (r.resolve site w).1 = .error (.naming e)) :
    site.evaluatorName r.naming = .error e := by
  cases hkept : r.cache.get? site with
  | some s =>
    rw [Resolver.resolve_of_kept w hkept] at h
    cases h
  | none =>
    rw [Resolver.resolve_of_not_kept w hkept] at h
    split at h
    · cases h
    · rename_i w' hresult
      obtain rfl := Except.error.inj h
      exact Resolver.instantiate_naming (congrArg Prod.fst hresult)

/-- A resolution keeps what it answers, and changes nothing that is kept for other sites. -/
theorem Resolver.get?_resolve (r : Resolver κ φ) (site x : CallSite) (w : World κ) :
    (r.resolve site w).2.1.cache.get? x =
      if x = site then (r.resolve site w).1.toOption else r.cache.get? x := by
  cases hkept : r.cache.get? site with
  | some s =>
    rw [Resolver.resolve_of_kept w hkept]
    split
    · rename_i hx
      rw [hx]
      exact hkept
    · rfl
  | none =>
    rw [Resolver.resolve_of_not_kept w hkept]
    split
    · rename_i s w' _
      split
      · rename_i hx
        rw [hx]
        exact Cache.get?_fill_self s (Cache.lookup_ensure_isSome r.cache site)
      · rename_i hx
        rw [Cache.get?_fill_of_ne s hx, Cache.get?_ensure]
    · rw [Cache.get?_ensure]
      split
      · rename_i hx
        rw [hx]
        exact hkept
      · rfl

/-- Resolving changes the cache of a resolver only. -/
theorem Resolver.resolve_frame (r : Resolver κ φ) (site : CallSite) (w : World κ) :
    (r.resolve site w).2.1.naming = r.naming ∧ (r.resolve site w).2.1.contract = r.contract ∧
      (r.resolve site w).2.1.registry = r.registry := by
  cases h : r.cache.get? site with
  | some s =>
    rw [Resolver.resolve_of_kept w h]
    exact ⟨rfl, rfl, rfl⟩
  | none =>
    rw [Resolver.resolve_of_not_kept w h]
    split <;> exact ⟨rfl, rfl, rfl⟩

/-- Resolving evaluates nothing and calls nothing. -/
theorem Resolver.resolve_world (r : Resolver κ φ) (site : CallSite) (w : World κ) :
    (r.resolve site w).2.2.evaluations = w.evaluations ∧
      (r.resolve site w).2.2.calls = w.calls := by
  cases h : r.cache.get? site with
  | some s =>
    rw [Resolver.resolve_of_kept w h]
    exact ⟨rfl, rfl⟩
  | none =>
    have hframe := r.instantiate_frame site w
    rw [Resolver.resolve_of_not_kept w h]
    split <;> rename_i hbuild <;> rw [hbuild] at hframe <;> exact ⟨hframe.1, hframe.2.1⟩

/-- A kept instance stays kept, whatever is resolved. -/
theorem Resolver.resolve_keeps {r : Resolver κ φ} {site x : CallSite} {s : Shared φ}
    (w : World κ) (h : r.cache.get? x = some s) :
    (r.resolve site w).2.1.cache.get? x = some s := by
  rw [Resolver.get?_resolve]
  split
  · rename_i hx
    subst hx
    rw [Resolver.resolve_of_kept w h]
    rfl
  · exact h

/-- An instance that a site is answered with is kept for it from then on. -/
theorem Resolver.resolve_ok_kept {r : Resolver κ φ} {site : CallSite} {w : World κ}
    {s : Shared φ} (h : (r.resolve site w).1 = .ok s) :
    (r.resolve site w).2.1.cache.get? site = some s := by
  rw [Resolver.get?_resolve, if_pos rfl, h]
  rfl

/-! ## Runs of resolutions -/

/-- What every resolution preserves is preserved by every run. -/
theorem Resolver.resolveAll_preserves {P : Resolver κ φ → Prop}
    (hstep : ∀ r site w, P r → P (r.resolve site w).2.1) {r : Resolver κ φ} (h : P r) (w : World κ)
    (sites : List CallSite) : P (r.resolveAll w sites).2.1 := by
  induction sites generalizing r w with
  | nil => exact h
  | cons site rest ih => exact ih (hstep r site w h) (r.resolve site w).2.2

/-- Runs change the cache of a resolver only. -/
theorem Resolver.resolveAll_frame (r : Resolver κ φ) (w : World κ) (sites : List CallSite) :
    (r.resolveAll w sites).2.1.naming = r.naming ∧
      (r.resolveAll w sites).2.1.contract = r.contract ∧
      (r.resolveAll w sites).2.1.registry = r.registry := by
  refine Resolver.resolveAll_preserves
    (P := fun q => q.naming = r.naming ∧ q.contract = r.contract ∧ q.registry = r.registry) ?_
    ⟨rfl, rfl, rfl⟩ w sites
  rintro q site w ⟨hnaming, hcontract, hregistry⟩
  obtain ⟨hnaming', hcontract', hregistry'⟩ := q.resolve_frame site w
  exact ⟨hnaming'.trans hnaming, hcontract'.trans hcontract, hregistry'.trans hregistry⟩

/-- Instances that are kept before a run are kept after it. -/
theorem Resolver.resolveAll_keeps {r : Resolver κ φ} {x : CallSite} {s : Shared φ} (w : World κ)
    (h : r.cache.get? x = some s) (sites : List CallSite) :
    (r.resolveAll w sites).2.1.cache.get? x = some s :=
  Resolver.resolveAll_preserves (P := fun q => q.cache.get? x = some s)
    (fun _ _ w hq => Resolver.resolve_keeps w hq) h w sites

/-! ## Sites whose name is not registered -/

/-- Every kept instance is of a site whose evaluator is registered. -/
def Resolver.KeepsRegistered (r : Resolver κ φ) : Prop :=
  ∀ site s, r.cache.get? site = some s →
    ∃ name, site.evaluatorName r.naming = .ok name ∧ r.registry.contains name

/-- A new resolver keeps nothing. -/
theorem Resolver.keepsRegistered_new (naming : Naming) (contract : Contract κ φ)
    (registry : Registry κ) : Resolver.KeepsRegistered { naming, contract, registry } := by
  intro site s h
  cases h

/-- Resolving keeps instances of sites with registered evaluators only. -/
theorem Resolver.KeepsRegistered.resolve {r : Resolver κ φ} (hr : r.KeepsRegistered)
    (site : CallSite) (w : World κ) : (r.resolve site w).2.1.KeepsRegistered := by
  cases h : r.cache.get? site with
  | some s =>
    rw [Resolver.resolve_of_kept w h]
    exact hr
  | none =>
    rw [Resolver.resolve_of_not_kept w h]
    split
    · rename_i s w' hbuild
      obtain ⟨name, g, -, hname, hg, -⟩ := Resolver.instantiate_ok hbuild
      intro x t hx
      by_cases hxs : x = site
      · rw [hxs]
        exact ⟨name, hname, by simp [Registry.contains, hg]⟩
      · rw [Cache.get?_fill_of_ne s hxs, Cache.get?_ensure] at hx
        exact hr x t hx
    · intro x t hx
      rw [Cache.get?_ensure] at hx
      exact hr x t hx

/-- So it is after any number of resolutions, which change nothing but the cache. -/
theorem Resolver.KeepsRegistered.resolveAll {r : Resolver κ φ} (hr : r.KeepsRegistered)
    (w : World κ) (sites : List CallSite) :
    (r.resolveAll w sites).2.1.KeepsRegistered ∧
      (r.resolveAll w sites).2.1.naming = r.naming ∧
      (r.resolveAll w sites).2.1.registry = r.registry := by
  obtain ⟨hnaming, -, hregistry⟩ := r.resolveAll_frame w sites
  have hkeeps := Resolver.resolveAll_preserves (fun _ site w hq => hq.resolve site w) hr w sites
  exact ⟨hkeeps, hnaming, hregistry⟩

/-- A site whose evaluator is not registered is not resolved. -/
theorem Resolver.KeepsRegistered.resolve_unregistered {r : Resolver κ φ}
    (hr : r.KeepsRegistered) {site : CallSite} {name : String} (w : World κ)
    (hname : site.evaluatorName r.naming = .ok name) (h : ¬ r.registry.contains name) :
    (r.resolve site w).1 = .error (.notFound name) := by
  have hkept : r.cache.get? site = none := by
    rw [Option.eq_none_iff_forall_ne_some]
    intro s hs
    obtain ⟨name', hname', hregistered⟩ := hr site s hs
    rw [hname] at hname'
    cases hname'
    exact h hregistered
  have hnone : r.registry.get? name = none := by
    simpa [Registry.contains] using h
  have hbuild : r.instantiate site w = (.error (.notFound name), w) := by
    unfold Resolver.instantiate
    rw [hname]
    simp only [hnone]
  rw [Resolver.resolve_of_not_kept w hkept, hbuild]

end ExprGate.Access
