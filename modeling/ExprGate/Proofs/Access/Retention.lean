import Mathlib.Data.List.Dedup
import Mathlib.Data.List.Induction
import ExprGate.Proofs.Access.Resolution
import ExprGate.Proofs.Table

/-!
# What a resolver remembers

A new resolver resolves sites one after another. One resolution changes what is kept for its own
site only, and there it keeps what it answers (`Resolver.get?_resolve`); it runs a factory only for
a site without kept instance whose name is registered (`Resolver.runs_resolve`).

So after any run the kept instances are those with which calls have been answered
(`Resolver.get?_resolveAll`). They are counted by `Cache.size`, which passes over the empty cells
that failures have left, and each was built by the factory under its site's name, at the first call
that was answered with it (`Resolver.Account`).
-/

set_option autoImplicit false

namespace ExprGate.Access

variable {κ φ : Type}

/-! ## One resolution -/

/-- The registration that the name of a site leads to. -/
def Resolver.registration? (r : Resolver κ φ) (site : CallSite) : Option (Registration κ) :=
  (site.evaluatorName r.naming).toOption.bind r.registry.get?

/-- A factory run is recorded under the serial number of its registration. -/
theorem Registration.runs_run (g : Registration κ) (w : World κ) :
    (g.run w).2.runs = w.runs ++ [g.serial] := by
  unfold Registration.run
  split <;> rfl

/-- Building runs the factory under the site's name, if there is one. -/
theorem Resolver.runs_instantiate (r : Resolver κ φ) (site : CallSite) (w : World κ) :
    (r.instantiate site w).2.runs =
      w.runs ++ (r.registration? site).toList.map Registration.serial := by
  unfold Resolver.instantiate Resolver.registration?
  cases site.evaluatorName r.naming with
  | error e => exact (List.append_nil _).symm
  | ok name =>
    simp only [Except.toOption, Option.bind_some]
    cases r.registry.get? name with
    | none => exact (List.append_nil _).symm
    | some g =>
      have hruns := g.runs_run w
      simp only [Option.toList_some, List.map_cons, List.map_nil]
      split
      · rename_i hrun
        rwa [hrun] at hruns
      · rename_i hrun
        rw [hrun] at hruns
        split <;> exact hruns

/-- Resolving runs one factory if nothing is kept for the site and its name is registered, and none
otherwise. -/
theorem Resolver.runs_resolve (r : Resolver κ φ) (site : CallSite) (w : World κ) :
    (r.resolve site w).2.2.runs =
      w.runs ++ if (r.cache.get? site).isSome then []
        else (r.registration? site).toList.map Registration.serial := by
  cases hkept : r.cache.get? site with
  | some s =>
    rw [Resolver.resolve_of_kept w hkept]
    exact (List.append_nil _).symm
  | none =>
    have hruns := r.runs_instantiate site w
    rw [Resolver.resolve_of_not_kept w hkept]
    split <;> rename_i hbuild <;> rw [hbuild] at hruns <;> exact hruns

/-! ## The keys of a cache -/

/-- No site has two cells. -/
def Cache.IsKeyed (c : Cache φ) : Prop :=
  (c.cells.map Prod.fst).Nodup

/-- The sites whose cells are filled. -/
def Cache.filledSites (c : Cache φ) : List CallSite :=
  (c.cells.filter fun (_, content) => content.isSome).map Prod.fst

/-- The size counts the sites whose cells are filled. -/
theorem Cache.size_eq_length_filledSites (c : Cache φ) : c.size = c.filledSites.length := by
  rw [Cache.size, Cache.filledSites, List.length_map, List.countP_eq_length_filter]

/-- In a cache without double cells, the filled sites are those for which an instance is kept. -/
theorem Cache.IsKeyed.mem_filledSites {c : Cache φ} (h : c.IsKeyed) {site : CallSite} :
    site ∈ c.filledSites ↔ ∃ s, c.get? site = some s := by
  unfold Cache.filledSites Cache.get?
  constructor
  · intro hsite
    obtain ⟨⟨key, content⟩, hentry, rfl⟩ := List.mem_map.1 hsite
    obtain ⟨hmem, hfilled⟩ := List.mem_filter.1 hentry
    obtain ⟨s, rfl⟩ := Option.isSome_iff_exists.1 hfilled
    exact ⟨s, by rw [lookup_of_mem h hmem]; rfl⟩
  · rintro ⟨s, hs⟩
    have hlookup : c.cells.lookup site = some (some s) := Option.join_eq_some_iff.1 hs
    exact List.mem_map.2 ⟨_, List.mem_filter.2 ⟨mem_of_lookup hlookup, rfl⟩, rfl⟩

/-- No site is filled twice. -/
theorem Cache.IsKeyed.nodup_filledSites {c : Cache φ} (h : c.IsKeyed) : c.filledSites.Nodup :=
  h.sublist (List.filter_sublist.map Prod.fst)

/-- Making sure of a cell adds a key that is new. -/
theorem Cache.IsKeyed.ensure {c : Cache φ} (h : c.IsKeyed) (site : CallSite) :
    (c.ensure site).IsKeyed := by
  unfold Cache.ensure
  split
  · exact h
  · rename_i hnone
    have hlookup : c.cells.lookup site = none := Option.not_isSome_iff_eq_none.1 hnone
    unfold Cache.IsKeyed
    rw [List.map_append]
    apply nodup_append_new h
    -- a site whose look-up fails is no key
    intro hmem
    obtain ⟨entry, hentry, rfl⟩ := List.mem_map.1 hmem
    have hne := List.lookup_eq_none_iff.1 hlookup entry hentry
    simp at hne

/-- Filling a cell changes no key. -/
theorem Cache.IsKeyed.fill {c : Cache φ} (h : c.IsKeyed) (site : CallSite) (s : Shared φ) :
    (c.fill site s).IsKeyed := by
  have hkeys : (c.fill site s).cells.map Prod.fst = c.cells.map Prod.fst := by
    unfold Cache.fill
    rw [List.map_map]
    refine List.map_congr_left ?_
    rintro ⟨key, content⟩ _
    simp only [Function.comp_apply]
    split <;> rfl
  unfold Cache.IsKeyed
  rw [hkeys]
  exact h

/-- Resolving gives no site a second cell. -/
theorem Cache.IsKeyed.resolve {r : Resolver κ φ} (h : r.cache.IsKeyed) (site : CallSite)
    (w : World κ) : (r.resolve site w).2.1.cache.IsKeyed := by
  cases hkept : r.cache.get? site with
  | some s =>
    rw [Resolver.resolve_of_kept w hkept]
    exact h
  | none =>
    rw [Resolver.resolve_of_not_kept w hkept]
    split
    · exact (h.ensure site).fill site _
    · exact h.ensure site

/-- Caches without double cells that keep instances for the same sites have the same size. -/
theorem Cache.IsKeyed.size_eq {c d : Cache φ} (hc : c.IsKeyed) (hd : d.IsKeyed)
    (h : ∀ x, c.get? x = d.get? x) : c.size = d.size := by
  rw [Cache.size_eq_length_filledSites, Cache.size_eq_length_filledSites]
  refine List.Perm.length_eq ?_
  rw [List.perm_ext_iff_of_nodup hc.nodup_filledSites hd.nodup_filledSites]
  intro x
  rw [hc.mem_filledSites, hd.mem_filledSites, h x]

/-! ## Runs -/

/-- A run is a run of its first sites, and then one of the others. -/
theorem Resolver.resolveAll_append (r : Resolver κ φ) (w : World κ) (xs ys : List CallSite) :
    r.resolveAll w (xs ++ ys) =
      ((r.resolveAll w xs).1 ++
          ((r.resolveAll w xs).2.1.resolveAll (r.resolveAll w xs).2.2 ys).1,
        ((r.resolveAll w xs).2.1.resolveAll (r.resolveAll w xs).2.2 ys).2) := by
  induction xs generalizing r w with
  | nil => rfl
  | cons x xs ih =>
    simp only [List.cons_append, Resolver.resolveAll]
    rw [ih]

/-- The last site of a run is resolved as the run before has left things. -/
theorem Resolver.resolveAll_concat (r : Resolver κ φ) (w : World κ) (xs : List CallSite)
    (x : CallSite) :
    r.resolveAll w (xs ++ [x]) =
      ((r.resolveAll w xs).1 ++ [((r.resolveAll w xs).2.1.resolve x (r.resolveAll w xs).2.2).1],
        ((r.resolveAll w xs).2.1.resolve x (r.resolveAll w xs).2.2).2) := by
  rw [Resolver.resolveAll_append]
  rfl

/-- Every call of a run has one answer. -/
theorem Resolver.length_answers (r : Resolver κ φ) (w : World κ) (sites : List CallSite) :
    (r.resolveAll w sites).1.length = sites.length := by
  induction sites generalizing r w with
  | nil => rfl
  | cons site rest ih => exact congrArg (· + 1) (ih _ _)

/-- The calls of a run with their answers. -/
def Resolver.calls (r : Resolver κ φ) (w : World κ) (sites : List CallSite) :
    List (CallSite × Except ResolveError (Shared φ)) :=
  sites.zip (r.resolveAll w sites).1

/-- The last call of a run comes with the answer of its resolution. -/
theorem Resolver.calls_concat (r : Resolver κ φ) (w : World κ) (xs : List CallSite)
    (x : CallSite) :
    r.calls w (xs ++ [x]) =
      r.calls w xs ++ [(x, ((r.resolveAll w xs).2.1.resolve x (r.resolveAll w xs).2.2).1)] := by
  unfold Resolver.calls
  rw [Resolver.resolveAll_concat, List.zip_append (r.length_answers w xs).symm]
  rfl

/-- The sites of calls that have been answered with an instance. -/
def answeredSites (calls : List (CallSite × Except ResolveError (Shared φ))) : List CallSite :=
  (calls.filter fun (_, answer) => answer.isOk).map Prod.fst

/-- A site has been answered with an instance if one of its calls has. -/
theorem mem_answeredSites {calls : List (CallSite × Except ResolveError (Shared φ))}
    {site : CallSite} : site ∈ answeredSites calls ↔ ∃ s, (site, .ok s) ∈ calls := by
  unfold answeredSites
  constructor
  · intro hsite
    obtain ⟨⟨x, answer⟩, hcall, rfl⟩ := List.mem_map.1 hsite
    obtain ⟨hmem, hok⟩ := List.mem_filter.1 hcall
    cases answer with
    | ok s => exact ⟨s, hmem⟩
    | error e => cases hok
  · rintro ⟨s, hs⟩
    exact List.mem_map.2 ⟨_, List.mem_filter.2 ⟨hs, rfl⟩, rfl⟩

/-- No run gives a site a second cell. -/
theorem Cache.IsKeyed.resolveAll {r : Resolver κ φ} (h : r.cache.IsKeyed) (w : World κ)
    (sites : List CallSite) : (r.resolveAll w sites).2.1.cache.IsKeyed :=
  Resolver.resolveAll_preserves (P := fun q => q.cache.IsKeyed)
    (fun _ site w hq => hq.resolve site w) h w sites

/-- What a resolver keeps at the end of a run, if it kept nothing before, are the instances with
which calls have been answered. -/
theorem Resolver.get?_resolveAll {r : Resolver κ φ} (hnew : ∀ x, r.cache.get? x = none)
    (w : World κ) (sites : List CallSite) (x : CallSite) (s : Shared φ) :
    (r.resolveAll w sites).2.1.cache.get? x = some s ↔ (x, .ok s) ∈ r.calls w sites := by
  induction sites using List.reverseRecOn with
  | nil =>
    constructor
    · intro h
      rw [Resolver.resolveAll, hnew] at h
      cases h
    · intro h
      cases h
  | append_singleton sites site ih =>
    rw [Resolver.resolveAll_concat, Resolver.calls_concat, Resolver.get?_resolve, List.mem_append,
      ← ih, List.mem_singleton, Prod.mk.injEq]
    split
    · rename_i hx
      rw [hx]
      constructor
      · intro hanswer
        exact .inr ⟨rfl, (eq_ok_of_toOption hanswer).symm⟩
      · rintro (hkept | ⟨-, hanswer⟩)
        · rw [Resolver.resolve_of_kept _ hkept]
          rfl
        · rw [← hanswer]
          rfl
    · rename_i hx
      constructor
      · exact .inl
      · rintro (hkept | ⟨heq, -⟩)
        · exact hkept
        · exact absurd heq hx

/-- The factory under a site's name, run in a certain world, gives an evaluator of the resolver's
contract, which is the given instance. -/
def Resolver.Builds (r : Resolver κ φ) (w : World κ) (site : CallSite) (s : Shared φ) : Prop :=
  ∃ name g evaluator, site.evaluatorName r.naming = .ok name ∧ r.registry.get? name = some g ∧
    (g.run w).1 = .ok ⟨s.id, evaluator⟩ ∧ r.contract.view? evaluator = some s.evaluator

/-- A site for which nothing is kept is answered with an instance that is built for it. -/
theorem Resolver.builds_of_resolve {r : Resolver κ φ} {w : World κ} {site : CallSite}
    {s : Shared φ} (hkept : r.cache.get? site = none) (h : (r.resolve site w).1 = .ok s) :
    r.Builds w site s := by
  rw [Resolver.resolve_of_not_kept w hkept] at h
  split at h
  · rename_i t w' hbuild
    cases h
    obtain ⟨name, g, evaluator, hname, hg, hrun, hview⟩ := Resolver.instantiate_ok hbuild
    exact ⟨name, g, evaluator, hname, hg, by rw [hrun], hview⟩
  · cases h

/-- A kept instance was built at the first call of its site that was answered with it. -/
theorem Resolver.exists_builds {r : Resolver κ φ} (hnew : ∀ x, r.cache.get? x = none)
    {w : World κ} {sites : List CallSite} {x : CallSite} {s : Shared φ}
    (h : (r.resolveAll w sites).2.1.cache.get? x = some s) :
    ∃ before after, sites = before ++ x :: after ∧
      (r.resolveAll w before).2.1.cache.get? x = none ∧
      r.Builds (r.resolveAll w before).2.2 x s := by
  induction sites using List.reverseRecOn with
  | nil =>
    rw [Resolver.resolveAll, hnew] at h
    cases h
  | append_singleton sites site ih =>
    cases hkept : (r.resolveAll w sites).2.1.cache.get? x with
    | some t =>
      -- what was kept before the last call is still the same
      have hsame : (r.resolveAll w (sites ++ [site])).2.1.cache.get? x = some t := by
        rw [Resolver.resolveAll_concat]
        exact Resolver.resolve_keeps _ hkept
      rw [hsame] at h
      cases h
      obtain ⟨before, after, rfl, hnone, hbuilds⟩ := ih hkept
      exact ⟨before, after ++ [site], by simp, hnone, hbuilds⟩
    | none =>
      -- so the last call built it
      rw [Resolver.resolveAll_concat, Resolver.get?_resolve] at h
      split at h
      · rename_i hx
        subst hx
        refine ⟨sites, [], rfl, hkept, ?_⟩
        obtain ⟨hnaming, hcontract, hregistry⟩ := r.resolveAll_frame w sites
        have hbuilds := Resolver.builds_of_resolve hkept (eq_ok_of_toOption h)
        unfold Resolver.Builds at hbuilds ⊢
        rwa [hnaming, hcontract, hregistry] at hbuilds
      · rw [hkept] at h
        cases h

/-! ## What a run and its next call come to -/

/-- How a resolver stands at the end of a run in which it kept nothing at first. -/
structure Resolver.Account (start : Resolver κ φ) (w : World κ) (sites : List CallSite) : Prop where
  /-- The kept instances are those with which calls have been answered. -/
  kept : ∀ x s, (start.resolveAll w sites).2.1.cache.get? x = some s ↔
    (x, .ok s) ∈ start.calls w sites
  /-- An instance was built at a call of its own site that found nothing kept, by the factory that
  is registered under the site's name, and has the contract. -/
  origin : ∀ x s, (start.resolveAll w sites).2.1.cache.get? x = some s →
    ∃ before after, sites = before ++ x :: after ∧
      (start.resolveAll w before).2.1.cache.get? x = none ∧
      start.Builds (start.resolveAll w before).2.2 x s
  /-- The size is the number of different sites that have been answered with an instance. -/
  size : (start.resolveAll w sites).2.1.cache.size =
    (answeredSites (start.calls w sites)).dedup.length

/-- Every run of a resolver that kept nothing can be accounted for. -/
theorem Resolver.account {start : Resolver κ φ} (hnew : ∀ x, start.cache.get? x = none)
    (hkeyed : start.cache.IsKeyed) (w : World κ) (sites : List CallSite) :
    start.Account w sites where
  kept := Resolver.get?_resolveAll hnew w sites
  origin _ _ := Resolver.exists_builds hnew
  size := by
    have hkeyed' := hkeyed.resolveAll w sites
    rw [Cache.size_eq_length_filledSites]
    refine List.Perm.length_eq ?_
    rw [List.perm_ext_iff_of_nodup hkeyed'.nodup_filledSites (List.nodup_dedup _)]
    intro x
    rw [hkeyed'.mem_filledSites, List.mem_dedup, mem_answeredSites]
    exact exists_congr fun s => Resolver.get?_resolveAll hnew w sites x s

/-- What the next call of a run does. -/
structure Resolver.NextCall (start : Resolver κ φ) (w : World κ) (earlier : List CallSite)
    (site : CallSite) : Prop where
  /-- A call that is answered with an error leaves alone what is kept, and so the size. -/
  refused : ∀ e, ((start.resolveAll w earlier).2.1.resolve site
      (start.resolveAll w earlier).2.2).1 = .error e →
    (∀ x, (start.resolveAll w (earlier ++ [site])).2.1.cache.get? x =
        (start.resolveAll w earlier).2.1.cache.get? x) ∧
      (start.resolveAll w (earlier ++ [site])).2.1.cache.size =
        (start.resolveAll w earlier).2.1.cache.size
  /-- The factory under the site's name, if there is one, runs once unless an instance is kept. -/
  runs : (start.resolveAll w (earlier ++ [site])).2.2.runs =
    (start.resolveAll w earlier).2.2.runs ++
      if ((start.resolveAll w earlier).2.1.cache.get? site).isSome then []
      else (start.registration? site).toList.map Registration.serial
  /-- So it runs at each call of a site that has not been answered with an instance before. -/
  retried : site ∉ answeredSites (start.calls w earlier) →
    (start.resolveAll w (earlier ++ [site])).2.2.runs =
      (start.resolveAll w earlier).2.2.runs ++
        (start.registration? site).toList.map Registration.serial

/-- So it is with the next call of every run. -/
theorem Resolver.nextCall {start : Resolver κ φ} (hnew : ∀ x, start.cache.get? x = none)
    (hkeyed : start.cache.IsKeyed) (w : World κ) (earlier : List CallSite) (site : CallSite) :
    start.NextCall w earlier site := by
  obtain ⟨hnaming, -, hregistry⟩ := start.resolveAll_frame w earlier
  have hruns : (start.resolveAll w (earlier ++ [site])).2.2.runs =
      (start.resolveAll w earlier).2.2.runs ++
        if ((start.resolveAll w earlier).2.1.cache.get? site).isSome then []
        else (start.registration? site).toList.map Registration.serial := by
    rw [Resolver.resolveAll_concat, Resolver.runs_resolve]
    unfold Resolver.registration?
    rw [hnaming, hregistry]
  constructor
  case refused =>
    intro e he
    -- a kept instance would have been the answer
    have hkept : (start.resolveAll w earlier).2.1.cache.get? site = none := by
      rw [Option.eq_none_iff_forall_ne_some]
      intro s hs
      rw [Resolver.resolve_of_kept _ hs] at he
      cases he
    have hsame (x : CallSite) : (start.resolveAll w (earlier ++ [site])).2.1.cache.get? x =
        (start.resolveAll w earlier).2.1.cache.get? x := by
      rw [Resolver.resolveAll_concat, Resolver.get?_resolve, he]
      split
      · rename_i hx
        rw [hx, hkept]
        rfl
      · rfl
    exact ⟨hsame, (hkeyed.resolveAll w _).size_eq (hkeyed.resolveAll w _) hsame⟩
  case runs => exact hruns
  case retried =>
    intro hsite
    have hkept : (start.resolveAll w earlier).2.1.cache.get? site = none := by
      rw [Option.eq_none_iff_forall_ne_some]
      intro s hs
      exact hsite (mem_answeredSites.2 ⟨s, (Resolver.get?_resolveAll hnew w earlier site s).1 hs⟩)
    rw [hruns, hkept]
    rfl

/-- For every resolver that is new, all sites and all factories: after any run what is kept is what
calls have been answered with, built once by the factory under the site's name, and the size counts
the sites of these calls; the next call runs that factory exactly if nothing is kept for its site,
and changes nothing if it fails; and what is kept stays, whatever is resolved later. -/
theorem Resolver.resolveAll_account (naming : Naming) (contract : Contract κ φ)
    (registry : Registry κ) (w : World κ) (earlier : List CallSite) (site : CallSite)
    (later : List CallSite) :
    let start : Resolver κ φ := { naming, contract, registry }
    start.Account w earlier ∧ start.NextCall w earlier site ∧
      ∀ x s, (start.resolveAll w earlier).2.1.cache.get? x = some s →
        (start.resolveAll w (earlier ++ later)).2.1.cache.get? x = some s := by
  intro start
  have hnew (x : CallSite) : start.cache.get? x = none := rfl
  have hkeyed : start.cache.IsKeyed := List.nodup_nil
  refine ⟨Resolver.account hnew hkeyed w earlier, Resolver.nextCall hnew hkeyed w earlier site, ?_⟩
  intro x s hs
  rw [Resolver.resolveAll_append]
  exact Resolver.resolveAll_keeps _ hs later

end ExprGate.Access
