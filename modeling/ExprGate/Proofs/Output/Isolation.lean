import ExprGate.Proofs.Access.Resolution
import ExprGate.Proofs.Artifact.GeneratedIndex
import ExprGate.Proofs.Output.Emission
import ExprGate.Proofs.Output.Memory

/-!
# No rule leaks to another declaration

With the standard patterns a call site finds the evaluator of its own declaration or none. The
names of declarations without dollar sign are all different (`Naming.standardName_injective`), and
only names of generated artifacts are registered (`mem_registered_emit`), so a registered name leads
back to the declaration that it was given for. A site whose name is not registered is never resolved,
whatever has been resolved before (`Resolver.KeepsRegistered.resolve_unregistered`). The registered
names are those that are read from the text of the index (`readIndex_generated`).
-/

set_option autoImplicit false

namespace ExprGate.Output

open Declaration Marker Artifact Text Access

variable {σ κ φ : Type}

/-- Declarations in whose names there is no dollar sign. -/
def IsDollarFree (c : Catalog) : Prop :=
  ∀ t ∈ c.types, '$' ∉ t.name.toList ∧ ∀ x ∈ t.methods, '$' ∉ x.name.toList

/-- An artifact that a marker gives for a type, or for a method of it. -/
def IsFor (c : Catalog) (runtime : String) (m : Marker) (className : String)
    (method : Option String) (a : Artifact) : Prop :=
  ∃ t ∈ c.types, ∃ s ∈ sites t, t.name = className ∧ s.method.map Method.name = method ∧
    Generates c runtime m t s a

/-- The sites of declarations have no dollar sign in their names. -/
theorem isDollarFree_of_mem_sites {c : Catalog} (h : IsDollarFree c) {t : TypeDecl}
    (ht : t ∈ c.types) {s : Site} (hs : s ∈ sites t) :
    Naming.IsDollarFree t.name (s.method.map Method.name) := by
  obtain ⟨htype, hmethods⟩ := h t ht
  refine ⟨htype, ?_⟩
  intro name hname
  obtain rfl | hs := List.mem_cons.1 hs
  · cases hname
  · obtain ⟨x, hx, rfl⟩ := List.mem_map.1 hs
    obtain rfl := Option.some.inj hname
    exact hmethods x hx

/-- Under the standard patterns, an artifact has the name of the declaration that it is for. -/
theorem qualifiedName_of_isFor {c : Catalog} {runtime : String} {m : Marker} {className : String}
    {method : Option String} {a : Artifact} (hstandard : m.descriptor.naming = .standard)
    (hfree : Naming.IsDollarFree className method) (h : IsFor c runtime m className method a) :
    a.qualifiedName = Naming.standardName className method := by
  obtain ⟨t, -, s, -, rfl, rfl, e, hat, hbuild⟩ := h
  obtain ⟨hclass, hmethod, -⟩ := elementAt?_eq_some hat
  have hnamed := (builtFrom_of_build hbuild).named
  rw [hstandard, hclass, hmethod, Naming.evaluatorName_standard hfree] at hnamed
  exact (Except.ok.inj hnamed).symm

/-- Under the standard patterns, an artifact whose name is that of a declaration is for it. -/
theorem isFor_of_qualifiedName {c : Catalog} {runtime : String} {m : Marker} {className : String}
    {method : Option String} {a : Artifact} (hstandard : m.descriptor.naming = .standard)
    (hc : IsDollarFree c) (hfree : Naming.IsDollarFree className method)
    (ha : a ∈ (generate c [m] runtime).1)
    (hname : a.qualifiedName = Naming.standardName className method) :
    IsFor c runtime m className method a := by
  obtain ⟨m', hm', t, ht, s, hs, hgenerates⟩ := exists_generates ha
  obtain rfl := List.mem_singleton.1 hm'
  have hown : IsFor c runtime m' t.name (s.method.map Method.name) a :=
    ⟨t, ht, s, hs, rfl, rfl, hgenerates⟩
  have hsite := isDollarFree_of_mem_sites hc ht hs
  rw [qualifiedName_of_isFor hstandard hsite hown] at hname
  obtain ⟨hclass, hmethod⟩ := Naming.standardName_injective hsite hfree hname
  exact ⟨t, ht, s, hs, hclass, hmethod, hgenerates⟩

/-- The standard patterns give different names to different declarations without dollar sign. -/
theorem evaluatorName_standard_injective {className className' : String}
    {method method' : Option String} (h : Naming.IsDollarFree className method)
    (h' : Naming.IsDollarFree className' method')
    (heq : Naming.standard.evaluatorName className method =
      Naming.standard.evaluatorName className' method') :
    className = className' ∧ method = method' := by
  rw [Naming.evaluatorName_standard h, Naming.evaluatorName_standard h'] at heq
  exact Naming.standardName_injective h h' (Except.ok.inj heq)

/-- What a site without dollar sign comes to, if the registry holds what the index registers. -/
structure Isolated (c : Catalog) (runtime : String) (m : Marker) (contract : Contract κ φ)
    (registry : Registry κ) (site : CallSite) : Prop where
  /-- The site's name is registered exactly if an artifact is generated for its declaration. -/
  registered_iff :
    (∃ name, site.evaluatorName .standard = .ok name ∧ registry.contains name) ↔
      ∃ a ∈ (generate c [m] runtime).1, IsFor c runtime m site.typeName site.method a
  /-- Then it is the name of that artifact. -/
  named : ∀ a ∈ (generate c [m] runtime).1, IsFor c runtime m site.typeName site.method a →
    site.evaluatorName .standard = .ok a.qualifiedName
  /-- Otherwise the site is not found, whatever has been resolved before. -/
  notFound : (¬ ∃ a ∈ (generate c [m] runtime).1, IsFor c runtime m site.typeName site.method a) →
    ∀ (w : World κ) (earlier : List CallSite),
      let (_, r, w) := Resolver.resolveAll { naming := .standard, contract, registry } w earlier
      ∃ name, site.evaluatorName .standard = .ok name ∧
        (r.resolve site w).1 = .error (.notFound name)

/-- For all declarations without dollar sign and a marker with the standard patterns: if all writes
succeed and the registry holds exactly what the index registers, every site without dollar sign is
resolved to the evaluator of its own declaration or to none; the standard patterns are injective on
types and methods; and the registry holds the names that the text of the index registers as it is
read, where packages are plain and the path of the runtime library is on one line. -/
theorem emit_standard_isolates (sink : Sink σ) (c : Catalog) (o : Options) (m : Marker) (s : σ)
    (contract : Contract κ φ) (registry : Registry κ)
    (hstandard : m.descriptor.naming = .standard) (hfree : IsDollarFree c)
    (hwritten : AllWritten sink (generate c [m] o.runtime).1 s)
    (hregistry : ∀ name, registry.contains name = true ↔
      name ∈ (registrations (emit sink c o [m] s).1.entries).map Prod.fst) :
    (∀ site : CallSite, Naming.IsDollarFree site.typeName site.method →
      Isolated c o.runtime m contract registry site) ∧
    (∀ className method className' method', Naming.IsDollarFree className method →
      Naming.IsDollarFree className' method' →
      Naming.standard.evaluatorName className method =
        Naming.standard.evaluatorName className' method' →
      className = className' ∧ method = method') ∧
    ((∀ a ∈ (generate c [m] o.runtime).1, a.HasPlainPackage) → '\n' ∉ o.runtime.toList →
      ∃ contents, readIndex (Artifact.index (emit sink c o [m] s).1.entries o.runtime) =
          some contents ∧
        ∀ name, registry.contains name = true ↔ name ∈ contents.registered.map Prod.snd) := by
  refine ⟨?_, ?_, ?_⟩
  · intro site hsite
    have hname : site.evaluatorName .standard =
        .ok (Naming.standardName site.typeName site.method) :=
      Naming.evaluatorName_standard hsite
    have hregistered : registry.contains (Naming.standardName site.typeName site.method) = true ↔
        ∃ a ∈ (generate c [m] o.runtime).1, IsFor c o.runtime m site.typeName site.method a := by
      -- a registered name is that of an artifact, and leads back to its only declaration
      rw [hregistry, mem_registered_emit hwritten]
      constructor
      · rintro ⟨a, ha, heq⟩
        exact ⟨a, ha, isFor_of_qualifiedName hstandard hfree hsite ha heq⟩
      · rintro ⟨a, ha, hfor⟩
        exact ⟨a, ha, qualifiedName_of_isFor hstandard hsite hfor⟩
    constructor
    case registered_iff =>
      rw [hname, ← hregistered]
      constructor
      · rintro ⟨name, heq, hcontains⟩
        obtain rfl := Except.ok.inj heq
        exact hcontains
      · intro hcontains
        exact ⟨_, rfl, hcontains⟩
    case named =>
      intro a _ hfor
      rw [hname, qualifiedName_of_isFor hstandard hsite hfor]
    case notFound =>
      intro hnone w earlier
      obtain ⟨hkeeps, hnaming, hsame⟩ :=
        (Resolver.keepsRegistered_new .standard contract registry).resolveAll w earlier
      refine ⟨_, hname, hkeeps.resolve_unregistered _ ?_ ?_⟩
      · rw [hnaming]
        exact hname
      · rw [hsame]
        intro hcontains
        exact hnone (hregistered.1 hcontains)
  · intro className method className' method' h h' heq
    exact evaluatorName_standard_injective h h' heq
  · intro hplain hruntime
    have hartifacts := artifacts_writeAll_of_allWritten hwritten
    rw [← entries_emit sink c o] at hartifacts
    have hsublist : ((emit sink c o [m] s).1.entries.map Entry.artifact).Sublist
        (generate c [m] o.runtime).1 := by
      rw [hartifacts]
    obtain ⟨contents, hread, hcomplete⟩ :=
      readIndex_generated hsublist (hartifacts ▸ hplain) hruntime
    refine ⟨contents, hread, ?_⟩
    intro name
    rw [hregistry, mem_registered_iff, hcomplete.mem_names]

/-- A registry that holds what the index of `ordersCatalog` registers. -/
def ordersRegistry : Registry Unit :=
  ({} : Registry Unit).register "app::Orders$SimpleJelEvaluator"
    ⟨0, .always (.decider ⟨fun _ _ => .value true⟩)⟩

/-- A resolver into this registry with the standard patterns. -/
def ordersResolver : Resolver Unit (Decider Unit) where
  naming := .standard
  contract := .decision "()"
  registry := ordersRegistry

/-- In the catalog with one evaluator, its type finds it and another type finds nothing, and the text
of the index registers the name that is found. -/
theorem emit_standard_isolates_orders :
    (∃ name, CallSite.evaluatorName ⟨"app::Orders", none⟩ .standard = .ok name ∧
      ordersRegistry.contains name) ∧
    (∀ w, (ordersResolver.resolve ⟨"app::Reports", none⟩ w).1 =
      .error (.notFound "app::Reports$SimpleJelEvaluator")) ∧
    ∃ contents, readIndex (Artifact.index (emit Memory.sink ordersCatalog ordersOptions
        [accessMarker] {}).1.entries ordersOptions.runtime) = some contents ∧
      "app::Orders$SimpleJelEvaluator" ∈ contents.registered.map Prod.snd := by
  have hwritten : AllWritten Memory.sink (generate ordersCatalog [accessMarker]
      ordersOptions.runtime).1 {} := by
    unfold AllWritten
    rw [writeAll_memory]
  have hregistry (name : String) : ordersRegistry.contains name = true ↔
      name ∈ (registrations (emit Memory.sink ordersCatalog ordersOptions
        [accessMarker] {}).1.entries).map Prod.fst := by
    rw [mem_registered_emit hwritten, generate_orders]
    have hcontains : ordersRegistry.contains name = (name == ordersArtifact.qualifiedName) := by
      unfold ordersRegistry Registry.contains Registry.get? Registry.register
      rw [List.filter_nil, List.nil_append, List.lookup_cons]
      change (match name == ordersArtifact.qualifiedName with
        | true => some _
        | false => _).isSome = _
      cases name == ordersArtifact.qualifiedName <;> rfl
    rw [hcontains, beq_iff_eq]
    constructor
    · rintro rfl
      exact ⟨ordersArtifact, List.mem_cons_self, rfl⟩
    · rintro ⟨a, ha, rfl⟩
      rw [List.mem_singleton.1 ha]
  obtain ⟨hsites, -, hindex⟩ := emit_standard_isolates Memory.sink ordersCatalog
    ordersOptions accessMarker {} (Contract.decision "()") ordersRegistry rfl
    (by unfold IsDollarFree; decide) hwritten hregistry
  have horders := hsites ⟨"app::Orders", none⟩ ⟨by decide, fun _ h => by cases h⟩
  have hreports := hsites ⟨"app::Reports", none⟩ ⟨by decide, fun _ h => by cases h⟩
  have hplain : ∀ a ∈ (generate ordersCatalog [accessMarker] ordersOptions.runtime).1,
      a.HasPlainPackage := by
    rw [generate_orders]
    unfold HasPlainPackage
    decide
  obtain ⟨contents, hread, hnames⟩ := hindex hplain (by decide)
  refine ⟨horders.registered_iff.2 ⟨ordersArtifact, ?_, ?_⟩, ?_, contents, hread, ?_⟩
  · rw [generate_orders]
    exact List.mem_cons_self
  · refine ⟨⟨"app::Orders", .struct, [ordersElement.usage], [], []⟩, by decide,
      ⟨none, "app", [ordersElement.usage]⟩, by decide, rfl, rfl, ordersElement, by decide, ?_⟩
    exact build_orders
  · intro w
    have hnone : ¬ ∃ a ∈ (generate ordersCatalog [accessMarker] ordersOptions.runtime).1,
        IsFor ordersCatalog ordersOptions.runtime accessMarker "app::Reports" none a := by
      rintro ⟨a, ha, hfor⟩
      have hname := hreports.named a ha hfor
      rw [generate_orders] at ha
      obtain rfl := List.mem_singleton.1 ha
      rw [CallSite.evaluatorName, Naming.evaluatorName_standard ⟨by decide, fun _ h => by cases h⟩]
        at hname
      exact absurd (Except.ok.inj hname) (by decide)
    obtain ⟨name, hname, hnotFound⟩ := hreports.notFound hnone w []
    rw [CallSite.evaluatorName, Naming.evaluatorName_standard ⟨by decide, fun _ h => by cases h⟩]
      at hname
    obtain rfl := Except.ok.inj hname
    exact hnotFound
  · rw [← hnames, hregistry, mem_registered_emit hwritten, generate_orders]
    exact ⟨ordersArtifact, List.mem_cons_self, rfl⟩

end ExprGate.Output
