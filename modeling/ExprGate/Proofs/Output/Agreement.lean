import ExprGate.Access.CallSite
import ExprGate.Proofs.Artifact.GeneratedIndex
import ExprGate.Proofs.Artifact.Source
import ExprGate.Proofs.Output.Emission
import ExprGate.Proofs.Output.Memory

/-!
# Generated evaluators are found by their own call sites

A call site finds an evaluator in four steps: the patterns of the marker give a name, the index has
registered a type under it, the module tree includes a file for this type, and the file holds the
rule. For each artifact of a run into memory all four lead to this artifact (`Binding`), because no
two artifacts have the same name (`nodup_names_generate`) or the same place
(`nodup_places_generate`), and artifacts with different places have different files
(`BuiltFrom.file_same_iff`). The two steps in the middle are steps through the text of the index, as it
is read back from the memory (`readIndex_generated`).
-/

set_option autoImplicit false

namespace ExprGate.Output

open Declaration Marker Artifact Files Text Access

/-! ## What a run into memory leaves -/

/-- A run into memory writes every artifact and the index. -/
theorem emit_memory (c : Catalog) (o : Options) (markers : List Marker) (m : Memory) :
    emit Memory.sink c o markers m =
      ({ markers
         artifacts := (generate c markers o.runtime).1
         files := (generate c markers o.runtime).1.map Artifact.file
         index := some ⟨o.indexFile⟩ },
        (generate c markers o.runtime).2,
        (m.store (generate c markers o.runtime).1).put ⟨o.indexFile⟩
          (Artifact.index (memoryEntries (generate c markers o.runtime).1) o.runtime)) := by
  unfold emit
  simp only [writeAll_memory, writeIndex_memory, map_artifact_memoryEntries,
    map_file_memoryEntries, List.append_nil]

/-- The index lists every artifact with its own path. -/
theorem entries_emit_memory (c : Catalog) (o : Options) (markers : List Marker) (m : Memory) :
    (emit Memory.sink c o markers m).1.entries =
      memoryEntries (generate c markers o.runtime).1 := by
  rw [entries_emit, writeAll_memory]

/-! ## From an element to its file -/

/-- An artifact that a marker gives for a site of a type is what the call sites of that declaration
come to. -/
structure Binding (c : Catalog) (o : Options) (m : Marker) (t : TypeDecl) (s : Site) (a : Artifact)
    (output : Output) (memory : Memory) : Prop where
  /-- At every call site of the declaration the patterns of the marker give the artifact's name. -/
  named : ∀ site : CallSite, site.typeName = t.name → site.method = s.method.map Method.name →
    site.evaluatorName m.descriptor.naming = .ok a.qualifiedName
  /-- The text of the index, as it is stored, leads from this name to the artifact's file: it registers
  the name once, for the artifact's type, and in the place of this type it includes this file only. The
  text is read by lines, of which the path of the runtime library has to be one. -/
  indexed : '\n' ∉ o.runtime.toList → ∃ text contents, memory.get? ⟨o.indexFile⟩ = some text ∧
    readIndex text = some contents ∧ LeadsTo contents a a.file
  /-- What is registered has this name once, whatever the path of the runtime library. -/
  once : ((registrations output.entries).map Prod.fst).count a.qualifiedName = 1
  /-- It registers it for the artifact's type in the artifact's package. -/
  registered : (a.qualifiedName, a.typePath) ∈ registrations output.entries
  typePath : a.typePath = qualify a.package a.ident
  /-- There the module tree includes the artifact's file. -/
  included : (Module.ofEntries output.entries).inclusion? a.ident a.packageSegments =
    some ⟨a.moduleName, a.file⟩
  /-- The file holds the source of the artifact, which imports its paths, declares its type and
  evaluates its body. -/
  contents : ∃ text, memory.get? a.file = some text ∧ text = a.source ∧ Holds text a
  /-- The body is the expression of the first usage of the marker on the declaration. -/
  body : ∃ usage more expression,
    s.annotations.filter (fun x => c.resolveName? s.module x.name == some m.name) =
      usage :: more ∧
    expressionOf usage m.descriptor.expressionMember = .ok expression ∧
    a.body = terminate expression

/-- No two artifacts with plain packages have the same file. -/
theorem pairwise_file_generate {c : Catalog} {markers : List Marker} {runtime : String}
    (hplain : ∀ a ∈ (generate c markers runtime).1, a.HasPlainPackage) :
    (generate c markers runtime).1.Pairwise fun a b => b.file.same a.file = false := by
  have hplaces := List.pairwise_map.1 (nodup_places_generate c markers runtime)
  refine hplaces.imp_of_mem ?_
  intro a b ha hb hne
  obtain ⟨m, e, hbuilt⟩ := exists_builtFrom ha
  obtain ⟨m', e', hbuilt'⟩ := exists_builtFrom hb
  rw [← Bool.not_eq_true, hbuilt'.file_same_iff hbuilt (hplain b hb) (hplain a ha)]
  rintro ⟨hpackage, hident⟩
  exact hne (by rw [hpackage, hident])

/-- The places of the entries are all different. -/
theorem nodup_place_memoryEntries (c : Catalog) (markers : List Marker) (runtime : String) :
    ((memoryEntries (generate c markers runtime).1).map Entry.place).Nodup := by
  have hall : ((memoryEntries (generate c markers runtime).1).map Entry.artifact).Sublist
      (generate c markers runtime).1 := by
    rw [map_artifact_memoryEntries]
  exact nodup_place_of_sublist hall

/-- For all declarations, all markers with any patterns and any contents of the memory: if packages
are plain and the index has a path of its own, every artifact is written and comes from a marker and
a site that carries it, and for whichever it comes from, the call sites of that declaration are bound
to this artifact. -/
theorem emit_binds (c : Catalog) (o : Options) (markers : List Marker) (m₀ : Memory)
    (hplain : ∀ a ∈ (generate c markers o.runtime).1, a.HasPlainPackage)
    (hindex : ∀ a ∈ (generate c markers o.runtime).1, Path.same ⟨o.indexFile⟩ a.file = false) :
    let output := (emit Memory.sink c o markers m₀).1
    let memory := (emit Memory.sink c o markers m₀).2.2
    output.artifacts = (generate c markers o.runtime).1 ∧
      memory.get? ⟨o.indexFile⟩ = some (Artifact.index output.entries o.runtime) ∧
      ∀ a ∈ output.artifacts,
        (∃ m ∈ markers, ∃ t ∈ c.types, ∃ s ∈ sites t, Generates c o.runtime m t s a) ∧
          ∀ m t s, Generates c o.runtime m t s a → Binding c o m t s a output memory := by
  intro output memory
  have hartifacts : output.artifacts = (generate c markers o.runtime).1 := by
    simp only [output, emit_memory]
  have hentries : output.entries = memoryEntries (generate c markers o.runtime).1 :=
    entries_emit_memory c o markers m₀
  have hmemory : memory = (m₀.store (generate c markers o.runtime).1).put ⟨o.indexFile⟩
      (Artifact.index output.entries o.runtime) := by
    rw [hentries]
    simp only [memory, emit_memory]
  have hindexed : memory.get? ⟨o.indexFile⟩ = some (Artifact.index output.entries o.runtime) := by
    rw [hmemory]
    exact Memory.get?_put_same _ _ (beq_self_eq_true _)
  refine ⟨hartifacts, hindexed, ?_⟩
  intro a ha
  rw [hartifacts] at ha
  refine ⟨exists_generates ha, ?_⟩
  rintro m t s ⟨e, hat, hbuild⟩
  have hbuilt := builtFrom_of_build hbuild
  obtain ⟨hclass, hmethod, more, hfilter⟩ := elementAt?_eq_some hat
  have hentry : (⟨a, a.file⟩ : Entry) ∈ output.entries := by
    rw [hentries]
    exact List.mem_map.2 ⟨a, ha, rfl⟩
  constructor
  case named =>
    intro site htype hsite
    unfold CallSite.evaluatorName
    rw [htype, hsite, ← hclass, ← hmethod]
    exact hbuilt.named
  case indexed =>
    intro hruntime
    have hall : output.entries.map Entry.artifact = (generate c markers o.runtime).1 := by
      rw [hentries, map_artifact_memoryEntries]
    have hsublist : (output.entries.map Entry.artifact).Sublist
        (generate c markers o.runtime).1 := by
      rw [hall]
    obtain ⟨contents, hread, hcomplete⟩ := readIndex_generated hsublist (hall ▸ hplain) hruntime
    exact ⟨_, contents, hindexed, hread, hcomplete.leadsTo hentry⟩
  case once =>
    refine count_registered ?_ hentry
    rw [hentries]
    unfold memoryEntries
    rw [List.map_map]
    exact nodup_names_generate c markers o.runtime
  case registered => exact mem_registrations hentry
  case typePath => exact hbuilt.typePath_eq
  case included =>
    refine inclusion?_ofEntries ?_ hentry
    rw [hentries]
    exact nodup_place_memoryEntries c markers o.runtime
  case contents =>
    -- neither the index nor another artifact is written over the file
    have hstored : memory.get? a.file = some a.source := by
      rw [hmemory, Memory.get?_put_of_not_same _ _ (hindex a ha)]
      exact Memory.get?_store (pairwise_file_generate hplain) ha
    exact ⟨a.source, hstored, rfl, source_holds a⟩
  case body =>
    obtain ⟨expression, hexpression, hbody⟩ := hbuilt.body
    exact ⟨e.usage, more, expression, hfilter, hexpression, hbody⟩

/-- In the catalog with one evaluator, the type that uses the marker is bound to it. -/
theorem emit_binds_orders :
    ordersArtifact.HasPlainPackage ∧ Path.same ⟨ordersOptions.indexFile⟩ ordersArtifact.file = false ∧
      '\n' ∉ ordersOptions.runtime.toList ∧
      ∃ t ∈ ordersCatalog.types, ∃ s ∈ sites t,
        Binding ordersCatalog ordersOptions accessMarker t s ordersArtifact
          (emit Memory.sink ordersCatalog ordersOptions [accessMarker] {}).1
          (emit Memory.sink ordersCatalog ordersOptions [accessMarker] {}).2.2 := by
  have hplain : ordersArtifact.HasPlainPackage := by
    unfold HasPlainPackage
    decide
  have hindex : Path.same ⟨ordersOptions.indexFile⟩ ordersArtifact.file = false := by decide
  obtain ⟨hartifacts, -, hbinds⟩ := emit_binds ordersCatalog ordersOptions
    [accessMarker] {} (by simpa [generate_orders] using hplain)
    (by simpa [generate_orders] using hindex)
  obtain ⟨⟨m, hm, t, ht, s, hs, hgenerates⟩, hbinding⟩ :=
    hbinds ordersArtifact (by simp [hartifacts, generate_orders])
  obtain rfl := List.mem_singleton.1 hm
  exact ⟨hplain, hindex, by decide, t, ht, s, hs, hbinding accessMarker t s hgenerates⟩

end ExprGate.Output
