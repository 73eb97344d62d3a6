import ExprGate.Proofs.Artifact.Coverage
import ExprGate.Proofs.Output.Emission

/-!
# No usage of a marker is lost silently

A usage of a marker passes through discovery, generation and writing. Each of these stages answers
what it is given, or reports an error that names the marker or the site: `discover_used`,
`generate_element`, `writeAll_artifact`. So a run answers every usage (`run_covers`), whatever the
sink refuses, and a run without errors has one artifact for each carrier of a marker in use.
-/

set_option autoImplicit false

namespace ExprGate.Output

open Declaration Marker Artifact

variable {σ : Type}

/-! ## Writing -/

/-- Each artifact is written, or an error names its element. -/
theorem writeAll_artifact (sink : Sink σ) {artifacts : List Artifact} (s : σ) {a : Artifact}
    (ha : a ∈ artifacts) :
    a ∈ (writeAll sink artifacts s).1.map Entry.artifact ∨
      ∃ message, ⟨.error, a.element, message⟩ ∈ (writeAll sink artifacts s).2.1 := by
  induction artifacts generalizing s with
  | nil => cases ha
  | cons b rest ih =>
    obtain ⟨s', ⟨file, hcons⟩ | ⟨reason, hcons⟩⟩ := writeAll_cons sink b rest s
    all_goals
      rw [hcons]
      obtain rfl | hrest := List.mem_cons.1 ha
    · exact .inl List.mem_cons_self
    · exact (ih s' hrest).imp (List.mem_cons_of_mem b) id
    · exact .inr ⟨_, List.mem_cons_self⟩
    · obtain hwritten | ⟨message, hmessage⟩ := ih s' hrest
      · exact .inl hwritten
      · exact .inr ⟨message, List.mem_cons_of_mem _ hmessage⟩

/-- What is written are given artifacts, in their order. -/
theorem sublist_artifacts_writeAll (sink : Sink σ) (artifacts : List Artifact) (s : σ) :
    ((writeAll sink artifacts s).1.map Entry.artifact).Sublist artifacts := by
  induction artifacts generalizing s with
  | nil => exact .slnil
  | cons a rest ih =>
    obtain ⟨s', ⟨file, hcons⟩ | ⟨message, hcons⟩⟩ := writeAll_cons sink a rest s
    · rw [hcons, List.map_cons]
      exact (ih s').cons_cons a
    · rw [hcons]
      exact (ih s').cons a

/-- What is reported about writing are errors. -/
theorem isError_of_mem_writeAll {sink : Sink σ} {artifacts : List Artifact} {s : σ}
    {d : Diagnostic} (hd : d ∈ (writeAll sink artifacts s).2.1) : d.isError = true := by
  induction artifacts generalizing s with
  | nil => cases hd
  | cons a rest ih =>
    obtain ⟨s', ⟨file, hcons⟩ | ⟨message, hcons⟩⟩ := writeAll_cons sink a rest s
    · rw [hcons] at hd
      exact ih hd
    · rw [hcons] at hd
      obtain rfl | hrest := List.mem_cons.1 hd
      · rfl
      · exact ih hrest

/-! ## Runs -/

variable {sink : Sink σ} {c : Catalog} {o : Options} {s₀ : σ}

/-- A run writes the artifacts that are generated for the markers that are discovered. -/
theorem artifacts_run :
    (run sink c o s₀).1.artifacts =
      (writeAll sink (generate c (discover c).1 o.runtime).1 s₀).1.map Entry.artifact :=
  rfl

/-- What a run reports before it writes the index. -/
theorem mem_reports_run {d : Diagnostic}
    (h : d ∈ (discover c).2 ∨ d ∈ (generate c (discover c).1 o.runtime).2 ∨
      d ∈ (writeAll sink (generate c (discover c).1 o.runtime).1 s₀).2.1) :
    d ∈ (run sink c o s₀).2.1 := by
  rw [run_eq_emit]
  unfold emit
  simp only [List.mem_append]
  obtain hfound | hgenerated | hunwritten := h
  · exact .inl hfound
  · exact .inr (.inl (.inl hgenerated))
  · exact .inr (.inl (.inr hunwritten))

/-- Every usage of a marker is answered by a run, and nothing else is. -/
structure Covers (c : Catalog) (o : Options) (output : Output) (reports : List Diagnostic) :
    Prop where
  /-- An annotation that stands for a marker gives an artifact of the marker for its site, or an
  error that names the site or the marker. -/
  answered : ∀ t ∈ c.types, ∀ s ∈ sites t, ∀ a ∈ s.annotations, ∀ m,
    c.resolve? s.module a.name = some m → isMarker m = true →
      (∃ x ∈ output.artifacts, x.marker = m.name ∧ x.element = siteName t s) ∨
        ∃ d ∈ reports, d.isError = true ∧ (d.element = siteName t s ∨ d.element = m.name)
  /-- An artifact is for a site that carries its marker. -/
  founded : ∀ x ∈ output.artifacts, ∃ t ∈ c.types, ∃ s ∈ sites t,
    carries c x.marker s = true ∧ x.element = siteName t s
  /-- Without errors the markers are those in use, and the artifacts are those of their carriers,
  one by one and in order. -/
  complete : (∀ d ∈ reports, d.isError = false) →
    output.markers.map Marker.name = used c ∧
      List.Forall₂ (fun x u => x.marker = u.marker ∧ x.element = siteName u.type u.site ∧
          ∃ m ∈ output.markers, m.name = u.marker ∧ Generates c o.runtime m u.type u.site x)
        output.artifacts (carriers c)

/-- An annotation that stands for a marker is answered by a run. -/
theorem run_answers (hc : c.Made) {t : TypeDecl} (ht : t ∈ c.types) {s : Site} (hs : s ∈ sites t)
    {a : Annotation} (ha : a ∈ s.annotations) {m : TypeDecl}
    (hresolve : c.resolve? s.module a.name = some m) (hm : isMarker m = true) :
    (∃ x ∈ (run sink c o s₀).1.artifacts, x.marker = m.name ∧ x.element = siteName t s) ∨
      ∃ d ∈ (run sink c o s₀).2.1, d.isError = true ∧
        (d.element = siteName t s ∨ d.element = m.name) := by
  have hused := mem_used ht hs ha hresolve hm
  -- the marker is found usable
  obtain ⟨marker, hmarker, hname⟩ | ⟨message, hmessage⟩ := discover_used hc hused
  case inr => exact .inr ⟨_, mem_reports_run (.inl hmessage), rfl, .inr rfl⟩
  -- the site has an element of the marker
  have hcarries : carries c m.name s = true := carries_iff.2 ⟨a, ha, m, hresolve, hm, rfl⟩
  rw [← isSome_elementAt? hc hused t s, ← hname] at hcarries
  obtain ⟨e, hat⟩ := Option.isSome_iff_exists.1 hcarries
  have he : e ∈ elements c marker.name :=
    List.mem_flatMap.2 ⟨t, ht, List.mem_filterMap.2 ⟨s, hs, hat⟩⟩
  have helement := name_of_elementAt? hat
  -- the element gives an artifact
  have hgenerated : (∃ x ∈ (generate c (discover c).1 o.runtime).1, BuiltFrom marker e x) ∨
      ∃ message, ⟨.error, e.name, message⟩ ∈ (generate c (discover c).1 o.runtime).2 :=
    generate_element hmarker he
  obtain ⟨x, hx, hbuilt⟩ | ⟨message, hmessage⟩ := hgenerated
  case inr =>
    exact .inr ⟨_, mem_reports_run (.inr (.inl hmessage)), rfl, .inl helement⟩
  have hxelement : x.element = siteName t s := hbuilt.element.trans helement
  -- the artifact is written
  obtain hwritten | ⟨message, hmessage⟩ := writeAll_artifact sink s₀ hx
  · exact .inl ⟨x, hwritten, hbuilt.marker.trans hname, hxelement⟩
  · exact .inr ⟨_, mem_reports_run (.inr (.inr hmessage)), rfl, .inl hxelement⟩

/-- For all declarations, options and sinks: a run answers every usage of a marker with an artifact
or with an error, its artifacts are all for usages, and if it reports no error they correspond one
to one, in order, to the markers in use and the sites that carry them. -/
theorem run_covers (sink : Sink σ) (c : Catalog) (hc : c.Made) (o : Options) (s₀ : σ) :
    Covers c o (run sink c o s₀).1 (run sink c o s₀).2.1 := by
  constructor
  case answered =>
    intro t ht s hs a ha m hresolve hm
    exact run_answers hc ht hs ha hresolve hm
  case founded =>
    intro x hx
    have hgiven := (sublist_artifacts_writeAll _ _ _).mem hx
    obtain ⟨m, hm, t, ht, s, hs, hgenerates⟩ := exists_generates hgiven
    obtain ⟨hmarker, helement⟩ := hgenerates.names
    obtain ⟨e, hat, -⟩ := hgenerates
    refine ⟨t, ht, s, hs, ?_, helement⟩
    rw [hmarker, ← isSome_elementAt? hc (mem_used_of_mem_discover hm) t s, hat]
    rfl
  case complete =>
    intro hreports
    have hnames := names_discover hc fun d hd => hreports d (mem_reports_run (.inl hd))
    have hgenerated := forall₂_generate hc hnames
      fun d hd => hreports d (mem_reports_run (.inr (.inl hd)))
    have hwritten : AllWritten sink (generate c (discover c).1 o.runtime).1 s₀ := by
      refine List.eq_nil_iff_forall_not_mem.2 fun d hd => ?_
      have hno := hreports d (mem_reports_run (.inr (.inr hd)))
      rw [isError_of_mem_writeAll hd] at hno
      cases hno
    refine ⟨hnames, ?_⟩
    rw [artifacts_run, artifacts_writeAll_of_allWritten hwritten]
    refine hgenerated.imp ?_
    rintro x u ⟨m, hm, hname, hgenerates⟩
    obtain ⟨hmarker, helement⟩ := hgenerates.names
    exact ⟨hmarker.trans hname, helement, m, hm, hname, hgenerates⟩

/-- In the catalog with one evaluator, the usage of the marker is answered, also by a sink that does
not take the evaluator's file. -/
theorem run_covers_orders :
    ordersCatalog.Made ∧
      let result := run (Memory.sinkExcept [ordersArtifact.file]) ordersCatalog ordersOptions {}
      (∃ x ∈ result.1.artifacts, x.marker = "app::Access" ∧ x.element = "app::Orders") ∨
        ∃ d ∈ result.2.1, d.isError = true ∧
          (d.element = "app::Orders" ∨ d.element = "app::Access") := by
  have hmade : ordersCatalog.Made := Catalog.Made.ofTypes _
  obtain ⟨hanswered, -, -⟩ := run_covers (Memory.sinkExcept [ordersArtifact.file]) ordersCatalog
    hmade ordersOptions {}
  have htype : { name := "app::Orders",
                 annotations := [⟨"Access", [("value", .text "context.admin ")]⟩] } ∈
      ordersCatalog.types := by
    decide
  have hresolve : ordersCatalog.resolve? "app" "Access" =
      some { name := "app::Access", annotations := [⟨"meta_jel", []⟩], members := ["value"] } := by
    decide
  refine ⟨hmade, ?_⟩
  exact hanswered _ htype _ List.mem_cons_self _ List.mem_cons_self _ hresolve (by decide)

end ExprGate.Output
