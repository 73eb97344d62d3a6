import ExprGate.Artifact.Generation
import ExprGate.Proofs.Artifact.Build
import ExprGate.Proofs.FirstOccurrence

/-!
# The artifacts of a generation

A candidate is an artifact that can be built from a marker and an element that carries it. The
generation takes the candidates one after another and keeps a table of names and a table of places.
Equal names have equal places (`Candidate.place_eq_of_name_eq`), so both tables together refuse the
candidates whose place an earlier candidate has, and no others: what a generation has done so far is
read off the candidates so far (`Generated.Records`), and so is what it reports about the next one
(`Candidate.reports`).

So the first candidate of each place wins (`generate_firstWins`), and no two artifacts have the same
name or the same place.
-/

set_option autoImplicit false

namespace ExprGate.Artifact

open Declaration Marker

/-! ## Elements -/

/-- An element is what the annotations of a site of a type say. -/
theorem elementAt?_eq_some {c : Catalog} {marker : String} {t : TypeDecl} {s : Site} {e : Element}
    (h : elementAt? c marker t s = some e) :
    e.className = t.name ∧ e.methodName? = s.method.map Method.name ∧ ∃ more,
      s.annotations.filter (fun x => c.resolveName? s.module x.name == some marker) =
        e.usage :: more := by
  unfold elementAt? at h
  split at h
  · cases h
  · rename_i usage more hfilter
    obtain rfl := Option.some.inj h
    exact ⟨rfl, rfl, more, hfilter⟩

/-- The elements of a marker are at sites of types. -/
theorem exists_site_of_mem_elements {c : Catalog} {marker : String} {e : Element}
    (h : e ∈ elements c marker) :
    ∃ t ∈ c.types, ∃ s ∈ sites t, elementAt? c marker t s = some e := by
  obtain ⟨t, ht, he⟩ := List.mem_flatMap.1 h
  obtain ⟨s, hs, hat⟩ := List.mem_filterMap.1 he
  exact ⟨t, ht, s, hs, hat⟩

/-! ## Candidates -/

/-- An artifact that is built, with the marker and the element from which it is built. -/
structure Candidate where
  marker : Marker
  element : Element
  artifact : Artifact

namespace Candidate

/-- The name under which a candidate would be registered. -/
def name (x : Candidate) : String :=
  x.artifact.qualifiedName

/-- The place that a candidate would have: its package and its type name. -/
def place (x : Candidate) : String × String :=
  (x.artifact.package, x.artifact.ident)

/-- The artifact of a candidate is what building gives for its marker and its element. -/
def IsBuilt (runtime : String) (x : Candidate) : Prop :=
  build runtime x.marker x.element = .ok x.artifact

/-- Candidates with the same name have the same place, since the name determines it. -/
theorem place_eq_of_name_eq {runtime : String} {x y : Candidate} (hx : x.IsBuilt runtime)
    (hy : y.IsBuilt runtime) (h : x.name = y.name) : x.place = y.place := by
  have hplaced := (builtFrom_of_build hx).placed
  have hplaced' := (builtFrom_of_build hy).placed
  unfold name at h
  rw [h, hplaced'] at hplaced
  obtain ⟨hpackage, hrest⟩ := Prod.mk.inj (Except.ok.inj hplaced)
  exact Prod.ext hpackage.symm (Prod.mk.inj hrest).2.symm

/-- What is reported about a candidate that comes after others: an error if its name or its place is
taken, and else at most a note. -/
def reports (earlier : List Candidate) (x : Candidate) : List Diagnostic :=
  if x.name ∈ earlier.map name then
    [⟨.error, x.element.name, "evaluator `" ++ x.name ++ "` is generated twice"⟩]
  else if x.place ∈ earlier.map place then
    [⟨.error, x.element.name, "evaluator `" ++ x.name ++ "` maps to `" ++ x.artifact.ident ++
      "` in `" ++ x.artifact.package ++ "`, which is already taken"⟩]
  else Generated.traitNote x.element x.artifact

/-- A candidate whose place is taken gives one error on its element. -/
theorem reports_of_taken {earlier : List Candidate} {x : Candidate}
    (h : x.place ∈ earlier.map place) :
    ∃ message, x.reports earlier = [⟨.error, x.element.name, message⟩] := by
  unfold reports
  rw [if_pos h]
  split <;> exact ⟨_, rfl⟩

/-- The name of a candidate is new if its place is. -/
theorem name_not_mem {runtime : String} {earlier : List Candidate} {x : Candidate}
    (hx : x.IsBuilt runtime) (hearlier : ∀ y ∈ earlier, y.IsBuilt runtime)
    (h : x.place ∉ earlier.map place) : x.name ∉ earlier.map name := by
  intro hname
  obtain ⟨y, hy, heq⟩ := List.mem_map.1 hname
  exact h (List.mem_map.2 ⟨y, hy, place_eq_of_name_eq (hearlier y hy) hx heq⟩)

/-- A candidate whose place is new gives at most a note. -/
theorem reports_of_new {runtime : String} {earlier : List Candidate} {x : Candidate}
    (hx : x.IsBuilt runtime) (hearlier : ∀ y ∈ earlier, y.IsBuilt runtime)
    (h : x.place ∉ earlier.map place) :
    x.reports earlier = Generated.traitNote x.element x.artifact := by
  unfold reports
  rw [if_neg (name_not_mem hx hearlier h), if_neg h]

end Candidate

/-- The candidate that an element of a marker gives, if its artifact can be built. -/
def candidate? (runtime : String) (m : Marker) (e : Element) : Option Candidate :=
  (build runtime m e).toOption.map fun a => ⟨m, e, a⟩

/-- The candidates that some elements of a marker give. -/
def candidatesOf (runtime : String) (m : Marker) (es : List Element) : List Candidate :=
  es.filterMap (candidate? runtime m)

/-- All candidates, in the order of markers and then of their elements. -/
def candidates (c : Catalog) (runtime : String) (markers : List Marker) : List Candidate :=
  markers.flatMap fun m => candidatesOf runtime m (elements c m.name)

/-- A candidate is built from the marker and an element. -/
theorem candidate?_eq_some {runtime : String} {m : Marker} {e : Element} {x : Candidate} :
    candidate? runtime m e = some x ↔ x.marker = m ∧ x.element = e ∧ x.IsBuilt runtime := by
  unfold candidate? Candidate.IsBuilt
  cases hbuild : build runtime m e with
  | error err =>
    constructor
    · intro h
      cases h
    · rintro ⟨rfl, rfl, h⟩
      rw [hbuild] at h
      cases h
  | ok a =>
    constructor
    · intro h
      obtain rfl := Option.some.inj h
      exact ⟨rfl, rfl, hbuild⟩
    · obtain ⟨marker, element, artifact⟩ := x
      rintro ⟨rfl, rfl, h⟩
      rw [hbuild] at h
      cases h
      rfl

/-- The candidates of a generation are built from its markers and their elements. -/
theorem mem_candidates {c : Catalog} {runtime : String} {markers : List Marker} {x : Candidate} :
    x ∈ candidates c runtime markers ↔
      x.marker ∈ markers ∧ x.element ∈ elements c x.marker.name ∧ x.IsBuilt runtime := by
  unfold candidates candidatesOf
  rw [List.mem_flatMap]
  constructor
  · rintro ⟨m, hm, hx⟩
    obtain ⟨e, he, hcandidate⟩ := List.mem_filterMap.1 hx
    obtain ⟨rfl, rfl, hbuilt⟩ := candidate?_eq_some.1 hcandidate
    exact ⟨hm, he, hbuilt⟩
  · rintro ⟨hm, he, hbuilt⟩
    exact ⟨x.marker, hm, List.mem_filterMap.2
      ⟨x.element, he, candidate?_eq_some.2 ⟨rfl, rfl, hbuilt⟩⟩⟩

/-- What is reported about an element of a marker that comes after some candidates. -/
def reportsOn (runtime : String) (m : Marker) (earlier : List Candidate) (e : Element) :
    List Diagnostic :=
  match build runtime m e with
  | .ok a => Candidate.reports earlier ⟨m, e, a⟩
  | .error err => [⟨.error, e.name, err.message⟩]

/-- What is reported about a marker that comes after some candidates: its repeated usages, and then
each of its elements. -/
def reportsOfMarker (c : Catalog) (runtime : String) (earlier : List Candidate) (m : Marker) :
    List Diagnostic :=
  (elements c m.name).flatMap (·.repetition m.name) ++
    (withEarlier (elements c m.name)).flatMap fun (before, e) =>
      reportsOn runtime m (earlier ++ candidatesOf runtime m before) e

/-! ## What a generation has done -/

namespace Generated

/-- What has been generated after some candidates have been taken. -/
structure Records (runtime : String) (g : Generated) (done : List Candidate) : Prop where
  built : ∀ x ∈ done, x.IsBuilt runtime
  /-- The first candidate of each place is taken in. -/
  artifacts : g.artifacts = (firstsBy Candidate.place done).map Candidate.artifact
  /-- The names of all candidates are taken, also of those that are left out. -/
  names : ∀ name, name ∈ g.names ↔ name ∈ done.map Candidate.name
  places : g.places = (firstsBy Candidate.place done).map Candidate.place

variable {runtime : String} {g : Generated} {done : List Candidate}

/-- Reports are not part of the records. -/
theorem Records.withReports (h : g.Records runtime done) (reports : List Diagnostic) :
    Records runtime { g with reports } done :=
  ⟨h.built, h.artifacts, h.names, h.places⟩

/-- The places that are taken are those of the candidates. -/
theorem Records.mem_places (h : g.Records runtime done) {place : String × String} :
    place ∈ g.places ↔ place ∈ done.map Candidate.place := by
  rw [h.places, mem_map_firstsBy]

/-- With one more candidate, all are built. -/
theorem Records.built_concat (h : g.Records runtime done) {x : Candidate}
    (hx : x.IsBuilt runtime) : ∀ y ∈ done ++ [x], y.IsBuilt runtime := by
  intro y hy
  obtain hy | hy := List.mem_append.1 hy
  · exact h.built y hy
  · obtain rfl := List.mem_singleton.1 hy
    exact hx

/-- With one more candidate, one more name is taken. -/
theorem Records.mem_names_concat (h : g.Records runtime done) {x : Candidate} {name : String} :
    name ∈ (done ++ [x]).map Candidate.name ↔ name ∈ g.names ∨ name = x.name := by
  rw [List.map_append, List.mem_append, h.names]
  exact or_congr_right List.mem_singleton

/-- A candidate whose place is taken is left out, and its name is taken. -/
theorem Records.leaveOut (h : g.Records runtime done) {x : Candidate} (hx : x.IsBuilt runtime)
    (htaken : x.place ∈ done.map Candidate.place) {names : List String}
    (hnames : ∀ name, name ∈ names ↔ name ∈ g.names ∨ name = x.name)
    (reports : List Diagnostic) : Records runtime { g with names, reports } (done ++ [x]) := by
  have hfirsts := firstsBy_concat Candidate.place done x
  rw [if_pos htaken] at hfirsts
  constructor
  case built => exact h.built_concat hx
  case artifacts =>
    rw [hfirsts]
    exact h.artifacts
  case names =>
    intro name
    rw [h.mem_names_concat]
    exact hnames name
  case places =>
    rw [hfirsts]
    exact h.places

/-- A candidate whose place is new is taken in. -/
theorem Records.takeIn (h : g.Records runtime done) {x : Candidate} (hx : x.IsBuilt runtime)
    (hnew : x.place ∉ done.map Candidate.place) (reports : List Diagnostic) :
    Records runtime
      ⟨g.artifacts ++ [x.artifact], g.names ++ [x.name], g.places ++ [x.place], reports⟩
      (done ++ [x]) := by
  have hfirsts := firstsBy_concat Candidate.place done x
  rw [if_neg hnew] at hfirsts
  constructor
  case built => exact h.built_concat hx
  case artifacts =>
    rw [hfirsts, List.map_append, ← h.artifacts]
    rfl
  case names =>
    intro name
    rw [h.mem_names_concat, List.mem_append, List.mem_singleton]
  case places =>
    rw [hfirsts, List.map_append, ← h.places]
    rfl

/-- Adding the artifact of a candidate records the candidate and reports about it. -/
theorem Records.add (h : g.Records runtime done) {x : Candidate} (hx : x.IsBuilt runtime) :
    (g.add x.element x.artifact).Records runtime (done ++ [x]) ∧
      (g.add x.element x.artifact).reports = g.reports ++ x.reports done := by
  have hname : g.names.contains x.artifact.qualifiedName = true ↔
      x.name ∈ done.map Candidate.name := by
    rw [List.contains_iff_mem]
    exact h.names _
  have hplace : g.places.contains (x.artifact.package, x.artifact.ident) = true ↔
      x.place ∈ done.map Candidate.place := by
    rw [List.contains_iff_mem]
    exact h.mem_places
  unfold Generated.add Candidate.reports
  by_cases htaken : x.name ∈ done.map Candidate.name
  · -- an earlier candidate of the same name has the same place
    have hold : x.place ∈ done.map Candidate.place := by
      by_contra hnew
      exact Candidate.name_not_mem hx h.built hnew htaken
    rw [if_pos (hname.2 htaken), if_pos htaken]
    refine ⟨h.leaveOut hx hold ?_ _, rfl⟩
    intro name
    constructor
    · exact .inl
    · rintro (hmem | rfl)
      · exact hmem
      · exact (h.names _).2 htaken
  · rw [if_neg (mt hname.1 htaken), if_neg htaken]
    dsimp only
    by_cases hold : x.place ∈ done.map Candidate.place
    · rw [if_pos (hplace.2 hold), if_pos hold]
      refine ⟨h.leaveOut hx hold ?_ _, rfl⟩
      intro name
      rw [List.mem_append, List.mem_singleton]
      rfl
    · rw [if_neg (mt hplace.1 hold), if_neg hold]
      exact ⟨h.takeIn hx hold _, rfl⟩

/-- A step records the candidate of an element, if it gives one, and reports about it. -/
theorem Records.step (h : g.Records runtime done) (m : Marker) (e : Element) :
    (g.step runtime m e).Records runtime (done ++ (candidate? runtime m e).toList) ∧
      (g.step runtime m e).reports = g.reports ++ reportsOn runtime m done e := by
  unfold Generated.step candidate? reportsOn
  cases hbuild : build runtime m e with
  | ok a => exact h.add (x := ⟨m, e, a⟩) hbuild
  | error err =>
    refine ⟨?_, rfl⟩
    rw [show (Except.error err : Except BuildError Artifact).toOption = none from rfl]
    exact (List.append_nil done).symm ▸ h.withReports _

/-- The elements of a marker are taken one after another. -/
theorem Records.steps (h : g.Records runtime done) (m : Marker) (es : List Element) :
    (es.foldl (Generated.step runtime m) g).Records runtime (done ++ candidatesOf runtime m es) ∧
      (es.foldl (Generated.step runtime m) g).reports =
        g.reports ++ (withEarlier es).flatMap fun (before, e) =>
          reportsOn runtime m (done ++ candidatesOf runtime m before) e := by
  induction es using List.reverseRecOn with
  | nil => exact ⟨by simpa [candidatesOf] using h, by simp [withEarlier]⟩
  | append_singleton es e ih =>
    obtain ⟨hrecords, hreports⟩ := ih
    obtain ⟨hstep, hmore⟩ := hrecords.step m e
    rw [List.foldl_append, withEarlier_concat, List.flatMap_append]
    refine ⟨?_, ?_⟩
    · -- the last element adds its candidate behind those of the others
      have hcandidates : candidatesOf runtime m (es ++ [e]) =
          candidatesOf runtime m es ++ (candidate? runtime m e).toList := by
        unfold candidatesOf
        rw [List.filterMap_append]
        cases hcandidate : candidate? runtime m e <;> simp [hcandidate]
      rw [hcandidates, ← List.append_assoc]
      exact hstep
    · rw [List.flatMap_singleton, ← List.append_assoc, ← hreports]
      exact hmore

/-- A marker adds the candidates of its elements. -/
theorem Records.addMarker (h : g.Records runtime done) (c : Catalog) (m : Marker) :
    (g.addMarker runtime c m).Records runtime
        (done ++ candidatesOf runtime m (elements c m.name)) ∧
      (g.addMarker runtime c m).reports = g.reports ++ reportsOfMarker c runtime done m := by
  obtain ⟨hrecords, hreports⟩ :=
    (h.withReports (g.reports ++ (elements c m.name).flatMap (·.repetition m.name))).steps m
      (elements c m.name)
  refine ⟨hrecords, ?_⟩
  unfold Generated.addMarker reportsOfMarker
  rw [hreports, List.append_assoc]

end Generated

/-- A generation records its candidates, and reports about their markers one after another. -/
theorem records_generate (c : Catalog) (markers : List Marker) (runtime : String) :
    (markers.foldl (Generated.addMarker runtime c) {}).Records runtime
        (candidates c runtime markers) ∧
      (markers.foldl (Generated.addMarker runtime c) {}).reports =
        (withEarlier markers).flatMap fun (before, m) =>
          reportsOfMarker c runtime (candidates c runtime before) m := by
  induction markers using List.reverseRecOn with
  | nil =>
    refine ⟨⟨?_, rfl, ?_, rfl⟩, rfl⟩
    · intro x hx
      cases hx
    · intro name
      rfl
  | append_singleton markers m ih =>
    obtain ⟨hrecords, hreports⟩ := ih
    obtain ⟨hmarker, hmore⟩ := hrecords.addMarker c m
    rw [List.foldl_append, withEarlier_concat, List.flatMap_append, List.flatMap_singleton,
      ← hreports]
    refine ⟨?_, hmore⟩
    rw [candidates, List.flatMap_append, List.flatMap_singleton]
    exact hmarker

/-- The artifacts of a generation are those of the first candidates of each place. -/
theorem artifacts_generate (c : Catalog) (markers : List Marker) (runtime : String) :
    (generate c markers runtime).1 =
      (firstsBy Candidate.place (candidates c runtime markers)).map Candidate.artifact :=
  (records_generate c markers runtime).1.artifacts

/-- The reports of a generation are those of its markers, one after another. -/
theorem reports_generate (c : Catalog) (markers : List Marker) (runtime : String) :
    (generate c markers runtime).2 =
      (withEarlier markers).flatMap fun (before, m) =>
        reportsOfMarker c runtime (candidates c runtime before) m :=
  (records_generate c markers runtime).2

/-- What is reported about an element of a marker is reported by the generation. -/
theorem mem_reports_generate {c : Catalog} {markers : List Marker} {runtime : String}
    {before : List Marker} {m : Marker} (hm : (before, m) ∈ withEarlier markers)
    {es : List Element} {e : Element} (he : (es, e) ∈ withEarlier (elements c m.name))
    {d : Diagnostic}
    (hd : d ∈ reportsOn runtime m (candidates c runtime before ++ candidatesOf runtime m es) e) :
    d ∈ (generate c markers runtime).2 := by
  rw [reports_generate]
  exact List.mem_flatMap.2 ⟨_, hm, List.mem_append_right _ (List.mem_flatMap.2 ⟨_, he, hd⟩)⟩

/-- What is reported about a candidate after those before it is reported by the generation. -/
theorem mem_reports_of_candidate {c : Catalog} {markers : List Marker} {runtime : String}
    {earlier : List Candidate} {x : Candidate}
    (hx : (earlier, x) ∈ withEarlier (candidates c runtime markers)) {d : Diagnostic}
    (hd : d ∈ x.reports earlier) : d ∈ (generate c markers runtime).2 := by
  -- the candidate belongs to an element of a marker, and those before it are the candidates of the
  -- markers before, and of the elements before
  unfold candidates at hx
  rw [withEarlier_flatMap] at hx
  obtain ⟨⟨before, m⟩, hm, hx⟩ := List.mem_flatMap.1 hx
  obtain ⟨⟨own, y⟩, hy, heq⟩ := List.mem_map.1 hx
  obtain ⟨rfl, rfl⟩ := Prod.mk.inj heq
  unfold candidatesOf at hy
  rw [withEarlier_filterMap] at hy
  obtain ⟨⟨es, e⟩, he, hcandidate⟩ := List.mem_filterMap.1 hy
  obtain ⟨z, hz, heq⟩ := Option.map_eq_some_iff.1 hcandidate
  obtain ⟨rfl, rfl⟩ := Prod.mk.inj heq
  obtain ⟨rfl, rfl, hbuilt⟩ := candidate?_eq_some.1 hz
  refine mem_reports_generate hm he ?_
  unfold reportsOn
  rw [show build runtime z.marker z.element = .ok z.artifact from hbuilt]
  exact hd

/-- Every artifact is built from a marker and an element that carries it. -/
theorem exists_build_of_mem_generate {c : Catalog} {markers : List Marker} {runtime : String}
    {a : Artifact} (ha : a ∈ (generate c markers runtime).1) :
    ∃ m ∈ markers, ∃ e ∈ elements c m.name, build runtime m e = .ok a := by
  rw [artifacts_generate] at ha
  obtain ⟨x, hx, rfl⟩ := List.mem_map.1 ha
  obtain ⟨hm, he, hbuilt⟩ := mem_candidates.1 (mem_of_mem_firstsBy _ hx)
  exact ⟨x.marker, hm, x.element, he, hbuilt⟩

/-- So every artifact takes over what `BuiltFrom` lists from some marker and some element. -/
theorem exists_builtFrom {c : Catalog} {markers : List Marker} {runtime : String} {a : Artifact}
    (ha : a ∈ (generate c markers runtime).1) : ∃ m e, BuiltFrom m e a := by
  obtain ⟨m, -, e, -, hbuild⟩ := exists_build_of_mem_generate ha
  exact ⟨m, e, builtFrom_of_build hbuild⟩

/-- The first usage of a marker at a site of a type gives an artifact. -/
def Generates (c : Catalog) (runtime : String) (m : Marker) (t : TypeDecl) (s : Site)
    (a : Artifact) : Prop :=
  ∃ e, elementAt? c m.name t s = some e ∧ build runtime m e = .ok a

/-- So every artifact is what a marker gives at a site of a type. -/
theorem exists_generates {c : Catalog} {markers : List Marker} {runtime : String} {a : Artifact}
    (ha : a ∈ (generate c markers runtime).1) :
    ∃ m ∈ markers, ∃ t ∈ c.types, ∃ s ∈ sites t, Generates c runtime m t s a := by
  obtain ⟨m, hm, e, he, hbuild⟩ := exists_build_of_mem_generate ha
  obtain ⟨t, ht, s, hs, hat⟩ := exists_site_of_mem_elements he
  exact ⟨m, hm, t, ht, s, hs, e, hat, hbuild⟩

/-- No two artifacts have the same package and the same type name. -/
theorem nodup_places_generate (c : Catalog) (markers : List Marker) (runtime : String) :
    ((generate c markers runtime).1.map fun a => (a.package, a.ident)).Nodup := by
  rw [artifacts_generate, List.map_map]
  exact nodup_map_firstsBy Candidate.place _

/-- No two artifacts have the same name. -/
theorem nodup_names_generate (c : Catalog) (markers : List Marker) (runtime : String) :
    ((generate c markers runtime).1.map Artifact.qualifiedName).Nodup := by
  have hplaces := nodup_map_firstsBy Candidate.place (candidates c runtime markers)
  rw [artifacts_generate, List.map_map]
  unfold List.Nodup at hplaces ⊢
  rw [List.pairwise_map] at hplaces ⊢
  -- with equal names they would have equal places
  refine hplaces.imp_of_mem ?_
  intro x y hx hy hne hname
  obtain ⟨-, -, hx⟩ := mem_candidates.1 (mem_of_mem_firstsBy _ hx)
  obtain ⟨-, -, hy⟩ := mem_candidates.1 (mem_of_mem_firstsBy _ hy)
  exact hne (Candidate.place_eq_of_name_eq hx hy hname)

/-! ## The first candidate wins -/

/-- A generation resolves collisions in favour of the first candidate. -/
structure FirstWins (c : Catalog) (markers : List Marker) (runtime : String) (g : Generated) :
    Prop where
  /-- The artifacts are those of the candidates whose place no earlier candidate has, in order. -/
  artifacts : g.artifacts =
    (firstsBy Candidate.place (candidates c runtime markers)).map Candidate.artifact
  /-- The reports are those about the markers and their elements, in order; each candidate has the
  reports that the candidates before it call for. -/
  reports : g.reports = (withEarlier markers).flatMap fun (before, m) =>
    reportsOfMarker c runtime (candidates c runtime before) m
  /-- A candidate whose place an earlier one has gives one error on its element. -/
  refused : ∀ earlier x later, candidates c runtime markers = earlier ++ x :: later →
    x.place ∈ earlier.map Candidate.place →
      ∃ message, x.reports earlier = [⟨.error, x.element.name, message⟩]
  /-- Any other candidate gives no error. -/
  accepted : ∀ earlier x later, candidates c runtime markers = earlier ++ x :: later →
    x.place ∉ earlier.map Candidate.place →
      x.reports earlier = Generated.traitNote x.element x.artifact
  /-- The names of the artifacts are different. -/
  names : (g.artifacts.map Artifact.qualifiedName).Nodup
  /-- The places of the artifacts are different. -/
  places : (g.artifacts.map fun a => (a.package, a.ident)).Nodup
  /-- The name of every candidate is taken at the end, also if the candidate is left out. -/
  taken : ∀ name, name ∈ g.names ↔
    ∃ x ∈ candidates c runtime markers, x.artifact.qualifiedName = name

/-- For all declarations, markers and paths of the runtime library: the artifacts that are generated
are those of the candidates whose package and type name no earlier candidate has, and each of the
other candidates gives one error on its element and nothing else. -/
theorem generate_firstWins (c : Catalog) (markers : List Marker) (runtime : String) :
    let g := markers.foldl (Generated.addMarker runtime c) {}
    generate c markers runtime = (g.artifacts, g.reports) ∧ FirstWins c markers runtime g := by
  intro g
  obtain ⟨hrecords, hreports⟩ := records_generate c markers runtime
  refine ⟨rfl, ?_⟩
  constructor
  case artifacts => exact hrecords.artifacts
  case reports => exact hreports
  case refused =>
    intro earlier x later _ htaken
    exact Candidate.reports_of_taken htaken
  case accepted =>
    intro earlier x later hsplit hnew
    have hbuilt := hrecords.built
    rw [hsplit] at hbuilt
    exact Candidate.reports_of_new (hbuilt x (by simp))
      (fun y hy => hbuilt y (List.mem_append_left _ hy)) hnew
  case names => exact nodup_names_generate c markers runtime
  case places => exact nodup_places_generate c markers runtime
  case taken =>
    intro name
    rw [hrecords.names, List.mem_map]
    rfl

end ExprGate.Artifact
