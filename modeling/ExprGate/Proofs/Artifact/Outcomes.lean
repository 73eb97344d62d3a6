import ExprGate.Proofs.Artifact.Generation

/-!
# Outcomes of a generation

A generation works through tasks, one after another: for each marker it counts the usages at all
elements, and then it builds their artifacts. What a task leads to is its outcome: the artifact, if
there is one, and the reports. Each element stands at a spot of the catalog, on a type or on one of
its methods, so outcomes tell from where in the catalog an artifact or a report comes, also where
two elements have the same name. The outcomes of all tasks together are what is generated
(`accounts_outcomes`).
-/

set_option autoImplicit false

namespace ExprGate.Declaration

/-- Where annotations stand in a catalog. -/
structure Spot where
  /-- The position of the type. -/
  type : Nat
  /-- The position of the method in its type, if it is one. -/
  method : Option Nat
deriving DecidableEq, Repr

end ExprGate.Declaration

namespace ExprGate.Artifact

open Declaration Marker

/-! ## Elements at their spots -/

/-- The places of a type that have annotations, each at its spot. -/
def locatedSites (t : TypeDecl) (i : Nat) : List (Spot × Site) :=
  (⟨i, none⟩, ⟨none, t.module, t.annotations⟩) ::
    t.methods.zipIdx.map fun (m, k) => (⟨i, some k⟩, ⟨some m, m.module, m.annotations⟩)

/-- The declarations that carry a marker, each at its spot. -/
def locatedElements (c : Catalog) (marker : String) : List (Spot × Element) :=
  c.types.zipIdx.flatMap fun (t, i) =>
    (locatedSites t i).filterMap fun (s, site) => (elementAt? c marker t site).map (Prod.mk s)

/-- The place of a type that has annotations at a position: the type itself, or a method. -/
def siteAt? (t : TypeDecl) : Option Nat → Option Site
  | none => some ⟨none, t.module, t.annotations⟩
  | some k => t.methods[k]?.map fun m => ⟨some m, m.module, m.annotations⟩

/-- What the annotations at a spot say of a marker. -/
def ElementAt (c : Catalog) (marker : String) (s : Spot) (e : Element) : Prop :=
  ∃ t site, c.types[s.type]? = some t ∧ siteAt? t s.method = some site ∧
    elementAt? c marker t site = some e

/-- The places of a type at their spots are those at the position of the type. -/
theorem mem_locatedSites {t : TypeDecl} {i : Nat} {s : Spot} {site : Site} :
    (s, site) ∈ locatedSites t i ↔ s.type = i ∧ siteAt? t s.method = some site := by
  obtain ⟨j, method⟩ := s
  unfold locatedSites
  rw [List.mem_cons, List.mem_map]
  cases method with
  | none => simp [siteAt?, eq_comm]
  | some k =>
    simp only [Prod.exists, Prod.mk.injEq, Spot.mk.injEq, List.mem_zipIdx_iff_getElem?, siteAt?,
      Option.map_eq_some_iff]
    grind

/-- The elements of a marker at their spots are what the annotations there say of the marker. -/
theorem mem_locatedElements {c : Catalog} {marker : String} {s : Spot} {e : Element} :
    (s, e) ∈ locatedElements c marker ↔ ElementAt c marker s e := by
  unfold locatedElements ElementAt
  simp only [List.mem_flatMap, List.mem_filterMap, Prod.exists, List.mem_zipIdx_iff_getElem?,
    mem_locatedSites, Option.map_eq_some_iff, Prod.mk.injEq]
  constructor
  · rintro ⟨t, i, ht, s', site, ⟨rfl, hsite⟩, e', he, rfl, rfl⟩
    exact ⟨t, site, ht, hsite, he⟩
  · rintro ⟨t, site, ht, hsite, he⟩
    exact ⟨t, s.type, ht, s, site, ⟨rfl, hsite⟩, e, he, rfl, rfl⟩

/-- Without their spots the places of a type are its sites. -/
theorem map_snd_locatedSites (t : TypeDecl) (i : Nat) :
    (locatedSites t i).map Prod.snd = sites t := by
  have hmethods : t.methods.zipIdx.map (fun p => Site.mk (some p.1) p.1.module p.1.annotations) =
      t.methods.map fun m => Site.mk (some m) m.module m.annotations := by
    conv_rhs => rw [← List.zipIdx_map_fst 0 t.methods, List.map_map]
    rfl
  unfold locatedSites sites
  rw [List.map_cons, List.map_map, ← hmethods]
  rfl

/-- Without their spots the elements of a marker are those of the catalog, in order. -/
theorem map_snd_locatedElements (c : Catalog) (marker : String) :
    (locatedElements c marker).map Prod.snd = elements c marker := by
  have htype (t : TypeDecl) (i : Nat) :
      ((locatedSites t i).filterMap fun (s, site) =>
        (elementAt? c marker t site).map (Prod.mk s)).map Prod.snd =
        (sites t).filterMap (elementAt? c marker t) := by
    rw [← map_snd_locatedSites t i, List.filterMap_map, List.map_filterMap]
    refine List.filterMap_congr ?_
    rintro ⟨s, site⟩ -
    rw [Option.map_map]
    exact Option.map_id'
  unfold locatedElements elements
  rw [List.map_flatMap]
  conv_rhs => rw [← List.zipIdx_map_fst 0 c.types, List.flatMap_map]
  exact List.flatMap_congr fun p _ => htype p.1 p.2

/-! ## Tasks and their outcomes -/

/-- What a generation does about an element of a marker. -/
structure Task where
  spot : Spot
  marker : Marker
  element : Element
  /-- Whether its artifact is built. Otherwise only its usages are counted. -/
  builds : Bool

namespace Task

/-- Counting the usages at an element. -/
def counting (m : Marker) (x : Spot × Element) : Task :=
  ⟨x.1, m, x.2, false⟩

/-- Building the artifact of an element. -/
def building (m : Marker) (x : Spot × Element) : Task :=
  ⟨x.1, m, x.2, true⟩

end Task

/-- The tasks of a marker. -/
def tasksOf (c : Catalog) (m : Marker) : List Task :=
  (locatedElements c m.name).map (Task.counting m) ++
    (locatedElements c m.name).map (Task.building m)

/-- The tasks of a generation, in order. -/
def tasks (c : Catalog) (markers : List Marker) : List Task :=
  markers.flatMap (tasksOf c)

/-- What a task leads to. -/
structure Outcome where
  spot : Spot
  /-- The place of the artifact, if one is built. -/
  place? : Option (String × String)
  /-- The artifact, if one is built and not left out. -/
  artifact? : Option Artifact
  reports : List Diagnostic
deriving DecidableEq

/-- The candidate that a task gives, if it builds an artifact. -/
def Task.candidate? (runtime : String) (t : Task) : Option Candidate :=
  if t.builds then Artifact.candidate? runtime t.marker t.element else none

/-- What a task leads to after some candidates. -/
def Task.outcome (runtime : String) (earlier : List Candidate) (t : Task) : Outcome where
  spot := t.spot
  place? := (t.candidate? runtime).map Candidate.place
  artifact? :=
    ((t.candidate? runtime).filter fun x => !(earlier.map Candidate.place).contains x.place).map
      Candidate.artifact
  reports :=
    if t.builds then reportsOn runtime t.marker earlier t.element
    else t.element.repetition t.marker.name

/-- The outcomes of a generation, in order. -/
def outcomes (c : Catalog) (markers : List Marker) (runtime : String) : List Outcome :=
  (withEarlier (tasks c markers)).map fun (before, t) =>
    t.outcome runtime (before.filterMap (Task.candidate? runtime))

variable {runtime : String}

/-- A task is about one of the markers, and about an element at its spot. -/
theorem mem_tasks {c : Catalog} {markers : List Marker} {t : Task} (h : t ∈ tasks c markers) :
    t.marker ∈ markers ∧ ElementAt c t.marker.name t.spot t.element := by
  obtain ⟨m, hm, ht⟩ := List.mem_flatMap.1 h
  obtain ht | ht := List.mem_append.1 ht
  · obtain ⟨x, hx, rfl⟩ := List.mem_map.1 ht
    exact ⟨hm, mem_locatedElements.1 hx⟩
  · obtain ⟨x, hx, rfl⟩ := List.mem_map.1 ht
    exact ⟨hm, mem_locatedElements.1 hx⟩

/-- The candidate of a task is that of its element. -/
theorem Task.candidate?_eq_some {t : Task} {x : Candidate} (h : t.candidate? runtime = some x) :
    Artifact.candidate? runtime t.marker t.element = some x := by
  unfold Task.candidate? at h
  split at h
  · exact h
  · cases h

/-- The candidate of a task holds what is built from its element. -/
theorem Task.isBuilt {t : Task} {x : Candidate} (h : t.candidate? runtime = some x) :
    x.IsBuilt runtime :=
  (Artifact.candidate?_eq_some.1 (Task.candidate?_eq_some h)).2.2

/-- The artifact of a task's candidate is built from the task's element. -/
theorem Task.build_eq_ok {t : Task} {x : Candidate} (h : t.candidate? runtime = some x) :
    build runtime t.marker t.element = .ok x.artifact := by
  obtain ⟨hmarker, helement, hbuilt⟩ :=
    Artifact.candidate?_eq_some.1 (Task.candidate?_eq_some h)
  rw [← hmarker, ← helement]
  exact hbuilt

/-- Counting usages gives no candidates. -/
theorem candidates_counting (m : Marker) (l : List (Spot × Element)) :
    (l.map (Task.counting m)).filterMap (Task.candidate? runtime) = [] := by
  rw [List.filterMap_map]
  exact List.filterMap_eq_nil_iff.2 fun _ _ => rfl

/-- Building the artifacts of elements gives the candidates of a marker. -/
theorem candidates_building (m : Marker) (l : List (Spot × Element)) :
    (l.map (Task.building m)).filterMap (Task.candidate? runtime) =
      candidatesOf runtime m (l.map Prod.snd) := by
  unfold candidatesOf
  rw [List.filterMap_map, List.filterMap_map]
  rfl

/-- The tasks of a marker give its candidates. -/
theorem candidates_tasksOf (c : Catalog) (m : Marker) :
    (tasksOf c m).filterMap (Task.candidate? runtime) =
      candidatesOf runtime m (elements c m.name) := by
  unfold tasksOf
  rw [List.filterMap_append, candidates_counting, candidates_building, map_snd_locatedElements,
    List.nil_append]

/-- All tasks together give the candidates of the generation. -/
theorem candidates_tasks (c : Catalog) (markers : List Marker) :
    (tasks c markers).filterMap (Task.candidate? runtime) = candidates c runtime markers := by
  unfold tasks candidates
  rw [List.filterMap_flatMap]
  exact List.flatMap_congr fun m _ => candidates_tasksOf c m

/-- The artifacts of the outcomes are those of the generation. -/
theorem artifacts_outcomes (c : Catalog) (markers : List Marker) :
    (outcomes c markers runtime).filterMap Outcome.artifact? =
      (generate c markers runtime).1 := by
  rw [artifacts_generate, ← candidates_tasks, firstsBy_filterMap, List.map_filterMap]
  unfold outcomes
  rw [List.filterMap_map]
  refine List.filterMap_congr ?_
  rintro ⟨before, t⟩ -
  rw [Function.comp_apply]
  unfold Task.outcome
  simp only [List.contains_eq_mem, decide_not]

/-- The tasks of a marker report what the generation reports of it. -/
theorem reports_tasksOf (c : Catalog) (m : Marker) (earlier : List Candidate) :
    ((withEarlier (tasksOf c m)).flatMap fun (before, t) =>
      (t.outcome runtime (earlier ++ before.filterMap (Task.candidate? runtime))).reports) =
      reportsOfMarker c runtime earlier m := by
  have hcounting : ((withEarlier ((locatedElements c m.name).map (Task.counting m))).flatMap
      fun (before, t) =>
        (t.outcome runtime (earlier ++ before.filterMap (Task.candidate? runtime))).reports) =
      (elements c m.name).flatMap (·.repetition m.name) := by
    conv_rhs => rw [← map_snd_locatedElements, ← map_snd_withEarlier (locatedElements c m.name)]
    rw [withEarlier_map, List.flatMap_map, List.flatMap_map, List.flatMap_map]
    rfl
  unfold tasksOf reportsOfMarker
  rw [withEarlier_append, List.flatMap_append, hcounting, ← map_snd_locatedElements,
    withEarlier_map, withEarlier_map]
  simp only [List.flatMap_map]
  refine congrArg _ (List.flatMap_congr ?_)
  rintro ⟨before, x⟩ -
  dsimp only
  rw [List.filterMap_append, candidates_counting, candidates_building, List.nil_append]
  rfl

/-- The reports of the outcomes are those of the generation. -/
theorem reports_outcomes (c : Catalog) (markers : List Marker) :
    (outcomes c markers runtime).flatMap Outcome.reports = (generate c markers runtime).2 := by
  unfold outcomes tasks
  rw [List.flatMap_map, withEarlier_flatMap, List.flatMap_assoc, reports_generate]
  refine List.flatMap_congr ?_
  rintro ⟨before, m⟩ -
  dsimp only
  rw [← reports_tasksOf, List.flatMap_map, ← candidates_tasks]
  refine List.flatMap_congr ?_
  rintro ⟨own, t⟩ -
  dsimp only
  rw [List.filterMap_append]
  rfl

/-! ## Accounts of a generation -/

/-- An outcome that is about an element of a marker. -/
structure Outcome.IsAbout (runtime : String) (m : Marker) (e : Element) (o : Outcome) : Prop where
  place : ∀ p, o.place? = some p →
    ∃ a, build runtime m e = .ok a ∧ p = (a.package, a.ident)
  artifact : ∀ a, o.artifact? = some a →
    build runtime m e = .ok a ∧ o.place? = some (a.package, a.ident)
  reports : ∀ d ∈ o.reports, d.element = e.name

/-- What is reported when an artifact is built names the element. -/
theorem element_of_mem_reportsOn {m : Marker} {e : Element} {earlier : List Candidate}
    {d : Diagnostic} (h : d ∈ reportsOn runtime m earlier e) : d.element = e.name := by
  unfold reportsOn Candidate.reports Generated.traitNote at h
  split at h
  · split at h
    · rw [List.mem_singleton.1 h]
    · split at h
      · rw [List.mem_singleton.1 h]
      · split at h
        · rw [List.mem_singleton.1 h]
        · cases h
  · rw [List.mem_singleton.1 h]

/-- What is reported of repeated usages names the element. -/
theorem element_of_mem_repetition {e : Element} {marker : String} {d : Diagnostic}
    (h : d ∈ e.repetition marker) : d.element = e.name := by
  unfold Element.repetition at h
  split at h
  · cases h
  · rw [List.mem_singleton.1 h]

/-- The outcome of a task is about its element. -/
theorem Task.isAbout_outcome (t : Task) (earlier : List Candidate) :
    (t.outcome runtime earlier).IsAbout runtime t.marker t.element where
  place p hp := by
    obtain ⟨x, hx, rfl⟩ := Option.map_eq_some_iff.1 hp
    exact ⟨x.artifact, Task.build_eq_ok hx, rfl⟩
  artifact a ha := by
    obtain ⟨x, hx, rfl⟩ := Option.map_eq_some_iff.1 ha
    obtain ⟨hx, -⟩ := Option.filter_eq_some_iff.1 hx
    refine ⟨Task.build_eq_ok hx, ?_⟩
    unfold Task.outcome
    rw [hx]
    rfl
  reports d hd := by
    unfold Task.outcome at hd
    dsimp only at hd
    split at hd
    · exact element_of_mem_reportsOn hd
    · exact element_of_mem_repetition hd

/-- Outcomes that account for all that is generated. -/
structure Accounts (c : Catalog) (markers : List Marker) (runtime : String) (os : List Outcome) :
    Prop where
  artifacts : os.filterMap Outcome.artifact? = (generate c markers runtime).1
  reports : os.flatMap Outcome.reports = (generate c markers runtime).2
  /-- Each outcome is about what its spot says of a marker. -/
  located : ∀ o ∈ os, ∃ m ∈ markers, ∃ e, ElementAt c m.name o.spot e ∧ o.IsAbout runtime m e

/-- The outcomes of a generation account for it. -/
theorem accounts_outcomes (c : Catalog) (markers : List Marker) (runtime : String) :
    Accounts c markers runtime (outcomes c markers runtime) where
  artifacts := artifacts_outcomes c markers
  reports := reports_outcomes c markers
  located o ho := by
    obtain ⟨⟨before, t⟩, hmem, rfl⟩ := List.mem_map.1 ho
    obtain ⟨later, htasks⟩ := mem_withEarlier.1 hmem
    have ht : t ∈ tasks c markers := by
      rw [htasks]
      exact List.mem_append_right _ List.mem_cons_self
    obtain ⟨hmarker, helement⟩ := mem_tasks ht
    exact ⟨t.marker, hmarker, t.element, helement, t.isAbout_outcome _⟩

end ExprGate.Artifact
