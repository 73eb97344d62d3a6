import ExprGate.Proofs.Artifact.Outcomes
import ExprGate.Proofs.Declaration.Reordering

/-!
# Changes at one spot

The annotations at one spot of a catalog can be changed in any way (`Catalog.revise`). What is
generated for an element at another spot depends on the elements before it only through the names
and the places that are taken, and a name is taken only together with its place. So the outcomes at
all other spots stay as they are, except where the place of the artifact is one for which an
artifact is built at the changed spot, before or after the change (`generate_revise`): an element
that fails, or that changes, influences others only through the place that it claims.
-/

set_option autoImplicit false

namespace ExprGate

/-- Changing one element of a list changes it at its position. -/
theorem zipIdx_modify {α : Type} (l : List α) (f : α → α) (i k : Nat) :
    (l.modify i f).zipIdx k =
      (l.zipIdx k).map fun (x, j) => (if j = k + i then f x else x, j) := by
  induction l generalizing i k with
  | nil => simp
  | cons x rest ih =>
    cases i with
    | zero =>
      have hrest : ∀ p ∈ rest.zipIdx (k + 1), ((if p.2 = k then f p.1 else p.1), p.2) = p := by
        rintro ⟨y, j⟩ hp
        have hlt := (List.mem_zipIdx hp).1
        rw [if_neg (by dsimp only; omega)]
      simp [List.map_congr_left hrest]
    | succ i =>
      have hshift : k + 1 + i = k + (i + 1) := by omega
      simp [ih, hshift]

/-- A key is among those of the elements that are kept if no element that is left out has it. -/
theorem mem_map_filterMap_filter {α β γ : Type} {f : α → Option β} {key : β → γ} {p : α → Bool}
    {l : List α} {k : γ} (hout : ∀ x ∈ l, p x = false → ∀ y, f x = some y → key y ≠ k) :
    k ∈ (l.filterMap f).map key ↔ k ∈ ((l.filter p).filterMap f).map key := by
  simp only [List.mem_map, List.mem_filterMap, List.mem_filter]
  constructor
  · rintro ⟨y, ⟨x, hx, hy⟩, rfl⟩
    have hp : p x = true := by
      by_contra hp
      exact hout x hx (by simpa using hp) y hy rfl
    exact ⟨y, ⟨x, ⟨hx, hp⟩, hy⟩, rfl⟩
  · rintro ⟨y, ⟨x, ⟨hx, -⟩, hy⟩, rfl⟩
    exact ⟨y, ⟨x, hx, hy⟩, rfl⟩

end ExprGate

namespace ExprGate.Declaration

/-! ## Other annotations at a spot -/

/-- A type with other annotations, of its own or of one of its methods. -/
def TypeDecl.revise (t : TypeDecl) (annotations : List Annotation) : Option Nat → TypeDecl
  | none => { t with annotations }
  | some k => { t with methods := t.methods.modify k fun m => { m with annotations } }

/-- A catalog with other annotations at a spot. -/
def Catalog.revise (c : Catalog) (s : Spot) (annotations : List Annotation) : Catalog :=
  { c with types := c.types.modify s.type (·.revise annotations s.method) }

/-- Other annotations leave the name of a type. -/
@[simp]
theorem TypeDecl.name_revise (t : TypeDecl) (annotations : List Annotation) (k : Option Nat) :
    (t.revise annotations k).name = t.name := by
  cases k <;> rfl

/-- Other annotations at a spot leave the names and imports of a catalog. -/
theorem Catalog.sameNames_revise (c : Catalog) (s : Spot) (annotations : List Annotation) :
    c.SameNames (c.revise s annotations) where
  names := by
    have hnames : c.names = (c.revise s annotations).names := by
      refine List.ext_getElem? fun i => ?_
      simp only [Catalog.names, Catalog.revise, List.getElem?_map, List.getElem?_modify]
      cases c.types[i]? with
      | none => rfl
      | some t => by_cases hi : s.type = i <;> simp [hi]
    rw [hnames]
  declares _ := rfl
  scopes _ := rfl

end ExprGate.Declaration

namespace ExprGate.Artifact

open Declaration Marker

variable (s : Spot) (annotations : List Annotation) {runtime : String}

/-- Other annotations at a spot leave the other places of the type. -/
theorem filter_locatedSites_revise (t : TypeDecl) :
    (locatedSites (t.revise annotations s.method) s.type).filter (·.1 != s) =
      (locatedSites t s.type).filter (·.1 != s) := by
  obtain ⟨i, method⟩ := s
  cases method with
  | none =>
    -- the site of the type itself is left out
    simp [locatedSites, TypeDecl.revise]
  | some k =>
    -- the site of the changed method is left out
    unfold locatedSites TypeDecl.revise
    rw [List.filter_cons_of_pos (by simp), List.filter_cons_of_pos (by simp), zipIdx_modify,
      List.map_map, List.filter_map, List.filter_map]
    refine congrArg _ (List.map_congr_left ?_)
    rintro ⟨m, j⟩ hkept
    have hj : j ≠ 0 + k := by
      rintro rfl
      simp at hkept
    simp only [Function.comp_apply, if_neg hj]

/-- At other spots, a marker has the same elements. -/
theorem filter_locatedElements_revise (c : Catalog) (marker : String) :
    (locatedElements (c.revise s annotations) marker).filter (·.1 != s) =
      (locatedElements c marker).filter (·.1 != s) := by
  have hat (t t' : TypeDecl) (hname : t'.name = t.name) :
      elementAt? (c.revise s annotations) marker t' = elementAt? c marker t := by
    funext site
    unfold elementAt?
    simp only [(c.sameNames_revise s annotations).resolveName?_eq, hname]
  unfold locatedElements
  rw [List.filter_flatMap, List.filter_flatMap]
  rw [show (c.revise s annotations).types =
    c.types.modify s.type (·.revise annotations s.method) from rfl, zipIdx_modify, List.flatMap_map]
  refine List.flatMap_congr ?_
  rintro ⟨t, i⟩ -
  dsimp only
  rw [filter_filterMap_values _ _ (· != s), filter_filterMap_values _ _ (· != s)]
  by_cases hi : i = 0 + s.type
  · obtain rfl : i = s.type := by omega
    rw [if_pos (by omega), hat t _ (by simp), filter_locatedSites_revise]
  · rw [if_neg hi, hat t t rfl]

/-- At other spots, the tasks are the same when annotations change. -/
theorem filter_tasks_revise (c : Catalog) (markers : List Marker) :
    (tasks (c.revise s annotations) markers).filter (·.spot != s) =
      (tasks c markers).filter (·.spot != s) := by
  have hmarker (c : Catalog) (m : Marker) : (tasksOf c m).filter (·.spot != s) =
      ((locatedElements c m.name).filter (·.1 != s)).map (Task.counting m) ++
        ((locatedElements c m.name).filter (·.1 != s)).map (Task.building m) := by
    unfold tasksOf
    rw [List.filter_append, List.filter_map, List.filter_map]
    rfl
  unfold tasks
  rw [List.filter_flatMap, List.filter_flatMap]
  refine List.flatMap_congr fun m _ => ?_
  rw [hmarker, hmarker, filter_locatedElements_revise]

/-! ## What an outcome depends on -/

/-- What is reported about a candidate depends on whether its name and its place are taken. -/
theorem Candidate.reports_eq {earlier earlier' : List Candidate} {x : Candidate}
    (hnames : x.name ∈ earlier.map name ↔ x.name ∈ earlier'.map name)
    (hplaces : x.place ∈ earlier.map place ↔ x.place ∈ earlier'.map place) :
    x.reports earlier = x.reports earlier' := by
  unfold reports
  simp only [hnames, hplaces]

/-- An outcome is the same after candidates that take the name and the place of its candidate
alike. -/
theorem Task.outcome_eq {earlier earlier' : List Candidate} {t : Task}
    (halike : ∀ x, t.candidate? runtime = some x →
      (x.name ∈ earlier.map Candidate.name ↔ x.name ∈ earlier'.map Candidate.name) ∧
        (x.place ∈ earlier.map Candidate.place ↔ x.place ∈ earlier'.map Candidate.place)) :
    t.outcome runtime earlier = t.outcome runtime earlier' := by
  obtain ⟨s, m, e, builds⟩ := t
  cases builds with
  | false => rfl
  | true =>
    have hcandidate : Task.candidate? runtime ⟨s, m, e, true⟩ = Artifact.candidate? runtime m e :=
      rfl
    unfold Task.outcome
    rw [hcandidate] at halike ⊢
    unfold reportsOn
    unfold Artifact.candidate? at halike ⊢
    cases hbuild : build runtime m e with
    | error err => rfl
    | ok a =>
      rw [hbuild] at halike
      obtain ⟨hnames, hplaces⟩ := halike ⟨m, e, a⟩ rfl
      simp only [Except.toOption, Option.map_some, Option.filter_some, List.contains_eq_mem,
        hplaces, Candidate.reports_eq hnames hplaces]

/-! ## Elsewhere than at a spot -/

/-- The places of the artifacts that are built for a spot, also if they are left out. -/
def placesAt (c : Catalog) (markers : List Marker) (runtime : String) (s : Spot) :
    List (String × String) :=
  markers.flatMap fun m =>
    ((locatedElements c m.name).filter (·.1 == s)).filterMap fun (_, e) =>
      (candidate? runtime m e).map Candidate.place

/-- Whether an outcome is at another spot, and its place is none of some places. -/
def Outcome.isElsewhere (s : Spot) (places : List (String × String)) (o : Outcome) : Bool :=
  o.spot != s && o.place?.all (!places.contains ·)

/-- Whether a task is at another spot, and the place of its artifact is none of some places. -/
def Task.isElsewhere (runtime : String) (s : Spot) (places : List (String × String)) (t : Task) :
    Bool :=
  (t.outcome runtime []).isElsewhere s places

/-- The places for a spot are those of the artifacts that are built from what the spot says of a
marker. -/
theorem mem_placesAt {c : Catalog} {markers : List Marker} {p : String × String} :
    p ∈ placesAt c markers runtime s ↔ ∃ m ∈ markers, ∃ e a, ElementAt c m.name s e ∧
      build runtime m e = .ok a ∧ p = (a.package, a.ident) := by
  unfold placesAt
  simp only [List.mem_flatMap, List.mem_filterMap, List.mem_filter, Prod.exists, beq_iff_eq,
    mem_locatedElements, Option.map_eq_some_iff]
  constructor
  · rintro ⟨m, hm, _, e, ⟨he, rfl⟩, x, hx, rfl⟩
    obtain ⟨rfl, rfl, hbuilt⟩ := candidate?_eq_some.1 hx
    exact ⟨_, hm, _, x.artifact, he, hbuilt, rfl⟩
  · rintro ⟨m, hm, e, a, he, hbuild, rfl⟩
    exact ⟨m, hm, s, e, ⟨he, rfl⟩, ⟨m, e, a⟩, candidate?_eq_some.2 ⟨rfl, rfl, hbuild⟩, rfl⟩

variable {s} {places : List (String × String)} {c : Catalog} {markers : List Marker}

/-- A task that is not elsewhere builds at one of the given places, if these include all that are
built at for the spot. -/
theorem place_mem_of_not_isElsewhere
    (hplaces : ∀ p ∈ placesAt c markers runtime s, p ∈ places) {t : Task}
    (ht : t ∈ tasks c markers) (helsewhere : t.isElsewhere runtime s places = false)
    {x : Candidate} (hx : t.candidate? runtime = some x) : x.place ∈ places := by
  unfold Task.isElsewhere Outcome.isElsewhere Task.outcome at helsewhere
  by_cases hspot : t.spot = s
  · obtain ⟨hmarker, helement⟩ := mem_tasks ht
    rw [hspot] at helement
    exact hplaces _ ((mem_placesAt s).2
      ⟨_, hmarker, _, x.artifact, helement, Task.build_eq_ok hx, rfl⟩)
  · simpa [hspot, hx] using helsewhere

/-- A task that is elsewhere builds at none of the given places. -/
theorem place_not_mem_of_isElsewhere {t : Task} (helsewhere : t.isElsewhere runtime s places = true)
    {x : Candidate} (hx : t.candidate? runtime = some x) : x.place ∉ places := by
  unfold Task.isElsewhere Outcome.isElsewhere Task.outcome at helsewhere
  rw [hx] at helsewhere
  simpa using (Bool.and_eq_true_iff.1 helsewhere).2

/-- Elsewhere, an outcome is the same if the tasks before that are not elsewhere are left out. -/
theorem outcome_eq_of_isElsewhere (hplaces : ∀ p ∈ placesAt c markers runtime s, p ∈ places)
    {before : List Task} (hbefore : ∀ u ∈ before, u ∈ tasks c markers) {t : Task}
    (ht : t.isElsewhere runtime s places = true) :
    t.outcome runtime (before.filterMap (Task.candidate? runtime)) =
      t.outcome runtime ((before.filter (Task.isElsewhere runtime s places)).filterMap
        (Task.candidate? runtime)) := by
  refine Task.outcome_eq fun x hx => ?_
  have hplace : ∀ u ∈ before, u.isElsewhere runtime s places = false →
      ∀ y, u.candidate? runtime = some y → y.place ≠ x.place := by
    intro u hu helsewhere y hy heq
    refine place_not_mem_of_isElsewhere ht hx ?_
    rw [← heq]
    exact place_mem_of_not_isElsewhere hplaces (hbefore u hu) helsewhere hy
  refine ⟨mem_map_filterMap_filter ?_, mem_map_filterMap_filter hplace⟩
  -- with its name, another candidate would have its place too
  intro u hu helsewhere y hy heq
  exact hplace u hu helsewhere y hy
    (Candidate.place_eq_of_name_eq (Task.isBuilt hy) (Task.isBuilt hx) heq)

/-- The outcomes elsewhere are those of the tasks elsewhere, without any other task. -/
theorem filter_outcomes (hplaces : ∀ p ∈ placesAt c markers runtime s, p ∈ places) :
    (outcomes c markers runtime).filter (·.isElsewhere s places) =
      (withEarlier ((tasks c markers).filter (·.isElsewhere runtime s places))).map
        fun (before, t) => t.outcome runtime (before.filterMap (Task.candidate? runtime)) := by
  unfold outcomes
  rw [List.filter_map, withEarlier_filter, List.map_map]
  refine List.map_congr_left ?_
  rintro ⟨before, t⟩ hmem
  obtain ⟨hmem, helsewhere⟩ := List.mem_filter.1 hmem
  obtain ⟨later, htasks⟩ := mem_withEarlier.1 hmem
  refine outcome_eq_of_isElsewhere hplaces ?_ helsewhere
  intro u hu
  rw [htasks]
  exact List.mem_append_left _ hu

/-- Elsewhere, the tasks are the same when annotations change. -/
theorem filter_isElsewhere_tasks_revise :
    (tasks (c.revise s annotations) markers).filter (·.isElsewhere runtime s places) =
      (tasks c markers).filter (·.isElsewhere runtime s places) := by
  have hspot (l : List Task) : l.filter (·.isElsewhere runtime s places) =
      (l.filter (·.spot != s)).filter (·.isElsewhere runtime s places) := by
    rw [List.filter_filter]
    refine List.filter_congr fun t _ => ?_
    unfold Task.isElsewhere Outcome.isElsewhere Task.outcome
    cases t.spot != s <;> simp
  rw [hspot, filter_tasks_revise, ← hspot]

/-- The outcome of an artifact of another spot is elsewhere if the place of the artifact is. -/
theorem Accounts.exists_artifact_iff {os : List Outcome} (h : Accounts c markers runtime os)
    {spot : Spot} {a : Artifact} (hspot : spot ≠ s) (hplace : (a.package, a.ident) ∉ places) :
    (∃ o ∈ os, o.spot = spot ∧ o.artifact? = some a) ↔
      ∃ o ∈ os.filter (·.isElsewhere s places), o.spot = spot ∧ o.artifact? = some a := by
  constructor
  · rintro ⟨o, ho, rfl, ha⟩
    obtain ⟨m, -, e, -, habout⟩ := h.located o ho
    refine ⟨o, List.mem_filter.2 ⟨ho, ?_⟩, rfl, ha⟩
    unfold Outcome.isElsewhere
    rw [(habout.artifact a ha).2]
    simpa using And.intro hspot hplace
  · rintro ⟨o, ho, hat⟩
    exact ⟨o, List.mem_of_mem_filter ho, hat⟩

/-! ## Changes at a spot -/

/-- Outcomes that agree elsewhere than at a spot and at some places. -/
structure AgreeElsewhere (s : Spot) (places : List (String × String)) (os os' : List Outcome) :
    Prop where
  /-- Elsewhere they are the same, in the same order. -/
  outcomes : os.filter (·.isElsewhere s places) = os'.filter (·.isElsewhere s places)
  /-- So an artifact of another spot whose place is none of those is in both or in neither. -/
  artifact_iff : ∀ spot a, spot ≠ s → (a.package, a.ident) ∉ places →
    ((∃ o ∈ os, o.spot = spot ∧ o.artifact? = some a) ↔
      ∃ o ∈ os', o.spot = spot ∧ o.artifact? = some a)

/-- For all declarations, markers and paths of the runtime library, and for any change of the
annotations at a spot, of their values and also of their names: elsewhere than at this spot and at
the places of the artifacts that are built for it before or after the change, the same is generated
and the same is reported, in the same order. -/
theorem generate_revise (c : Catalog) (s : Spot) (annotations : List Annotation)
    (markers : List Marker) (runtime : String) :
    let c' := c.revise s annotations
    let places := placesAt c markers runtime s ++ placesAt c' markers runtime s
    Accounts c markers runtime (outcomes c markers runtime) ∧
      Accounts c' markers runtime (outcomes c' markers runtime) ∧
      AgreeElsewhere s places (outcomes c markers runtime) (outcomes c' markers runtime) := by
  intro c' places
  have haccounts := accounts_outcomes c markers runtime
  have haccounts' := accounts_outcomes c' markers runtime
  have hsame : (outcomes c markers runtime).filter (·.isElsewhere s places) =
      (outcomes c' markers runtime).filter (·.isElsewhere s places) := by
    rw [filter_outcomes fun p hp => List.mem_append_left _ hp,
      filter_outcomes fun p hp => List.mem_append_right _ hp, filter_isElsewhere_tasks_revise]
  refine ⟨haccounts, haccounts', hsame, ?_⟩
  intro spot a hspot hplace
  rw [haccounts.exists_artifact_iff hspot hplace, haccounts'.exists_artifact_iff hspot hplace,
    hsame]

end ExprGate.Artifact
