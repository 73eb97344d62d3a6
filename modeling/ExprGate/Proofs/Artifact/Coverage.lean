import Mathlib.Data.List.Forall2
import ExprGate.Proofs.Artifact.Generation
import ExprGate.Proofs.Marker.Discovery

/-!
# Every usage of a marker is answered

A site carries a marker if one of its annotations stands for it (`carries`). The elements of a
marker are found by a resolution of their own, but they are those of the sites that carry it
(`isSome_elementAt?`). Each element gives an artifact or an error (`generate_element`), and without
errors the artifacts are those of the sites that carry a marker, one by one and in order
(`forall₂_generate`).
-/

set_option autoImplicit false

namespace ExprGate.Artifact

open Declaration Marker

variable {c : Catalog}

/-! ## Sites and their elements -/

/-- The name of a site of a type in reports. -/
def siteName (t : TypeDecl) (s : Site) : String :=
  match s.method with
  | none => t.name
  | some m =>
    match m.inheritedFrom with
    | some trait => "<" ++ t.name ++ " as " ++ trait ++ ">::" ++ m.name
    | none => t.name ++ "::" ++ m.name

/-- The element at a site has the site's name. -/
theorem name_of_elementAt? {marker : String} {t : TypeDecl} {s : Site} {e : Element}
    (h : elementAt? c marker t s = some e) : e.name = siteName t s := by
  unfold elementAt? at h
  split at h
  · cases h
  · obtain rfl := Option.some.inj h
    rfl

/-- Whether a site carries a marker: one of its annotations stands for the marker's type. -/
def carries (c : Catalog) (marker : String) (s : Site) : Bool :=
  s.annotations.any fun a =>
    (c.resolve? s.module a.name).any fun t => isMarker t && t.name == marker

/-- A site carries a marker if one of its annotations stands for a type with this name that is a
marker. -/
theorem carries_iff {marker : String} {s : Site} :
    carries c marker s = true ↔ ∃ a ∈ s.annotations, ∃ t,
      c.resolve? s.module a.name = some t ∧ isMarker t = true ∧ t.name = marker := by
  simp only [carries, List.any_eq_true, Option.any_eq_true, Bool.and_eq_true, beq_iff_eq]

/-- The sites with an element of a marker in use are those that carry it. -/
theorem isSome_elementAt? (hc : c.Made) {marker : String} (h : marker ∈ used c) (t : TypeDecl)
    (s : Site) : (elementAt? c marker t s).isSome = carries c marker s := by
  rw [Bool.eq_iff_iff, carries_iff]
  constructor
  · intro hsome
    obtain ⟨e, he⟩ := Option.isSome_iff_exists.1 hsome
    obtain ⟨-, -, more, hfilter⟩ := elementAt?_eq_some he
    have husage : e.usage ∈ s.annotations.filter
        fun x => c.resolveName? s.module x.name == some marker := by
      rw [hfilter]
      exact List.mem_cons_self
    obtain ⟨hmem, hresolves⟩ := List.mem_filter.1 husage
    -- the name that the annotation stands for is that of a marker, since the marker is in use
    obtain ⟨m, hget, hmarker⟩ := get?_of_mem_used hc h
    obtain rfl := hc.name_of_get? hget
    exact ⟨e.usage, hmem, m, hc.resolve?_eq_some.2 ⟨beq_iff_eq.1 hresolves, hget⟩, hmarker, rfl⟩
  · rintro ⟨a, ha, m, hresolve, -, rfl⟩
    have husage : a ∈ s.annotations.filter
        fun x => c.resolveName? s.module x.name == some m.name :=
      List.mem_filter.2 ⟨ha, beq_iff_eq.2 (hc.resolve?_eq_some.1 hresolve).1⟩
    unfold elementAt?
    split
    · rename_i hnil
      rw [hnil] at husage
      cases husage
    · rfl

/-- What a marker generates for a site names both. -/
theorem Generates.names {runtime : String} {m : Marker} {t : TypeDecl} {s : Site} {a : Artifact}
    (h : Generates c runtime m t s a) : a.marker = m.name ∧ a.element = siteName t s := by
  obtain ⟨e, hat, hbuild⟩ := h
  have hbuilt := builtFrom_of_build hbuild
  exact ⟨hbuilt.marker, hbuilt.element.trans (name_of_elementAt? hat)⟩

/-! ## Every element is answered -/

variable {markers : List Marker} {runtime : String}

/-- An element whose artifact cannot be built is reported. -/
theorem mem_reports_of_error {m : Marker} (hm : m ∈ markers) {e : Element}
    (he : e ∈ elements c m.name) {err : BuildError} (hbuild : build runtime m e = .error err) :
    ⟨.error, e.name, err.message⟩ ∈ (generate c markers runtime).2 := by
  obtain ⟨before, after, hmarkers⟩ := List.append_of_mem hm
  obtain ⟨es, rest, helements⟩ := List.append_of_mem he
  refine mem_reports_generate (mem_withEarlier.2 ⟨after, hmarkers⟩)
    (mem_withEarlier.2 ⟨rest, helements⟩) ?_
  unfold reportsOn
  rw [hbuild]
  exact List.mem_cons_self

/-- A candidate whose place is taken is reported. -/
theorem mem_reports_of_taken {earlier : List Candidate} {x : Candidate}
    (hx : (earlier, x) ∈ withEarlier (candidates c runtime markers))
    (htaken : x.place ∈ earlier.map Candidate.place) :
    ∃ message, ⟨.error, x.element.name, message⟩ ∈ (generate c markers runtime).2 := by
  obtain ⟨message, hreports⟩ := Candidate.reports_of_taken htaken
  refine ⟨message, mem_reports_of_candidate hx ?_⟩
  rw [hreports]
  exact List.mem_cons_self

/-- Each element of a marker gives an artifact, or an error on the element. -/
theorem generate_element {m : Marker} (hm : m ∈ markers) {e : Element}
    (he : e ∈ elements c m.name) :
    (∃ a ∈ (generate c markers runtime).1, BuiltFrom m e a) ∨
      ∃ message, ⟨.error, e.name, message⟩ ∈ (generate c markers runtime).2 := by
  cases hbuild : build runtime m e with
  | error err => exact .inr ⟨_, mem_reports_of_error hm he hbuild⟩
  | ok a =>
    have hx : (⟨m, e, a⟩ : Candidate) ∈ candidates c runtime markers :=
      mem_candidates.2 ⟨hm, he, hbuild⟩
    obtain ⟨earlier, later, hsplit⟩ := List.append_of_mem hx
    by_cases htaken : Candidate.place ⟨m, e, a⟩ ∈ earlier.map Candidate.place
    · exact .inr (mem_reports_of_taken (mem_withEarlier.2 ⟨later, hsplit⟩) htaken)
    · refine .inl ⟨a, ?_, builtFrom_of_build hbuild⟩
      rw [artifacts_generate]
      exact List.mem_map.2 ⟨_, mem_firstsBy_of_split _ hsplit htaken, rfl⟩

/-- A generation without errors keeps the artifacts of all candidates. -/
theorem artifacts_of_no_error (h : ∀ d ∈ (generate c markers runtime).2, d.isError = false) :
    (generate c markers runtime).1 = (candidates c runtime markers).map Candidate.artifact := by
  rw [artifacts_generate, firstsBy_eq_self]
  rintro ⟨earlier, x⟩ hx htaken
  obtain ⟨message, hmessage⟩ := mem_reports_of_taken hx htaken
  cases h _ hmessage

/-- A generation without errors builds the artifacts of all elements. -/
theorem exists_build_of_no_error (h : ∀ d ∈ (generate c markers runtime).2, d.isError = false)
    {m : Marker} (hm : m ∈ markers) {e : Element} (he : e ∈ elements c m.name) :
    ∃ a, build runtime m e = .ok a := by
  cases hbuild : build runtime m e with
  | error err => cases h _ (mem_reports_of_error hm he hbuild)
  | ok a => exact ⟨a, rfl⟩

/-! ## One artifact for each carrier -/

/-- A marker in use, and a site of a type that carries it. -/
structure Carrier where
  marker : String
  type : TypeDecl
  site : Site
deriving DecidableEq, Repr

/-- The carriers of all markers in use, in the order of markers, then of types, each type before its
methods. -/
def carriers (c : Catalog) : List Carrier :=
  (used c).flatMap fun marker => c.types.flatMap fun t =>
    ((sites t).filter (carries c marker)).map fun s => ⟨marker, t, s⟩

/-- Lists of lists correspond if their parts do. -/
theorem forall₂_flatMap {α β γ : Type} {R : β → γ → Prop} {f : α → List β} {g : α → List γ}
    {l : List α} (h : ∀ x ∈ l, List.Forall₂ R (f x) (g x)) :
    List.Forall₂ R (l.flatMap f) (l.flatMap g) := by
  induction l with
  | nil => exact .nil
  | cons x rest ih =>
    rw [List.flatMap_cons, List.flatMap_cons]
    exact List.rel_append (h x List.mem_cons_self)
      (ih fun y hy => h y (List.mem_cons_of_mem x hy))

/-- What is made of some elements of a list corresponds to what is made of the same elements in
another way. -/
theorem forall₂_filterMap {α β γ : Type} {R : β → γ → Prop} {f : α → Option β} {p : α → Bool}
    {g : α → γ} {l : List α} (hp : ∀ x ∈ l, (f x).isSome = p x)
    (h : ∀ x ∈ l, ∀ b, f x = some b → R b (g x)) :
    List.Forall₂ R (l.filterMap f) ((l.filter p).map g) := by
  induction l with
  | nil => exact .nil
  | cons x rest ih =>
    have hrest := ih (fun y hy => hp y (List.mem_cons_of_mem x hy))
      (fun y hy => h y (List.mem_cons_of_mem x hy))
    have hx := hp x List.mem_cons_self
    cases hfx : f x with
    | none =>
      rw [hfx] at hx
      rw [List.filterMap_cons_none hfx, List.filter_cons_of_neg (by rw [← hx]; simp)]
      exact hrest
    | some b =>
      rw [hfx] at hx
      rw [List.filterMap_cons_some hfx, List.filter_cons_of_pos hx.symm, List.map_cons]
      exact .cons (h x List.mem_cons_self b hfx) hrest

/-- A generation without errors for the markers in use gives one artifact for each carrier. -/
theorem forall₂_generate (hc : c.Made) (hused : markers.map Marker.name = used c)
    (h : ∀ d ∈ (generate c markers runtime).2, d.isError = false) :
    List.Forall₂ (fun a u => ∃ m ∈ markers, m.name = u.marker ∧
        Generates c runtime m u.type u.site a)
      (generate c markers runtime).1 (carriers c) := by
  rw [artifacts_of_no_error h]
  unfold candidates candidatesOf elements carriers
  rw [← hused, List.flatMap_map]
  simp only [List.map_flatMap, List.filterMap_flatMap, List.filterMap_filterMap, List.map_filterMap]
  refine forall₂_flatMap fun m hm => forall₂_flatMap fun t ht => forall₂_filterMap ?_ ?_
  · -- at each carrier there is an element, whose artifact is built
    intro s hs
    have hmem : m.name ∈ used c := by
      rw [← hused]
      exact List.mem_map.2 ⟨m, hm, rfl⟩
    rw [← isSome_elementAt? hc hmem t s]
    cases hat : elementAt? c m.name t s with
    | none => rfl
    | some e =>
      have he : e ∈ elements c m.name :=
        List.mem_flatMap.2 ⟨t, ht, List.mem_filterMap.2 ⟨s, hs, hat⟩⟩
      obtain ⟨a, ha⟩ := exists_build_of_no_error h hm he
      simp [candidate?, ha, Except.toOption]
  · intro s _ a ha
    obtain ⟨x, hx, rfl⟩ := Option.map_eq_some_iff.1 ha
    obtain ⟨e, hat, hcandidate⟩ := Option.bind_eq_some_iff.1 hx
    obtain ⟨rfl, rfl, hbuilt⟩ := candidate?_eq_some.1 hcandidate
    exact ⟨x.marker, hm, rfl, x.element, hat, hbuilt⟩

end ExprGate.Artifact
