import ExprGate.Proofs.Artifact.MarkersInUse

/-!
# Generation from declarations in another order

The markers in use are found by looking at all types, and they are put in order, so a reordering of
the catalog gives the same markers with the same reports (`discover_eq_of_reordered`). The elements of
a marker are found in the order of the types and their methods. Where two candidates have the same
place, this order decides; but a generation in which this happens reports an error, and whether there
are errors does not depend on the order (`generate_quiet_iff`). So a generation without errors gives
the same artifacts in whatever order the declarations are (`generate_reordered`).
-/

set_option autoImplicit false

namespace ExprGate.Marker

open Declaration

variable {c c' : Catalog}

/-! ## Markers in use -/

/-- Alike types have the same places, up to the order. -/
theorem sites_perm {t t' : TypeDecl} (h : t.Alike t') : (sites t).Perm (sites t') := by
  unfold sites TypeDecl.module
  rw [h.name, h.annotations]
  exact (h.methods.map _).cons _

/-- A reordering adds no usages. -/
theorem rearranged_of_reordered (h : c.Reordered c') : Rearranged c c' := by
  obtain ⟨ts, halike, hperm⟩ := h.types
  refine ⟨h.made, h.made', h.scopes, ts, halike.imp ?_, hperm⟩
  intro t t' halike
  refine ⟨halike.name, halike.kind, ?_, by rw [halike.annotations], ?_, t.methods, [], ?_, ?_, nofun⟩
  · intro field
    unfold TypeDecl.hasMember
    rw [halike.members]
  · rw [halike.annotations]
    exact .refl ..
  · exact List.forall₂_same.2 fun m _ => ⟨rfl, .refl ..⟩
  · rw [List.append_nil]
    exact halike.methods.symm

/-- Discovery gives the same markers and the same reports in a reordering. -/
theorem discover_eq_of_reordered (h : c.Reordered c') : discover c = discover c' :=
  (rearranged_of_reordered h).discover_eq.symm

end ExprGate.Marker

namespace ExprGate.Artifact

open Declaration Marker

variable {c c' : Catalog}

/-! ## Elements and candidates -/

/-- In reordered catalogs, alike types are the same elements of a marker. -/
theorem elementAt?_eq_of_reordered (h : c.Reordered c') (marker : String) {t t' : TypeDecl}
    (halike : t.Alike t') : elementAt? c marker t = elementAt? c' marker t' := by
  funext s
  unfold elementAt?
  simp only [h.sameNames.resolveName?_eq, halike.name]

/-- A marker has the same elements in a reordering, in any order. -/
theorem elements_perm (h : c.Reordered c') (marker : String) :
    (elements c marker).Perm (elements c' marker) := by
  unfold elements
  refine h.flatMap_perm ?_
  intro t t' halike
  rw [elementAt?_eq_of_reordered h marker halike]
  exact (sites_perm halike).filterMap _

/-- The candidates are the same, in any order. -/
theorem candidates_perm (h : c.Reordered c') (runtime : String) (markers : List Marker) :
    (candidates c runtime markers).Perm (candidates c' runtime markers) :=
  .flatMap_left _ fun m _ => (elements_perm h m.name).filterMap _

/-! ## Generations without errors -/

variable {markers : List Marker} {runtime : String}

/-- What is reported about repeated usages is reported by the generation. -/
theorem mem_reports_of_repetition {m : Marker} (hm : m ∈ markers) {e : Element}
    (he : e ∈ elements c m.name) {d : Diagnostic} (hd : d ∈ e.repetition m.name) :
    d ∈ (generate c markers runtime).2 := by
  obtain ⟨before, after, hmarkers⟩ := List.append_of_mem hm
  rw [reports_generate]
  refine List.mem_flatMap.2 ⟨(before, m), mem_withEarlier.2 ⟨after, hmarkers⟩, ?_⟩
  exact List.mem_append_left _ (List.mem_flatMap.2 ⟨e, he, hd⟩)

/-- The note about a method of a trait is no error. -/
theorem isError_of_mem_traitNote {e : Element} {a : Artifact} {d : Diagnostic}
    (hd : d ∈ Generated.traitNote e a) : d.isError = false := by
  unfold Generated.traitNote at hd
  split at hd
  · obtain rfl := List.mem_singleton.1 hd
    rfl
  · cases hd

/-- An element of a marker that comes after others gives its candidate after theirs. -/
theorem candidates_of_split {before after : List Marker} {m : Marker} {es rest : List Element}
    {e : Element} {a : Artifact} (helements : elements c m.name = es ++ e :: rest)
    (hbuild : build runtime m e = .ok a) :
    candidates c runtime (before ++ m :: after) =
      (candidates c runtime before ++ candidatesOf runtime m es) ++ ⟨m, e, a⟩ ::
        (candidatesOf runtime m rest ++ candidates c runtime after) := by
  have hcandidate : candidate? runtime m e = some ⟨m, e, a⟩ := candidate?_eq_some.2 ⟨rfl, rfl, hbuild⟩
  unfold candidates
  rw [List.flatMap_append, List.flatMap_cons, helements, candidatesOf, List.filterMap_append,
    List.filterMap_cons_some hcandidate]
  simp only [candidatesOf, List.append_assoc, List.cons_append]

/-- A generation reports no error exactly if no marker is used twice at one site, the artifact of
each element can be built, and all candidates have different places. -/
theorem generate_quiet_iff :
    (∀ d ∈ (generate c markers runtime).2, d.isError = false) ↔
      (∀ m ∈ markers, ∀ e ∈ elements c m.name, e.usages ≤ 1 ∧ ∃ a, build runtime m e = .ok a) ∧
        ((candidates c runtime markers).map Candidate.place).Nodup := by
  constructor
  · intro h
    refine ⟨?_, ?_⟩
    · intro m hm e he
      refine ⟨?_, exists_build_of_no_error h hm he⟩
      by_contra hmany
      have hreport : e.repetition m.name = [_] := if_neg hmany
      cases h _ (mem_reports_of_repetition hm he (by rw [hreport]; exact List.mem_cons_self))
    · have hplaces := nodup_places_generate c markers runtime
      rw [artifacts_of_no_error h, List.map_map] at hplaces
      exact hplaces
  · rintro ⟨helements, hplaces⟩ d hd
    have hbuilt := (records_generate c markers runtime).1.built
    rw [reports_generate] at hd
    obtain ⟨⟨before, m⟩, hmarker, hreport⟩ := List.mem_flatMap.1 hd
    obtain ⟨after, rfl⟩ := mem_withEarlier.1 hmarker
    have hm : m ∈ before ++ m :: after := by simp
    obtain hreport | hreport := List.mem_append.1 hreport
    · obtain ⟨e, he, hreport⟩ := List.mem_flatMap.1 hreport
      rw [Element.repetition, if_pos (helements m hm e he).1] at hreport
      cases hreport
    · obtain ⟨⟨es, e⟩, he, hreport⟩ := List.mem_flatMap.1 hreport
      obtain ⟨rest, hsplit⟩ := mem_withEarlier.1 he
      obtain ⟨a, hbuild⟩ := (helements m hm e (by rw [hsplit]; simp)).2
      rw [candidates_of_split hsplit hbuild] at hplaces hbuilt
      rw [List.map_append, List.map_cons] at hplaces
      -- the place of the candidate is new, so there is at most a note about it
      have hnew := List.disjoint_of_nodup_append hplaces
      have hnote := Candidate.reports_of_new (x := ⟨m, e, a⟩) hbuild
        (fun y hy => hbuilt y (List.mem_append_left _ hy)) fun hmem => hnew hmem List.mem_cons_self
      simp only [reportsOn, hbuild, hnote] at hreport
      exact isError_of_mem_traitNote hreport

/-- A generation without errors has none in a reordering either, and gives the same artifacts, in any
order. -/
theorem generate_reordered (h : c.Reordered c')
    (hquiet : ∀ d ∈ (generate c markers runtime).2, d.isError = false) :
    (∀ d ∈ (generate c' markers runtime).2, d.isError = false) ∧
      (generate c markers runtime).1.Perm (generate c' markers runtime).1 := by
  have hcandidates := candidates_perm h runtime markers
  have hquiet' : ∀ d ∈ (generate c' markers runtime).2, d.isError = false := by
    obtain ⟨helements, hplaces⟩ := generate_quiet_iff.1 hquiet
    refine generate_quiet_iff.2 ⟨?_, (hcandidates.map _).nodup_iff.1 hplaces⟩
    intro m hm e he
    exact helements m hm e ((elements_perm h m.name).mem_iff.2 he)
  refine ⟨hquiet', ?_⟩
  rw [artifacts_of_no_error hquiet, artifacts_of_no_error hquiet']
  exact hcandidates.map _

end ExprGate.Artifact
