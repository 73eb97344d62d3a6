import ExprGate.Marker.Discovery
import ExprGate.Proofs.Declaration.Catalog
import ExprGate.Proofs.Text.Sorted

/-!
# No marker in use is overlooked

A marker that an annotation names is in use (`mem_used`), and every marker in use is either found
with its configuration or reported (`examine_cases`). So a discovery without errors finds exactly the markers in
use (`names_discover`).
-/

set_option autoImplicit false

namespace ExprGate.Marker

open Declaration

variable {c : Catalog}

/-- A marker that an annotation of a site names is in use. -/
theorem mem_used {t : TypeDecl} (ht : t ∈ c.types) {s : Site} (hs : s ∈ sites t) {a : Annotation}
    (ha : a ∈ s.annotations) {m : TypeDecl} (hresolve : c.resolve? s.module a.name = some m)
    (hm : isMarker m = true) : m.name ∈ used c := by
  have hat : m.name ∈ markersAt c m :=
    List.mem_map.2 ⟨m, List.mem_filter.2 ⟨List.mem_cons_self, hm⟩, rfl⟩
  have hsite : m.name ∈ (s.annotations.filterMap fun a => c.resolve? s.module a.name).flatMap
      (markersAt c) :=
    List.mem_flatMap.2 ⟨m, List.mem_filterMap.2 ⟨a, ha, hresolve⟩, hat⟩
  unfold used
  rw [Text.mem_sortedTexts, List.mem_flatMap]
  refine ⟨t, ht, ?_⟩
  unfold markersOf
  rw [Text.mem_sortedTexts, List.mem_flatMap]
  exact ⟨s, hs, hsite⟩

/-- A marker in use is a type that is found under its name, and it carries the annotation that makes
it a marker. -/
theorem get?_of_mem_used (hc : c.Made) {name : String} (h : name ∈ used c) :
    ∃ m, c.get? name = some m ∧ isMarker m = true := by
  unfold used at h
  rw [Text.mem_sortedTexts, List.mem_flatMap] at h
  obtain ⟨t, -, hname⟩ := h
  unfold markersOf at hname
  rw [Text.mem_sortedTexts, List.mem_flatMap] at hname
  obtain ⟨s, -, hname⟩ := hname
  obtain ⟨u, hu, hname⟩ := List.mem_flatMap.1 hname
  obtain ⟨m, hm, rfl⟩ := List.mem_map.1 hname
  obtain ⟨hmem, hmarker⟩ := List.mem_filter.1 hm
  refine ⟨m, ?_, hmarker⟩
  -- the marker is the type of an annotation, or the type of an annotation on that type
  obtain rfl | hmeta := List.mem_cons.1 hmem
  · obtain ⟨a, -, hresolve⟩ := List.mem_filterMap.1 hu
    exact (hc.resolve?_eq_some.1 hresolve).2
  · obtain ⟨a, -, hresolve⟩ := List.mem_filterMap.1 hmeta
    exact (hc.resolve?_eq_some.1 hresolve).2

/-- A marker that is found usable keeps its name. -/
theorem name_of_examine {name : String} {m : Marker} (h : (examine c name).1 = some m) :
    m.name = name := by
  unfold examine at h
  split at h
  · cases h
  · split at h
    · cases h
    · dsimp only at h
      split at h
      · obtain rfl := Option.some.inj h
        rfl
      · cases h

/-- A marker has an annotation that makes it one, and the first of these counts. -/
theorem exists_meta {t : TypeDecl} (h : isMarker t = true) :
    ∃ a, t.annotations.find? isMeta = some a := by
  rw [← Option.isSome_iff_exists, List.find?_isSome]
  exact List.any_eq_true.1 h

/-- A type that can be configured as a marker is a structure with the field for expressions, and its
configuration is that of the annotation. -/
theorem of_configure_eq_ok {t : TypeDecl} {a : Annotation} {d : Descriptor}
    (h : (configure t a).1 = .ok d) :
    t.kind = .struct ∧ t.hasMember d.expressionMember = true ∧
      (Descriptor.ofAnnotation a).1 = .ok d := by
  unfold configure at h
  split at h
  · cases h
  · rename_i hkind
    refine ⟨by simpa using hkind, ?_⟩
    split at h
    · cases h
    · rename_i hset
      split at h
      · rename_i hmember
        obtain rfl := Except.ok.inj h
        exact ⟨hmember, by rw [hset]⟩
      · cases h

/-- A marker is found with its configuration, or the error in its configuration is reported. -/
theorem examine_cases {name : String} {t : TypeDecl} {a : Annotation} (ht : c.get? name = some t)
    (ha : t.annotations.find? isMeta = some a) :
    (∃ d, (configure t a).1 = .ok d ∧
      examine c name = (some ⟨name, d⟩, (configure t a).2.map (unknownMember name))) ∨
    ∃ e, (configure t a).1 = .error e ∧
      examine c name =
        (none, (configure t a).2.map (unknownMember name) ++ [⟨.error, name, e.message⟩]) := by
  unfold examine
  simp only [ht, ha]
  cases (configure t a).1 with
  | ok d => exact .inl ⟨d, rfl, rfl⟩
  | error e => exact .inr ⟨e, rfl, rfl⟩

/-- A type that carries the annotation of markers is found usable, or an error names it. -/
theorem examine_marker {name : String} {t : TypeDecl} (ht : c.get? name = some t)
    (hm : isMarker t = true) :
    (∃ m, (examine c name).1 = some m) ∨
      ∃ message, ⟨.error, name, message⟩ ∈ (examine c name).2 := by
  obtain ⟨a, ha⟩ := exists_meta hm
  obtain ⟨d, -, hexamine⟩ | ⟨e, -, hexamine⟩ := examine_cases ht ha
  · exact .inl ⟨_, by rw [hexamine]⟩
  · refine .inr ⟨e.message, ?_⟩
    rw [hexamine]
    exact List.mem_append_right _ List.mem_cons_self

/-- What is reported about a marker names it. -/
theorem element_of_mem_examine {name : String} {report : Diagnostic}
    (h : report ∈ (examine c name).2) : report.element = name := by
  unfold examine at h
  split at h
  · cases h
  · split at h
    · cases h
    · dsimp only at h
      split at h
      · obtain ⟨key, -, rfl⟩ := List.mem_map.1 h
        rfl
      · obtain h | h := List.mem_append.1 h
        · obtain ⟨key, -, rfl⟩ := List.mem_map.1 h
          rfl
        · obtain rfl := List.mem_singleton.1 h
          rfl

/-- What is discovered are markers in use. -/
theorem mem_used_of_mem_discover {m : Marker} (h : m ∈ (discover c).1) : m.name ∈ used c := by
  obtain ⟨result, hresult, hm⟩ := List.mem_filterMap.1 h
  obtain ⟨name, hname, rfl⟩ := List.mem_map.1 hresult
  rw [name_of_examine hm]
  exact hname

/-- A marker in use is discovered, or an error names it. -/
theorem discover_used (hc : c.Made) {name : String} (h : name ∈ used c) :
    (∃ m ∈ (discover c).1, m.name = name) ∨
      ∃ message, ⟨.error, name, message⟩ ∈ (discover c).2 := by
  obtain ⟨t, ht, hm⟩ := get?_of_mem_used hc h
  have hresult : examine c name ∈ (used c).map (examine c) := List.mem_map.2 ⟨name, h, rfl⟩
  obtain ⟨m, hexamine⟩ | ⟨message, hmessage⟩ := examine_marker ht hm
  · exact .inl ⟨m, List.mem_filterMap.2 ⟨_, hresult, hexamine⟩, name_of_examine hexamine⟩
  · exact .inr ⟨message, List.mem_flatMap.2 ⟨_, hresult, hmessage⟩⟩

/-- A discovery without errors finds the markers in use, in their order. -/
theorem names_discover (hc : c.Made) (h : ∀ d ∈ (discover c).2, d.isError = false) :
    (discover c).1.map Marker.name = used c := by
  have hfound : ∀ name ∈ used c, ((examine c name).1.map Marker.name) = some name := by
    intro name hname
    obtain ⟨t, ht, hm⟩ := get?_of_mem_used hc hname
    obtain ⟨m, hexamine⟩ | ⟨message, hmessage⟩ := examine_marker ht hm
    · rw [hexamine, Option.map_some, name_of_examine hexamine]
    · -- the error about it would be among the reports
      have herror := h _ (List.mem_flatMap.2 ⟨_, List.mem_map.2 ⟨name, hname, rfl⟩, hmessage⟩)
      cases herror
  unfold discover
  dsimp only
  rw [List.filterMap_map, List.map_filterMap]
  calc
    (used c).filterMap (fun name => (examine c name).1.map Marker.name)
        = (used c).filterMap some := List.filterMap_congr hfound
    _ = used c := List.filterMap_some

end ExprGate.Marker
