import ExprGate.Proofs.Artifact.Coverage
import ExprGate.Proofs.Declaration.Reordering

/-!
# Which markers are in use

Discovery looks for markers at the types of all annotations, and one level further, at the types of the
annotations on these. The further level finds nothing new: the annotations on a type are visited again
where the type itself is looked at (`mem_used_iff_carries`). So the markers in use are exactly those that
have elements.

Each of them is either found usable or reported by one error (`errorsOn_discover`). Neither the order of
declarations nor the number of usages plays a part in this, so discovery finds and reports the same when
declarations or annotations are reordered and markers are used more often
(`Rearranged.discover_eq`).
-/

set_option autoImplicit false

namespace ExprGate.Marker

open Declaration Artifact

variable {c c' : Catalog}

/-! ## Markers in use and elements -/

/-- The markers at a type are the type itself and the types of its annotations, if they are
markers. -/
theorem mem_markersAt {t : TypeDecl} {name : String} :
    name ∈ markersAt c t ↔ ∃ m, (m = t ∨ ∃ a ∈ t.annotations, c.resolve? t.module a.name = some m) ∧
      isMarker m = true ∧ m.name = name := by
  simp only [markersAt, List.mem_map, List.mem_filter, List.mem_cons, List.mem_filterMap, and_assoc]

/-- The markers in use are those at the types of all annotations. -/
theorem mem_used_iff {name : String} :
    name ∈ used c ↔ ∃ t ∈ c.types, ∃ s ∈ sites t, ∃ a ∈ s.annotations, ∃ u,
      c.resolve? s.module a.name = some u ∧ name ∈ markersAt c u := by
  simp only [used, markersOf, Text.mem_sortedTexts, List.mem_flatMap, List.mem_filterMap]
  constructor
  · rintro ⟨t, ht, s, hs, u, ⟨a, ha, hu⟩, hname⟩
    exact ⟨t, ht, s, hs, a, ha, u, hu, hname⟩
  · rintro ⟨t, ht, s, hs, a, ha, u, hu, hname⟩
    exact ⟨t, ht, s, hs, u, ⟨a, ha, hu⟩, hname⟩

/-- An annotation, of a type or of a method, stands for a name. -/
def Carries (c : Catalog) (name : String) : Prop :=
  ∃ t ∈ c.types, ∃ s ∈ sites t, ∃ a ∈ s.annotations, c.resolveName? s.module a.name = some name

/-- A place is no element of a marker just if none of its annotations stands for the marker. -/
theorem elementAt?_eq_none_iff {name : String} {t : TypeDecl} {s : Site} :
    elementAt? c name t s = none ↔
      ∀ a ∈ s.annotations, c.resolveName? s.module a.name ≠ some name := by
  unfold elementAt?
  split
  · rename_i hnone
    simpa using hnone
  · rename_i usage more hsome
    have husage : usage ∈ s.annotations.filter fun a => c.resolveName? s.module a.name == some name := by
      rw [hsome]
      exact List.mem_cons_self
    obtain ⟨hmem, hresolves⟩ := List.mem_filter.1 husage
    exact ⟨nofun, fun hfree => absurd (eq_of_beq hresolves) (hfree usage hmem)⟩

/-- A name has elements exactly if an annotation stands for it. -/
theorem elements_ne_nil_iff {name : String} : elements c name ≠ [] ↔ Carries c name := by
  unfold elements Carries
  simp only [Ne, List.flatMap_eq_nil_iff, List.filterMap_eq_nil_iff, elementAt?_eq_none_iff,
    not_forall, exists_prop, not_not]

/-- The markers in use are the markers that an annotation stands for. Those at the annotations of
annotated types add nothing. -/
theorem mem_used_iff_carries (hc : c.Made) {name : String} :
    name ∈ used c ↔ (∃ t ∈ c.types, t.name = name ∧ isMarker t = true) ∧ Carries c name := by
  constructor
  · intro h
    obtain ⟨m, hget, hmarker⟩ := get?_of_mem_used hc h
    obtain ⟨hmem, rfl⟩ := hc.get?_eq_some.1 hget
    refine ⟨⟨m, hmem, rfl, hmarker⟩, ?_⟩
    obtain ⟨t, ht, s, hs, a, ha, u, hu, hat⟩ := mem_used_iff.1 h
    obtain ⟨m', hat, -, hname⟩ := mem_markersAt.1 hat
    obtain ⟨hresolve, hgetu⟩ := hc.resolve?_eq_some.1 hu
    obtain rfl | ⟨b, hb, hresolve'⟩ := hat
    · exact ⟨t, ht, s, hs, a, ha, hname ▸ hresolve⟩
    · -- the annotated type is itself declared, so its annotations are those of a site
      have hsite : (⟨none, u.module, u.annotations⟩ : Site) ∈ sites u := List.mem_cons_self
      refine ⟨u, (hc.get?_eq_some.1 hgetu).1, _, hsite, b, hb, ?_⟩
      rw [← hname]
      exact (hc.resolve?_eq_some.1 hresolve').1
  · rintro ⟨⟨m, hm, rfl, hmarker⟩, t, ht, s, hs, a, ha, hresolve⟩
    have hget := hc.get?_eq_some.2 ⟨hm, rfl⟩
    exact mem_used ht hs ha (hc.resolve?_eq_some.2 ⟨hresolve, hget⟩) hmarker

/-! ## One answer for each marker in use -/

/-- A marker in use is examined by its first annotation that makes it a marker. -/
theorem examine_of_mem_used (hc : c.Made) {name : String} (h : name ∈ used c) :
    ∃ t ∈ c.types, t.name = name ∧ ∃ a,
      (∃ d, (configure t a).1 = .ok d ∧
        examine c name = (some ⟨name, d⟩, (configure t a).2.map (unknownMember name))) ∨
      ∃ e, (configure t a).1 = .error e ∧
        examine c name =
          (none, (configure t a).2.map (unknownMember name) ++ [⟨.error, name, e.message⟩]) := by
  obtain ⟨t, hget, hmarker⟩ := get?_of_mem_used hc h
  obtain ⟨hmem, hname⟩ := hc.get?_eq_some.1 hget
  obtain ⟨a, ha⟩ := exists_meta hmarker
  exact ⟨t, hmem, hname, a, examine_cases hget ha⟩

/-- The errors among some reports that are about a name. -/
def errorsOn (ds : List Diagnostic) (name : String) : List Diagnostic :=
  ds.filter fun d => d.isError && d.element == name

/-- The errors about a name are those among the first reports and those among the others. -/
theorem errorsOn_append (ds ds' : List Diagnostic) (name : String) :
    errorsOn (ds ++ ds') name = errorsOn ds name ++ errorsOn ds' name :=
  List.filter_append ..

/-- A member that is no setting is no error. -/
theorem errorsOn_unknownMember (marker name : String) (keys : List String) :
    errorsOn (keys.map (unknownMember marker)) name = [] := by
  refine List.filter_eq_nil_iff.2 ?_
  intro d hd
  obtain ⟨key, -, rfl⟩ := List.mem_map.1 hd
  exact Bool.false_ne_true

/-- Whoever is examined under another name, there is no error about this one. -/
theorem errorsOn_flatMap_examine_of_not_mem {names : List String} {name : String}
    (h : name ∉ names) : errorsOn (names.flatMap fun n => (examine c n).2) name = [] := by
  refine List.filter_eq_nil_iff.2 ?_
  intro d hd
  obtain ⟨other, hother, hd⟩ := List.mem_flatMap.1 hd
  rw [element_of_mem_examine hd]
  have hne : (other == name) = false := beq_false_of_ne fun heq => h (heq ▸ hother)
  rw [hne, Bool.and_false]
  exact Bool.false_ne_true

/-- No marker in use is listed twice. -/
theorem nodup_used (c : Catalog) : (used c).Nodup :=
  (Text.pairwise_sortedTexts _).imp ne_of_lt

/-- The errors about a marker in use are those of its own examination. -/
theorem errorsOn_discover {name : String} (h : name ∈ used c) :
    errorsOn (discover c).2 name = errorsOn (examine c name).2 name := by
  obtain ⟨before, after, hsplit⟩ := List.append_of_mem h
  have hnodup := nodup_used c
  rw [hsplit] at hnodup
  have hbefore : name ∉ before := fun hmem =>
    List.disjoint_of_nodup_append hnodup hmem List.mem_cons_self
  have hafter : name ∉ after := (List.nodup_cons.1 hnodup.of_append_right).1
  unfold discover
  dsimp only
  rw [List.flatMap_map, hsplit, List.flatMap_append, List.flatMap_cons, errorsOn_append,
    errorsOn_append, errorsOn_flatMap_examine_of_not_mem hbefore,
    errorsOn_flatMap_examine_of_not_mem hafter, List.nil_append, List.append_nil]

/-- What is discovered under the name of a marker in use comes from its own examination. -/
theorem examine_of_mem_discover {m : Marker} (h : m ∈ (discover c).1) :
    (examine c m.name).1 = some m := by
  obtain ⟨result, hresult, hm⟩ := List.mem_filterMap.1 h
  obtain ⟨name, -, rfl⟩ := List.mem_map.1 hresult
  rwa [← name_of_examine hm] at hm

/-- The markers that are discovered are in the order of the markers in use. -/
theorem sublist_names_discover (c : Catalog) :
    ((discover c).1.map Marker.name).Sublist (used c) := by
  unfold discover
  dsimp only
  rw [List.filterMap_map, List.map_filterMap]
  induction used c with
  | nil => exact .slnil
  | cons name rest ih =>
    cases hexamine : (examine c name).1 with
    | none =>
      rw [List.filterMap_cons_none (by simp [hexamine])]
      exact ih.cons name
    | some m =>
      rw [List.filterMap_cons_some (b := name) (by simp [hexamine, name_of_examine hexamine])]
      exact ih.cons_cons name

/-! ## Rearranged declarations -/

/-- Annotations in any order, and with them further ones of which each stands for a marker in use. -/
def AddsUsages (c : Catalog) (module : String) (as as' : List Annotation) : Prop :=
  ∃ more, as'.Perm (as ++ more) ∧
    ∀ a ∈ more, ∃ marker ∈ used c, c.resolveName? module a.name = some marker

/-- A method with further usages of markers. -/
def MethodUsesMore (c : Catalog) (m m' : Method) : Prop :=
  m.module = m'.module ∧ AddsUsages c m.module m.annotations m'.annotations

/-- A type with further usages of markers, by itself, by its methods and by methods that it has in
addition. The annotations that can make it a marker stay the same, in their order. -/
structure TypeUsesMore (c : Catalog) (t t' : TypeDecl) : Prop where
  name : t.name = t'.name
  kind : t.kind = t'.kind
  members : ∀ field, t.hasMember field = t'.hasMember field
  metas : t.annotations.filter isMeta = t'.annotations.filter isMeta
  annotations : AddsUsages c t.module t.annotations t'.annotations
  methods : ∃ ms more, List.Forall₂ (MethodUsesMore c) t.methods ms ∧ t'.methods.Perm (ms ++ more) ∧
    ∀ m ∈ more, AddsUsages c m.module [] m.annotations

/-- Catalogs with the same types and imports, in which the order of types, methods and annotations may
differ, and in the second of which markers may be used more often. -/
structure Rearranged (c c' : Catalog) : Prop where
  made : c.Made
  made' : c'.Made
  scopes : ∀ module, c.scopes.lookup module = c'.scopes.lookup module
  types : ∃ ts, List.Forall₂ (TypeUsesMore c) c.types ts ∧ ts.Perm c'.types

/-- Annotations that are added stand for markers in use. -/
theorem AddsUsages.of_mem {module : String} {as as' : List Annotation}
    (h : AddsUsages c module as as') {a : Annotation} (ha : a ∈ as') :
    a ∈ as ∨ ∃ marker ∈ used c, c.resolveName? module a.name = some marker := by
  obtain ⟨more, hperm, hmore⟩ := h
  exact (List.mem_append.1 (hperm.mem_iff.1 ha)).imp_right (hmore a)

/-- Annotations with none in addition are the same. -/
theorem AddsUsages.refl (module : String) (as : List Annotation) : AddsUsages c module as as :=
  ⟨[], by rw [List.append_nil], nofun⟩

/-- Annotations are kept when usages are added. -/
theorem AddsUsages.mem {module : String} {as as' : List Annotation}
    (h : AddsUsages c module as as') {a : Annotation} (ha : a ∈ as) : a ∈ as' := by
  obtain ⟨more, hperm, -⟩ := h
  exact hperm.mem_iff.2 (List.mem_append_left _ ha)

namespace TypeUsesMore

variable {t t' : TypeDecl}

/-- The type stays in its module. -/
theorem module_eq (h : TypeUsesMore c t t') : t.module = t'.module := by
  unfold TypeDecl.module
  rw [h.name]

/-- The annotation that makes the type a marker stays the first one. -/
theorem find?_isMeta (h : TypeUsesMore c t t') :
    t.annotations.find? isMeta = t'.annotations.find? isMeta := by
  rw [← List.head?_filter, ← List.head?_filter, h.metas]

/-- The type stays a marker, or none. -/
theorem isMarker_eq (h : TypeUsesMore c t t') : isMarker t = isMarker t' := by
  rw [Bool.eq_iff_iff]
  unfold isMarker
  rw [List.any_eq_true, List.any_eq_true, ← List.find?_isSome, ← List.find?_isSome, h.find?_isMeta]

/-- An annotation configures a marker as it did before. -/
theorem configure_eq (h : TypeUsesMore c t t') (a : Annotation) : configure t a = configure t' a := by
  unfold configure
  simp only [h.kind, h.members]

/-- Each site is there, with at least its annotations. -/
theorem exists_site (h : TypeUsesMore c t t') {s : Site} (hs : s ∈ sites t) :
    ∃ s' ∈ sites t', s.module = s'.module ∧ AddsUsages c s.module s.annotations s'.annotations := by
  obtain rfl | hs := List.mem_cons.1 hs
  · exact ⟨_, List.mem_cons_self, h.module_eq, h.annotations⟩
  · obtain ⟨m, hm, rfl⟩ := List.mem_map.1 hs
    obtain ⟨ms, more, hmethods, hperm, -⟩ := h.methods
    obtain ⟨m', hm', hmodule, hadds⟩ := exists_of_forall₂ hmethods hm
    refine ⟨_, List.mem_cons_of_mem _ (List.mem_map.2 ⟨m', ?_, rfl⟩), hmodule, hadds⟩
    exact hperm.mem_iff.2 (List.mem_append_left _ hm')

/-- Each annotation was there before, at a site in the same module, or it stands for a marker in use. -/
theorem of_mem_site (h : TypeUsesMore c t t') {s' : Site} (hs : s' ∈ sites t') {a : Annotation}
    (ha : a ∈ s'.annotations) :
    (∃ s ∈ sites t, s.module = s'.module ∧ a ∈ s.annotations) ∨
      ∃ marker ∈ used c, c.resolveName? s'.module a.name = some marker := by
  obtain rfl | hs := List.mem_cons.1 hs
  · obtain hold | hnew := h.annotations.of_mem ha
    · exact .inl ⟨_, List.mem_cons_self, h.module_eq, hold⟩
    · exact .inr (h.module_eq ▸ hnew)
  · obtain ⟨m', hm', rfl⟩ := List.mem_map.1 hs
    obtain ⟨ms, more, hmethods, hperm, hmore⟩ := h.methods
    obtain hm' | hm' := List.mem_append.1 (hperm.mem_iff.1 hm')
    · obtain ⟨m, hm, hmodule, hadds⟩ := exists_of_forall₂ hmethods.flip hm'
      obtain hold | hnew := hadds.of_mem ha
      · exact .inl ⟨_, List.mem_cons_of_mem _ (List.mem_map.2 ⟨m, hm, rfl⟩), hmodule, hold⟩
      · exact .inr (hmodule ▸ hnew)
    · exact .inr (((hmore m' hm').of_mem ha).resolve_left List.not_mem_nil)

end TypeUsesMore

namespace Rearranged

/-- Each type is still there, and may use more markers. -/
theorem exists_type (h : Rearranged c c') {t : TypeDecl} (ht : t ∈ c.types) :
    ∃ t' ∈ c'.types, TypeUsesMore c t t' := by
  obtain ⟨ts, hmore, hperm⟩ := h.types
  obtain ⟨t', ht', hsame⟩ := exists_of_forall₂ hmore ht
  exact ⟨t', hperm.mem_iff.1 ht', hsame⟩

/-- Each type was there before, and may have used fewer markers. -/
theorem exists_type' (h : Rearranged c c') {t' : TypeDecl} (ht : t' ∈ c'.types) :
    ∃ t ∈ c.types, TypeUsesMore c t t' := by
  obtain ⟨ts, hmore, hperm⟩ := h.types
  exact exists_of_forall₂ hmore.flip (hperm.mem_iff.2 ht)

/-- Rearranged catalogs have the same names and imports. -/
theorem sameNames (h : Rearranged c c') : c.SameNames c' := by
  have hnames : ∀ {ts us : List TypeDecl}, List.Forall₂ (TypeUsesMore c) ts us →
      ts.map TypeDecl.name = us.map TypeDecl.name := by
    intro ts us hmore
    induction hmore with
    | nil => rfl
    | cons hhead _ ih => rw [List.map_cons, List.map_cons, hhead.name, ih]
  obtain ⟨ts, hmore, hperm⟩ := h.types
  refine .of_perm h.made h.made' ?_ h.scopes
  unfold Catalog.names
  rw [hnames hmore]
  exact hperm.map _

/-- The same markers are in use. -/
theorem mem_used_iff (h : Rearranged c c') {name : String} : name ∈ used c' ↔ name ∈ used c := by
  have hresolve := h.sameNames.resolveName?_eq
  rw [mem_used_iff_carries h.made, mem_used_iff_carries h.made']
  constructor
  · rintro ⟨⟨m', hm', rfl, hmarker⟩, t', ht', s', hs', a, ha, hstands⟩
    rw [← hresolve] at hstands
    obtain ⟨m, hm, hsame⟩ := h.exists_type' hm'
    refine ⟨⟨m, hm, hsame.name, hsame.isMarker_eq.trans hmarker⟩, ?_⟩
    obtain ⟨t, ht, hmore⟩ := h.exists_type' ht'
    obtain ⟨s, hs, hmodule, hold⟩ | ⟨marker, hused, hnew⟩ := hmore.of_mem_site hs' ha
    · exact ⟨t, ht, s, hs, a, hold, hmodule ▸ hstands⟩
    · -- the added annotation stands for a marker that is carried anyway
      obtain rfl := Option.some.inj (hnew.symm.trans hstands)
      exact ((mem_used_iff_carries h.made).1 hused).2
  · rintro ⟨⟨m, hm, rfl, hmarker⟩, t, ht, s, hs, a, ha, hstands⟩
    rw [hresolve] at hstands
    obtain ⟨m', hm', hsame⟩ := h.exists_type hm
    obtain ⟨t', ht', hmore⟩ := h.exists_type ht
    obtain ⟨s', hs', hmodule, hadds⟩ := hmore.exists_site hs
    exact ⟨⟨m', hm', hsame.name.symm, hsame.isMarker_eq.symm.trans hmarker⟩, t', ht', s', hs', a,
      hadds.mem ha, hmodule ▸ hstands⟩

/-- A name is examined with the same outcome. -/
theorem examine_eq (h : Rearranged c c') (name : String) : examine c name = examine c' name := by
  unfold examine
  cases hget : c.get? name with
  | none =>
    cases hget' : c'.get? name with
    | none => rfl
    | some t' =>
      obtain ⟨ht', rfl⟩ := h.made'.get?_eq_some.1 hget'
      obtain ⟨t, ht, hsame⟩ := h.exists_type' ht'
      rw [← hsame.name, h.made.get?_eq_some.2 ⟨ht, rfl⟩] at hget
      cases hget
  | some t =>
    obtain ⟨ht, rfl⟩ := h.made.get?_eq_some.1 hget
    obtain ⟨t', ht', hsame⟩ := h.exists_type ht
    rw [h.made'.get?_eq_some.2 ⟨ht', hsame.name.symm⟩]
    simp only [hsame.find?_isMeta, hsame.configure_eq]

/-- Discovery finds and reports the same. -/
theorem discover_eq (h : Rearranged c c') : discover c' = discover c := by
  have hused : used c' = used c :=
    (Text.pairwise_sortedTexts _).eq_of_mem_iff (Text.pairwise_sortedTexts _) fun _ => h.mem_used_iff
  unfold discover
  rw [hused, funext h.examine_eq]

end Rearranged

/-! ## Main results -/

/-- Discovery answers each marker in use once, whatever the order of declarations. -/
structure Partitions (c : Catalog) : Prop where
  /-- The markers in use are the markers that have elements. -/
  used_iff : ∀ name, name ∈ used c ↔
    (∃ t ∈ c.types, t.name = name ∧ isMarker t = true) ∧ elements c name ≠ []
  /-- Each one is found and no error is about it, or it is not found and one error is about it. -/
  answered : ∀ name ∈ used c,
    (∃ m ∈ (discover c).1, m.name = name) ∧ errorsOn (discover c).2 name = [] ∨
      (∀ m ∈ (discover c).1, m.name ≠ name) ∧
        ∃ message, errorsOn (discover c).2 name = [⟨.error, name, message⟩]
  /-- Nothing else is found or reported. -/
  inUse : (∀ m ∈ (discover c).1, m.name ∈ used c) ∧ ∀ d ∈ (discover c).2, d.element ∈ used c
  /-- The markers that are found are in the strict order of their names. -/
  sorted : ((discover c).1.map Marker.name).Pairwise (· < ·)
  /-- They are structures with the field for expressions. -/
  struct : ∀ m ∈ (discover c).1, ∃ t ∈ c.types, t.name = m.name ∧ t.kind = .struct ∧
    t.hasMember m.descriptor.expressionMember = true
  /-- Another order of declarations and annotations makes no difference, nor do further usages. -/
  rearranged : ∀ c', Rearranged c c' → discover c' = discover c

/-- Discovery answers each marker in use once. -/
theorem discover_partitions (hc : c.Made) : Partitions c := by
  refine ⟨?used_iff, ?answered, ?inUse, ?sorted, ?struct, ?rearranged⟩
  case used_iff =>
    intro name
    rw [elements_ne_nil_iff]
    exact mem_used_iff_carries hc
  case answered =>
    intro name hname
    rw [errorsOn_discover hname]
    obtain ⟨t, -, -, a, ⟨d, -, hexamine⟩ | ⟨e, -, hexamine⟩⟩ := examine_of_mem_used hc hname
    · refine .inl ⟨⟨⟨name, d⟩, ?_, rfl⟩, ?_⟩
      · exact List.mem_filterMap.2 ⟨_, List.mem_map.2 ⟨name, hname, rfl⟩, by rw [hexamine]⟩
      · rw [hexamine]
        exact errorsOn_unknownMember name name _
    · refine .inr ⟨?_, e.message, ?_⟩
      · rintro m hm rfl
        have hfound := examine_of_mem_discover hm
        rw [hexamine] at hfound
        cases hfound
      · rw [hexamine, errorsOn_append, errorsOn_unknownMember]
        simp [errorsOn, Diagnostic.isError]
  case inUse =>
    refine ⟨fun m hm => mem_used_of_mem_discover hm, ?_⟩
    intro d hd
    obtain ⟨result, hresult, hd⟩ := List.mem_flatMap.1 hd
    obtain ⟨name, hname, rfl⟩ := List.mem_map.1 hresult
    rwa [element_of_mem_examine hd]
  case sorted => exact (Text.pairwise_sortedTexts _).sublist (sublist_names_discover c)
  case struct =>
    intro m hm
    have hexamine := examine_of_mem_discover hm
    obtain ⟨t, ht, hname, a, ⟨d, hd, heq⟩ | ⟨e, -, heq⟩⟩ :=
      examine_of_mem_used hc (mem_used_of_mem_discover hm)
    · rw [heq] at hexamine
      refine ⟨t, ht, hname, ?_⟩
      rw [← Option.some.inj hexamine]
      obtain ⟨hkind, hmember, -⟩ := of_configure_eq_ok hd
      exact ⟨hkind, hmember⟩
    · rw [heq] at hexamine
      cases hexamine
  case rearranged => exact fun c' h => h.discover_eq

/-- A marker. -/
def accessType : TypeDecl :=
  { name := "app::Access", annotations := [⟨metaName, []⟩], members := ["value"] }

/-- A type that uses the marker a number of times. -/
def ordersType (usages : Nat) : TypeDecl :=
  { name := "app::Orders", annotations := List.replicate usages ⟨"Access", []⟩ }

/-- The marker is in use and found, also if the types change places and the marker is used twice. -/
theorem discover_partitions_access :
    let c := Catalog.ofTypes [accessType, ordersType 1]
    let c' := Catalog.ofTypes [ordersType 2, accessType]
    c.Made ∧ Partitions c ∧ Rearranged c c' ∧ discover c' = ([⟨"app::Access", {}⟩], []) := by
  have hmade := Catalog.Made.ofTypes [accessType, ordersType 1]
  have hpartitions := discover_partitions hmade
  have hused : used (.ofTypes [accessType, ordersType 1]) = ["app::Access"] := by decide
  have hadds : AddsUsages (.ofTypes [accessType, ordersType 1]) "app" (ordersType 1).annotations
      (ordersType 2).annotations := by
    refine ⟨[⟨"Access", []⟩], .refl _, ?_⟩
    intro a ha
    obtain rfl := List.mem_singleton.1 ha
    exact ⟨"app::Access", by rw [hused]; exact List.mem_cons_self, by decide⟩
  have hrearranged : Rearranged (.ofTypes [accessType, ordersType 1])
      (.ofTypes [ordersType 2, accessType]) := by
    refine ⟨hmade, .ofTypes _, fun _ => rfl, [accessType, ordersType 2], ?_, .swap ..⟩
    refine .cons ?_ (.cons ?_ .nil)
    · exact ⟨rfl, rfl, fun _ => rfl, rfl, AddsUsages.refl .., [], [], .nil, .refl _, nofun⟩
    · exact ⟨rfl, rfl, fun _ => rfl, by decide, hadds, [], [], .nil, .refl _, nofun⟩
  refine ⟨hmade, hpartitions, hrearranged, ?_⟩
  rw [hpartitions.rearranged _ hrearranged]
  decide

end ExprGate.Marker
