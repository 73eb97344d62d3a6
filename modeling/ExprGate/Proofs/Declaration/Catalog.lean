import ExprGate.Declaration.Resolution
import ExprGate.Proofs.Table

/-!
# The index of a catalog

A catalog is made by its operations, which keep the index in step with the list of types: where the
index has a name, the list has a type of this name (`Catalog.Made.isIndexed`). So the type that is
found for a name has this name, and a path that stands for a type stands for the name of that type
(`Catalog.Made.resolve?_eq_some`). Each name is that of one type, under which this type is found
(`Catalog.Made.nodup_names`, `Catalog.Made.get?_eq_some`), and a change of the type of a name is a
change of the list at this name (`Catalog.Made.types_modify`).
-/

set_option autoImplicit false

namespace ExprGate.Declaration.Catalog

/-- The catalogs that the operations make. A change of a type does not reach its name, under which
it is found. -/
inductive Made : Catalog → Prop where
  | empty : Made {}
  | push {c : Catalog} (h : Made c) (t : TypeDecl) : Made (c.push t)
  | retain {c : Catalog} (h : Made c) (keep : TypeDecl → Bool) : Made (c.retain keep)
  | setScope {c : Catalog} (h : Made c) (module : String) (s : Scope) : Made (c.setScope module s)
  | modify {c : Catalog} (h : Made c) (name : String) (f : TypeDecl → TypeDecl) :
    Made (c.modify name f)

/-- A catalog of some types is made by adding them. -/
theorem Made.ofTypes (ts : List TypeDecl) : (ofTypes ts).Made := by
  unfold Catalog.ofTypes
  apply List.foldlRecOn
  · exact .empty
  · intro c hc t _
    exact hc.push t

/-- Where the index has a name, the list of types has a type of this name. -/
def IsIndexed (c : Catalog) : Prop :=
  ∀ name i, c.index.lookup name = some i → (c.types[i]?).map TypeDecl.name = some name

variable {c : Catalog}

/-- A new type is found at the end of the list, and the others where they were. -/
theorem IsIndexed.push (h : c.IsIndexed) (t : TypeDecl) : (c.push t).IsIndexed := by
  unfold Catalog.push
  split
  · exact h
  · intro name i hi
    rw [List.lookup_append] at hi
    obtain hold | ⟨-, hnew⟩ := Option.or_eq_some_iff.1 hi
    · have hname := h name i hold
      obtain ⟨u, hu, -⟩ := Option.map_eq_some_iff.1 hname
      obtain ⟨hlt, -⟩ := List.getElem?_eq_some_iff.1 hu
      rw [List.getElem?_append_left hlt]
      exact hname
    · obtain ⟨rfl, rfl⟩ := Prod.mk.inj (List.mem_singleton.1 (mem_of_lookup hnew))
      simp

/-- The index is made anew for the types that are kept. -/
theorem IsIndexed.retain (c : Catalog) (keep : TypeDecl → Bool) : (c.retain keep).IsIndexed := by
  intro name i hi
  obtain ⟨j, hj, heq⟩ := List.mem_mapIdx.1 (mem_of_lookup hi)
  obtain ⟨rfl, rfl⟩ := Prod.mk.inj heq
  have hfound := List.getElem?_eq_getElem hj
  exact (congrArg (Option.map TypeDecl.name) hfound).trans rfl

/-- A type that is changed keeps its name. -/
theorem IsIndexed.modify (h : c.IsIndexed) (name : String) (f : TypeDecl → TypeDecl) :
    (c.modify name f).IsIndexed := by
  unfold Catalog.modify
  split
  · exact h
  · rename_i k _
    intro other i hi
    have hname := h other i hi
    obtain ⟨u, hu, rfl⟩ := Option.map_eq_some_iff.1 hname
    rw [List.getElem?_modify, hu]
    by_cases hk : k = i <;> simp [hk]

/-- The operations keep the index in step with the types. -/
theorem Made.isIndexed (h : c.Made) : c.IsIndexed := by
  induction h with
  | empty =>
    intro name i hi
    cases hi
  | push _ t ih => exact ih.push t
  | retain _ keep _ => exact .retain _ keep
  | setScope _ _ _ ih => exact ih
  | modify _ name f ih => exact ih.modify name f

/-- The type that is found for a name has this name. -/
theorem Made.name_of_get? (h : c.Made) {name : String} {t : TypeDecl}
    (ht : c.get? name = some t) : t.name = name := by
  obtain ⟨i, hi, hfound⟩ := Option.bind_eq_some_iff.1 ht
  have hname := h.isIndexed name i hi
  rw [hfound] at hname
  exact Option.some.inj hname

/-- A path that stands for a type stands for the type's name, under which the type is found. -/
theorem Made.resolve?_eq_some (h : c.Made) {module path : String} {t : TypeDecl} :
    c.resolve? module path = some t ↔
      c.resolveName? module path = some t.name ∧ c.get? t.name = some t := by
  unfold Catalog.resolve?
  constructor
  · intro ht
    obtain ⟨name, hname, hget⟩ := Option.bind_eq_some_iff.1 ht
    obtain rfl := h.name_of_get? hget
    exact ⟨hname, hget⟩
  · rintro ⟨hname, hget⟩
    rw [hname]
    exact hget

/-! ## The types of the names -/

/-- The positions are those of the names. -/
theorem positions_eq (ts : List TypeDecl) :
    positions ts = (ts.map TypeDecl.name).mapIdx fun i name => (name, i) := by
  refine List.ext_getElem? ?_
  intro i
  simp only [positions, List.getElem?_mapIdx, List.getElem?_map, Option.map_map]
  rfl

/-- The index of a list of types has their names. -/
theorem map_fst_positions (ts : List TypeDecl) :
    (positions ts).map Prod.fst = ts.map TypeDecl.name := by
  refine List.ext_getElem? ?_
  intro i
  simp only [positions, List.getElem?_map, List.getElem?_mapIdx, Option.map_map]
  rfl

/-- A change of a type keeps the names. -/
theorem names_modify (c : Catalog) (name : String) (f : TypeDecl → TypeDecl) :
    (c.modify name f).names = c.names := by
  unfold modify names
  split
  · rfl
  · refine List.ext_getElem? ?_
    intro i
    rw [List.getElem?_map, List.getElem?_map, List.getElem?_modify]
    cases c.types[i]? with
    | none => rfl
    | some t =>
      simp only [Option.map_eq_map, Option.map_some]
      split <;> rfl

/-- The index of a catalog is that of its types. -/
theorem Made.index_eq (h : c.Made) : c.index = positions c.types := by
  induction h with
  | empty => rfl
  | push _ t ih =>
    unfold Catalog.push
    split
    · exact ih
    · rw [ih]
      unfold positions
      rw [List.mapIdx_concat]
  | retain _ keep _ => rfl
  | setScope _ _ _ ih => exact ih
  | @modify c _ name f ih =>
    have hnames := names_modify c name f
    unfold names at hnames
    rw [positions_eq, hnames, ← positions_eq, ← ih]
    unfold Catalog.modify
    split <;> rfl

/-- The names that are declared are those of the types. -/
theorem Made.declares_iff (h : c.Made) {name : String} :
    c.declares name = true ↔ name ∈ c.names := by
  unfold declares names
  rw [isSome_lookup, h.index_eq, map_fst_positions]

/-- A path that stands for something stands for the name of a type. -/
theorem Made.mem_names_of_resolveName? (h : c.Made) {module path name : String}
    (hname : c.resolveName? module path = some name) : name ∈ c.names := by
  have hdeclared {path : String} (hpath : c.declared? path = some name) : name ∈ c.names := by
    unfold declared? at hpath
    split at hpath
    · rename_i hdeclares
      obtain rfl := Option.some.inj hpath
      exact h.declares_iff.1 hdeclares
    · cases hpath
  have himported (himport : c.resolveImported? module path = some name) : name ∈ c.names := by
    unfold resolveImported? at himport
    split at himport
    · cases himport
    · obtain ⟨target, -, htarget⟩ := List.exists_of_findSome?_eq_some himport
      exact h.declares_iff.1 (List.find?_some htarget)
  have hnamesake (hunique : c.uniqueNamesake? path = some name) : name ∈ c.names := by
    unfold uniqueNamesake? at hunique
    split at hunique
    · rename_i only honly
      obtain rfl := Option.some.inj hunique
      have hmem : only ∈ c.types.filter (·.simpleName == Text.simpleName path) := by
        rw [honly]
        exact List.mem_singleton_self only
      exact List.mem_map_of_mem (List.mem_filter.1 hmem).1
    · cases hunique
  unfold resolveName? at hname
  split at hname
  · exact hdeclared hname
  · split at hname
    · exact hdeclared hname
    · obtain hfound | ⟨-, hname⟩ := Option.or_eq_some_iff.1 hname
      · exact hdeclared hfound
      · obtain hfound | ⟨-, hname⟩ := Option.or_eq_some_iff.1 hname
        · exact himported hfound
        · obtain hfound | ⟨-, hfound⟩ := Option.or_eq_some_iff.1 hname
          · exact hdeclared hfound
          · exact hnamesake hfound

/-- No two types have the same name. -/
theorem Made.nodup_names (h : c.Made) : c.names.Nodup := by
  induction h with
  | empty => exact .nil
  | @push c h t ih =>
    unfold Catalog.push
    split
    · exact ih
    · rename_i hnew
      rw [h.declares_iff] at hnew
      unfold names at ih hnew ⊢
      rw [List.map_append]
      exact nodup_append_new ih hnew
  | retain _ keep ih => exact ih.sublist (List.filter_sublist.map _)
  | setScope _ _ _ ih => exact ih
  | modify _ name f ih =>
    rw [names_modify]
    exact ih

/-- The type that is found for a name is the one of this name. -/
theorem Made.get?_eq_some (h : c.Made) {name : String} {t : TypeDecl} :
    c.get? name = some t ↔ t ∈ c.types ∧ t.name = name := by
  constructor
  · intro ht
    obtain ⟨i, -, hi⟩ := Option.bind_eq_some_iff.1 ht
    exact ⟨List.mem_of_getElem? hi, h.name_of_get? ht⟩
  · rintro ⟨hmem, rfl⟩
    obtain ⟨i, hi⟩ := List.mem_iff_getElem?.1 hmem
    have hkeys : (c.index.map Prod.fst).Nodup := by
      rw [h.index_eq, map_fst_positions]
      exact h.nodup_names
    have hentry : (t.name, i) ∈ c.index := by
      rw [h.index_eq]
      refine List.mem_of_getElem? (i := i) ?_
      rw [positions, List.getElem?_mapIdx, hi]
      rfl
    unfold get?
    rw [lookup_of_mem hkeys hentry]
    exact hi

/-- A change of the type of a name is a change of the list at this name. -/
theorem Made.types_modify (h : c.Made) (name : String) (f : TypeDecl → TypeDecl) :
    (c.modify name f).types =
      c.types.map fun t => if t.name = name then { f t with name := t.name } else t := by
  unfold Catalog.modify
  cases hlookup : c.index.lookup name with
  | none =>
    have hnone : name ∉ c.names := by
      rw [← h.declares_iff]
      unfold declares
      rw [hlookup]
      simp
    symm
    refine (List.map_congr_left ?_).trans (List.map_id _)
    intro t ht
    refine if_neg ?_
    rintro rfl
    exact hnone (List.mem_map_of_mem ht)
  | some i =>
    have hat := h.isIndexed name i hlookup
    obtain ⟨u, hu, rfl⟩ := Option.map_eq_some_iff.1 hat
    refine List.ext_getElem? ?_
    intro j
    rw [List.getElem?_modify, List.getElem?_map]
    by_cases hj : i = j
    · subst hj
      simp [hu]
    · -- the type at another position has another name
      cases hother : c.types[j]? with
      | none => rfl
      | some t =>
        have hne : t.name ≠ u.name := by
          intro hname
          have hboth : c.names[i]? = c.names[j]? := by
            rw [names, List.getElem?_map, List.getElem?_map, hu, hother]
            exact congrArg some hname.symm
          have hlt : i < c.names.length := by
            obtain ⟨hlt, -⟩ := List.getElem?_eq_some_iff.1 hu
            rwa [names, List.length_map]
          exact hj ((List.getElem?_inj hlt h.nodup_names).1 hboth)
        simp [hj, hne]

end ExprGate.Declaration.Catalog
