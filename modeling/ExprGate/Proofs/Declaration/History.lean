import ExprGate.Proofs.Source.Finishing

/-!
# The history of a catalog

A catalog is what a sequence of operations has made of the empty one. Every operation does two things
to the list of types (`Made.types_apply`): each type is changed or removed on its own, and at the end
there may be a new one. So a type in the catalog goes back to one push, after which it was changed by
the operations that followed (`mem_types_ofOperations`), and the types stand in the order of these
pushes (`exists_places`). The index tells the position of each name, and thus every lookup finds what
the history says (`ofOperations_isRecord`).
-/

set_option autoImplicit false

namespace ExprGate.Declaration

/-- A change of a catalog. -/
inductive Operation where
  | push (t : TypeDecl)
  /-- No two types have one name, so whatever is kept can be told by a condition on the type. -/
  | retain (keep : TypeDecl → Bool)
  | setScope (module : String) (s : Scope)
  | attach (name : String) (ms : List Method)

/-- What an operation makes of a type in the catalog, unless it removes the type. -/
def Operation.revise? (o : Operation) (t : TypeDecl) : Option TypeDecl :=
  match o with
  | .push _ => some t
  | .retain keep => if keep t then some t else none
  | .setScope _ _ => some t
  | .attach name ms => some (if t.name = name then t.withMethods ms else t)

/-- The methods that operations attach to a name. -/
def attached (name : String) (ops : List Operation) : List Method :=
  ops.flatMap fun
    | .attach name' ms => if name = name' then ms else []
    | _ => []

/-- No operation removes a type, with the methods that it has by then. -/
def TypeDecl.IsKept (t : TypeDecl) (ops : List Operation) : Prop :=
  ∀ before keep after, ops = before ++ .retain keep :: after →
    keep (t.withMethods (attached t.name before)) = true

namespace Catalog

/-- Carries an operation out. -/
def apply (c : Catalog) : Operation → Catalog
  | .push t => c.push t
  | .retain keep => c.retain keep
  | .setScope module s => c.setScope module s
  | .attach name ms => c.addMethods name ms

/-- What operations make of the empty catalog. -/
def ofOperations (ops : List Operation) : Catalog :=
  ops.foldl apply {}

/-- A type is what has become of the one that was pushed at a place: then its name was free, and since
then it has been kept and given methods. -/
def ComesFrom (ops : List Operation) (place : Nat) (u : TypeDecl) : Prop :=
  ∃ before t after, ops = before ++ .push t :: after ∧ before.length = place ∧
    (ofOperations before).get? t.name = none ∧ t.IsKept after ∧
    t.withMethods (attached t.name after) = u

/-- A catalog holds what its history says. -/
structure IsRecord (ops : List Operation) (c : Catalog) : Prop where
  distinct : c.names.Nodup
  /-- The index has the names of the types, each with its position. -/
  index : ∀ name i, c.index.lookup name = some i ↔ c.names[i]? = some name
  /-- The types stand in the order in which they were pushed. -/
  ordered : ∃ places, places.Pairwise (· < ·) ∧ List.Forall₂ (ComesFrom ops) places c.types
  /-- What is found for a name is the first type of this name that was pushed and not removed since. -/
  found : ∀ name u, c.get? name = some u ↔ u.name = name ∧ ∃ place, ComesFrom ops place u
  /-- A name that is not there, such as one that was removed, can be pushed. -/
  anew : ∀ t, c.get? t.name = none → (c.push t).get? t.name = some t
  /-- A path that stands for a name stands for the type of this name. -/
  resolved : ∀ module path name, c.resolveName? module path = some name →
    ∃ t, t.name = name ∧ c.resolve? module path = some t

/-! ## One operation -/

variable {c : Catalog}

/-- A catalog stays well made under every operation. -/
theorem Made.apply (h : c.Made) (o : Operation) : (c.apply o).Made := by
  cases o with
  | push t => exact h.push t
  | retain keep => exact h.retain keep
  | setScope module s => exact h.setScope module s
  | attach name ms => exact h.addMethods name ms

/-- The type that an operation adds. -/
def added (c : Catalog) : Operation → List TypeDecl
  | .push t => if c.declares t.name then [] else [t]
  | _ => []

/-- An operation adds one type or none. -/
theorem added_cases (c : Catalog) (o : Operation) : c.added o = [] ∨ ∃ u, c.added o = [u] := by
  unfold added
  split
  · split
    · exact .inl rfl
    · exact .inr ⟨_, rfl⟩
  · exact .inl rfl

/-- An operation changes or removes each type on its own, and may add one at the end. -/
theorem Made.types_apply (h : c.Made) (o : Operation) :
    (c.apply o).types = c.types.filterMap o.revise? ++ c.added o := by
  cases o with
  | push t =>
    have hsame : c.types.filterMap (Operation.push t).revise? = c.types := List.filterMap_some
    rw [hsame]
    apply (types_push c t).trans
    by_cases hdeclares : c.declares t.name = true <;> simp [added, hdeclares]
  | retain keep =>
    have hkeep : (Operation.retain keep).revise? = Option.guard keep := by
      funext t
      simp [Operation.revise?, Option.guard]
    rw [hkeep, List.filterMap_eq_filter]
    simp [added, Catalog.apply, Catalog.retain]
  | setScope module s =>
    have hsame : c.types.filterMap (Operation.setScope module s).revise? = c.types :=
      List.filterMap_some
    rw [hsame]
    simp [added, Catalog.apply, Catalog.setScope]
  | attach name ms =>
    have hmap : c.types.filterMap (Operation.attach name ms).revise? =
        c.types.map fun t => if t.name = name then t.withMethods ms else t := by
      rw [← List.filterMap_eq_map]
      rfl
    rw [hmap]
    simpa [added, Catalog.apply] using h.types_addMethods name ms

/-- Nothing is found for a name exactly if no type has it. -/
theorem Made.get?_eq_none (h : c.Made) {name : String} : c.get? name = none ↔ name ∉ c.names := by
  have hfound : name ∈ c.names ↔ ∃ t, c.get? name = some t := by
    simp only [h.get?_eq_some]
    exact List.mem_map
  rw [hfound, not_exists, Option.eq_none_iff_forall_ne_some]

/-- A type is added by the push of it under a name that is free. -/
theorem Made.mem_added (h : c.Made) {o : Operation} {u : TypeDecl} :
    u ∈ c.added o ↔ o = .push u ∧ c.get? u.name = none := by
  cases o with
  | push t =>
    have hadded : c.added (.push t) = if c.declares t.name then [] else [t] := rfl
    have hfree : c.get? t.name = none ↔ ¬ c.declares t.name = true := by
      rw [h.declares_iff, h.get?_eq_none]
    rw [hadded]
    by_cases hdeclares : c.declares t.name = true
    · have htaken := mt hfree.1 (not_not.2 hdeclares)
      simp only [if_pos hdeclares, List.not_mem_nil, Operation.push.injEq, false_iff, not_and]
      rintro rfl
      exact htaken
    · have hget := hfree.2 hdeclares
      simp only [if_neg hdeclares, List.mem_singleton, Operation.push.injEq]
      constructor
      · rintro rfl
        exact ⟨rfl, hget⟩
      · rintro ⟨rfl, -⟩
        rfl
  | retain keep => simp [added]
  | setScope module s => simp [added]
  | attach name ms => simp [added]

end Catalog

/-! ## Where a type comes from -/

/-- An operation keeps a type unless it leaves it out, and gives it the methods for its name. -/
theorem Operation.revise?_eq_some {o : Operation} {t u : TypeDecl} :
    o.revise? t = some u ↔
      (∀ keep, o = .retain keep → keep t = true) ∧ t.withMethods (attached t.name [o]) = u := by
  cases o with
  | push t' => simp [revise?, attached, TypeDecl.withMethods_nil]
  | retain keep => simp [revise?, attached, TypeDecl.withMethods_nil]
  | setScope module s => simp [revise?, attached, TypeDecl.withMethods_nil]
  | attach name ms =>
    by_cases hname : t.name = name
    · simp [revise?, attached, hname]
    · simp [revise?, attached, hname, TypeDecl.withMethods_nil]

/-- What operations attach to a name is what the first ones attach and then the others. -/
theorem attached_append (name : String) (ops ops' : List Operation) :
    attached name (ops ++ ops') = attached name ops ++ attached name ops' :=
  List.flatMap_append

/-- A type is kept by a further operation if that does not leave it out with the methods it has. -/
theorem TypeDecl.isKept_concat {t : TypeDecl} {ops : List Operation} {o : Operation} :
    t.IsKept (ops ++ [o]) ↔ t.IsKept ops ∧
      ∀ keep, o = .retain keep → keep (t.withMethods (attached t.name ops)) = true := by
  constructor
  · intro h
    refine ⟨?_, ?_⟩
    · rintro before keep after rfl
      exact h before keep (after ++ [o]) (by simp)
    · rintro keep rfl
      exact h ops keep [] rfl
  · rintro ⟨hops, ho⟩ before keep after heq
    obtain rfl | ⟨after, o', rfl⟩ := List.eq_nil_or_concat after
    · obtain ⟨rfl, hlast⟩ := List.append_inj' heq rfl
      exact ho keep (List.singleton_inj.1 hlast)
    · rw [List.concat_eq_append] at heq
      have hfront : ops = before ++ .retain keep :: after := by
        have hcut : ops ++ [o] = (before ++ .retain keep :: after) ++ [o'] := by simpa using heq
        exact (List.append_inj' hcut rfl).1
      exact hops before keep after hfront

namespace Catalog

/-- One operation more is carried out on what the others make. -/
theorem ofOperations_concat (ops : List Operation) (o : Operation) :
    ofOperations (ops ++ [o]) = (ofOperations ops).apply o := by
  unfold ofOperations
  rw [List.foldl_concat]

/-- What operations make of the empty catalog is well made. -/
theorem made_ofOperations (ops : List Operation) : (ofOperations ops).Made := by
  unfold ofOperations
  exact List.foldlRecOn ops _ .empty fun c h o _ => h.apply o

/-- A further operation revises the types that come from earlier ones, or it pushes a new type. -/
theorem comesFrom_concat {ops : List Operation} {o : Operation} {place : Nat} {u : TypeDecl} :
    ComesFrom (ops ++ [o]) place u ↔
      (∃ t, ComesFrom ops place t ∧ o.revise? t = some u) ∨
        place = ops.length ∧ o = .push u ∧ (ofOperations ops).get? u.name = none := by
  constructor
  · rintro ⟨before, t, after, heq, rfl, hfree, hkept, rfl⟩
    obtain rfl | ⟨after, o', rfl⟩ := List.eq_nil_or_concat after
    · obtain ⟨rfl, hlast⟩ := List.append_inj' heq rfl
      right
      refine ⟨rfl, ?_, hfree⟩
      simpa [attached, TypeDecl.withMethods_nil] using hlast
    · left
      rw [List.concat_eq_append] at heq hkept ⊢
      have hcut : ops ++ [o] = (before ++ .push t :: after) ++ [o'] := by simpa using heq
      obtain ⟨rfl, hlast⟩ := List.append_inj' hcut rfl
      obtain rfl := List.singleton_inj.1 hlast
      obtain ⟨hkept, hlast⟩ := TypeDecl.isKept_concat.1 hkept
      refine ⟨_, ⟨before, t, after, rfl, rfl, hfree, hkept, rfl⟩, ?_⟩
      apply Operation.revise?_eq_some.2
      refine ⟨hlast, ?_⟩
      rw [TypeDecl.withMethods_withMethods, attached_append]
      rfl
  · rintro (⟨_, ⟨before, t, after, rfl, rfl, hfree, hkept, rfl⟩, hrevise⟩ | ⟨rfl, rfl, hfree⟩)
    · obtain ⟨hlast, rfl⟩ := Operation.revise?_eq_some.1 hrevise
      refine ⟨before, t, after ++ [o], by simp, rfl, hfree, ?_, ?_⟩
      · exact TypeDecl.isKept_concat.2 ⟨hkept, hlast⟩
      · rw [TypeDecl.withMethods_withMethods, attached_append]
        rfl
    · refine ⟨ops, u, [], rfl, rfl, hfree, ?_, ?_⟩
      · intro before keep after heq
        simp at heq
      · exact TypeDecl.withMethods_nil u

/-- A type comes from a place in the sequence. -/
theorem ComesFrom.lt_length {ops : List Operation} {place : Nat} {u : TypeDecl}
    (h : ComesFrom ops place u) : place < ops.length := by
  obtain ⟨before, t, after, rfl, rfl, -⟩ := h
  simp

/-- The types of a catalog are those that come from its operations. -/
theorem mem_types_ofOperations {ops : List Operation} {u : TypeDecl} :
    u ∈ (ofOperations ops).types ↔ ∃ place, ComesFrom ops place u := by
  induction ops using List.reverseRecOn generalizing u with
  | nil =>
    constructor
    · intro h
      cases h
    · rintro ⟨place, hplace⟩
      cases hplace.lt_length
  | append_singleton ops o ih =>
    have hmade := made_ofOperations ops
    rw [ofOperations_concat, hmade.types_apply, List.mem_append, List.mem_filterMap, hmade.mem_added]
    simp only [comesFrom_concat, ih, exists_or, exists_eq_left]
    apply or_congr_left
    constructor
    · rintro ⟨t, ⟨place, hplace⟩, hrevise⟩
      exact ⟨place, t, hplace, hrevise⟩
    · rintro ⟨place, t, hplace, hrevise⟩
      exact ⟨t, ⟨place, hplace⟩, hrevise⟩

/-! ## The order of the types -/

/-- What is left of related elements is related to a part of the others, in order. -/
theorem exists_sublist_filterMap {α β γ : Type} {R : α → β → Prop} {xs : List α} {ys : List β}
    (h : List.Forall₂ R xs ys) (f : β → Option γ) :
    ∃ xs', xs'.Sublist xs ∧
      List.Forall₂ (fun x z => ∃ y, R x y ∧ f y = some z) xs' (ys.filterMap f) := by
  induction h with
  | nil => exact ⟨[], .refl [], .nil⟩
  | @cons x y xs ys hxy _ ih =>
    obtain ⟨xs', hsub, hall⟩ := ih
    cases hf : f y with
    | none =>
      rw [List.filterMap_cons_none hf]
      exact ⟨xs', hsub.cons x, hall⟩
    | some z =>
      rw [List.filterMap_cons_some hf]
      exact ⟨x :: xs', hsub.cons_cons x, .cons ⟨y, hxy, hf⟩ hall⟩

/-- The types stand in the order of the pushes that they come from. -/
theorem exists_places (ops : List Operation) :
    ∃ places : List Nat, places.Pairwise (· < ·) ∧
      List.Forall₂ (ComesFrom ops) places (ofOperations ops).types := by
  induction ops using List.reverseRecOn with
  | nil => exact ⟨[], .nil, .nil⟩
  | append_singleton ops o ih =>
    obtain ⟨places, hincreasing, hall⟩ := ih
    obtain ⟨left, hleft, hrevised⟩ := exists_sublist_filterMap hall o.revise?
    have hmade := made_ofOperations ops
    have hkept : List.Forall₂ (ComesFrom (ops ++ [o])) left
        ((ofOperations ops).types.filterMap o.revise?) :=
      hrevised.imp fun _ _ hplace => comesFrom_concat.2 (.inl hplace)
    rw [ofOperations_concat, hmade.types_apply]
    obtain hnone | ⟨u, hnew⟩ := (ofOperations ops).added_cases o
    · rw [hnone, List.append_nil]
      exact ⟨left, hincreasing.sublist hleft, hkept⟩
    · -- the place of the new type is behind all others
      have hlast : ComesFrom (ops ++ [o]) ops.length u := by
        apply comesFrom_concat.2
        right
        refine ⟨rfl, hmade.mem_added.1 ?_⟩
        rw [hnew]
        exact List.mem_singleton_self u
      have hbefore : ∀ place ∈ left, place < ops.length := by
        intro place hplace
        obtain ⟨t, -, ht⟩ := exists_of_forall₂ hall (hleft.subset hplace)
        exact ht.lt_length
      rw [hnew]
      refine ⟨left ++ [ops.length], ?_, List.rel_append hkept (.cons hlast .nil)⟩
      apply List.pairwise_append.2
      refine ⟨hincreasing.sublist hleft, List.pairwise_singleton _ _, ?_⟩
      intro place hplace last hmem
      rw [List.mem_singleton.1 hmem]
      exact hbefore place hplace

/-! ## Main result -/

/-- Positions in the index are positions in the list of names. -/
theorem Made.lookup_index {c : Catalog} (h : c.Made) {name : String} {i : Nat} :
    c.index.lookup name = some i ↔ c.names[i]? = some name := by
  have hkeys : (c.index.map Prod.fst).Nodup := by
    rw [h.index_eq, map_fst_positions]
    exact h.nodup_names
  constructor
  · intro hlookup
    rw [names, List.getElem?_map]
    exact h.isIndexed name i hlookup
  · intro hname
    apply lookup_of_mem hkeys
    rw [h.index_eq, positions_eq]
    refine List.mem_of_getElem? (i := i) ?_
    rw [List.getElem?_mapIdx]
    simpa [names] using hname

/-- After any operations a catalog holds what they say: its index and its lookups agree with the list of
types, and the types with the history. -/
theorem ofOperations_isRecord (ops : List Operation) : (ofOperations ops).IsRecord ops := by
  have hmade := made_ofOperations ops
  refine ⟨hmade.nodup_names, fun name i => hmade.lookup_index, exists_places ops, ?found, ?anew,
    ?resolved⟩
  case found =>
    intro name u
    rw [hmade.get?_eq_some, mem_types_ofOperations, and_comm]
  case anew =>
    intro t hfree
    have hadded : t ∈ (ofOperations ops).added (.push t) := hmade.mem_added.2 ⟨rfl, hfree⟩
    have hmem : t ∈ ((ofOperations ops).push t).types := by
      have htypes := hmade.types_apply (.push t)
      rw [Catalog.apply] at htypes
      rw [htypes]
      exact List.mem_append_right _ hadded
    exact (hmade.push t).get?_eq_some.2 ⟨hmem, rfl⟩
  case resolved =>
    intro module path name hname
    obtain ⟨t, ht, rfl⟩ := List.mem_map.1 (hmade.mem_names_of_resolveName? hname)
    refine ⟨t, rfl, hmade.resolve?_eq_some.2 ⟨hname, ?_⟩⟩
    exact hmade.get?_eq_some.2 ⟨ht, rfl⟩

end Catalog

end ExprGate.Declaration
