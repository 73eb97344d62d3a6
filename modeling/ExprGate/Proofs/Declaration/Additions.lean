import ExprGate.Proofs.Declaration.Catalog
import ExprGate.Proofs.FirstOccurrence

/-!
# Adding several declarations

Of types that are added one after another the first of each name is kept (`Made.foldl_push`), and of
imports that are recorded for a module the last that import something (`lookup_recordScopes`). The
two do not interfere, so all types can be added before all imports are recorded
(`foldl_push_recordScopes`).
-/

set_option autoImplicit false

namespace ExprGate.Declaration.Catalog

/-! ## Types -/

/-- A type is put behind the others, unless its name is taken. -/
theorem types_push (c : Catalog) (t : TypeDecl) :
    (c.push t).types = if c.declares t.name then c.types else c.types ++ [t] := by
  unfold push
  split <;> rfl

/-- Declaring a type changes no imports. -/
theorem scopes_push (c : Catalog) (t : TypeDecl) : (c.push t).scopes = c.scopes := by
  unfold push
  split <;> rfl

/-- Of each name the first type is kept. -/
theorem Made.foldl_push {c : Catalog} (h : c.Made) {seen : List TypeDecl}
    (htypes : c.types = firstsBy TypeDecl.name seen) (ts : List TypeDecl) :
    (ts.foldl Catalog.push c).Made ∧
      (ts.foldl Catalog.push c).types = firstsBy TypeDecl.name (seen ++ ts) ∧
      (ts.foldl Catalog.push c).scopes = c.scopes := by
  induction ts using List.reverseRecOn with
  | nil =>
    rw [List.append_nil]
    exact ⟨h, htypes, rfl⟩
  | append_singleton ts t ih =>
    obtain ⟨hmade, hfirsts, hscopes⟩ := ih
    have hdeclares : (ts.foldl Catalog.push c).declares t.name = true ↔
        t.name ∈ (seen ++ ts).map TypeDecl.name := by
      rw [hmade.declares_iff, names, hfirsts, mem_map_firstsBy]
    rw [List.foldl_concat, ← List.append_assoc, firstsBy_concat]
    refine ⟨hmade.push t, ?_, (scopes_push _ t).trans hscopes⟩
    rw [types_push, hfirsts]
    by_cases htaken : t.name ∈ (seen ++ ts).map TypeDecl.name
    · rw [if_pos (hdeclares.2 htaken), if_pos htaken]
    · rw [if_neg (mt hdeclares.1 htaken), if_neg htaken]

/-- The names of types that are refused when types are added one after another. -/
def refused (c : Catalog) : List TypeDecl → List String
  | [] => []
  | t :: ts => (if c.declares t.name then [t.name] else []) ++ refused (c.push t) ts

/-- Of types in two parts, the second ones are refused as they are after the first ones. -/
theorem refused_append (c : Catalog) (ts us : List TypeDecl) :
    c.refused (ts ++ us) = c.refused ts ++ (ts.foldl push c).refused us := by
  induction ts generalizing c with
  | nil => rfl
  | cons t ts ih => rw [List.cons_append, refused, refused, ih, List.append_assoc, List.foldl_cons]

/-! ## Imports -/

/-- Records the imports of a module in a table if it has some. -/
def recordScope (table : List (String × Scope)) (x : String × Scope) : List (String × Scope) :=
  if x.2.isEmpty then table else x :: table.filter (·.1 != x.1)

/-- Records the imports of modules that have some. -/
def recordScopes (c : Catalog) (scopes : List (String × Scope)) : Catalog :=
  { c with scopes := scopes.foldl recordScope c.scopes }

/-- A catalog stays well made when imports are recorded. -/
theorem Made.recordScopes {c : Catalog} (h : c.Made) (scopes : List (String × Scope)) :
    (c.recordScopes scopes).Made := by
  unfold Catalog.recordScopes
  refine List.foldlRecOn (motive := fun table => Made { c with scopes := table }) scopes _ h ?_
  intro table htable x _
  unfold recordScope
  split
  · exact htable
  · exact htable.setScope x.1 x.2

/-- Imports are recorded one part after another. -/
theorem recordScopes_append (c : Catalog) (scopes scopes' : List (String × Scope)) :
    c.recordScopes (scopes ++ scopes') = (c.recordScopes scopes).recordScopes scopes' := by
  unfold recordScopes
  rw [List.foldl_append]

/-- The imports that are recorded last are found, and else those from before. -/
theorem lookup_recordScopes (c : Catalog) (scopes : List (String × Scope)) (module : String) :
    (c.recordScopes scopes).scopes.lookup module =
      ((scopes.reverse.filter (!·.2.isEmpty)).lookup module).or (c.scopes.lookup module) := by
  induction scopes using List.reverseRecOn with
  | nil => rfl
  | append_singleton scopes x ih =>
    obtain ⟨other, s⟩ := x
    rw [recordScopes_append, List.reverse_concat]
    unfold recordScopes at ih ⊢
    rw [List.foldl_cons, List.foldl_nil, recordScope]
    by_cases hempty : s.isEmpty = true
    · rw [if_pos hempty, List.filter_cons_of_neg (by simp [hempty])]
      exact ih
    · rw [if_neg hempty, List.filter_cons_of_pos (by simp [hempty]), List.lookup_cons,
        List.lookup_cons]
      by_cases hmodule : module = other
      · simp [hmodule]
      · rw [beq_false_of_ne hmodule, lookup_filter_of_ne hmodule]
        exact ih

/-- A type can be declared before imports are recorded or after. -/
theorem push_recordScopes (c : Catalog) (scopes : List (String × Scope)) (t : TypeDecl) :
    (c.recordScopes scopes).push t = (c.push t).recordScopes scopes := by
  have hdeclares : (c.recordScopes scopes).declares t.name = c.declares t.name := rfl
  unfold push
  rw [hdeclares]
  split <;> rfl

/-- Types can be declared before imports are recorded or after. -/
theorem foldl_push_recordScopes (c : Catalog) (scopes : List (String × Scope))
    (ts : List TypeDecl) :
    ts.foldl push (c.recordScopes scopes) = (ts.foldl push c).recordScopes scopes := by
  induction ts generalizing c with
  | nil => rfl
  | cons t ts ih => rw [List.foldl_cons, List.foldl_cons, push_recordScopes, ih]

/-- Imports make no difference to which types are refused. -/
theorem refused_recordScopes (c : Catalog) (scopes : List (String × Scope)) (ts : List TypeDecl) :
    (c.recordScopes scopes).refused ts = c.refused ts := by
  induction ts generalizing c with
  | nil => rfl
  | cons t ts ih =>
    have hdeclares : (c.recordScopes scopes).declares t.name = c.declares t.name := rfl
    rw [refused, refused, hdeclares, push_recordScopes, ih]

end ExprGate.Declaration.Catalog
