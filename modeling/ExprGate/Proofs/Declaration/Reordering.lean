import Mathlib.Data.List.Perm.Basic
import ExprGate.Proofs.Declaration.Catalog

/-!
# Catalogs in another order

What a path stands for depends on the names that are declared and on the imports of its module, and
not on the order of declarations: even a simple name stands for a type only if no other type has it
(`SameNames.resolveName?_eq`). A catalog is a reordering of another one if both have the same types,
in any order and each with its methods in any order. Then the same paths stand for the same names
(`Reordered.sameNames`), and what is collected over all types is the same up to its order
(`Reordered.flatMap_perm`).
-/

set_option autoImplicit false

namespace ExprGate.Declaration

open Text

/-! ## What a path stands for -/

/-- The only element of a list. -/
def only? {α : Type} : List α → Option α
  | [x] => some x
  | _ => none

/-- The only element of a list does not depend on the order. -/
theorem only?_eq_of_perm {α : Type} {l l' : List α} (h : l.Perm l') : only? l = only? l' := by
  match l with
  | [] => rw [h.nil_eq]
  | [x] => rw [h.singleton_eq]
  | x :: y :: rest =>
    match l', h.length_eq with
    | _ :: _ :: _, _ => rfl

namespace Catalog

variable {c c' : Catalog}

/-- A simple name stands for the only declared name that ends with it. -/
theorem uniqueNamesake?_eq (c : Catalog) (path : String) :
    c.uniqueNamesake? path = only? (c.names.filter (simpleName · == simpleName path)) := by
  unfold uniqueNamesake? names
  rw [List.filter_map]
  change _ = only? ((c.types.filter (·.simpleName == simpleName path)).map TypeDecl.name)
  generalize c.types.filter (·.simpleName == simpleName path) = found
  match found with
  | [] => rfl
  | [_] => rfl
  | _ :: _ :: _ => rfl

/-- Catalogs with the same names, and with the same imports in each module. -/
structure SameNames (c c' : Catalog) : Prop where
  names : c.names.Perm c'.names
  declares : ∀ name, c.declares name = c'.declares name
  scopes : ∀ module, c.scopes.lookup module = c'.scopes.lookup module

/-- Well made catalogs with the same names in any order, and with the same imports, have the same
names. -/
theorem SameNames.of_perm (hc : c.Made) (hc' : c'.Made) (hnames : c.names.Perm c'.names)
    (hscopes : ∀ module, c.scopes.lookup module = c'.scopes.lookup module) :
    c.SameNames c' where
  names := hnames
  declares name := by rw [Bool.eq_iff_iff, hc.declares_iff, hc'.declares_iff, hnames.mem_iff]
  scopes := hscopes

/-- A catalog has its own names. -/
theorem SameNames.refl (c : Catalog) : c.SameNames c :=
  ⟨.refl _, fun _ => rfl, fun _ => rfl⟩

/-- Catalogs with the same names as a third one have the same names. -/
theorem SameNames.trans {c'' : Catalog} (h : c.SameNames c') (h' : c'.SameNames c'') :
    c.SameNames c'' where
  names := h.names.trans h'.names
  declares name := (h.declares name).trans (h'.declares name)
  scopes module := (h.scopes module).trans (h'.scopes module)

/-- A path stands for the same name in both. -/
theorem SameNames.resolveName?_eq (h : c.SameNames c') (module path : String) :
    c.resolveName? module path = c'.resolveName? module path := by
  have hdeclares : c.declares = c'.declares := funext h.declares
  have hnamesake : c.uniqueNamesake? path = c'.uniqueNamesake? path := by
    rw [uniqueNamesake?_eq, uniqueNamesake?_eq]
    exact only?_eq_of_perm (h.names.filter _)
  have himport : c.resolveImport? module = c'.resolveImport? module := by
    funext target
    unfold resolveImport?
    rw [hdeclares]
  have himported : c.resolveImported? module path = c'.resolveImported? module path := by
    unfold resolveImported?
    rw [h.scopes, himport]
  unfold resolveName? declared?
  rw [hdeclares, hnamesake, himported]

end Catalog

/-! ## Reorderings -/

/-- An element of a list has a counterpart in a list that corresponds to it. -/
theorem exists_of_forall₂ {α β : Type} {R : α → β → Prop} {l : List α} {l' : List β}
    (h : List.Forall₂ R l l') {x : α} (hx : x ∈ l) : ∃ y ∈ l', R x y := by
  induction h with
  | nil => cases hx
  | cons hhead _ ih =>
    obtain rfl | hx := List.mem_cons.1 hx
    · exact ⟨_, List.mem_cons_self, hhead⟩
    · obtain ⟨y, hy, hrest⟩ := ih hx
      exact ⟨y, List.mem_cons_of_mem _ hy, hrest⟩

/-- Types that differ at most in the order of their methods. -/
structure TypeDecl.Alike (t t' : TypeDecl) : Prop where
  name : t.name = t'.name
  kind : t.kind = t'.kind
  annotations : t.annotations = t'.annotations
  members : t.members = t'.members
  methods : t.methods.Perm t'.methods

namespace Catalog

variable {c c' : Catalog}

/-- Catalogs with the same types, up to the order of types and of the methods in each, and with the
same imports in each module. -/
structure Reordered (c c' : Catalog) : Prop where
  made : c.Made
  made' : c'.Made
  types : ∃ ts, List.Forall₂ TypeDecl.Alike c.types ts ∧ ts.Perm c'.types
  scopes : ∀ module, c.scopes.lookup module = c'.scopes.lookup module

/-- What is collected over all types is the same up to its order. -/
theorem Reordered.flatMap_perm {β : Type} (h : c.Reordered c') {f f' : TypeDecl → List β}
    (hf : ∀ t t', t.Alike t' → (f t).Perm (f' t')) :
    (c.types.flatMap f).Perm (c'.types.flatMap f') := by
  have hparts {ts us : List TypeDecl} (halike : List.Forall₂ TypeDecl.Alike ts us) :
      (ts.flatMap f).Perm (us.flatMap f') := by
    induction halike with
    | nil => exact .refl _
    | cons hhead _ ih =>
      rw [List.flatMap_cons, List.flatMap_cons]
      exact (hf _ _ hhead).append ih
  obtain ⟨ts, halike, hperm⟩ := h.types
  exact (hparts halike).trans (hperm.flatMap_right f')

/-- Reordered catalogs have the same names and imports. -/
theorem Reordered.sameNames (h : c.Reordered c') : c.SameNames c' := by
  have hnames : c.names.Perm c'.names := by
    have hall : (c.types.flatMap fun t => [t.name]).Perm (c'.types.flatMap fun t => [t.name]) :=
      h.flatMap_perm fun t t' halike => by rw [halike.name]
    rwa [← List.map_eq_flatMap, ← List.map_eq_flatMap] at hall
  exact .of_perm h.made h.made' hnames h.scopes

end Catalog

end ExprGate.Declaration
