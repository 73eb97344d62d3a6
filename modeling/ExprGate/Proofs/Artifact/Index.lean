import Mathlib.Data.List.Nodup
import ExprGate.Artifact.Index
import ExprGate.Proofs.Artifact.Generation
import ExprGate.Proofs.Text.Sorted

/-!
# Looking into the index

The module tree is read with `Module.inclusion?`, which follows a package and looks for the name of
a type there. Including a file changes what is found at its own place and nowhere else, so each
entry's file is found at the place of its artifact if no other entry has that place
(`inclusion?_ofEntries`). The registrations are the names and paths of the entries in another order
(`registrations_perm`), which does not depend on the order of the entries
(`registrations_eq_of_perm`).
-/

set_option autoImplicit false

namespace ExprGate.Artifact

open Text Files

/-! ## The module tree -/

/-- The file that is included under the name of a type in the module of a package. -/
def Module.inclusion? (ident : String) : List String → Module → Option Inclusion
  | [], .mk inclusions _ => inclusions.lookup ident
  | segment :: package, .mk _ children =>
    (children.lookup segment).bind (Module.inclusion? ident package)

/-- Nothing is included in the empty tree. -/
theorem Module.inclusion?_empty (ident : String) (package : List String) :
    Module.empty.inclusion? ident package = none := by
  cases package <;> rfl

/-- A child that is looked into where there is none contains nothing. -/
theorem Module.inclusion?_getD (child? : Option Module) (ident : String) (package : List String) :
    (child?.getD .empty).inclusion? ident package =
      child?.bind (Module.inclusion? ident package) := by
  cases child? with
  | none => exact Module.inclusion?_empty ident package
  | some child => rfl

/-- An included file is found at its place. -/
theorem Module.inclusion?_insert_self (ident : String) (i : Inclusion) (package : List String)
    (tree : Module) : (tree.insert ident i package).inclusion? ident package = some i := by
  induction package generalizing tree with
  | nil =>
    obtain ⟨inclusions, children⟩ := tree
    exact lookup_insertEntry_self ident i inclusions
  | cons segment package ih =>
    obtain ⟨inclusions, children⟩ := tree
    unfold Module.insert Module.inclusion?
    rw [lookup_insertEntry_self]
    exact ih _

/-- Including a file changes nothing at another place. -/
theorem Module.inclusion?_insert_of_ne {ident other : String} (i : Inclusion)
    {package package' : List String} (tree : Module)
    (hne : (package', other) ≠ (package, ident)) :
    (tree.insert ident i package).inclusion? other package' =
      tree.inclusion? other package' := by
  induction package generalizing tree package' with
  | nil =>
    obtain ⟨inclusions, children⟩ := tree
    cases package' with
    | nil =>
      have hother : other ≠ ident := by
        rintro rfl
        exact hne rfl
      exact lookup_insertEntry_of_ne i inclusions hother
    | cons segment' package' => rfl
  | cons segment package ih =>
    obtain ⟨inclusions, children⟩ := tree
    cases package' with
    | nil => rfl
    | cons segment' package' =>
      unfold Module.insert Module.inclusion?
      by_cases hsegment : segment' = segment
      · subst hsegment
        have hrest : (package', other) ≠ (package, ident) := by
          rintro heq
          cases heq
          exact hne rfl
        rw [lookup_insertEntry_self, Option.bind_some, ih _ hrest, Module.inclusion?_getD]
      · rw [lookup_insertEntry_of_ne _ _ hsegment]

/-- The place of an entry in the tree. -/
def Entry.place (e : Entry) : List String × String :=
  (e.artifact.packageSegments, e.artifact.ident)

/-- What an entry includes. -/
def Entry.inclusion (e : Entry) : Inclusion :=
  ⟨e.artifact.moduleName, e.file⟩

/-- Entries of generated artifacts are at different places. -/
theorem nodup_place_of_sublist {c : Declaration.Catalog} {markers : List Marker} {runtime : String}
    {entries : List Entry}
    (h : (entries.map Entry.artifact).Sublist (generate c markers runtime).1) :
    (entries.map Entry.place).Nodup := by
  have hplaces := List.pairwise_map.1 ((nodup_places_generate c markers runtime).sublist (h.map _))
  refine List.pairwise_map.2 ((List.pairwise_map.1 hplaces).imp_of_mem ?_)
  intro x y hx hy hne heq
  obtain ⟨m, e, hbuilt⟩ := exists_builtFrom (h.mem (List.mem_map_of_mem hx))
  obtain ⟨m', e', hbuilt'⟩ := exists_builtFrom (h.mem (List.mem_map_of_mem hy))
  obtain ⟨hsegments, hident⟩ := Prod.mk.inj heq
  exact hne (Prod.ext (hbuilt.package_eq hbuilt' hsegments) hident)

/-- Entries at other places change nothing at a place. -/
theorem Module.inclusion?_foldl_of_ne {entries : List Entry} {package : List String}
    {ident : String} (tree : Module) (h : ∀ e ∈ entries, e.place ≠ (package, ident)) :
    (entries.foldl (fun tree e =>
      tree.insert e.artifact.ident e.inclusion e.artifact.packageSegments) tree).inclusion?
        ident package = tree.inclusion? ident package := by
  induction entries generalizing tree with
  | nil => rfl
  | cons e rest ih =>
    rw [List.foldl_cons, ih _ fun x hx => h x (List.mem_cons_of_mem _ hx)]
    exact Module.inclusion?_insert_of_ne e.inclusion tree (Ne.symm (h e List.mem_cons_self))

/-- Where no two entries have the same place, each one's file is found at its place. -/
theorem inclusion?_ofEntries {entries : List Entry} (hplaces : (entries.map Entry.place).Nodup)
    {e : Entry} (he : e ∈ entries) :
    (Module.ofEntries entries).inclusion? e.artifact.ident e.artifact.packageSegments =
      some e.inclusion := by
  have hall (tree : Module) : (entries.foldl (fun tree e =>
      tree.insert e.artifact.ident e.inclusion e.artifact.packageSegments) tree).inclusion?
        e.artifact.ident e.artifact.packageSegments = some e.inclusion := by
    induction entries generalizing tree with
    | nil => cases he
    | cons x rest ih =>
      obtain ⟨hhead, hrest⟩ := List.nodup_cons.1 hplaces
      obtain rfl | he := List.mem_cons.1 he
      · rw [List.foldl_cons, Module.inclusion?_foldl_of_ne]
        · exact Module.inclusion?_insert_self _ _ _ _
        · intro y hy heq
          exact hhead (List.mem_map.2 ⟨y, hy, heq⟩)
      · exact ih hrest he _
  exact hall .empty

/-! ## Registrations -/

/-- The registrations are those of the entries, in another order. -/
theorem registrations_perm (entries : List Entry) :
    (registrations entries).Perm
      (entries.map fun e => (e.artifact.qualifiedName, e.artifact.typePath)) :=
  List.mergeSort_perm _ _

/-- The registered names are those of the artifacts. -/
theorem mem_registered_iff {entries : List Entry} {name : String} :
    name ∈ (registrations entries).map Prod.fst ↔
      ∃ e ∈ entries, e.artifact.qualifiedName = name := by
  rw [((registrations_perm entries).map Prod.fst).mem_iff, List.map_map, List.mem_map]
  rfl

/-- A name of one artifact only is registered once. -/
theorem count_registered {entries : List Entry}
    (hnames : (entries.map fun e => e.artifact.qualifiedName).Nodup) {e : Entry}
    (he : e ∈ entries) :
    ((registrations entries).map Prod.fst).count e.artifact.qualifiedName = 1 := by
  rw [((registrations_perm entries).map Prod.fst).count_eq, List.map_map]
  exact List.count_eq_one_of_mem hnames (List.mem_map.2 ⟨e, he, rfl⟩)

/-- An entry is registered with the path of its type. -/
theorem mem_registrations {entries : List Entry} {e : Entry} (he : e ∈ entries) :
    (e.artifact.qualifiedName, e.artifact.typePath) ∈ registrations entries :=
  (registrations_perm entries).mem_iff.2 (List.mem_map.2 ⟨e, he, rfl⟩)

/-- Whether a registration comes before another one, or is the same. -/
def registersFirst (a b : String × String) : Bool :=
  a.1 < b.1 || (a.1 == b.1 && a.2 ≤ b.2)

/-- A registration comes before another one by its name, or by its path if the names are equal. -/
theorem registersFirst_iff {a b : String × String} :
    registersFirst a b = true ↔ a.1 < b.1 ∨ a.1 = b.1 ∧ a.2 ≤ b.2 := by
  simp [registersFirst]

/-- The registrations do not depend on the order of the entries. -/
theorem registrations_eq_of_perm {entries entries' : List Entry} (h : entries.Perm entries') :
    registrations entries = registrations entries' := by
  have htrans : ∀ a b c, registersFirst a b = true → registersFirst b c = true →
      registersFirst a c = true := by
    intro a b c hab hbc
    rw [registersFirst_iff] at hab hbc ⊢
    obtain hab | ⟨hab, hab'⟩ := hab
    all_goals obtain hbc | ⟨hbc, hbc'⟩ := hbc
    · exact .inl (hab.trans hbc)
    · exact .inl (hbc ▸ hab)
    · exact .inl (hab ▸ hbc)
    · exact .inr ⟨hab.trans hbc, hab'.trans hbc'⟩
  have htotal : ∀ a b, (registersFirst a b || registersFirst b a) = true := by
    intro a b
    rw [Bool.or_eq_true, registersFirst_iff, registersFirst_iff]
    obtain hlt | heq | hgt := lt_trichotomy a.1 b.1
    · exact .inl (.inl hlt)
    · exact (le_total a.2 b.2).imp (fun hle => .inr ⟨heq, hle⟩) fun hle => .inr ⟨heq.symm, hle⟩
    · exact .inr (.inl hgt)
  have hantisymm : ∀ a b, registersFirst a b = true → registersFirst b a = true → a = b := by
    intro a b hab hba
    rw [registersFirst_iff] at hab hba
    obtain hab | ⟨hab, hab'⟩ := hab
    · obtain hba | ⟨hba, -⟩ := hba
      · exact absurd hba hab.not_gt
      · exact absurd hba.symm hab.ne
    · obtain hba | ⟨-, hba'⟩ := hba
      · exact absurd hab.symm hba.ne
      · exact Prod.ext hab (le_antisymm hab' hba')
  have hperm : (registrations entries).Perm (registrations entries') :=
    (registrations_perm entries).trans ((h.map _).trans (registrations_perm entries').symm)
  exact hperm.eq_of_pairwise (fun a b _ _ => hantisymm a b)
    (List.pairwise_mergeSort htrans htotal _) (List.pairwise_mergeSort htrans htotal _)

/-- The path of a type is its name below the package. -/
theorem BuiltFrom.typePath_eq {m : Marker} {e : Element} {a : Artifact} (h : BuiltFrom m e a) :
    a.typePath = qualify a.package a.ident := by
  unfold typePath qualify
  obtain ⟨hpackage, hsegments⟩ | ⟨hpackage, hsegments⟩ :=
    packageSegments_cases h.badSegment?_eq_none
  · rw [hpackage, hsegments]
    simp [joinSegments]
  · have hempty : a.package.isEmpty = false := by
      simpa [String.isEmpty_iff] using hpackage
    rw [hsegments, joinSegments_concat (segments_ne_nil _), joinSegments_segments, hempty]
    simp

end ExprGate.Artifact
