import ExprGate.Proofs.Declaration.Reordering
import ExprGate.Proofs.Source.Reading

/-!
# Finishing a collection

At the end of a crate, what belongs to tests is left out and the methods of each block are attached to
the type that its path stands for. Attaching changes no name, so the paths of all blocks stand for what
they stand for before, and each type gets the methods of its own blocks (`types_foldl_attach`).

What is finished does not depend on the order in which files are read, as long as no module and no
type is declared twice: it is the same catalog up to its order (`reordered_finish`).
-/

set_option autoImplicit false

namespace ExprGate.Declaration

/-- A type with further methods. -/
def TypeDecl.withMethods (t : TypeDecl) (ms : List Method) : TypeDecl :=
  { t with methods := t.methods ++ ms }

/-- Methods are added one part after another. -/
theorem TypeDecl.withMethods_withMethods (t : TypeDecl) (ms ms' : List Method) :
    (t.withMethods ms).withMethods ms' = t.withMethods (ms ++ ms') := by
  unfold withMethods
  rw [List.append_assoc]

/-- Without further methods a type is as before. -/
theorem TypeDecl.withMethods_nil (t : TypeDecl) : t.withMethods [] = t := by
  unfold withMethods
  rw [List.append_nil]

/-- A type is alike in whatever order methods are added. -/
theorem TypeDecl.alike_withMethods (t : TypeDecl) {ms ms' : List Method} (h : ms.Perm ms') :
    (t.withMethods ms).Alike (t.withMethods ms') :=
  ⟨rfl, rfl, rfl, rfl, h.append_left _⟩

namespace Catalog

/-- Adds methods to the type of a name. -/
def addMethods (c : Catalog) (name : String) (ms : List Method) : Catalog :=
  ms.foldl (fun c m => c.addMethod name m) c

variable {c : Catalog}

/-- A catalog stays well made when a type gets methods. -/
theorem Made.addMethods (h : c.Made) (name : String) (ms : List Method) :
    (c.addMethods name ms).Made := by
  unfold Catalog.addMethods
  exact List.foldlRecOn ms _ h fun c h m _ => h.modify name _

/-- Methods change no imports. -/
theorem scopes_addMethods (c : Catalog) (name : String) (ms : List Method) :
    (c.addMethods name ms).scopes = c.scopes := by
  unfold Catalog.addMethods
  refine List.foldlRecOn (motive := fun d : Catalog => d.scopes = c.scopes) ms _ rfl ?_
  intro d hd m _
  unfold addMethod modify
  split
  · exact hd
  · exact hd

/-- Methods change no names. -/
theorem names_addMethods (c : Catalog) (name : String) (ms : List Method) :
    (c.addMethods name ms).names = c.names := by
  unfold Catalog.addMethods
  refine List.foldlRecOn (motive := fun d : Catalog => d.names = c.names) ms _ rfl ?_
  intro d hd m _
  unfold addMethod
  rw [names_modify]
  exact hd

/-- The methods are added to the type of this name and to no other. -/
theorem Made.types_addMethods (h : c.Made) (name : String) (ms : List Method) :
    (c.addMethods name ms).types =
      c.types.map fun t => if t.name = name then t.withMethods ms else t := by
  unfold Catalog.addMethods
  induction ms generalizing c with
  | nil =>
    simp only [TypeDecl.withMethods_nil, ite_self]
    exact (List.map_id _).symm
  | cons m ms ih =>
    have hfirst : (c.addMethod name m).types =
        c.types.map fun t => if t.name = name then t.withMethods [m] else t :=
      h.types_modify name _
    have hmade : (c.addMethod name m).Made := h.modify name _
    rw [List.foldl_cons, ih hmade, hfirst, List.map_map]
    refine List.map_congr_left ?_
    intro t _
    by_cases hname : t.name = name
    · simp only [Function.comp_apply, if_pos hname]
      rw [if_pos (show (t.withMethods [m]).name = name from hname), TypeDecl.withMethods_withMethods]
      rfl
    · simp only [Function.comp_apply, if_neg hname]

end Catalog

end ExprGate.Declaration

namespace ExprGate.Source

open Declaration

namespace Collection

/-! ## Attaching methods -/

variable {catalog : Catalog}

/-- Attaching a block keeps a catalog well made and changes no names and no imports. -/
theorem sameNames_attach (hmade : catalog.Made) (b : Block) :
    (attach catalog b).Made ∧ catalog.SameNames (attach catalog b) := by
  unfold attach
  split
  · rename_i name _
    refine ⟨hmade.addMethods name b.methods, .of_perm hmade (hmade.addMethods name b.methods) ?_ ?_⟩
    · exact .of_eq (Catalog.names_addMethods catalog name b.methods).symm
    · intro module
      exact congrArg (·.lookup module) (Catalog.scopes_addMethods catalog name b.methods).symm
  · exact ⟨hmade, .refl catalog⟩

/-- Attaching a block adds its methods to the type that its path stands for, and changes no other
one. -/
theorem types_attach (hmade : catalog.Made) (b : Block) :
    (attach catalog b).types = catalog.types.map fun t =>
      if typeOf? catalog b = some t.name then t.withMethods b.methods else t := by
  unfold attach
  cases htype : typeOf? catalog b with
  | none => exact (List.map_id _).symm
  | some name =>
    refine (hmade.types_addMethods name b.methods).trans ?_
    simp only [Option.some.injEq, eq_comm]

/-- The methods that some blocks have for a type. -/
def methodsFor (catalog : Catalog) (blocks : List Block) (t : TypeDecl) : List Method :=
  (blocks.filter fun b => typeOf? catalog b == some t.name).flatMap Block.methods

/-- Attaching blocks gives each type the methods of its own blocks, in their order. -/
theorem types_foldl_attach (hmade : catalog.Made) (blocks : List Block) :
    (blocks.foldl attach catalog).types =
      catalog.types.map fun t => t.withMethods (methodsFor catalog blocks t) := by
  induction blocks generalizing catalog with
  | nil =>
    simp only [List.foldl_nil, methodsFor, List.filter_nil, List.flatMap_nil,
      TypeDecl.withMethods_nil]
    exact (List.map_id _).symm
  | cons b rest ih =>
    obtain ⟨hmade', hnames⟩ := sameNames_attach hmade b
    -- the other blocks are for the same types as before
    have hsame : typeOf? (attach catalog b) = typeOf? catalog := by
      funext b'
      exact (hnames.resolveName?_eq _ _).symm
    rw [List.foldl_cons, ih hmade', types_attach hmade, List.map_map]
    refine List.map_congr_left ?_
    intro t _
    unfold methodsFor
    rw [hsame]
    by_cases htype : typeOf? catalog b = some t.name
    · rw [Function.comp_apply, if_pos htype, List.filter_cons_of_pos (by simpa using htype),
        List.flatMap_cons, ← TypeDecl.withMethods_withMethods]
      rfl
    · rw [Function.comp_apply, if_neg htype, List.filter_cons_of_neg (by simpa using htype)]

/-- Attaching blocks keeps the names and the imports. -/
theorem sameNames_foldl_attach (hmade : catalog.Made) (blocks : List Block) :
    (blocks.foldl attach catalog).Made ∧ catalog.SameNames (blocks.foldl attach catalog) := by
  refine List.foldlRecOn (motive := fun d => d.Made ∧ catalog.SameNames d) blocks attach
    ⟨hmade, .refl catalog⟩ ?_
  rintro d ⟨hd, hsame⟩ b _
  obtain ⟨hmade', hstep⟩ := sameNames_attach hd b
  exact ⟨hmade', hsame.trans hstep⟩

end Collection

/-! ## The order of files -/

/-- Parts that say the same in any order. -/
structure Part.Shuffled (p p' : Part) : Prop where
  types : p.types.Perm p'.types
  scopes : p.scopes.Perm p'.scopes
  blocks : p.blocks.Perm p'.blocks
  testModules : p.testModules.Perm p'.testModules

/-- Files say the same in any order. -/
theorem Part.shuffled_ofFiles {files files' : List ModuleFile} (h : files.Perm files')
    (crate : String) : (Part.ofFiles crate files).Shuffled (.ofFiles crate files') := by
  have hparts := h.filterMap (ModuleFile.part? crate)
  exact ⟨hparts.flatMap_right _, hparts.flatMap_right _, hparts.flatMap_right _,
    hparts.flatMap_right _⟩

namespace Collection

variable {crate : String} {p p' : Part} {c c' : Collection}

/-- The declarations of test modules are left out. -/
def withoutTests (c : Collection) : Catalog :=
  c.catalog.retain (!c.inTests ·.module)

/-- A finished collection is its catalog without tests, with the blocks outside of tests attached
one after another. -/
theorem finish_eq (c : Collection) :
    c.finish.1 = (c.blocks.filter (!c.inTests ·.module)).foldl attach c.withoutTests :=
  rfl

/-- Finishing reports the duplicates outside of tests and then, block by block, the marked ones
without a type. -/
theorem reports_finish (c : Collection) :
    c.finish.2 =
      (c.duplicates.filter fun name => !c.inTests (Text.splitQualified name).1).map duplicateReport ++
        (c.blocks.filter (!c.inTests ·.module)).flatMap (strayReports c.withoutTests) :=
  rfl

/-- What belongs to tests does not depend on the order. -/
theorem inTests_eq (h : c.Holds crate p) (h' : c'.Holds crate p') (hshuffled : p.Shuffled p') :
    c.inTests = c'.inTests := by
  funext module
  unfold inTests isWithin
  rw [h.testModules, h'.testModules]
  exact hshuffled.testModules.any_eq

/-- Nor do the declarations that are left, as long as no module and no type is declared twice. -/
theorem withoutTests_perm (h : c.Holds crate p) (h' : c'.Holds crate p')
    (hshuffled : p.Shuffled p') (htypes : p.typeNames.Nodup) (hmodules : p.modules.Nodup) :
    c.withoutTests.types.Perm c'.withoutTests.types ∧
      ∀ module, c.withoutTests.scopes.lookup module = c'.withoutTests.scopes.lookup module := by
  constructor
  · have htypes' : p'.typeNames.Nodup := (hshuffled.types.map TypeDecl.name).nodup_iff.1 htypes
    change (c.catalog.types.filter _).Perm (c'.catalog.types.filter _)
    rw [h.types, h'.types, firstsBy_eq_self_of_nodup _ htypes, firstsBy_eq_self_of_nodup _ htypes',
      inTests_eq h h' hshuffled]
    exact hshuffled.types.filter _
  · intro module
    change c.catalog.scopes.lookup module = c'.catalog.scopes.lookup module
    rw [h.scopes, h'.scopes]
    refine lookup_eq_of_perm ?_ ?_ module
    · exact ((List.reverse_perm _).trans (hshuffled.scopes.trans (List.reverse_perm _).symm)).filter _
    · have hkeys : (p.scopes.reverse.map Prod.fst).Nodup := by
        rw [List.map_reverse]
        exact List.nodup_reverse.2 hmodules
      exact hkeys.sublist (List.filter_sublist.map _)

/-- What is finished does not depend on the order either, up to its own order. -/
theorem reordered_finish (h : c.Holds crate p) (h' : c'.Holds crate p')
    (hshuffled : p.Shuffled p') (htypes : p.typeNames.Nodup) (hmodules : p.modules.Nodup) :
    c.finish.1.Reordered c'.finish.1 := by
  have hmade : c.withoutTests.Made := h.made.retain _
  have hmade' : c'.withoutTests.Made := h'.made.retain _
  obtain ⟨hperm, hscopes⟩ := withoutTests_perm h h' hshuffled htypes hmodules
  have hsame : c.withoutTests.SameNames c'.withoutTests :=
    .of_perm hmade hmade' (hperm.map TypeDecl.name) hscopes
  have hblocks : (c.blocks.filter (!c.inTests ·.module)).Perm
      (c'.blocks.filter (!c'.inTests ·.module)) := by
    rw [h.blocks, h'.blocks, inTests_eq h h' hshuffled]
    exact hshuffled.blocks.filter _
  rw [finish_eq, finish_eq]
  generalize c.blocks.filter (!c.inTests ·.module) = blocks at hblocks ⊢
  generalize c'.blocks.filter (!c'.inTests ·.module) = blocks' at hblocks ⊢
  obtain ⟨hattached, hkept⟩ := sameNames_foldl_attach hmade blocks
  obtain ⟨hattached', hkept'⟩ := sameNames_foldl_attach hmade' blocks'
  have htypeOf : typeOf? c.withoutTests = typeOf? c'.withoutTests := by
    funext b
    exact hsame.resolveName?_eq _ _
  refine ⟨hattached, hattached', ?_, ?_⟩
  · -- in the order of the first catalog, each type has the same methods, in another order
    rw [types_foldl_attach hmade, types_foldl_attach hmade']
    refine ⟨c.withoutTests.types.map fun t =>
      t.withMethods (methodsFor c'.withoutTests blocks' t), ?_, hperm.map _⟩
    rw [List.forall₂_map_left_iff, List.forall₂_map_right_iff, List.forall₂_same]
    intro t _
    refine t.alike_withMethods ?_
    unfold methodsFor
    rw [htypeOf]
    exact (hblocks.filter _).flatMap_right _
  · intro module
    rw [← hkept.scopes, ← hkept'.scopes, hscopes]

/-- The reports at the end are no errors. -/
theorem isError_of_mem_finish {d : Diagnostic} (hd : d ∈ c.finish.2) : d.isError = false := by
  unfold finish at hd
  obtain hd | hd := List.mem_append.1 hd
  · obtain ⟨name, -, rfl⟩ := List.mem_map.1 hd
    rfl
  · obtain ⟨b, -, hb⟩ := List.mem_flatMap.1 hd
    unfold strayReports at hb
    split at hb
    · obtain rfl := List.mem_singleton.1 hb
      rfl
    · cases hb

end Collection

end ExprGate.Source
