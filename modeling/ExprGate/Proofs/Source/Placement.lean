import ExprGate.Proofs.Source.Reading

/-!
# Declarations in their places

The declarations of a file stand in modules, which may be nested in place. `ModuleFile.placed` lists
them all, at any depth, each with the module in which it stands and with the attributes of the modules
in place around it; nothing is passed over. What a file says when it is read is found in this list:
the types, the `impl` blocks and the test modules of the declarations that count
(`Part.Says`, `says_ofFiles`), in their order.
-/

set_option autoImplicit false

namespace ExprGate.Source

open Declaration Grammar

/-- A declaration in its place. -/
structure Placed where
  /-- The module in which it stands. -/
  module : String
  /-- Whether one of the modules in place around it is for tests only. -/
  inTestCode : Bool
  item : Item

/-- The attributes of a declaration, as far as they are read. -/
def itemAttributes : Item → List Meta
  | .type _ attributes _ _ => attributes
  | .implementation attributes _ _ _ => attributes
  | .module attributes _ _ => attributes
  | .imports attributes _ _ => attributes
  | .other => []

mutual

/-- A declaration of a module and all declarations inside it. -/
def placedItem (module : String) (inTestCode : Bool) : Item → List Placed
  | .module attributes name (some items) =>
    ⟨module, inTestCode, .module attributes name (some items)⟩ ::
      placedItems (module ++ "::" ++ name) (inTestCode || isTestOnly attributes) items
  | item => [⟨module, inTestCode, item⟩]

/-- Declarations of a module and all declarations inside them. -/
def placedItems (module : String) (inTestCode : Bool) : List Item → List Placed
  | [] => []
  | item :: rest => placedItem module inTestCode item ++ placedItems module inTestCode rest

end

/-- The declarations of a file. -/
def ModuleFile.placed (crate : String) (f : ModuleFile) : List Placed :=
  match parseFile? f.text with
  | some items => placedItems (Text.joinSegments (crate :: f.segments)) false items
  | none => []

/-- The declarations of some files. -/
def placedIn (crate : String) (files : List ModuleFile) : List Placed :=
  files.flatMap (ModuleFile.placed crate)

/-! ## What declarations say in their places -/

/-- Whether a declaration counts: neither itself nor a module in place around it is for tests
only. -/
def Placed.counts (x : Placed) : Bool :=
  !x.inTestCode && !isTestOnly (itemAttributes x.item)

/-- The annotations that attributes hold, if they are well formed. -/
def annotationsIn (attributes : List Meta) : List Annotation :=
  (annotations? attributes).getD []

/-- The type that a declaration declares. -/
def Placed.type? (x : Placed) : Option TypeDecl :=
  match x.item with
  | .type kind attributes name fields =>
    if x.counts then
      some { name := x.module ++ "::" ++ name, kind, annotations := annotationsIn attributes,
             members := fields }
    else none
  | _ => none

/-- The test module in a file of its own that a declaration declares. -/
def Placed.testModule? (x : Placed) : Option String :=
  match x.item with
  | .module attributes name none =>
    if !x.inTestCode && isTestOnly attributes then some (x.module ++ "::" ++ name) else none
  | _ => none

/-- An `impl` block in its place. -/
structure Impl where
  /-- The module in which it stands. -/
  module : String
  ofTrait : Option Grammar.Path
  selfType : TypeForm
  functions : List Function

/-- The `impl` block that a declaration is. -/
def Placed.impl? (x : Placed) : Option Impl :=
  match x.item with
  | .implementation _ ofTrait selfType functions =>
    if x.counts then some ⟨x.module, ofTrait, selfType, functions⟩ else none
  | _ => none

namespace Impl

/-- The functions that are not for tests only. -/
def counting (i : Impl) : List Function :=
  i.functions.filter (!isTestOnly ·.attributes)

/-- A function as a method: with the module and the trait of the block. -/
def method (i : Impl) (f : Function) : Method where
  name := f.name
  module := i.module
  annotations := annotationsIn f.attributes
  inheritedFrom := i.ofTrait.map Grammar.Path.text

/-- The methods of the block. -/
def methods (i : Impl) : List Method :=
  i.counting.map i.method

/-- Whether one of the functions carries a container of usages. -/
def isMarked (i : Impl) : Bool :=
  i.counting.any fun f => f.attributes.any fun m => isMark m.name

/-- The path of the type, if it is written as a plain path. -/
def selfPath? (i : Impl) : Option String :=
  match i.selfType with
  | .path p => some p.text
  | _ => none

/-- The block as it waits for its type. -/
def block? (i : Impl) : Option Block :=
  i.selfPath?.bind fun path =>
    if i.methods.isEmpty then none else some ⟨i.module, path, i.methods, i.isMarked⟩

end Impl

/-- The attributes inside a declaration whose annotations are read. -/
def annotated : Item → List (List Meta)
  | .type _ attributes _ _ => [attributes]
  | .implementation _ _ (.path _) functions =>
    (functions.filter (!isTestOnly ·.attributes)).map Function.attributes
  | _ => []

/-- The annotations of a declaration that counts are well formed. -/
def Placed.IsReadable (x : Placed) : Prop :=
  x.counts = true → ∀ attributes ∈ annotated x.item, (annotations? attributes).isSome = true

/-- The type of a declaration that counts has the name of the declaration below its module, with its
kind, annotations and fields. -/
theorem Placed.type?_eq_some {x : Placed} {t : TypeDecl} (h : x.type? = some t) :
    x.counts = true ∧ ∃ kind attributes name fields, x.item = .type kind attributes name fields ∧
      t = { name := x.module ++ "::" ++ name, kind, annotations := annotationsIn attributes,
            members := fields } := by
  unfold type? at h
  split at h
  · rename_i kind attributes name fields hitem
    obtain ⟨hcounts, heq⟩ := Option.ite_none_right_eq_some.1 h
    obtain rfl := Option.some.inj heq
    exact ⟨hcounts, kind, attributes, name, fields, hitem, rfl⟩
  · cases h

/-- The block of a declaration that counts has its module, trait, type and functions. -/
theorem Placed.impl?_eq_some {x : Placed} {i : Impl} (h : x.impl? = some i) :
    x.counts = true ∧ i.module = x.module ∧
      ∃ attributes, x.item = .implementation attributes i.ofTrait i.selfType i.functions := by
  unfold impl? at h
  split at h
  · rename_i attributes ofTrait selfType functions hitem
    obtain ⟨hcounts, heq⟩ := Option.ite_none_right_eq_some.1 h
    obtain rfl := Option.some.inj heq
    exact ⟨hcounts, rfl, attributes, hitem⟩
  · cases h

/-- In a readable block of a type with a plain path, the annotations of all functions that count are
well formed. -/
theorem Placed.IsReadable.methods {x : Placed} (h : x.IsReadable) {i : Impl}
    (hi : x.impl? = some i) (hpath : i.selfPath? ≠ none) :
    ∀ f ∈ i.counting, (annotations? f.attributes).isSome = true := by
  obtain ⟨hcounts, -, attributes, hitem⟩ := impl?_eq_some hi
  have hread := h hcounts
  rw [hitem] at hread
  unfold Impl.selfPath? at hpath
  split at hpath
  · rename_i path hform
    rw [hform] at hread
    exact List.forall_mem_map.1 hread
  · exact absurd rfl hpath

/-- What some declarations say is what they say in their places, one after another. -/
structure Part.Says (p : Part) (xs : List Placed) : Prop where
  readable : ∀ x ∈ xs, x.IsReadable
  types : p.types = xs.filterMap Placed.type?
  blocks : p.blocks = (xs.filterMap Placed.impl?).filterMap Impl.block?
  testModules : p.testModules = xs.filterMap Placed.testModule?

/-! ## Reading says it -/

/-- What two lists of declarations say, one behind the other, is what both say. -/
theorem Part.Says.append {p q : Part} {xs ys : List Placed} (h : p.Says xs) (h' : q.Says ys) :
    (p ++ q).Says (xs ++ ys) where
  readable := List.forall_mem_append.2 ⟨h.readable, h'.readable⟩
  types := by rw [types_append, h.types, h'.types, List.filterMap_append]
  blocks := by rw [blocks_append, h.blocks, h'.blocks, List.filterMap_append, List.filterMap_append]
  testModules := by rw [testModules_append, h.testModules, h'.testModules, List.filterMap_append]

/-- A declaration that says nothing. -/
def Placed.IsSilent (x : Placed) : Prop :=
  x.type? = none ∧ x.impl? = none ∧ x.testModule? = none ∧ x.IsReadable

/-- Silent declarations say nothing. -/
theorem Part.Says.of_silent {xs : List Placed} (h : ∀ x ∈ xs, x.IsSilent) : Part.Says {} xs where
  readable x hx := (h x hx).2.2.2
  types := (List.filterMap_eq_nil_iff.2 fun x hx => (h x hx).1).symm
  blocks := by
    rw [List.filterMap_eq_nil_iff.2 fun x hx => (h x hx).2.1]
    rfl
  testModules := (List.filterMap_eq_nil_iff.2 fun x hx => (h x hx).2.2.1).symm

/-- A declaration that does not count is silent, unless it declares a test module. -/
theorem Placed.isSilent_of_not_counts {x : Placed} (h : x.counts = false)
    (htest : x.testModule? = none) : x.IsSilent := by
  refine ⟨?_, ?_, htest, ?_⟩
  · unfold Placed.type?
    split <;> simp [h]
  · unfold Placed.impl?
    split <;> simp [h]
  · intro hcounts
    rw [h] at hcounts
    cases hcounts

/-- In test code all declarations are silent. -/
theorem Placed.isSilent_of_inTestCode {x : Placed} (h : x.inTestCode = true) : x.IsSilent := by
  refine isSilent_of_not_counts (by simp [counts, h]) ?_
  unfold testModule?
  split <;> simp [h]

mutual

/-- A declaration in test code is test code, and so is everything inside it. -/
theorem inTestCode_of_mem_placedItem (module : String) : (item : Item) →
    ∀ x ∈ placedItem module true item, x.inTestCode = true
  | .module attributes name (some items), x, hx => by
    rw [placedItem] at hx
    obtain rfl | hx := List.mem_cons.1 hx
    · rfl
    · exact inTestCode_of_mem_placedItems (module ++ "::" ++ name) items x hx
  | .module _ _ none, x, hx => by
    obtain rfl := List.mem_singleton.1 hx
    rfl
  | .type _ _ _ _, x, hx => by
    obtain rfl := List.mem_singleton.1 hx
    rfl
  | .implementation _ _ _ _, x, hx => by
    obtain rfl := List.mem_singleton.1 hx
    rfl
  | .imports _ _ _, x, hx => by
    obtain rfl := List.mem_singleton.1 hx
    rfl
  | .other, x, hx => by
    obtain rfl := List.mem_singleton.1 hx
    rfl

/-- Inside test code everything is test code. -/
theorem inTestCode_of_mem_placedItems (module : String) : (items : List Item) →
    ∀ x ∈ placedItems module true items, x.inTestCode = true
  | [], x, hx => by cases hx
  | item :: rest, x, hx => by
    rw [placedItems] at hx
    obtain hx | hx := List.mem_append.1 hx
    · exact inTestCode_of_mem_placedItem module item x hx
    · exact inTestCode_of_mem_placedItems module rest x hx

end

/-- A type that is no test code says what it says in its place. -/
theorem says_type {module name : String} {kind : Kind} {attributes : List Meta}
    {fields : List String} {p : Part} (hcounts : isTestOnly attributes = false)
    (hp : typePart? module name kind attributes fields = some p) :
    p.Says [⟨module, false, .type kind attributes name fields⟩] := by
  obtain ⟨annotations, hannotations, rfl⟩ := Option.map_eq_some_iff.1 hp
  have hx : (⟨module, false, .type kind attributes name fields⟩ : Placed).counts = true := by
    simp [Placed.counts, itemAttributes, hcounts]
  have htype : (⟨module, false, .type kind attributes name fields⟩ : Placed).type? =
      some { name := module ++ "::" ++ name, kind, annotations, members := fields } := by
    simp [Placed.type?, hx, annotationsIn, hannotations]
  constructor
  case readable =>
    rw [List.forall_mem_singleton]
    intro _
    exact List.forall_mem_singleton.2 (Option.isSome_iff_exists.2 ⟨_, hannotations⟩)
  case types => rw [List.filterMap_cons_some htype, List.filterMap_nil]
  case blocks => rfl
  case testModules => rfl

/-- The methods of a block can be read if the annotations of all its functions are well formed. -/
theorem methods?_eq_some {i : Impl} {methods : List Method}
    (h : Collection.methods? i.module i.ofTrait i.counting = some methods) :
    methods = i.methods ∧ ∀ f ∈ i.counting, (annotations? f.attributes).isSome = true := by
  unfold Impl.methods
  generalize i.counting = fs at h ⊢
  unfold Collection.methods? at h
  induction fs generalizing methods with
  | nil =>
    obtain rfl := Option.some.inj h
    exact ⟨rfl, nofun⟩
  | cons f fs ih =>
    rw [List.mapM_cons] at h
    obtain ⟨m, hm, h⟩ := Option.bind_eq_some_iff.1 h
    obtain ⟨ms, hms, h⟩ := Option.bind_eq_some_iff.1 h
    obtain ⟨annotations, hannotations, hm⟩ := Option.bind_eq_some_iff.1 hm
    obtain rfl := Option.some.inj h
    obtain rfl := Option.some.inj hm
    obtain ⟨rfl, hrest⟩ := ih hms
    refine ⟨?_, List.forall_mem_cons.2 ⟨Option.isSome_iff_exists.2 ⟨_, hannotations⟩, hrest⟩⟩
    rw [List.map_cons, Impl.method, annotationsIn, hannotations, Option.getD_some]

/-- A block that is no test code says what it says in its place. -/
theorem says_implementation {module : String} {attributes : List Meta}
    {ofTrait : Option Grammar.Path} {selfType : TypeForm} {functions : List Function} {p : Part}
    (hcounts : isTestOnly attributes = false)
    (hp : blockPart? module ofTrait selfType functions = some p) :
    p.Says [⟨module, false, .implementation attributes ofTrait selfType functions⟩] := by
  let x : Placed := ⟨module, false, .implementation attributes ofTrait selfType functions⟩
  let i : Impl := ⟨module, ofTrait, selfType, functions⟩
  have hx : x.counts = true := by simp [x, Placed.counts, itemAttributes, hcounts]
  have himpl : x.impl? = some i := by simp [x, i, Placed.impl?, hx]
  -- what is left to say is about the block alone
  suffices h : x.IsReadable ∧ p.types = [] ∧ p.blocks = i.block?.toList ∧ p.testModules = [] by
    obtain ⟨hreadable, htypes, hblocks, htests⟩ := h
    constructor
    case readable => exact List.forall_mem_singleton.2 hreadable
    case types => exact htypes
    case blocks =>
      rw [hblocks, List.filterMap_cons_some himpl, List.filterMap_nil, List.filterMap_cons]
      cases i.block? <;> rfl
    case testModules => exact htests
  cases selfType with
  | path path =>
    obtain ⟨methods, hmethods, rfl⟩ := Option.map_eq_some_iff.1 hp
    obtain ⟨rfl, hannotations⟩ := methods?_eq_some (i := i) hmethods
    have hblock : i.block? =
        if i.methods.isEmpty then none else some ⟨module, path.text, i.methods, i.isMarked⟩ := rfl
    refine ⟨fun _ => List.forall_mem_map.2 hannotations, ?_, ?_, ?_⟩
    · split <;> rfl
    · rw [hblock]
      split <;> rfl
    · split <;> rfl
  | bounds single =>
    obtain rfl := Option.some.inj hp
    exact ⟨fun _ => nofun, rfl, rfl, rfl⟩
  | parenthesized =>
    obtain rfl := Option.some.inj hp
    exact ⟨fun _ => nofun, rfl, rfl, rfl⟩
  | other =>
    obtain rfl := Option.some.inj hp
    exact ⟨fun _ => nofun, rfl, rfl, rfl⟩

mutual

/-- A declaration that can be read says what it and those inside it say in their places. -/
theorem says_itemPart? (module : String) {s s' : Scope} {p : Part} : (item : Item) →
    itemPart? module s item = some (p, s') → p.Says (placedItem module false item)
  | .type kind attributes name fields, h => by
    rw [itemPart?] at h
    split at h
    · rename_i htest
      obtain ⟨rfl, -⟩ := Prod.mk.inj (Option.some.inj h)
      refine .of_silent (List.forall_mem_singleton.2 ?_)
      exact Placed.isSilent_of_not_counts (by simp [Placed.counts, itemAttributes, htest]) rfl
    · rename_i htest
      obtain ⟨q, hq, heq⟩ := Option.map_eq_some_iff.1 h
      obtain ⟨rfl, -⟩ := Prod.mk.inj heq
      exact says_type (by simpa using htest) hq
  | .implementation attributes ofTrait selfType functions, h => by
    rw [itemPart?] at h
    split at h
    · rename_i htest
      obtain ⟨rfl, -⟩ := Prod.mk.inj (Option.some.inj h)
      refine .of_silent (List.forall_mem_singleton.2 ?_)
      exact Placed.isSilent_of_not_counts (by simp [Placed.counts, itemAttributes, htest]) rfl
    · rename_i htest
      obtain ⟨q, hq, heq⟩ := Option.map_eq_some_iff.1 h
      obtain ⟨rfl, -⟩ := Prod.mk.inj heq
      exact says_implementation (by simpa using htest) hq
  | .module attributes name (some items), h => by
    have hitem : Placed.IsSilent ⟨module, false, .module attributes name (some items)⟩ :=
      ⟨rfl, rfl, rfl, fun _ => nofun⟩
    rw [itemPart?] at h
    rw [placedItem, Bool.false_or]
    split at h
    · rename_i htest
      obtain ⟨rfl, -⟩ := Prod.mk.inj (Option.some.inj h)
      rw [htest]
      refine .of_silent (List.forall_mem_cons.2 ⟨hitem, ?_⟩)
      intro x hx
      exact Placed.isSilent_of_inTestCode (inTestCode_of_mem_placedItems _ items x hx)
    · rename_i htest
      obtain ⟨q, hq, heq⟩ := Option.map_eq_some_iff.1 h
      obtain ⟨rfl, -⟩ := Prod.mk.inj heq
      have hfalse : isTestOnly attributes = false := by simpa using htest
      rw [hfalse]
      exact (Part.Says.of_silent (List.forall_mem_singleton.2 hitem)).append
        (says_itemsPart? (module ++ "::" ++ name) items hq)
  | .module attributes name none, h => by
    rw [itemPart?] at h
    obtain ⟨rfl, -⟩ := Prod.mk.inj (Option.some.inj h)
    constructor
    case readable => exact List.forall_mem_singleton.2 fun _ => nofun
    case types => split <;> rfl
    case blocks => split <;> rfl
    case testModules =>
      cases htest : isTestOnly attributes <;> simp [placedItem, Placed.testModule?, htest]
  | .imports attributes absolute tree, h => by
    rw [itemPart?] at h
    obtain ⟨rfl, -⟩ := Prod.mk.inj (Option.some.inj h)
    exact .of_silent (List.forall_mem_singleton.2 ⟨rfl, rfl, rfl, fun _ => nofun⟩)
  | .other, h => by
    rw [itemPart?] at h
    obtain ⟨rfl, -⟩ := Prod.mk.inj (Option.some.inj h)
    exact .of_silent (List.forall_mem_singleton.2 ⟨rfl, rfl, rfl, fun _ => nofun⟩)

/-- Declarations that can be read say what they say in their places. -/
theorem says_itemsPart? (module : String) {s : Scope} {p : Part} : (items : List Item) →
    itemsPart? module s items = some p → p.Says (placedItems module false items)
  | [], h => by
    rw [itemsPart?] at h
    obtain rfl := Option.some.inj h
    exact ⟨nofun, rfl, rfl, rfl⟩
  | item :: rest, h => by
    rw [itemsPart?] at h
    obtain ⟨⟨q, s'⟩, hitem, h⟩ := Option.bind_eq_some_iff.1 h
    obtain ⟨r, hrest, rfl⟩ := Option.map_eq_some_iff.1 h
    rw [placedItems]
    exact (says_itemPart? module item hitem).append (says_itemsPart? module rest hrest)

end

/-- So do files. -/
theorem says_ofFiles {crate : String} {files : List ModuleFile}
    (h : ∀ f ∈ files, (f.part? crate).isSome = true) :
    (Part.ofFiles crate files).Says (placedIn crate files) := by
  unfold Part.ofFiles placedIn
  induction files with
  | nil => exact ⟨nofun, rfl, rfl, rfl⟩
  | cons f rest ih =>
    obtain ⟨hfirst, hrest⟩ := List.forall_mem_cons.1 h
    obtain ⟨p, hp⟩ := Option.isSome_iff_exists.1 hfirst
    obtain ⟨items, hitems, hsays⟩ := Option.bind_eq_some_iff.1 hp
    have hplaced : f.placed crate =
        placedItems (Text.joinSegments (crate :: f.segments)) false items := by
      rw [ModuleFile.placed, hitems]
    rw [List.filterMap_cons_some hp, Part.join_cons, List.flatMap_cons, hplaced]
    exact (says_itemsPart? _ items hsays).append (ih hrest)

/-! ## Test modules in files of their own -/

/-- A module is another one or lies below it. -/
def IsAtOrBelow (module top : String) : Prop :=
  module = top ∨ ∃ rest, module = top ++ "::" ++ rest

/-- A text starts with another one just if something may be put behind this one to give it. -/
theorem startsWith_iff (text start : String) :
    Text.startsWith text start = true ↔ ∃ rest, text = start ++ rest := by
  unfold Text.startsWith
  rw [List.isPrefixOf_iff_prefix]
  constructor
  · rintro ⟨rest, hrest⟩
    refine ⟨String.ofList rest, String.toList_injective ?_⟩
    rw [String.toList_append, String.toList_ofList, hrest]
  · rintro ⟨rest, rfl⟩
    exact ⟨rest.toList, String.toList_append.symm⟩

/-- A module is within some others just if it is one of them or lies below one. -/
theorem isWithin_iff (tops : List String) (module : String) :
    Collection.isWithin tops module = true ↔ ∃ top ∈ tops, IsAtOrBelow module top := by
  unfold Collection.isWithin IsAtOrBelow
  simp only [List.any_eq_true, Bool.or_eq_true, beq_iff_eq, startsWith_iff]

/-- The test modules in files of their own that some files declare. -/
def testModulesIn (crate : String) (files : List ModuleFile) : List String :=
  (placedIn crate files).filterMap Placed.testModule?

/-- After reading files, the collection knows their test modules. -/
theorem Collection.testModules_of_readFiles {crate : String} {files : List ModuleFile}
    {c : Collection} (hread : Collection.readFiles { crate } files = .ok c) :
    c.testModules = testModulesIn crate files := by
  obtain ⟨hparts, hholds⟩ := holds_readFiles (.start crate) hread
  exact hholds.testModules.trans (says_ofFiles hparts).testModules

end ExprGate.Source
