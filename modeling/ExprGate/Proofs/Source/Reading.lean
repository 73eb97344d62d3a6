import ExprGate.Proofs.Declaration.Additions
import ExprGate.Source.Collection

/-!
# What reading a file adds

A file adds to a collection what its declarations say, whatever has been read before: `Part` is what
some declarations say, `ModuleFile.part?` what a file says, if it can be read to its end, and
`ModuleFile.front` what it says in front of the place where reading stops. Reading goes through the
declarations in order and adds what they say (`readItems_eq`); so does reading all files of a crate
(`readFiles_eq_ok`). `Collection.Holds` says what the tables of a collection are then.
-/

set_option autoImplicit false

namespace ExprGate.Source

open Declaration Grammar

/-! ## Parts -/

/-- What some declarations say. -/
structure Part where
  types : List TypeDecl := []
  /-- The modules whose ends are reached, with their imports. -/
  scopes : List (String × Scope) := []
  blocks : List Block := []
  /-- The test modules that are in files of their own. -/
  testModules : List String := []

namespace Part

instance : Append Part where
  append p q :=
    ⟨p.types ++ q.types, p.scopes ++ q.scopes, p.blocks ++ q.blocks,
      p.testModules ++ q.testModules⟩

/-- Two parts have the types of the one and of the other. -/
@[simp]
theorem types_append (p q : Part) : (p ++ q).types = p.types ++ q.types :=
  rfl

/-- Two parts have the modules of the one and of the other. -/
@[simp]
theorem scopes_append (p q : Part) : (p ++ q).scopes = p.scopes ++ q.scopes :=
  rfl

/-- Two parts have the blocks of the one and of the other. -/
@[simp]
theorem blocks_append (p q : Part) : (p ++ q).blocks = p.blocks ++ q.blocks :=
  rfl

/-- Two parts have the test modules of the one and of the other. -/
@[simp]
theorem testModules_append (p q : Part) : (p ++ q).testModules = p.testModules ++ q.testModules :=
  rfl

/-- What is said one part after another. -/
def join (ps : List Part) : Part :=
  ⟨ps.flatMap types, ps.flatMap scopes, ps.flatMap blocks, ps.flatMap testModules⟩

/-- Joined parts are the first one and the others, joined. -/
theorem join_cons (p : Part) (ps : List Part) : join (p :: ps) = p ++ join ps :=
  rfl

/-- The names of the types, in order. -/
def typeNames (p : Part) : List String :=
  p.types.map TypeDecl.name

/-- The modules whose ends are reached, in order. -/
def modules (p : Part) : List String :=
  p.scopes.map Prod.fst

end Part

/-- What a type says. -/
def typePart? (module name : String) (kind : Kind) (attributes : List Meta)
    (fields : List String) : Option Part :=
  (annotations? attributes).map fun annotations =>
    { types := [{ name := module ++ "::" ++ name, kind, annotations, members := fields }] }

/-- What the methods of a block say. -/
def blockPart? (module : String) (ofTrait : Option Grammar.Path) (selfType : TypeForm)
    (functions : List Function) : Option Part :=
  match selfType with
  | .path p =>
    let fs := functions.filter (!isTestOnly ·.attributes)
    (Collection.methods? module ofTrait fs).map fun methods =>
      if methods.isEmpty then {}
      else { blocks := [⟨module, p.text, methods, fs.any fun f => f.attributes.any fun m =>
        isMark m.name⟩] }
  | _ => some {}

mutual

/-- What a declaration in a module says, with the imports that are known behind it. -/
def itemPart? (module : String) (s : Scope) : Item → Option (Part × Scope)
  | .type kind attributes name fields =>
    if isTestOnly attributes then some ({}, s)
    else (typePart? module name kind attributes fields).map (·, s)
  | .implementation attributes ofTrait selfType functions =>
    if isTestOnly attributes then some ({}, s)
    else (blockPart? module ofTrait selfType functions).map (·, s)
  | .module attributes name (some items) =>
    if isTestOnly attributes then some ({}, s)
    else (itemsPart? (module ++ "::" ++ name) {} items).map (·, s)
  | .module attributes name none =>
    some (if isTestOnly attributes then { testModules := [module ++ "::" ++ name] } else {}, s)
  | .imports _ absolute tree => some ({}, addTree absolute [] s tree)
  | .other => some ({}, s)

/-- What the declarations of a module say. -/
def itemsPart? (module : String) (s : Scope) : List Item → Option Part
  | [] => some { scopes := [(module, s)] }
  | item :: rest =>
    (itemPart? module s item).bind fun (p, s) => (itemsPart? module s rest).map (p ++ ·)

end

mutual

/-- What a declaration that cannot be read says in front of where reading stops. -/
def itemFront (module : String) : Item → Part
  | .module _ name (some items) => itemsFront (module ++ "::" ++ name) {} items
  | _ => {}

/-- What the declarations of a module say in front of where reading stops. The ends of the modules
around that place are not reached. -/
def itemsFront (module : String) (s : Scope) : List Item → Part
  | [] => {}
  | item :: rest =>
    match itemPart? module s item with
    | some (p, s) => p ++ itemsFront module s rest
    | none => itemFront module item

end

/-- A file of a crate: the segments of its module, and its text. -/
structure ModuleFile where
  segments : List String
  text : String
deriving DecidableEq, Repr

/-- What a file says, if it can be read to its end. -/
def ModuleFile.part? (crate : String) (f : ModuleFile) : Option Part :=
  (parseFile? f.text).bind (itemsPart? (Text.joinSegments (crate :: f.segments)) {})

/-- What a file says in front of where reading stops. -/
def ModuleFile.front (crate : String) (f : ModuleFile) : Part :=
  match parseFile? f.text with
  | some items => itemsFront (Text.joinSegments (crate :: f.segments)) {} items
  | none => {}

/-- What some files say, as far as they can be read. -/
def Part.ofFiles (crate : String) (files : List ModuleFile) : Part :=
  .join (files.filterMap (ModuleFile.part? crate))

namespace Collection

/-! ## Adding a part -/

/-- Adds what some declarations say. -/
def add (c : Collection) (p : Part) : Collection where
  crate := c.crate
  catalog := (p.types.foldl Catalog.push c.catalog).recordScopes p.scopes
  blocks := c.blocks ++ p.blocks
  testModules := c.testModules ++ p.testModules
  duplicates := c.duplicates ++ c.catalog.refused p.types

/-- Adding nothing leaves a collection as it is. -/
theorem add_empty (c : Collection) : c.add {} = c := by
  simp [add, Catalog.recordScopes, Catalog.refused]

/-- Adding two parts together is adding one after the other. -/
theorem add_append (c : Collection) (p q : Part) : c.add (p ++ q) = (c.add p).add q := by
  have hcatalog : (c.add (p ++ q)).catalog = ((c.add p).add q).catalog := by
    change ((p.types ++ q.types).foldl Catalog.push c.catalog).recordScopes (p.scopes ++ q.scopes) =
      (q.types.foldl Catalog.push
        ((p.types.foldl Catalog.push c.catalog).recordScopes p.scopes)).recordScopes q.scopes
    rw [Catalog.foldl_push_recordScopes, List.foldl_append, Catalog.recordScopes_append]
  have hduplicates : (c.add (p ++ q)).duplicates = ((c.add p).add q).duplicates := by
    change c.duplicates ++ c.catalog.refused (p.types ++ q.types) =
      c.duplicates ++ c.catalog.refused p.types ++
        ((p.types.foldl Catalog.push c.catalog).recordScopes p.scopes).refused q.types
    rw [Catalog.refused_recordScopes, Catalog.refused_append, List.append_assoc]
  have hblocks : (c.add (p ++ q)).blocks = ((c.add p).add q).blocks := by simp [add]
  have htests : (c.add (p ++ q)).testModules = ((c.add p).add q).testModules := by simp [add]
  calc c.add (p ++ q)
      = ⟨c.crate, (c.add (p ++ q)).catalog, (c.add (p ++ q)).blocks,
          (c.add (p ++ q)).testModules, (c.add (p ++ q)).duplicates⟩ := rfl
    _ = (c.add p).add q := by rw [hcatalog, hblocks, htests, hduplicates]; rfl

/-- Adding a type declares it, or notes it as a duplicate if its name is taken. -/
theorem add_type (c : Collection) (t : TypeDecl) :
    c.add { types := [t] } =
      if c.catalog.declares t.name then { c with duplicates := c.duplicates ++ [t.name] }
      else { c with catalog := c.catalog.push t } := by
  unfold add Catalog.refused Catalog.recordScopes
  split
  · rename_i htaken
    have hpush : c.catalog.push t = c.catalog := if_pos htaken
    simp [hpush, Catalog.refused]
  · simp [Catalog.refused]

/-- Adding the end of a module sets the imports of the module. -/
theorem add_scope (c : Collection) (module : String) (s : Scope) :
    c.add { scopes := [(module, s)] } = c.setScope module s := by
  unfold add setScope Catalog.recordScopes
  simp only [List.foldl_nil, List.foldl_cons, Catalog.recordScope, Catalog.refused, List.append_nil]
  split <;> rfl

/-- Adding a block puts it behind the others. -/
theorem add_block (c : Collection) (b : Block) :
    c.add { blocks := [b] } = { c with blocks := c.blocks ++ [b] } := by
  simp [add, Catalog.recordScopes, Catalog.refused]

/-- Adding a test module notes its name. -/
theorem add_testModule (c : Collection) (module : String) :
    c.add { testModules := [module] } = c.addTestModule module := by
  simp [add, addTestModule, Catalog.recordScopes, Catalog.refused]

/-! ## Reading -/

/-- Reading a type adds what it says, or stops. -/
theorem addType_eq (c : Collection) (module name : String) (kind : Kind) (attributes : List Meta)
    (fields : List String) :
    c.addType module name kind attributes fields =
      c.orStop ((typePart? module name kind attributes fields).map c.add) := by
  unfold addType typePart?
  cases annotations? attributes with
  | none => rfl
  | some annotations =>
    rw [Option.map_some, Option.map_some, add_type]
    simp only [orStop, bind, Except.bind, pure, Except.pure]
    split <;> rfl

/-- Reading a block adds what its methods say, or stops. -/
theorem addBlock_eq (c : Collection) (module : String) (ofTrait : Option Grammar.Path)
    (selfType : TypeForm) (functions : List Function) :
    c.addBlock module ofTrait selfType functions =
      c.orStop ((blockPart? module ofTrait selfType functions).map c.add) := by
  unfold addBlock blockPart?
  cases selfType with
  | path path =>
    dsimp only
    cases methods? module ofTrait (functions.filter (!isTestOnly ·.attributes)) with
    | none => rfl
    | some methods =>
      simp only [orStop, bind, Except.bind, pure, Except.pure, Option.map_some]
      split
      · rw [add_empty]
      · rw [add_block]
  | bounds single => exact congrArg Except.ok (add_empty c).symm
  | parenthesized => exact congrArg Except.ok (add_empty c).symm
  | other => exact congrArg Except.ok (add_empty c).symm

/-- The result of reading a declaration. -/
def readingOf (c : Collection) (p? : Option (Part × Scope)) (front : Part) :
    Reading (Collection × Scope) :=
  match p? with
  | some (p, s) => .ok (c.add p, s)
  | none => .error (c.add front)

/-- A declaration for tests only says nothing, and its reading never stops. -/
theorem ifTest_eq (c : Collection) (s : Scope) (attributes : List Meta)
    {r : Reading (Collection × Scope)} {p? : Option (Part × Scope)} {front : Part}
    (h : r = c.readingOf p? front) :
    (if isTestOnly attributes then pure (c, s) else r) =
      c.readingOf (if isTestOnly attributes then some ({}, s) else p?) front := by
  split
  · rw [readingOf, add_empty]
    rfl
  · exact h

/-- Reading that stops or adds a part, with the imports as they are, is the reading of a declaration
that says the part. -/
theorem orStop_bind_eq (c : Collection) (s : Scope) (p? : Option Part) :
    (c.orStop (p?.map c.add) >>= fun c => (pure (c, s) : Reading (Collection × Scope))) =
      c.readingOf (p?.map (·, s)) {} := by
  cases p? with
  | none => exact congrArg Except.error (add_empty c).symm
  | some p => rfl

mutual

/-- Reading a declaration adds what it says, or what it says in front of where reading stops. -/
theorem readItem_eq (module : String) (c : Collection) (s : Scope) : (item : Item) →
    c.readItem module s item = c.readingOf (itemPart? module s item) (itemFront module item)
  | .type kind attributes name fields => by
    have hfront : itemFront module (.type kind attributes name fields) = {} := by simp [itemFront]
    rw [readItem, itemPart?, hfront]
    refine ifTest_eq c s attributes ?_
    rw [addType_eq]
    exact orStop_bind_eq c s _
  | .implementation attributes ofTrait selfType functions => by
    have hfront : itemFront module (.implementation attributes ofTrait selfType functions) = {} := by
      simp [itemFront]
    rw [readItem, itemPart?, hfront]
    refine ifTest_eq c s attributes ?_
    rw [addBlock_eq]
    exact orStop_bind_eq c s _
  | .module attributes name (some items) => by
    rw [readItem, itemPart?, itemFront]
    refine ifTest_eq c s attributes ?_
    rw [readItems_eq (module ++ "::" ++ name) c {} items]
    cases itemsPart? (module ++ "::" ++ name) {} items with
    | none => rfl
    | some p => rfl
  | .module attributes name none => by
    rw [readItem, itemPart?, readingOf]
    split
    · rw [add_testModule]
    · rw [add_empty]
  | .imports _ absolute tree => by
    rw [readItem, itemPart?, readingOf, add_empty]
  | .other => by
    rw [readItem, itemPart?, readingOf, add_empty]

/-- Reading the declarations of a module adds what they say, or what they say in front of where
reading stops. -/
theorem readItems_eq (module : String) (c : Collection) (s : Scope) : (items : List Item) →
    c.readItems module s items =
      match itemsPart? module s items with
      | some p => .ok (c.add p)
      | none => .error (c.add (itemsFront module s items))
  | [] => by
    rw [readItems, itemsPart?]
    exact congrArg Except.ok (add_scope c module s).symm
  | item :: rest => by
    rw [readItems, itemsPart?, itemsFront, readItem_eq module c s item]
    cases itemPart? module s item with
    | none => rfl
    | some x =>
      obtain ⟨p, s'⟩ := x
      -- the other declarations are read on top of what the first one has added
      have hrest := readItems_eq module (c.add p) s' rest
      change (c.add p).readItems module s' rest = _
      rw [hrest]
      cases hpart : itemsPart? module s' rest with
      | none => simp only [Option.bind_some, hpart, Option.map_none, add_append]
      | some q => simp only [Option.bind_some, hpart, Option.map_some, add_append]

end

/-- Reading a file adds what it says, or what it says in front of where reading stops. -/
theorem readModule_eq (c : Collection) (f : ModuleFile) :
    c.readModule f.segments f.text =
      match f.part? c.crate with
      | some p => .ok (c.add p)
      | none => .error (c.add (f.front c.crate)) := by
  unfold readModule ModuleFile.part? ModuleFile.front
  cases parseFile? f.text with
  | none => exact congrArg Except.error (add_empty c).symm
  | some items => exact readItems_eq _ c {} items

/-- What is made of the result of a reading is made of a collection. -/
theorem exists_ok_of_map {α : Type} {r : Reading Collection} {f : Collection → α} {y : α}
    (h : r.map f = .ok y) : ∃ c, r = .ok c ∧ f c = y := by
  cases r with
  | error c => cases h
  | ok c => exact ⟨c, rfl, Except.ok.inj h⟩

/-- Reads the files of a crate one after another, as long as they can be read. -/
def readFiles (c : Collection) (files : List ModuleFile) : Reading Collection :=
  files.foldlM (fun c f => c.readModule f.segments f.text) c

/-- Files are read one after another, until one of them cannot be read. -/
theorem readFiles_cons (c : Collection) (f : ModuleFile) (rest : List ModuleFile) :
    c.readFiles (f :: rest) = c.readModule f.segments f.text >>= fun c => c.readFiles rest :=
  List.foldlM_cons

/-- All files are read exactly if each of them can be, and then what they say is added. -/
theorem readFiles_eq_ok {c c' : Collection} {files : List ModuleFile} :
    c.readFiles files = .ok c' ↔
      (∀ f ∈ files, (f.part? c.crate).isSome = true) ∧ c' = c.add (.ofFiles c.crate files) := by
  induction files generalizing c with
  | nil =>
    have hempty : c.add (.ofFiles c.crate []) = c := add_empty c
    rw [hempty]
    constructor
    · intro hread
      exact ⟨nofun, (Except.ok.inj hread).symm⟩
    · rintro ⟨-, rfl⟩
      rfl
  | cons f rest ih =>
    rw [readFiles_cons, readModule_eq, List.forall_mem_cons]
    unfold Part.ofFiles at ih ⊢
    cases hpart : f.part? c.crate with
    | none =>
      constructor
      · intro hread
        cases hread
      · rintro ⟨⟨hsome, -⟩, -⟩
        cases hsome
    | some p =>
      rw [List.filterMap_cons_some hpart, Part.join_cons, add_append]
      have hrest : (c.add p).readFiles rest = .ok c' ↔ _ := ih
      refine hrest.trans ?_
      simp [add]

/-! ## The account of a collection -/

/-- What a collection holds after some declarations have been read. -/
structure Holds (crate : String) (p : Part) (c : Collection) : Prop where
  crate : c.crate = crate
  made : c.catalog.Made
  /-- Of each name the first declaration is known. -/
  types : c.catalog.types = firstsBy TypeDecl.name p.types
  /-- Of each module the last imports are known, if it has some. -/
  scopes : ∀ module, c.catalog.scopes.lookup module =
    (p.scopes.reverse.filter (!·.2.isEmpty)).lookup module
  blocks : c.blocks = p.blocks
  testModules : c.testModules = p.testModules

variable {crate : String} {p : Part} {c : Collection}

/-- The collection of a crate holds nothing before files are read. -/
theorem Holds.start (crate : String) : Holds crate {} { crate } :=
  ⟨rfl, .empty, rfl, fun _ => rfl, rfl, rfl⟩

/-- After adding a part, a collection holds this part too. -/
theorem Holds.add (h : c.Holds crate p) (q : Part) : (c.add q).Holds crate (p ++ q) := by
  obtain ⟨hmade, htypes, hscopes⟩ := h.made.foldl_push h.types q.types
  constructor
  case crate => exact h.crate
  case made => exact hmade.recordScopes q.scopes
  case types => exact htypes
  case scopes =>
    intro module
    change ((q.types.foldl Catalog.push c.catalog).recordScopes q.scopes).scopes.lookup module = _
    rw [Catalog.lookup_recordScopes, hscopes, h.scopes, Part.scopes_append, List.reverse_append,
      List.filter_append, List.lookup_append]
  case blocks => rw [Collection.add, h.blocks, Part.blocks_append]
  case testModules => rw [Collection.add, h.testModules, Part.testModules_append]

/-- If files are read one after another, each of them can be read, and the collection holds what
they say. -/
theorem holds_readFiles {files : List ModuleFile} {c' : Collection} (h : c.Holds crate p)
    (hread : c.readFiles files = .ok c') :
    (∀ f ∈ files, (f.part? crate).isSome = true) ∧ c'.Holds crate (p ++ .ofFiles crate files) := by
  obtain ⟨hparts, rfl⟩ := readFiles_eq_ok.1 hread
  rw [h.crate] at hparts ⊢
  exact ⟨hparts, h.add _⟩

/-- Files of which each can be read can be read one after another. -/
theorem exists_readFiles {files : List ModuleFile} (h : c.Holds crate p)
    (hparts : ∀ f ∈ files, (f.part? crate).isSome = true) :
    ∃ c', c.readFiles files = .ok c' := by
  rw [← h.crate] at hparts
  exact ⟨_, readFiles_eq_ok.2 ⟨hparts, rfl⟩⟩

end Collection

end ExprGate.Source
