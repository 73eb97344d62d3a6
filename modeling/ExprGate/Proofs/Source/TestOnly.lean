import ExprGate.Proofs.Source.Finishing

/-!
# Declarations for tests only

A crate without some of its declarations for tests only is `Pruned`: types, `impl` blocks, methods
and modules in place may be left out, at any depth. Such declarations are passed over by reading, so
what is read of the crate, and what is reported, is the same without them (`readFiles_pruned`).
Imports are not passed over: an import for tests only counts like any other
(`finish_readsTestImport`), so leaving it out may change the imports of its module, but nothing else
that is read.
-/

set_option autoImplicit false

namespace ExprGate.Source

open Declaration Grammar

/-! ## Pruned crates -/

/-- The declarations that may be left out. The flag says whether imports are among them. Test
modules in files of their own are not; of declarations of other kinds nothing is read anyway. -/
def isRemovable (imports : Bool) : Item → Bool
  | .type _ attributes _ _ => isTestOnly attributes
  | .implementation attributes _ _ _ => isTestOnly attributes
  | .module attributes _ (some _) => isTestOnly attributes
  | .module _ _ none => false
  | .imports attributes _ _ => imports && isTestOnly attributes
  | .other => true

/-- Functions without some that are for tests only. -/
inductive PrunedFunctions : List Function → List Function → Prop
  | nil : PrunedFunctions [] []
  | keep (f : Function) {fs fs' : List Function} (h : PrunedFunctions fs fs') :
    PrunedFunctions (f :: fs) (f :: fs')
  | drop {f : Function} {fs fs' : List Function} (htest : isTestOnly f.attributes = true)
    (h : PrunedFunctions fs fs') : PrunedFunctions (f :: fs) fs'

/-- Declarations without some that may be left out, at any depth. -/
inductive Pruned (imports : Bool) : List Item → List Item → Prop
  | nil : Pruned imports [] []
  | keep (item : Item) {rest rest' : List Item} (h : Pruned imports rest rest') :
    Pruned imports (item :: rest) (item :: rest')
  | drop {item : Item} {rest rest' : List Item} (hitem : isRemovable imports item = true)
    (h : Pruned imports rest rest') : Pruned imports (item :: rest) rest'
  | methods (attributes : List Meta) (ofTrait : Option Grammar.Path) (selfType : TypeForm)
    {fs fs' : List Function} {rest rest' : List Item} (hfs : PrunedFunctions fs fs')
    (h : Pruned imports rest rest') :
    Pruned imports (.implementation attributes ofTrait selfType fs :: rest)
      (.implementation attributes ofTrait selfType fs' :: rest')
  | inside (attributes : List Meta) (name : String) {items items' rest rest' : List Item}
    (hitems : Pruned imports items items') (h : Pruned imports rest rest') :
    Pruned imports (.module attributes name (some items) :: rest)
      (.module attributes name (some items') :: rest')

/-- A file without some declarations that may be left out. -/
structure ModuleFile.Pruned (imports : Bool) (f f' : ModuleFile) : Prop where
  segments : f.segments = f'.segments
  items : ∃ items items', parseFile? f.text = some items ∧ parseFile? f'.text = some items' ∧
    Source.Pruned imports items items'

/-- Nothing needs to be left out. -/
theorem Pruned.refl (imports : Bool) (items : List Item) : Pruned imports items items := by
  induction items with
  | nil => exact .nil
  | cons item rest ih => exact .keep item ih

/-- Without functions for tests only, those that count are the same. -/
theorem PrunedFunctions.filter_eq {fs fs' : List Function} (h : PrunedFunctions fs fs') :
    fs.filter (!isTestOnly ·.attributes) = fs'.filter (!isTestOnly ·.attributes) := by
  induction h with
  | nil => rfl
  | keep f _ ih => rw [List.filter_cons, List.filter_cons, ih]
  | drop htest _ ih => rw [List.filter_cons_of_neg (by simp [htest]), ih]

/-! ## What pruned declarations say -/

/-- Parts that say the same. The flag says whether they may differ in their imports. -/
structure Part.SameBut (imports : Bool) (p p' : Part) : Prop where
  types : p.types = p'.types
  blocks : p.blocks = p'.blocks
  testModules : p.testModules = p'.testModules
  scopes : imports = false → p.scopes = p'.scopes

variable {imports : Bool}

/-- A part says the same as itself. -/
theorem Part.SameBut.refl (p : Part) : p.SameBut imports p :=
  ⟨rfl, rfl, rfl, fun _ => rfl⟩

/-- Parts that say the same, with the same imports, are equal. -/
theorem Part.SameBut.eq {p p' : Part} (h : p.SameBut false p') : p = p' := by
  obtain ⟨types, scopes, blocks, testModules⟩ := p
  obtain ⟨types', scopes', blocks', testModules'⟩ := p'
  obtain ⟨htypes, hblocks, htests, hscopes⟩ := h
  dsimp only at htypes hblocks htests hscopes
  rw [htypes, hblocks, htests, hscopes rfl]

/-- Parts say the same one behind the other, if both do. -/
theorem Part.SameBut.append {p p' q q' : Part} (h : p.SameBut imports p')
    (hq : q.SameBut imports q') : (p ++ q).SameBut imports (p' ++ q') where
  types := by rw [types_append, types_append, h.types, hq.types]
  blocks := by rw [blocks_append, blocks_append, h.blocks, hq.blocks]
  testModules := by rw [testModules_append, testModules_append, h.testModules, hq.testModules]
  scopes himports := by
    rw [scopes_append, scopes_append, h.scopes himports, hq.scopes himports]

/-- What a declaration says does not depend on the imports that are known in front of it. -/
theorem itemPart?_scope (module : String) {s s' t : Scope} {p : Part} {item : Item}
    (hs : imports = false → s = s') (h : itemPart? module s item = some (p, t)) :
    ∃ t', itemPart? module s' item = some (p, t') ∧ (imports = false → t = t') := by
  cases himports : imports with
  | false =>
    obtain rfl := hs himports
    exact ⟨t, h, fun _ => rfl⟩
  | true =>
    have hfst : (itemPart? module s item).map Prod.fst = (itemPart? module s' item).map Prod.fst := by
      cases item with
      | type kind attributes name fields =>
        rw [itemPart?, itemPart?]
        split
        · rfl
        · cases typePart? module name kind attributes fields <;> rfl
      | implementation attributes ofTrait selfType functions =>
        rw [itemPart?, itemPart?]
        split
        · rfl
        · cases blockPart? module ofTrait selfType functions <;> rfl
      | module attributes name content =>
        cases content with
        | none =>
          rw [itemPart?, itemPart?]
          rfl
        | some items =>
          rw [itemPart?, itemPart?]
          split
          · rfl
          · cases itemsPart? (module ++ "::" ++ name) {} items <;> rfl
      | imports attributes absolute tree =>
        rw [itemPart?, itemPart?]
        rfl
      | other =>
        rw [itemPart?, itemPart?]
        rfl
    rw [h, Option.map_some] at hfst
    obtain ⟨⟨q, t'⟩, ht', rfl⟩ := Option.map_eq_some_iff.1 hfst.symm
    exact ⟨t', ht', nofun⟩

/-- A declaration that may be left out says nothing. -/
theorem itemPart?_of_isRemovable (module : String) (s : Scope) {item : Item}
    (h : isRemovable imports item = true) :
    ∃ t, itemPart? module s item = some ({}, t) ∧ (imports = false → t = s) := by
  cases item with
  | type kind attributes name fields =>
    have htest : isTestOnly attributes = true := h
    rw [itemPart?, if_pos htest]
    exact ⟨s, rfl, fun _ => rfl⟩
  | implementation attributes ofTrait selfType functions =>
    have htest : isTestOnly attributes = true := h
    rw [itemPart?, if_pos htest]
    exact ⟨s, rfl, fun _ => rfl⟩
  | module attributes name content =>
    cases content with
    | none => cases h
    | some items =>
      have htest : isTestOnly attributes = true := h
      rw [itemPart?, if_pos htest]
      exact ⟨s, rfl, fun _ => rfl⟩
  | imports attributes absolute tree =>
    have himports : imports = true := (Bool.and_eq_true_iff.1 h).1
    rw [itemPart?]
    exact ⟨_, rfl, fun hfalse => absurd (himports.symm.trans hfalse) nofun⟩
  | other =>
    rw [itemPart?]
    exact ⟨s, rfl, fun _ => rfl⟩

/-- What an item says in one place, another one says in another place, at most with other imports.
-/
def Agrees (imports : Bool) (x? y? : Option (Part × Scope)) : Prop :=
  ∀ p t, x? = some (p, t) →
    ∃ p' t', y? = some (p', t') ∧ p.SameBut imports p' ∧ (imports = false → t = t')

/-- A declaration says the same with other imports known in front of it, up to imports. -/
theorem agrees_itemPart? (module : String) {s s' : Scope} (item : Item)
    (hs : imports = false → s = s') :
    Agrees imports (itemPart? module s item) (itemPart? module s' item) := by
  intro p t h
  obtain ⟨t', h', ht⟩ := itemPart?_scope module hs h
  exact ⟨p, t', h', .refl p, ht⟩

/-- A block says the same without functions that are for tests only. -/
theorem itemPart?_methods (module : String) (s : Scope) (attributes : List Meta)
    (ofTrait : Option Grammar.Path) (selfType : TypeForm) {fs fs' : List Function}
    (h : PrunedFunctions fs fs') :
    itemPart? module s (.implementation attributes ofTrait selfType fs) =
      itemPart? module s (.implementation attributes ofTrait selfType fs') := by
  have hblock : blockPart? module ofTrait selfType fs = blockPart? module ofTrait selfType fs' := by
    unfold blockPart?
    rw [h.filter_eq]
  rw [itemPart?, itemPart?, hblock]

/-- The first declaration and the others can be looked at one after the other. -/
theorem itemsPart?_cons {module : String} {s s' : Scope} {item item' : Item}
    {rest rest' : List Item} {p : Part}
    (hitem : Agrees imports (itemPart? module s item) (itemPart? module s' item'))
    (hrest : ∀ {t t' : Scope}, (imports = false → t = t') → ∀ {r : Part},
      itemsPart? module t rest = some r →
        ∃ r', itemsPart? module t' rest' = some r' ∧ r.SameBut imports r')
    (hp : itemsPart? module s (item :: rest) = some p) :
    ∃ p', itemsPart? module s' (item' :: rest') = some p' ∧ p.SameBut imports p' := by
  rw [itemsPart?] at hp ⊢
  obtain ⟨⟨q, t⟩, hq, hp⟩ := Option.bind_eq_some_iff.1 hp
  obtain ⟨r, hr, rfl⟩ := Option.map_eq_some_iff.1 hp
  obtain ⟨q', t', hq', hsame, ht⟩ := hitem q t hq
  obtain ⟨r', hr', hsame'⟩ := hrest ht hr
  rw [hq', Option.bind_some]
  exact ⟨q' ++ r', Option.map_eq_some_iff.2 ⟨r', hr', rfl⟩, hsame.append hsame'⟩

/-- Pruned declarations say the same, at most with other imports. -/
theorem itemsPart?_pruned {items items' : List Item} (h : Pruned imports items items')
    (module : String) {s s' : Scope} (hs : imports = false → s = s') {p : Part}
    (hp : itemsPart? module s items = some p) :
    ∃ p', itemsPart? module s' items' = some p' ∧ p.SameBut imports p' := by
  induction h generalizing module s s' p with
  | nil =>
    rw [itemsPart?] at hp
    obtain rfl := Option.some.inj hp
    rw [itemsPart?]
    exact ⟨_, rfl, rfl, rfl, rfl, fun himports => by rw [hs himports]⟩
  | keep item _ ih => exact itemsPart?_cons (agrees_itemPart? module item hs) (ih module) hp
  | @drop item rest rest' hitem _ ih =>
    rw [itemsPart?] at hp
    obtain ⟨t, hnothing, ht⟩ := itemPart?_of_isRemovable module s hitem
    rw [hnothing, Option.bind_some] at hp
    obtain ⟨r, hrest, rfl⟩ := Option.map_eq_some_iff.1 hp
    exact ih module (fun himports => (ht himports).trans (hs himports)) hrest
  | methods attributes ofTrait selfType hfs _ ih =>
    refine itemsPart?_cons ?_ (ih module) hp
    rw [itemPart?_methods module s attributes ofTrait selfType hfs]
    exact agrees_itemPart? module _ hs
  | @inside attributes name items items' rest rest' _ _ ihitems ih =>
    refine itemsPart?_cons ?_ (ih module) hp
    intro q t hq
    rw [itemPart?] at hq ⊢
    split at hq
    · rename_i htest
      obtain ⟨rfl, rfl⟩ := Prod.mk.inj (Option.some.inj hq)
      exact ⟨_, s', if_pos htest, .refl _, hs⟩
    · rename_i htest
      obtain ⟨q, hinner, heq⟩ := Option.map_eq_some_iff.1 hq
      obtain ⟨rfl, rfl⟩ := Prod.mk.inj heq
      obtain ⟨q', hinner', hsame⟩ := ihitems (module ++ "::" ++ name) (fun _ => rfl) hinner
      rw [if_neg htest, hinner']
      exact ⟨q', s', rfl, hsame, hs⟩

/-- A file says the same without declarations that may be left out, up to imports. -/
theorem part?_pruned {crate : String} {f f' : ModuleFile} (h : f.Pruned imports f') {p : Part}
    (hp : f.part? crate = some p) : ∃ p', f'.part? crate = some p' ∧ p.SameBut imports p' := by
  obtain ⟨hsegments, items, items', hitems, hitems', hpruned⟩ := h
  unfold ModuleFile.part? at hp ⊢
  rw [hitems, Option.bind_some] at hp
  rw [hitems', Option.bind_some, ← hsegments]
  exact itemsPart?_pruned hpruned _ (fun _ => rfl) hp

/-- Pruned files say the same, at most with other imports. -/
theorem ofFiles_pruned {crate : String} {files files' : List ModuleFile}
    (h : List.Forall₂ (ModuleFile.Pruned imports) files files')
    (hparts : ∀ f ∈ files, (f.part? crate).isSome = true) :
    (∀ f ∈ files', (f.part? crate).isSome = true) ∧
      (Part.ofFiles crate files).SameBut imports (.ofFiles crate files') := by
  unfold Part.ofFiles
  induction h with
  | nil => exact ⟨nofun, .refl _⟩
  | @cons f f' rest rest' hf _ ih =>
    obtain ⟨hfirst, hrest⟩ := List.forall_mem_cons.1 hparts
    obtain ⟨p, hp⟩ := Option.isSome_iff_exists.1 hfirst
    obtain ⟨p', hp', hsame⟩ := part?_pruned hf hp
    obtain ⟨hparts', hsame'⟩ := ih hrest
    rw [List.filterMap_cons_some hp, List.filterMap_cons_some hp', Part.join_cons, Part.join_cons]
    refine ⟨List.forall_mem_cons.2 ⟨?_, hparts'⟩, hsame.append hsame'⟩
    rw [hp']
    rfl

/-! ## Main results -/

/-- Collections that are the same, at most with other imports. -/
structure Collection.SameButImports (c c' : Collection) : Prop where
  crate : c.crate = c'.crate
  types : c.catalog.types = c'.catalog.types
  index : c.catalog.index = c'.catalog.index
  blocks : c.blocks = c'.blocks
  testModules : c.testModules = c'.testModules
  duplicates : c.duplicates = c'.duplicates

/-- Parts that say the same are added alike, up to imports. -/
theorem Part.SameBut.add {p p' : Part} (h : p.SameBut imports p') (c : Collection) :
    (c.add p).SameButImports (c.add p') where
  crate := rfl
  types := by rw [Collection.add, Collection.add, h.types]; rfl
  index := by rw [Collection.add, Collection.add, h.types]; rfl
  blocks := by rw [Collection.add, Collection.add, h.blocks]
  testModules := by rw [Collection.add, Collection.add, h.testModules]
  duplicates := by rw [Collection.add, Collection.add, h.types]

/-- For all files of a crate that can be read, and any choice of declarations for tests only that
are left out: the other declarations can be read too. If no imports are left out, the declarations
of the crate and the reports are the same; otherwise at most the imports differ that are known. -/
theorem readFiles_pruned {crate : String} {files files' : List ModuleFile}
    (hpruned : List.Forall₂ (ModuleFile.Pruned imports) files files') {c : Collection}
    (hread : Collection.readFiles { crate } files = .ok c) :
    ∃ c', Collection.readFiles { crate } files' = .ok c' ∧ c.SameButImports c' ∧
      (imports = false → c.finish = c'.finish) := by
  obtain ⟨hparts, rfl⟩ := Collection.readFiles_eq_ok.1 hread
  obtain ⟨hparts', hsame⟩ := ofFiles_pruned hpruned hparts
  refine ⟨_, Collection.readFiles_eq_ok.2 ⟨hparts', rfl⟩, hsame.add { crate }, ?_⟩
  rintro rfl
  have hparts : Part.ofFiles crate files = .ofFiles crate files' := hsame.eq
  rw [hparts]

/-- A file with a type. -/
def claimsFile : ModuleFile where
  segments := []
  text := "pub mod auth \x7b pub struct Claims; \x7d\n"

/-- A file with declarations for tests only. -/
def mocksFile : ModuleFile where
  segments := ["mocks"]
  text := "#[cfg(test)]\npub struct Mock;\n#[cfg(test)]\nimpl Mock \x7b pub fn run(&self) \x7b\x7d \x7d\n"

/-- A file with an import for tests only. -/
def testImportFile : ModuleFile where
  segments := []
  text := "#[cfg(test)]\nuse auth::Claims as Token;\n"

/-- Declarations that may all be left out come to none. -/
theorem pruned_of_all_removable {items : List Item}
    (h : items.all (isRemovable imports) = true) : Pruned imports items [] := by
  induction items with
  | nil => exact .nil
  | cons item rest ih =>
    obtain ⟨hitem, hrest⟩ := Bool.and_eq_true_iff.1 (List.all_cons.symm.trans h)
    exact .drop hitem (ih hrest)

/-- A file of which everything may be left out is pruned to an empty text. -/
theorem ModuleFile.pruned_empty {f : ModuleFile}
    (h : (parseFile? f.text).map (·.all (isRemovable imports)) = some true) :
    f.Pruned imports ⟨f.segments, ""⟩ := by
  have hempty : (parseFile? "").map List.isEmpty = some true := by decide +kernel
  obtain ⟨items, hitems, hall⟩ := Option.map_eq_some_iff.1 h
  obtain ⟨none, hnone, hnil⟩ := Option.map_eq_some_iff.1 hempty
  obtain rfl := List.isEmpty_iff.1 hnil
  exact ⟨rfl, items, [], hitems, hnone, pruned_of_all_removable hall⟩

/-- From a file that can be read nothing needs to be left out. -/
theorem ModuleFile.pruned_self {f : ModuleFile} (h : (parseFile? f.text).isSome = true) :
    f.Pruned imports f := by
  obtain ⟨items, hitems⟩ := Option.isSome_iff_exists.1 h
  exact ⟨rfl, items, items, hitems, hitems, .refl imports items⟩

/-- Without the type for tests, the declarations of the crate are the same. -/
theorem readFiles_pruned_mocks :
    ∃ c c', Collection.readFiles { crate := "app" } [claimsFile, mocksFile] = .ok c ∧
      Collection.readFiles { crate := "app" } [claimsFile, ⟨["mocks"], ""⟩] = .ok c' ∧
      c.finish = c'.finish := by
  have hparts : ∀ f ∈ [claimsFile, mocksFile], (f.part? "app").isSome = true := by decide +kernel
  have hclaims : claimsFile.Pruned false claimsFile := ModuleFile.pruned_self (by decide +kernel)
  have hmocks : mocksFile.Pruned false ⟨["mocks"], ""⟩ :=
    ModuleFile.pruned_empty (by decide +kernel)
  obtain ⟨c, hread⟩ := Collection.exists_readFiles (.start "app") hparts
  obtain ⟨c', hread', -, hfinish⟩ := readFiles_pruned (.cons hclaims (.cons hmocks .nil)) hread
  exact ⟨c, c', hread, hread', hfinish rfl⟩

/-- Without the import for tests, a path that is written through it stands for nothing. -/
theorem finish_readsTestImport :
    List.Forall₂ (ModuleFile.Pruned true) [claimsFile, testImportFile] [claimsFile, ⟨[], ""⟩] ∧
      ∃ c c', Collection.readFiles { crate := "app" } [claimsFile, testImportFile] = .ok c ∧
        Collection.readFiles { crate := "app" } [claimsFile, ⟨[], ""⟩] = .ok c' ∧
        c.finish.1.resolveName? "app" "Token" = some "app::auth::Claims" ∧
        c'.finish.1.resolveName? "app" "Token" = none := by
  have hclaims : claimsFile.Pruned true claimsFile := ModuleFile.pruned_self (by decide +kernel)
  have himport : testImportFile.Pruned true ⟨[], ""⟩ :=
    ModuleFile.pruned_empty (by decide +kernel)
  have hfound : (Collection.readFiles { crate := "app" } [claimsFile, testImportFile]).map
      (·.finish.1.resolveName? "app" "Token") = .ok (some "app::auth::Claims") := by
    decide +kernel
  have hlost : (Collection.readFiles { crate := "app" } [claimsFile, ⟨[], ""⟩]).map
      (·.finish.1.resolveName? "app" "Token") = .ok none := by
    decide +kernel
  obtain ⟨c, hread, hname⟩ := Collection.exists_ok_of_map hfound
  obtain ⟨c', hread', hname'⟩ := Collection.exists_ok_of_map hlost
  exact ⟨.cons hclaims (.cons himport .nil), c, c', hread, hread', hname, hname'⟩

end ExprGate.Source
