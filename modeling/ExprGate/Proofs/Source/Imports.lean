import ExprGate.Proofs.Source.Finishing

/-!
# The imports of a module

A module can be read in several blocks: in several files, and in several places of a file. Each
block introduces some imports (`Import`), which its tree of imports lists from left to right
(`addTree_eq`). The imports of a module at the end are those of its last block that imports
something (`finish_imports`), so an import of an earlier block is kept only if the last block
introduces it too.
-/

set_option autoImplicit false

namespace ExprGate.Source

open Declaration Grammar

/-! ## Imports of a tree -/

/-- What one leaf of a tree of imports introduces. -/
inductive Import where
  /-- A name that stands for a path. -/
  | named (name path : String)
  /-- A path below which everything is imported. -/
  | glob (path : String)
deriving DecidableEq

mutual

/-- The imports that a tree introduces below some segments, from left to right. -/
def treeImports (absolute : Bool) (above : List String) : UseTree → List Import
  | .path first tree => treeImports absolute (above ++ [first]) tree
  | .name name =>
    if name == "self" then
      (above.getLast?.map fun last => Import.named last (importPath absolute above)).toList
    else [.named name (importPath absolute (above ++ [name]))]
  | .rename name shown =>
    if shown == "_" then []
    else [.named shown (importPath absolute (if name == "self" then above else above ++ [name]))]
  | .glob => [.glob (importPath absolute above)]
  | .group trees => treesImports absolute above trees

/-- The imports that trees introduce below some segments, one tree after another. -/
def treesImports (absolute : Bool) (above : List String) : List UseTree → List Import
  | [] => []
  | tree :: rest => treeImports absolute above tree ++ treesImports absolute above rest

end

end ExprGate.Source

namespace ExprGate.Declaration.Scope

open Source (Import)

/-- Adds an import. -/
def addImport (s : Scope) : Import → Scope
  | .named name path => s.addAlias name path
  | .glob path => s.addGlob path

/-- Some imports, of which the last of each name counts. -/
def ofImports (is : List Import) : Scope :=
  is.foldl addImport {}

/-- One import more is added to the others. -/
theorem ofImports_concat (is : List Import) (i : Import) :
    ofImports (is ++ [i]) = (ofImports is).addImport i := by
  unfold ofImports
  rw [List.foldl_concat]

/-- A new import counts for its name, and other names stand for what they stood for. -/
theorem target?_addAlias (s : Scope) (name path other : String) :
    (s.addAlias name path).target? other = if other = name then some path else s.target? other := by
  unfold addAlias target?
  rw [List.lookup_append]
  by_cases hname : other = name
  · have hnone : (s.aliases.filter (·.1 != name)).lookup other = none := by
      rw [List.lookup_eq_none_iff]
      intro x hx
      have hother : (x.1 != name) = true := (List.mem_filter.1 hx).2
      rw [hname, bne_comm]
      exact hother
    rw [hnone, if_pos hname, Option.none_or, List.lookup_cons, hname, beq_self_eq_true]
  · rw [lookup_filter_of_ne hname, if_neg hname]
    simp [hname]

/-- A name stands for a path for which it has been introduced. -/
theorem mem_of_target?_ofImports {is : List Import} {name path : String}
    (h : (ofImports is).target? name = some path) : .named name path ∈ is := by
  induction is using List.reverseRecOn with
  | nil => cases h
  | append_singleton is i ih =>
    rw [ofImports_concat] at h
    rw [List.mem_append, List.mem_singleton]
    cases i with
    | named other target =>
      rw [addImport, target?_addAlias] at h
      split at h
      · rename_i hname
        obtain rfl := Option.some.inj h
        exact .inr (by rw [hname])
      · exact .inl (ih h)
    | glob target => exact .inl (ih h)

/-- Every name that is introduced stands for something. -/
theorem isSome_target?_ofImports {is : List Import} {name : String} :
    ((ofImports is).target? name).isSome = true ↔ ∃ path, .named name path ∈ is := by
  constructor
  · intro h
    obtain ⟨path, hpath⟩ := Option.isSome_iff_exists.1 h
    exact ⟨path, mem_of_target?_ofImports hpath⟩
  · rintro ⟨path, hpath⟩
    induction is using List.reverseRecOn with
    | nil => cases hpath
    | append_singleton is i ih =>
      have hold : .named name path ∈ is → ((ofImports is).target? name).isSome = true := ih
      rw [List.mem_append, List.mem_singleton] at hpath
      rw [ofImports_concat]
      cases i with
      | named other target =>
        rw [addImport, target?_addAlias]
        split
        · rfl
        · rename_i hname
          obtain hpath | hpath := hpath
          · exact hold hpath
          · exact absurd (Import.named.inj hpath).1 hname
      | glob target =>
        obtain hpath | hpath := hpath
        · exact hold hpath
        · cases hpath

/-- Everything is imported below the paths of which an import says so. -/
theorem mem_globs_ofImports {is : List Import} {path : String} :
    path ∈ (ofImports is).globs ↔ .glob path ∈ is := by
  induction is using List.reverseRecOn with
  | nil => simp [ofImports]
  | append_singleton is i ih =>
    rw [ofImports_concat, List.mem_append, List.mem_singleton, ← ih]
    cases i with
    | named name target => simp [addImport, addAlias]
    | glob target => simp [addImport, addGlob]

/-- Nothing is imported exactly if there are no imports. -/
theorem isEmpty_ofImports {is : List Import} : (ofImports is).isEmpty = is.isEmpty := by
  cases is using List.reverseRecOn with
  | nil => rfl
  | append_singleton is i =>
    rw [ofImports_concat, Bool.eq_iff_iff]
    cases i with
    | named name target => simp [addImport, addAlias, isEmpty]
    | glob target => simp [addImport, addGlob, isEmpty]

end ExprGate.Declaration.Scope

namespace ExprGate.Source

open Declaration Grammar

mutual

/-- Flattening a tree adds its imports from left to right, and comes back to where it was. -/
theorem flattenTree_eq (absolute : Bool) (f : Flattening) : (tree : UseTree) →
    flattenTree absolute f tree =
      ⟨f.above, (treeImports absolute f.above tree).foldl Scope.addImport f.scope⟩
  | .path first tree => by
    have hbelow := flattenTree_eq absolute (f.enter first) tree
    rw [flattenTree, treeImports, hbelow, Flattening.leave, Flattening.enter, List.dropLast_concat]
  | .name name => by
    rw [flattenTree, treeImports]
    split
    · rename_i hself
      cases f.above.getLast? with
      | none => rfl
      | some last => simp [Flattening.add, addLeaf, hself, Scope.addImport]
    · rename_i hself
      simp [Flattening.add, addLeaf, hself, Scope.addImport]
  | .rename name shown => by
    rw [flattenTree, treeImports]
    split
    · rfl
    · unfold Flattening.add addLeaf
      split <;> simp_all [Scope.addImport]
  | .glob => by
    rw [flattenTree, treeImports]
    rfl
  | .group trees => by
    rw [flattenTree, treeImports]
    exact flattenTrees_eq absolute f trees

/-- Flattening trees adds what they introduce, from left to right, and restores the segments in
front. -/
theorem flattenTrees_eq (absolute : Bool) (f : Flattening) : (trees : List UseTree) →
    flattenTrees absolute f trees =
      ⟨f.above, (treesImports absolute f.above trees).foldl Scope.addImport f.scope⟩
  | [] => by
    rw [flattenTrees, treesImports]
    rfl
  | tree :: rest => by
    rw [flattenTrees, treesImports, List.foldl_append, flattenTree_eq absolute f tree,
      flattenTrees_eq absolute _ rest]

end

/-- Adding a tree adds its imports from left to right. -/
theorem addTree_eq (absolute : Bool) (above : List String) (s : Scope) (tree : UseTree) :
    addTree absolute above s tree = (treeImports absolute above tree).foldl Scope.addImport s := by
  rw [addTree, flattenTree_eq]

/-! ## Blocks of modules -/

/-- The imports that a declaration introduces for the module around it. -/
def itemImports : Item → List Import
  | .imports _ absolute tree => treeImports absolute [] tree
  | _ => []

mutual

/-- The blocks of modules inside a declaration, with the imports of each. Modules for tests only are
passed over. -/
def itemBlocks (module : String) : Item → List (String × List Import)
  | .module attributes name (some items) =>
    if isTestOnly attributes then []
    else innerBlocks (module ++ "::" ++ name) items ++
      [(module ++ "::" ++ name, items.flatMap itemImports)]
  | _ => []

/-- The blocks of modules inside some declarations. -/
def innerBlocks (module : String) : List Item → List (String × List Import)
  | [] => []
  | item :: rest => itemBlocks module item ++ innerBlocks module rest

end

/-- The blocks of modules in a file, that of the file itself last. -/
def ModuleFile.blocks (crate : String) (f : ModuleFile) : List (String × List Import) :=
  match parseFile? f.text with
  | some items =>
    let module := Text.joinSegments (crate :: f.segments)
    innerBlocks module items ++ [(module, items.flatMap itemImports)]
  | none => []

/-- The imports of each block of a module that imports something, in the order in which the blocks
end. -/
def importsOf (crate : String) (files : List ModuleFile) (module : String) : List (List Import) :=
  ((files.flatMap (ModuleFile.blocks crate)).filter fun b => b.1 == module && !b.2.isEmpty).map
    Prod.snd

/-- A block ends no module. -/
theorem scopes_of_blockPart? {module : String} {ofTrait : Option Grammar.Path} {selfType : TypeForm}
    {functions : List Function} {p : Part}
    (h : blockPart? module ofTrait selfType functions = some p) : p.scopes = [] := by
  unfold blockPart? at h
  split at h
  · obtain ⟨methods, -, rfl⟩ := Option.map_eq_some_iff.1 h
    split <;> rfl
  · cases h
    rfl

/-- The imports of a block as they are recorded. -/
def recorded (b : String × List Import) : String × Scope :=
  (b.1, .ofImports b.2)

mutual

/-- A declaration adds its imports to those known, and the blocks inside it to those recorded. -/
theorem scopes_of_itemPart? (module : String) {s s' : Scope} {p : Part} : (item : Item) →
    itemPart? module s item = some (p, s') →
      p.scopes = (itemBlocks module item).map recorded ∧
        s' = (itemImports item).foldl Scope.addImport s
  | .type kind attributes name fields, h => by
    rw [itemPart?] at h
    split at h
    · cases h
      exact ⟨by simp [itemBlocks], rfl⟩
    · obtain ⟨q, hq, heq⟩ := Option.map_eq_some_iff.1 h
      obtain ⟨annotations, -, rfl⟩ := Option.map_eq_some_iff.1 hq
      cases heq
      exact ⟨by simp [itemBlocks], rfl⟩
  | .implementation attributes ofTrait selfType functions, h => by
    have hnone : itemBlocks module (.implementation attributes ofTrait selfType functions) = [] := by
      simp [itemBlocks]
    rw [itemPart?] at h
    rw [hnone]
    split at h
    · cases h
      exact ⟨rfl, rfl⟩
    · obtain ⟨q, hq, heq⟩ := Option.map_eq_some_iff.1 h
      cases heq
      exact ⟨scopes_of_blockPart? hq, rfl⟩
  | .module attributes name (some items), h => by
    rw [itemPart?] at h
    rw [itemBlocks]
    split at h
    · rename_i htest
      cases h
      rw [if_pos htest]
      exact ⟨rfl, rfl⟩
    · rename_i htest
      obtain ⟨q, hq, heq⟩ := Option.map_eq_some_iff.1 h
      cases heq
      have hscopes := scopes_of_itemsPart? (module ++ "::" ++ name) items hq
      rw [if_neg htest, hscopes, List.map_append]
      exact ⟨rfl, rfl⟩
  | .module attributes name none, h => by
    rw [itemPart?] at h
    cases h
    refine ⟨?_, rfl⟩
    split <;> simp [itemBlocks]
  | .imports attributes absolute tree, h => by
    rw [itemPart?] at h
    cases h
    exact ⟨by simp [itemBlocks], addTree_eq absolute [] s tree⟩
  | .other, h => by
    rw [itemPart?] at h
    cases h
    exact ⟨by simp [itemBlocks], rfl⟩

/-- The declarations of a module end the modules inside and then the module itself, each with its
imports. -/
theorem scopes_of_itemsPart? (module : String) {s : Scope} {p : Part} : (items : List Item) →
    itemsPart? module s items = some p →
      p.scopes = (innerBlocks module items).map recorded ++
        [(module, (items.flatMap itemImports).foldl Scope.addImport s)]
  | [], h => by
    rw [itemsPart?] at h
    cases h
    simp [innerBlocks]
  | item :: rest, h => by
    rw [itemsPart?] at h
    obtain ⟨⟨q, s'⟩, hitem, h⟩ := Option.bind_eq_some_iff.1 h
    obtain ⟨r, hrest, rfl⟩ := Option.map_eq_some_iff.1 h
    obtain ⟨hscopes, rfl⟩ := scopes_of_itemPart? module item hitem
    have hscopes' := scopes_of_itemsPart? module rest hrest
    rw [Part.scopes_append, hscopes, hscopes', innerBlocks, List.flatMap_cons, List.map_append,
      List.foldl_append, List.append_assoc]

end

/-- What a file records are the imports of its blocks. -/
theorem scopes_of_part? {crate : String} {f : ModuleFile} {p : Part} (h : f.part? crate = some p) :
    p.scopes = (f.blocks crate).map recorded := by
  obtain ⟨items, hitems, hp⟩ := Option.bind_eq_some_iff.1 h
  have hscopes := scopes_of_itemsPart? _ items hp
  unfold ModuleFile.blocks
  rw [hitems, hscopes, List.map_append]
  rfl

/-- Files that can be read end their modules with the imports of these. -/
theorem scopes_ofFiles {crate : String} {files : List ModuleFile}
    (h : ∀ f ∈ files, (f.part? crate).isSome = true) :
    (Part.ofFiles crate files).scopes = (files.flatMap (ModuleFile.blocks crate)).map recorded := by
  unfold Part.ofFiles
  induction files with
  | nil => rfl
  | cons f rest ih =>
    obtain ⟨hfirst, hrest⟩ := List.forall_mem_cons.1 h
    obtain ⟨p, hp⟩ := Option.isSome_iff_exists.1 hfirst
    rw [List.filterMap_cons_some hp, Part.join_cons, Part.scopes_append, scopes_of_part? hp, ih hrest,
      List.flatMap_cons, List.map_append]

/-! ## The last block counts -/

/-- The last entry of a key is found first from the end. -/
theorem lookup_recorded (blocks : List (String × List Import)) (module : String) :
    (((blocks.map recorded).reverse.filter (!·.2.isEmpty)).lookup module) =
      ((blocks.filter fun b => b.1 == module && !b.2.isEmpty).map Prod.snd).getLast?.map
        Scope.ofImports := by
  induction blocks using List.reverseRecOn with
  | nil => rfl
  | append_singleton blocks b ih =>
    obtain ⟨other, is⟩ := b
    have hempty : (recorded (other, is)).2.isEmpty = is.isEmpty := Scope.isEmpty_ofImports
    rw [List.map_append, List.map_singleton, List.reverse_concat, List.filter_append]
    by_cases hcounts : (other == module && !is.isEmpty) = true
    · obtain ⟨hmodule, his⟩ := Bool.and_eq_true_iff.1 hcounts
      obtain rfl := eq_of_beq hmodule
      have hlast : [(other, is)].filter (fun b => b.1 == other && !b.2.isEmpty) = [(other, is)] := by
        simpa using his
      rw [List.filter_cons_of_pos (by rw [hempty, his]), hlast, List.map_append,
        List.map_singleton, List.getLast?_concat, recorded, List.lookup_cons, beq_self_eq_true]
      rfl
    · have hlast : [(other, is)].filter (fun b => b.1 == module && !b.2.isEmpty) = [] :=
        List.filter_cons_of_neg hcounts
      rw [hlast, List.append_nil, List.filter_cons]
      split
      · rename_i his
        rw [hempty] at his
        have hmodule : (module == other) = false := by
          rw [Bool.beq_comm]
          simpa [his] using hcounts
        rw [recorded, List.lookup_cons, hmodule]
        exact ih
      · exact ih

namespace Collection

variable {crate : String} {p : Part} {c : Collection}

/-- At the end each module has the imports that are recorded last for it. -/
theorem lookup_finish (h : c.Holds crate p) (module : String) :
    c.finish.1.scopes.lookup module = (p.scopes.reverse.filter (!·.2.isEmpty)).lookup module := by
  have hmade : c.withoutTests.Made := h.made.retain _
  obtain ⟨-, hkept⟩ := sameNames_foldl_attach hmade (c.blocks.filter (!c.inTests ·.module))
  rw [finish_eq, ← hkept.scopes]
  exact h.scopes module

end Collection

/-! ## Main results -/

/-- A module offers an import: its name stands for something, or everything below its path is
imported. -/
def Offers (c : Catalog) (module : String) (i : Import) : Prop :=
  ∃ s, c.scopes.lookup module = some s ∧
    match i with
    | .named name _ => (s.target? name).isSome = true
    | .glob path => path ∈ s.globs

/-- Among some imports there is one for the same name, or for everything below the same path. -/
def Import.IsAmong (is : List Import) : Import → Prop
  | .named name _ => ∃ path, .named name path ∈ is
  | .glob path => .glob path ∈ is

/-- The imports of a module that are known when the files of a crate have been read. -/
structure KeepsLast (crate : String) (files : List ModuleFile) (module : String) (c : Catalog) :
    Prop where
  /-- They are those of the last block of the module that imports something. -/
  scope : c.scopes.lookup module =
    (importsOf crate files module).getLast?.map Scope.ofImports
  /-- A name stands for a path for which the module has introduced it. -/
  targets : ∀ s name path, c.scopes.lookup module = some s → s.target? name = some path →
    ∃ is ∈ importsOf crate files module, .named name path ∈ is
  /-- An import is offered exactly if the last block introduces it too. -/
  offers_iff : ∀ i, Offers c module i ↔
    ∃ last, (importsOf crate files module).getLast? = some last ∧ i.IsAmong last
  /-- If only one block imports something, all imports are offered. -/
  oneBlock : (importsOf crate files module).length ≤ 1 →
    ∀ is ∈ importsOf crate files module, ∀ i ∈ is, Offers c module i

/-- An import is among those of which it is one. -/
theorem Import.isAmong_of_mem {is : List Import} {i : Import} (h : i ∈ is) : i.IsAmong is := by
  cases i with
  | named name path => exact ⟨path, h⟩
  | glob path => exact h

/-- For all files of a crate that can be read, and for every module: the imports that are known at
the end are those of the last block of the module that imports something. -/
theorem finish_imports {crate : String} {files : List ModuleFile} {c : Collection}
    (hread : Collection.readFiles { crate } files = .ok c) (module : String) :
    KeepsLast crate files module c.finish.1 := by
  obtain ⟨hparts, hholds⟩ := Collection.holds_readFiles (.start crate) hread
  have hscope : c.finish.1.scopes.lookup module =
      (importsOf crate files module).getLast?.map Scope.ofImports := by
    rw [Collection.lookup_finish hholds, Part.scopes_append, scopes_ofFiles hparts,
      List.nil_append, lookup_recorded]
    rfl
  have hoffers (i : Import) : Offers c.finish.1 module i ↔
      ∃ last, (importsOf crate files module).getLast? = some last ∧ i.IsAmong last := by
    unfold Offers
    rw [hscope]
    cases (importsOf crate files module).getLast? with
    | none => simp
    | some last =>
      cases i with
      | named name path => simp [Import.IsAmong, Scope.isSome_target?_ofImports]
      | glob path => simp [Import.IsAmong, Scope.mem_globs_ofImports]
  constructor
  case scope => exact hscope
  case targets =>
    intro s name path hs htarget
    rw [hscope] at hs
    obtain ⟨last, hlast, rfl⟩ := Option.map_eq_some_iff.1 hs
    exact ⟨last, List.mem_of_getLast? hlast, Scope.mem_of_target?_ofImports htarget⟩
  case offers_iff => exact hoffers
  case oneBlock =>
    intro hone is his i hi
    have hlast : (importsOf crate files module).getLast? = some is := by
      obtain ⟨only, honly⟩ := List.length_eq_one_iff.1
        (Nat.le_antisymm hone (List.length_pos_of_mem his))
      rw [honly] at his ⊢
      rw [List.mem_singleton.1 his]
      rfl
    exact (hoffers i).2 ⟨is, hlast, Import.isAmong_of_mem hi⟩

/-- A file of the crate that imports a type under a name. -/
def tokenFile : ModuleFile where
  segments := []
  text := "pub mod auth \x7b pub struct Claims; \x7d\nuse auth::Claims as Token;\n"

/-- Another file of the same module with an import. -/
def userFile : ModuleFile where
  segments := []
  text := "use auth::Claims as User;\n"

/-- Of both files, the imports of the one that is read last are known. -/
theorem read_tokenFile_userFile :
    ∃ c, Collection.readFiles { crate := "app" } [tokenFile, userFile] = .ok c ∧
      c.finish.1.scopes = [("app", { aliases := [("User", "auth::Claims")] })] ∧
      c.finish.1.resolveName? "app" "Token" = none := by
  have hread : (Collection.readFiles { crate := "app" } [tokenFile, userFile]).map (·.finish.1) =
      .ok { Catalog.ofTypes [{ name := "app::auth::Claims" }] with
        scopes := [("app", { aliases := [("User", "auth::Claims")] })] } := by
    decide +kernel
  obtain ⟨c, hread, hfinish⟩ := Collection.exists_ok_of_map hread
  refine ⟨c, hread, ?_⟩
  rw [hfinish]
  exact ⟨rfl, by decide +kernel⟩

/-- The name that the file read last imports is offered. -/
theorem finish_imports_userFile :
    ∃ c, Collection.readFiles { crate := "app" } [tokenFile, userFile] = .ok c ∧
      KeepsLast "app" [tokenFile, userFile] "app" c.finish.1 ∧
      Offers c.finish.1 "app" (.named "User" "auth::Claims") := by
  obtain ⟨c, hread, hscopes, -⟩ := read_tokenFile_userFile
  refine ⟨c, hread, finish_imports hread "app", ?_⟩
  unfold Offers
  rw [hscopes]
  exact ⟨_, rfl, rfl⟩

/-- The name that the file read first imports is lost. -/
theorem finish_losesImport :
    ∃ files c, Collection.readFiles { crate := "app" } files = .ok c ∧
      importsOf "app" files "app" =
        [[.named "Token" "auth::Claims"], [.named "User" "auth::Claims"]] ∧
      ¬ Offers c.finish.1 "app" (.named "Token" "auth::Claims") ∧
      c.finish.1.resolveName? "app" "Token" = none := by
  obtain ⟨c, hread, hscopes, hresolve⟩ := read_tokenFile_userFile
  refine ⟨[tokenFile, userFile], c, hread, by decide +kernel, ?_, hresolve⟩
  rintro ⟨s, hs, htarget⟩
  rw [hscopes] at hs
  obtain rfl := Option.some.inj hs
  cases htarget

end ExprGate.Source
