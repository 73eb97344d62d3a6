import ExprGate.Proofs.Source.Annotation
import ExprGate.Proofs.Source.Finishing

/-!
# Files that are not read to their end

Reading a file stops at the first container of usages that is not well formed, wherever it is. What
the declarations in front of it say has been added by then and stays; of the modules around it only
the imports are not recorded. So a file that is not read to its end leaves no trace exactly if
nothing in front of that place says anything new (`readModule_interrupted`). A text that is no
source text at all has nothing in front, but a type in front of a malformed container stays
(`readModule_keepsFront`).
-/

set_option autoImplicit false

namespace ExprGate.Declaration.Catalog

variable {c c' : Catalog}

/-- Catalogs with the same types and the same index, and with the same imports in each module. -/
structure SameTables (c c' : Catalog) : Prop where
  types : c.types = c'.types
  index : c.index = c'.index
  scopes : ∀ module, c.scopes.lookup module = c'.scopes.lookup module

/-- Catalogs with the same tables have the same names and imports. -/
theorem SameTables.sameNames (h : c.SameTables c') : c.SameNames c' where
  names := by
    unfold names
    rw [h.types]
  declares name := by
    unfold declares
    rw [h.index]
  scopes := h.scopes

/-- Catalogs with the same tables have the same ones after some types are left out. -/
theorem SameTables.retain (h : c.SameTables c') (keep : TypeDecl → Bool) :
    (c.retain keep).SameTables (c'.retain keep) := by
  unfold Catalog.retain
  rw [h.types]
  exact ⟨rfl, rfl, h.scopes⟩

/-- Catalogs with the same tables have the same ones after a type gets a method. -/
theorem SameTables.addMethod (h : c.SameTables c') (name : String) (m : Method) :
    (c.addMethod name m).SameTables (c'.addMethod name m) := by
  unfold Catalog.addMethod modify
  rw [h.index]
  split
  · exact h
  · rw [h.types]
    exact ⟨rfl, rfl, h.scopes⟩

/-- Catalogs with the same tables have the same ones after a type gets methods. -/
theorem SameTables.addMethods (h : c.SameTables c') (name : String) (ms : List Method) :
    (c.addMethods name ms).SameTables (c'.addMethods name ms) := by
  unfold Catalog.addMethods
  induction ms generalizing c c' with
  | nil => exact h
  | cons m ms ih => exact ih (h.addMethod name m)

/-- Of the types that are added, each is declared or refused. -/
theorem length_foldl_push (c : Catalog) (ts : List TypeDecl) :
    (ts.foldl push c).types.length + (c.refused ts).length = c.types.length + ts.length := by
  induction ts generalizing c with
  | nil => rfl
  | cons t ts ih =>
    have hrest := ih (c.push t)
    have hfirst : (c.push t).types.length + (if c.declares t.name then [t.name] else []).length =
        c.types.length + 1 := by
      rw [types_push]
      split <;> simp
    rw [List.foldl_cons, refused, List.length_append, List.length_cons]
    omega

end ExprGate.Declaration.Catalog

namespace ExprGate.Source

open Declaration Grammar

/-! ## Where reading stops -/

/-- There is a container that is not well formed in a declaration that is read. -/
inductive IsMalformed : Item → Prop
  | type {kind : Kind} {attributes : List Meta} {name : String} {fields : List String}
    (htest : isTestOnly attributes = false) (h : annotations? attributes = none) :
    IsMalformed (.type kind attributes name fields)
  | method {attributes : List Meta} {ofTrait : Option Grammar.Path} {p : Grammar.Path}
    {functions : List Function} {f : Function} (htest : isTestOnly attributes = false)
    (hf : f ∈ functions) (hread : isTestOnly f.attributes = false)
    (h : annotations? f.attributes = none) :
    IsMalformed (.implementation attributes ofTrait (.path p) functions)
  | inside {attributes : List Meta} {name : String} {items : List Item} {item : Item}
    (htest : isTestOnly attributes = false) (hitem : item ∈ items) (h : IsMalformed item) :
    IsMalformed (.module attributes name (some items))

/-- A type cannot be read just if its annotations are not well formed. -/
theorem typePart?_eq_none_iff {module name : String} {kind : Kind} {attributes : List Meta}
    {fields : List String} :
    typePart? module name kind attributes fields = none ↔ annotations? attributes = none := by
  unfold typePart?
  exact Option.map_eq_none_iff

/-- A block cannot be read just if its type is a plain path and the annotations of a function that
counts are not well formed. -/
theorem blockPart?_eq_none_iff {module : String} {ofTrait : Option Grammar.Path}
    {selfType : TypeForm} {functions : List Function} :
    blockPart? module ofTrait selfType functions = none ↔
      (∃ p, selfType = .path p) ∧ ∃ f ∈ functions, isTestOnly f.attributes = false ∧
        annotations? f.attributes = none := by
  unfold blockPart?
  cases selfType with
  | path p =>
    simp only [Option.map_eq_none_iff, Collection.methods?, mapM_eq_none_iff, List.mem_filter]
    have hmethod (f : Function) (g : List Annotation → Method) :
        (annotations? f.attributes >>= fun a => pure (g a)) = none ↔
          annotations? f.attributes = none := by
      cases annotations? f.attributes <;> simp
    simp only [hmethod, Bool.not_eq_true', and_assoc, TypeForm.path.injEq, exists_eq', true_and]
  | bounds single => simp
  | parenthesized => simp
  | other => simp

mutual

/-- A declaration cannot be read exactly if a container in it is malformed. -/
theorem itemPart?_eq_none_iff (module : String) (s : Scope) : (item : Item) →
    (itemPart? module s item = none ↔ IsMalformed item)
  | .type kind attributes name fields => by
    rw [itemPart?]
    constructor
    · intro h
      split at h
      · cases h
      · rename_i htest
        rw [Option.map_eq_none_iff, typePart?_eq_none_iff] at h
        exact .type (Bool.eq_false_iff.2 htest) h
    · intro h
      cases h with
      | type htest h =>
        rw [if_neg (by simp [htest]), typePart?_eq_none_iff.2 h]
        rfl
  | .implementation attributes ofTrait selfType functions => by
    rw [itemPart?]
    constructor
    · intro h
      split at h
      · cases h
      · rename_i htest
        rw [Option.map_eq_none_iff, blockPart?_eq_none_iff] at h
        obtain ⟨⟨p, rfl⟩, f, hf, hread, h⟩ := h
        exact .method (Bool.eq_false_iff.2 htest) hf hread h
    · intro h
      cases h with
      | method htest hf hread h =>
        rw [if_neg (by simp [htest]), blockPart?_eq_none_iff.2 ⟨⟨_, rfl⟩, _, hf, hread, h⟩]
        rfl
  | .module attributes name (some items) => by
    rw [itemPart?]
    have hitems := itemsPart?_eq_none_iff (module ++ "::" ++ name) {} items
    constructor
    · intro h
      split at h
      · cases h
      · rename_i htest
        rw [Option.map_eq_none_iff, hitems] at h
        obtain ⟨item, hitem, h⟩ := h
        exact .inside (Bool.eq_false_iff.2 htest) hitem h
    · intro h
      cases h with
      | inside htest hitem h =>
        rw [if_neg (by simp [htest]), hitems.2 ⟨_, hitem, h⟩]
        rfl
  | .module attributes name none => by
    rw [itemPart?]
    exact ⟨nofun, nofun⟩
  | .imports attributes absolute tree => by
    rw [itemPart?]
    exact ⟨nofun, nofun⟩
  | .other => by
    rw [itemPart?]
    exact ⟨nofun, nofun⟩

/-- The declarations of a module cannot be read just if one of them is malformed. -/
theorem itemsPart?_eq_none_iff (module : String) (s : Scope) : (items : List Item) →
    (itemsPart? module s items = none ↔ ∃ item ∈ items, IsMalformed item)
  | [] => by simp [itemsPart?]
  | item :: rest => by
    rw [itemsPart?, List.exists_mem_cons_iff, ← itemPart?_eq_none_iff module s item]
    cases itemPart? module s item with
    | none => simp
    | some x =>
      have hrest := itemsPart?_eq_none_iff module x.2 rest
      simp [← hrest]

end

/-- A file cannot be read to its end exactly if it is no source text or has a malformed container.
-/
theorem part?_eq_none_iff {crate : String} {f : ModuleFile} :
    f.part? crate = none ↔ parseFile? f.text = none ∨
      ∃ items, parseFile? f.text = some items ∧ ∃ item ∈ items, IsMalformed item := by
  unfold ModuleFile.part?
  cases parseFile? f.text with
  | none => simp
  | some items => simp [itemsPart?_eq_none_iff]

/-! ## Collections with the same records -/

/-- Whether a part says nothing that a collection does not hold: it has no type, no methods and no
test module, and its modules import what they import already. -/
structure Part.IsKnownTo (p : Part) (c : Collection) : Prop where
  types : p.types = []
  blocks : p.blocks = []
  testModules : p.testModules = []
  scopes : ∀ module s, (p.scopes.reverse.filter (!·.2.isEmpty)).lookup module = some s →
    c.catalog.scopes.lookup module = some s

namespace Collection

variable {c c' : Collection}

/-- Collections with the same records. -/
structure SameRecords (c c' : Collection) : Prop where
  crate : c.crate = c'.crate
  catalog : c.catalog.SameTables c'.catalog
  blocks : c.blocks = c'.blocks
  testModules : c.testModules = c'.testModules
  duplicates : c.duplicates = c'.duplicates

/-- Adding a part leaves the records as they are exactly if the part is known. -/
theorem sameRecords_add_iff (c : Collection) (p : Part) :
    c.SameRecords (c.add p) ↔ p.IsKnownTo c := by
  constructor
  · intro h
    have hrefused : c.catalog.refused p.types = [] := List.self_eq_append_right.1 h.duplicates
    have htypes : c.catalog.types = (p.types.foldl Catalog.push c.catalog).types := h.catalog.types
    have hlength := Catalog.length_foldl_push c.catalog p.types
    rw [hrefused, ← htypes, List.length_nil] at hlength
    have hnone : p.types = [] := List.eq_nil_of_length_eq_zero (by omega)
    refine ⟨hnone, List.self_eq_append_right.1 h.blocks,
      List.self_eq_append_right.1 h.testModules, ?_⟩
    intro module s hs
    have hscopes : c.catalog.scopes.lookup module =
        ((p.types.foldl Catalog.push c.catalog).recordScopes p.scopes).scopes.lookup module :=
      h.catalog.scopes module
    rw [Catalog.lookup_recordScopes, hs, Option.some_or] at hscopes
    exact hscopes
  · intro h
    have hcatalog : (c.add p).catalog = c.catalog.recordScopes p.scopes := by
      rw [add, h.types, List.foldl_nil]
    have hscopes (module : String) :
        c.catalog.scopes.lookup module = (c.add p).catalog.scopes.lookup module := by
      rw [hcatalog, Catalog.lookup_recordScopes]
      cases hs : (p.scopes.reverse.filter (!·.2.isEmpty)).lookup module with
      | none => rw [Option.none_or]
      | some s => rw [Option.some_or, h.scopes module s hs]
    constructor
    case crate => rfl
    case catalog =>
      refine ⟨?_, ?_, hscopes⟩
      · rw [hcatalog]
        rfl
      · rw [hcatalog]
        rfl
    case blocks => rw [add, h.blocks, List.append_nil]
    case testModules => rw [add, h.testModules, List.append_nil]
    case duplicates => rw [add, h.types, Catalog.refused, List.append_nil]

/-- Catalogs with the same tables have the same ones after blocks are attached. -/
theorem sameTables_foldl_attach {d d' : Catalog} (h : d.SameTables d') (blocks : List Block) :
    (blocks.foldl attach d).SameTables (blocks.foldl attach d') := by
  induction blocks generalizing d d' with
  | nil => exact h
  | cons b rest ih =>
    have htype : typeOf? d b = typeOf? d' b := h.sameNames.resolveName?_eq _ _
    have hattach : (attach d b).SameTables (attach d' b) := by
      unfold attach
      rw [htype]
      split
      · exact h.addMethods _ b.methods
      · exact h
    exact ih hattach

/-- Collections with the same records are finished in the same way. -/
theorem SameRecords.finish (h : c.SameRecords c') :
    c.finish.1.SameTables c'.finish.1 ∧ c.finish.2 = c'.finish.2 := by
  have htests : c.inTests = c'.inTests := by
    unfold inTests
    rw [h.testModules]
  have hcatalog : c.withoutTests.SameTables c'.withoutTests := by
    unfold withoutTests
    rw [htests]
    exact h.catalog.retain _
  have hstray : strayReports c.withoutTests = strayReports c'.withoutTests := by
    funext b
    unfold strayReports typeOf?
    rw [hcatalog.sameNames.resolveName?_eq]
  constructor
  · rw [finish_eq, finish_eq, h.blocks, htests]
    exact sameTables_foldl_attach hcatalog _
  · rw [reports_finish, reports_finish, h.blocks, h.duplicates, htests, hstray]

/-! ## Reading that stops -/

/-- A file of which reading has stopped, and what it has left. -/
structure Interrupted (c : Collection) (f : ModuleFile) (c' : Collection) : Prop where
  /-- The file is no source text, or a container in it is malformed, at any depth. -/
  malformed : parseFile? f.text = none ∨
    ∃ items, parseFile? f.text = some items ∧ ∃ item ∈ items, IsMalformed item
  /-- What the file says in front of the place where reading stops is added, and nothing else. -/
  front : c' = c.add (f.front c.crate)
  /-- A text that is no source text has nothing in front. -/
  noSource : parseFile? f.text = none → c' = c
  /-- No trace is left exactly if nothing in front says anything new. -/
  traceless : c.SameRecords c' ↔ (f.front c.crate).IsKnownTo c
  /-- Without a trace, the crate is finished as if the file had not been read. -/
  finish : (f.front c.crate).IsKnownTo c →
    c.finish.1.SameTables c'.finish.1 ∧ c.finish.2 = c'.finish.2

/-- For all collections and files: reading stops exactly if the file cannot be read to its end, and
then it leaves what the file says in front of the place where reading stops. -/
theorem readModule_interrupted (c : Collection) (f : ModuleFile) (c' : Collection) :
    c.readModule f.segments f.text = .error c' ↔ Interrupted c f c' := by
  rw [readModule_eq]
  constructor
  · intro hread
    cases hpart : f.part? c.crate with
    | some p =>
      rw [hpart] at hread
      cases hread
    | none =>
      rw [hpart] at hread
      obtain rfl := Except.error.inj hread
      have hsame := sameRecords_add_iff c (f.front c.crate)
      refine ⟨part?_eq_none_iff.1 hpart, rfl, ?_, hsame, fun hknown => (hsame.2 hknown).finish⟩
      intro htext
      have hfront : f.front c.crate = {} := by
        unfold ModuleFile.front
        rw [htext]
      rw [hfront, add_empty]
  · intro h
    rw [part?_eq_none_iff.2 h.malformed, h.front]

/-- A type in front of a malformed container stays, although the file is not read to its end. -/
theorem readModule_keepsFront :
    ∃ c', Collection.readModule { crate := "app" } []
        "pub struct Kept;\n#[mark]\npub struct Broken;\n" = .error c' ∧
      c'.finish.1.types = [{ name := "app::Kept" }] ∧
      ({ crate := "app" } : Collection).finish.1.types = [] := by
  refine ⟨{ crate := "app", catalog := .ofTypes [{ name := "app::Kept" }] }, ?_, ?_, ?_⟩ <;>
    decide +kernel

end Collection

end ExprGate.Source
