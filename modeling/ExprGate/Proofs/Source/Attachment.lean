import ExprGate.Proofs.Source.Finishing
import ExprGate.Proofs.Source.Placement

/-!
# Where methods go

The `impl` blocks that count (`implsIn`) are those outside test code, at any depth and in any file.
If the type of a block is written as a plain path, its methods go to the one type that the path stands
for, block by block in the order in which they were read, and no other methods do; if the path stands
for no type, the block is reported if one of its methods is marked (`finish_attaches`).

A block whose type is written in any other way, as a reference or in parentheses, has no path to look
for. Its methods are lost, and nothing is reported about them (`finish_losesBlock`).
-/

set_option autoImplicit false

namespace ExprGate.Source

open Declaration Grammar

/-- The `impl` blocks of some files that count: those outside test code in place and outside test
modules in files of their own. -/
def implsIn (crate : String) (files : List ModuleFile) : List Impl :=
  ((placedIn crate files).filterMap Placed.impl?).filter fun i =>
    !Collection.isWithin (testModulesIn crate files) i.module

namespace Impl

/-- The name of the type that the path of a block stands for. -/
def target? (catalog : Catalog) (i : Impl) : Option String :=
  i.selfPath?.bind (catalog.resolveName? i.module)

/-- The report of a marked block whose path stands for no type. -/
def stray? (catalog : Catalog) (i : Impl) : Option Diagnostic :=
  i.selfPath?.bind fun path =>
    if i.isMarked && (catalog.resolveName? i.module path).isNone then
      some ⟨.warning, i.module ++ "::" ++ path,
        "impl of a type outside the scanned sources, its marked methods are ignored"⟩
    else none

variable {i : Impl} {b : Block}

/-- A block waits for its type if it has methods and its type is written as a plain path. -/
theorem block?_eq_some :
    i.block? = some b ↔ i.methods ≠ [] ∧ ∃ path, i.selfPath? = some path ∧
      b = ⟨i.module, path, i.methods, i.isMarked⟩ := by
  simp only [block?, Option.bind_eq_some_iff, Option.ite_none_left_eq_some, List.isEmpty_iff,
    Option.some.injEq, eq_comm (a := b)]
  tauto

/-- A block with a marked function has methods. -/
theorem methods_ne_nil (h : i.isMarked = true) : i.methods ≠ [] := by
  intro hnone
  have hcounting : i.counting = [] := List.map_eq_nil_iff.1 hnone
  rw [isMarked, hcounting] at h
  cases h

/-- A block that does not wait for its type has no methods for any, and is not reported. -/
theorem of_block?_eq_none (catalog : Catalog) (h : i.block? = none) :
    (i.target? catalog ≠ none → i.methods = []) ∧ i.stray? catalog = none := by
  unfold target? stray?
  cases hpath : i.selfPath? with
  | none => exact ⟨fun htarget => absurd rfl htarget, rfl⟩
  | some path =>
    have hmethods : i.methods = [] := by
      by_contra hne
      rw [block?_eq_some.2 ⟨hne, path, hpath, rfl⟩] at h
      cases h
    have hmarked : i.isMarked = false := by
      by_contra hmarked
      exact methods_ne_nil (by simpa using hmarked) hmethods
    exact ⟨fun _ => hmethods, by simp [hmarked]⟩

/-- A block that waits for its type waits for the type of its path. -/
theorem of_block?_eq_some (catalog : Catalog) (h : i.block? = some b) :
    b.module = i.module ∧ b.methods = i.methods ∧
      Collection.typeOf? catalog b = i.target? catalog ∧
      Collection.strayReports catalog b = (i.stray? catalog).toList := by
  obtain ⟨-, path, hpath, rfl⟩ := block?_eq_some.1 h
  refine ⟨rfl, rfl, ?_, ?_⟩
  · rw [target?, hpath]
    rfl
  · have htype : Collection.typeOf? catalog ⟨i.module, path, i.methods, i.isMarked⟩ =
        catalog.resolveName? i.module path := rfl
    rw [stray?, hpath, Option.bind_some, Collection.strayReports, htype]
    split <;> rfl

end Impl

namespace Collection

/-- Blocks can be chosen by their modules before they wait or after. -/
theorem filter_filterMap_block? (is : List Impl) (p : String → Bool) :
    (is.filterMap Impl.block?).filter (fun b => p b.module) =
      (is.filter fun i => p i.module).filterMap Impl.block? := by
  rw [List.filter_filterMap, List.filterMap_filter]
  refine List.filterMap_congr ?_
  intro i _
  cases hb : i.block? with
  | none => simp
  | some b =>
    obtain ⟨hmodule, -⟩ := Impl.of_block?_eq_some {} hb
    rw [Option.filter_some, hmodule]

/-- The methods that blocks have for a type are those of the blocks whose path stands for it. -/
theorem methodsFor_filterMap_block? (catalog : Catalog) (is : List Impl) (t : TypeDecl) :
    methodsFor catalog (is.filterMap Impl.block?) t =
      (is.filter (·.target? catalog == some t.name)).flatMap Impl.methods := by
  unfold methodsFor
  induction is with
  | nil => rfl
  | cons i rest ih =>
    rw [List.filter_cons]
    cases hb : i.block? with
    | none =>
      have hnone := (Impl.of_block?_eq_none catalog hb).1
      rw [List.filterMap_cons_none hb, ih]
      split
      · rename_i htarget
        have hmethods : i.methods = [] := by
          refine hnone ?_
          rw [eq_of_beq htarget]
          exact nofun
        rw [List.flatMap_cons, hmethods, List.nil_append]
      · rfl
    | some b =>
      obtain ⟨-, hmethods, htype, -⟩ := Impl.of_block?_eq_some catalog hb
      rw [List.filterMap_cons_some hb, List.filter_cons, htype]
      split
      · rw [List.flatMap_cons, List.flatMap_cons, hmethods, ih]
      · exact ih

/-- The blocks that are reported are the marked ones whose path stands for nothing. -/
theorem flatMap_strayReports (catalog : Catalog) (is : List Impl) :
    (is.filterMap Impl.block?).flatMap (strayReports catalog) =
      is.filterMap (Impl.stray? catalog) := by
  induction is with
  | nil => rfl
  | cons i rest ih =>
    cases hb : i.block? with
    | none => rw [List.filterMap_cons_none hb, List.filterMap_cons_none
        (Impl.of_block?_eq_none catalog hb).2, ih]
    | some b =>
      obtain ⟨-, -, -, hstray⟩ := Impl.of_block?_eq_some catalog hb
      rw [List.filterMap_cons_some hb, List.flatMap_cons, hstray, ih, List.filterMap_cons]
      cases i.stray? catalog <;> rfl

/-- The blocks that are attached are those that count. -/
theorem blocks_of_readFiles {crate : String} {files : List ModuleFile} {c : Collection}
    (hread : Collection.readFiles { crate } files = .ok c) :
    c.blocks.filter (!c.inTests ·.module) = (implsIn crate files).filterMap Impl.block? := by
  obtain ⟨hparts, hholds⟩ := holds_readFiles (.start crate) hread
  have hblocks : c.blocks = ((placedIn crate files).filterMap Placed.impl?).filterMap Impl.block? :=
    hholds.blocks.trans (says_ofFiles hparts).blocks
  unfold inTests
  rw [hblocks, testModules_of_readFiles hread]
  exact filter_filterMap_block? _ fun module => !isWithin (testModulesIn crate files) module

/-- Before blocks are attached no type has methods. -/
theorem methods_eq_nil {crate : String} {files : List ModuleFile} {c : Collection}
    (hread : Collection.readFiles { crate } files = .ok c) :
    ∀ t ∈ c.withoutTests.types, t.methods = [] := by
  obtain ⟨hparts, hholds⟩ := holds_readFiles (.start crate) hread
  intro t ht
  have hknown : t ∈ c.catalog.types := (List.mem_filter.1 ht).1
  rw [hholds.types] at hknown
  have hsaid : t ∈ (Part.ofFiles crate files).types := mem_of_mem_firstsBy TypeDecl.name hknown
  rw [(says_ofFiles hparts).types] at hsaid
  obtain ⟨x, -, hx⟩ := List.mem_filterMap.1 hsaid
  obtain ⟨-, kind, attributes, name, fields, -, rfl⟩ := Placed.type?_eq_some hx
  rfl

/-- At the end the blocks that count are attached, one after another. -/
theorem finish_of_readFiles {crate : String} {files : List ModuleFile} {c : Collection}
    (hread : Collection.readFiles { crate } files = .ok c) :
    c.withoutTests.Made ∧
      c.finish.1 = ((implsIn crate files).filterMap Impl.block?).foldl attach c.withoutTests := by
  obtain ⟨-, hholds⟩ := holds_readFiles (.start crate) hread
  refine ⟨hholds.made.retain _, ?_⟩
  rw [finish_eq, blocks_of_readFiles hread]

/-! ## Main results -/

/-- What becomes of the methods of some `impl` blocks at the end of a collection. -/
structure Attaches (c : Collection) (is : List Impl) : Prop where
  /-- The annotations of all methods of blocks with a path are well formed. -/
  readable : ∀ i ∈ is, i.selfPath? ≠ none →
    ∀ f ∈ i.counting, (annotations? f.attributes).isSome = true
  /-- Each type has the methods of the blocks whose path stands for it, one after another, and no
  others. -/
  methods : ∀ t ∈ c.finish.1.types, t.methods =
    (is.filter (·.target? c.finish.1 == some t.name)).flatMap Impl.methods
  /-- A path that stands for something stands for one type. -/
  target : ∀ i ∈ is, ∀ name, i.target? c.finish.1 = some name →
    ∃! t, t ∈ c.finish.1.types ∧ t.name = name
  /-- Apart from types that are declared again, the marked blocks are reported whose path stands for
  nothing, each of them once. -/
  reports : ∃ again : List String,
    c.finish.2 = again.map duplicateReport ++ is.filterMap (Impl.stray? c.finish.1)

/-- For all files of a crate that can be read: the methods of the `impl` blocks that count are
attached, once each and with the module and the trait of their block, to the one type that the path of
the block stands for; if it stands for none, the block is reported if it is marked. -/
theorem finish_attaches {crate : String} {files : List ModuleFile} {c : Collection}
    (hread : Collection.readFiles { crate } files = .ok c) : c.Attaches (implsIn crate files) := by
  obtain ⟨hparts, -⟩ := holds_readFiles (.start crate) hread
  obtain ⟨hmade, hfinish⟩ := finish_of_readFiles hread
  obtain ⟨hmade', hsame⟩ :=
    sameNames_foldl_attach hmade ((implsIn crate files).filterMap Impl.block?)
  rw [← hfinish] at hmade' hsame
  -- attaching methods does not change what paths stand for
  have hresolve : c.withoutTests.resolveName? = c.finish.1.resolveName? := by
    funext module path
    exact hsame.resolveName?_eq module path
  have htarget : Impl.target? c.withoutTests = Impl.target? c.finish.1 := by
    funext i
    rw [Impl.target?, Impl.target?, hresolve]
  have hstray : Impl.stray? c.withoutTests = Impl.stray? c.finish.1 := by
    funext i
    rw [Impl.stray?, Impl.stray?, hresolve]
  constructor
  case readable =>
    intro i hi hpath
    obtain ⟨x, hx, hxi⟩ := List.mem_filterMap.1 (List.mem_filter.1 hi).1
    exact ((says_ofFiles hparts).readable x hx).methods hxi hpath
  case methods =>
    intro t ht
    rw [hfinish, types_foldl_attach hmade] at ht
    obtain ⟨u, hu, rfl⟩ := List.mem_map.1 ht
    have hnone := methods_eq_nil hread u hu
    rw [methodsFor_filterMap_block?, htarget, TypeDecl.withMethods, hnone, List.nil_append]
  case target =>
    intro i _ name hname
    obtain ⟨path, -, hpath⟩ := Option.bind_eq_some_iff.1 hname
    obtain ⟨t, ht, htname⟩ := List.mem_map.1 (hmade'.mem_names_of_resolveName? hpath)
    refine ⟨t, ⟨ht, htname⟩, ?_⟩
    rintro u ⟨hu, huname⟩
    exact List.inj_on_of_nodup_map hmade'.nodup_names hu ht (huname.trans htname.symm)
  case reports =>
    rw [reports_finish, blocks_of_readFiles hread, flatMap_strayReports, hstray]
    exact ⟨_, rfl⟩

end Collection

/-- A file with a type, with a block of methods for it, and with one for a type that is not there. -/
def ordersFile : ModuleFile where
  segments := []
  text := "pub struct Orders;
impl Service for Orders \x7b #[mark(SecuredBy = \"true\")] fn list(&self) \x7b\x7d fn count(&self) \x7b\x7d \x7d
impl Missing \x7b #[mark(SecuredBy = \"true\")] fn run(&self) \x7b\x7d \x7d
"

/-- The methods of the one are attached, the other is reported. -/
theorem finish_attaches_orders :
    ∃ c, Collection.readFiles { crate := "app" } [ordersFile] = .ok c ∧
      c.Attaches (implsIn "app" [ordersFile]) ∧
      (c.finish.1.types.map fun t => (t.name, t.methods.map fun m => (m.name, m.inheritedFrom))) =
        [("app::Orders", [("list", some "Service"), ("count", some "Service")])] ∧
      c.finish.2.map Diagnostic.element = ["app::Missing"] := by
  have hread : (Collection.readFiles { crate := "app" } [ordersFile]).map (fun c =>
      (c.finish.1.types.map fun t => (t.name, t.methods.map fun m => (m.name, m.inheritedFrom)),
        c.finish.2.map Diagnostic.element)) =
      .ok ([("app::Orders", [("list", some "Service"), ("count", some "Service")])],
        ["app::Missing"]) := by
    decide +kernel
  obtain ⟨c, hc, hfinish⟩ := Collection.exists_ok_of_map hread
  obtain ⟨hmethods, hreports⟩ := Prod.mk.inj hfinish
  exact ⟨c, hc, Collection.finish_attaches hc, hmethods, hreports⟩

/-- A file with a type, and with a block for references to it. -/
def referenceFile : ModuleFile where
  segments := []
  text := "pub struct Orders;
impl Service for &Orders \x7b #[mark(SecuredBy = \"true\")] fn run(&self) \x7b\x7d \x7d
"

/-- The block counts and is marked, but its method is neither attached nor reported. -/
theorem finish_losesBlock :
    ((implsIn "app" [referenceFile]).map fun i => (i.isMarked, i.methods.map Method.name)) =
        [(true, ["run"])] ∧
      ∃ c, Collection.readFiles { crate := "app" } [referenceFile] = .ok c ∧
        (c.finish.1.types.map fun t => (t.name, t.methods)) = [("app::Orders", [])] ∧
        c.finish.2 = [] := by
  have hread : (Collection.readFiles { crate := "app" } [referenceFile]).map (fun c =>
      (c.finish.1.types.map fun t => (t.name, t.methods), c.finish.2)) =
      .ok ([("app::Orders", [])], []) := by
    decide +kernel
  obtain ⟨c, hc, hfinish⟩ := Collection.exists_ok_of_map hread
  obtain ⟨hmethods, hreports⟩ := Prod.mk.inj hfinish
  exact ⟨by decide +kernel, c, hc, hmethods, hreports⟩

end ExprGate.Source
