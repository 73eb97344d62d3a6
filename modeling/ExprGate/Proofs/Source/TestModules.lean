import ExprGate.Proofs.Source.Attachment

/-!
# Test modules in files of their own

A test module whose contents are in a file of its own is declared in one file and written in another,
which may be read first. So its types and `impl` blocks are collected like any others and left out at
the end, when all test modules are known: a module is left out if it is one of them or lies below one
(`InTestFile`), by whole segments. What stays are the first types of their names, in the order in which
they were read (`finish_dropsTests`).

A declaration of such a module counts only outside test code in place, where nothing is read. A module
whose file belongs to a test module in place stays (`finish_keepsFixture`).
-/

set_option autoImplicit false

namespace ExprGate.Source

open Declaration Grammar

/-- A module is a test module in a file of its own or lies below one. -/
def InTestFile (crate : String) (files : List ModuleFile) (module : String) : Prop :=
  ∃ top ∈ testModulesIn crate files, IsAtOrBelow module top

instance (crate : String) (files : List ModuleFile) (module : String) :
    Decidable (InTestFile crate files module) :=
  decidable_of_iff _ (isWithin_iff (testModulesIn crate files) module)

/-- The types that some files declare outside test code in place, in the order of reading. -/
def typesIn (crate : String) (files : List ModuleFile) : List TypeDecl :=
  (placedIn crate files).filterMap Placed.type?

namespace Collection

variable {crate : String} {files : List ModuleFile} {c : Collection}

/-- A module is known to be for tests just if it is a test module in a file of its own or lies below
one. -/
theorem inTests_iff (hread : Collection.readFiles { crate } files = .ok c) (module : String) :
    c.inTests module = true ↔ InTestFile crate files module := by
  rw [inTests, testModules_of_readFiles hread]
  exact isWithin_iff _ module

/-- Without tests, the types are the first ones of their names that are not in such a module. -/
theorem types_withoutTests (hread : Collection.readFiles { crate } files = .ok c) :
    c.withoutTests.types =
      (firstsBy TypeDecl.name (typesIn crate files)).filter
        fun t => ¬ InTestFile crate files t.module := by
  obtain ⟨hparts, hholds⟩ := holds_readFiles (.start crate) hread
  have htypes : c.catalog.types = firstsBy TypeDecl.name (typesIn crate files) := by
    rw [hholds.types]
    exact congrArg (firstsBy TypeDecl.name) (says_ofFiles hparts).types
  have hkept : c.withoutTests.types = c.catalog.types.filter (!c.inTests ·.module) := rfl
  rw [hkept, htypes]
  refine List.filter_congr ?_
  intro t _
  have htests := inTests_iff hread t.module
  cases hin : c.inTests t.module with
  | true => simp [htests.1 hin]
  | false => simp [← htests, hin]

/-- The methods that are attached are written in modules that stay. -/
theorem not_inTestFile_of_mem_methodsFor {catalog : Catalog} {t : TypeDecl} {m : Method}
    (hm : m ∈ methodsFor catalog ((implsIn crate files).filterMap Impl.block?) t) :
    ¬ InTestFile crate files m.module := by
  rw [methodsFor_filterMap_block?] at hm
  obtain ⟨i, hi, hmi⟩ := List.mem_flatMap.1 hm
  obtain ⟨f, -, rfl⟩ := List.mem_map.1 hmi
  have hmodule : (!isWithin (testModulesIn crate files) i.module) = true :=
    (List.mem_filter.1 (List.mem_filter.1 hi).1).2
  intro htest
  rw [Impl.method, InTestFile, ← isWithin_iff] at htest
  rw [htest] at hmodule
  cases hmodule

/-- The report of a duplicate is none of a block without type. -/
theorem duplicateReport_ne_strayReport (name : String) (b : Block) :
    duplicateReport name ≠ strayReport b := by
  intro h
  have hmessage := congrArg Diagnostic.message h
  simp [duplicateReport, strayReport] at hmessage

/-- The types that are reported as declared again are in modules that stay. -/
theorem not_inTestFile_of_duplicateReport (hread : Collection.readFiles { crate } files = .ok c)
    {name : String} (h : duplicateReport name ∈ c.finish.2) :
    ¬ InTestFile crate files (Text.splitQualified name).1 := by
  rw [reports_finish] at h
  obtain h | h := List.mem_append.1 h
  · obtain ⟨other, hother, heq⟩ := List.mem_map.1 h
    obtain rfl : other = name := congrArg Diagnostic.element heq
    have hmodule := (List.mem_filter.1 hother).2
    rw [← inTests_iff hread]
    simpa using hmodule
  · obtain ⟨b, -, hb⟩ := List.mem_flatMap.1 h
    unfold strayReports at hb
    split at hb
    · exact absurd (List.mem_singleton.1 hb) (duplicateReport_ne_strayReport name b)
    · cases hb

/-! ## Main results -/

/-- What becomes of test modules in files of their own at the end of a collection. -/
structure DropsTests (c : Collection) (crate : String) (files : List ModuleFile) : Prop where
  /-- Apart from their methods, the types are the first ones of their names that are not in a test
  module, in the order of reading. -/
  types : (c.finish.1.types.map fun t => { t with methods := [] }) =
    (firstsBy TypeDecl.name (typesIn crate files)).filter fun t => ¬ InTestFile crate files t.module
  /-- No method is attached that is written in a test module. -/
  methods : ∀ t ∈ c.finish.1.types, ∀ m ∈ t.methods, ¬ InTestFile crate files m.module
  /-- No type of a test module is reported as declared again. -/
  reports : ∀ name, duplicateReport name ∈ c.finish.2 →
    ¬ InTestFile crate files (Text.splitQualified name).1
  /-- Every type is found under its name. -/
  found : ∀ t ∈ c.finish.1.types, c.finish.1.get? t.name = some t

/-- For all files of a crate that can be read, in any order: what is declared in a test module in a
file of its own, or below one, is left out at the end, and nothing else is. -/
theorem finish_dropsTests (hread : Collection.readFiles { crate } files = .ok c) :
    c.DropsTests crate files := by
  obtain ⟨hmade, hfinish⟩ := finish_of_readFiles hread
  have htypes : c.finish.1.types = c.withoutTests.types.map fun t =>
      t.withMethods
        (methodsFor c.withoutTests ((implsIn crate files).filterMap Impl.block?) t) := by
    rw [hfinish, types_foldl_attach hmade]
  have hnone := methods_eq_nil hread
  constructor
  case types =>
    rw [← types_withoutTests hread, htypes, List.map_map]
    refine (List.map_congr_left ?_).trans (List.map_id _)
    intro t ht
    rw [Function.comp_apply, TypeDecl.withMethods, id, ← hnone t ht]
  case methods =>
    intro t ht m hm
    rw [htypes] at ht
    obtain ⟨u, hu, rfl⟩ := List.mem_map.1 ht
    rw [TypeDecl.withMethods, hnone u hu, List.nil_append] at hm
    exact not_inTestFile_of_mem_methodsFor hm
  case reports =>
    intro name hname
    exact not_inTestFile_of_duplicateReport hread hname
  case found =>
    intro t ht
    have hmade' := (sameNames_foldl_attach hmade ((implsIn crate files).filterMap Impl.block?)).1
    rw [← hfinish] at hmade'
    exact hmade'.get?_eq_some.2 ⟨ht, rfl⟩

end Collection

/-- A file of a test module, with a module of its own in place. -/
def fixturesFile : ModuleFile where
  segments := ["tests"]
  text := "pub struct Fixture;\npub mod deep \x7b pub struct Deep; \x7d\n"

/-- A file that declares the test module, beside a module whose name starts alike. -/
def suiteFile : ModuleFile where
  segments := []
  text := "#[cfg(test)]\nmod tests;\npub mod testsuite \x7b pub struct Suite; \x7d\n"

/-- The types of the test module are left out, though they are read first. -/
theorem finish_dropsTests_suite :
    ∃ c, Collection.readFiles { crate := "app" } [fixturesFile, suiteFile] = .ok c ∧
      c.DropsTests "app" [fixturesFile, suiteFile] ∧
      c.catalog.names = ["app::tests::Fixture", "app::tests::deep::Deep", "app::testsuite::Suite"] ∧
      c.finish.1.names = ["app::testsuite::Suite"] := by
  have hread : (Collection.readFiles { crate := "app" } [fixturesFile, suiteFile]).map (fun c =>
      (c.catalog.names, c.finish.1.names)) =
      .ok (["app::tests::Fixture", "app::tests::deep::Deep", "app::testsuite::Suite"],
        ["app::testsuite::Suite"]) := by
    decide +kernel
  obtain ⟨c, hc, hfinish⟩ := Collection.exists_ok_of_map hread
  obtain ⟨hnames, hkept⟩ := Prod.mk.inj hfinish
  exact ⟨c, hc, Collection.finish_dropsTests hc, hnames, hkept⟩

/-- The test module in a file of its own that a declaration declares, inside test code too. -/
def Placed.declaredTestModule? (x : Placed) : Option String :=
  { x with inTestCode := false }.testModule?

/-- A file that declares a test module inside a test module in place. -/
def nestedTestsFile : ModuleFile where
  segments := []
  text := "#[cfg(test)] mod tests \x7b #[cfg(test)] mod fixtures; \x7d\n"

/-- The file of the inner test module. -/
def innerTestFile : ModuleFile where
  segments := ["tests", "fixtures"]
  text := "pub struct Fixture;\n"

/-- The inner test module is declared, and its type stays. -/
theorem finish_keepsFixture :
    (placedIn "app" [nestedTestsFile, innerTestFile]).filterMap Placed.declaredTestModule? =
        ["app::tests::fixtures"] ∧
      ∃ c, Collection.readFiles { crate := "app" } [nestedTestsFile, innerTestFile] = .ok c ∧
        c.finish.1.names = ["app::tests::fixtures::Fixture"] := by
  have hread : (Collection.readFiles { crate := "app" } [nestedTestsFile, innerTestFile]).map
      (·.finish.1.names) = .ok ["app::tests::fixtures::Fixture"] := by
    decide +kernel
  obtain ⟨c, hc, hnames⟩ := Collection.exists_ok_of_map hread
  exact ⟨by decide +kernel, c, hc, hnames⟩

end ExprGate.Source
