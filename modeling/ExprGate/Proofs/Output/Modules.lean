import ExprGate.Proofs.Artifact.ModuleTree
import ExprGate.Proofs.Output.Emission
import ExprGate.Proofs.Output.Memory
import ExprGate.Proofs.Text.RegularName

/-!
# The modules that the index declares

A block of the index declares a private module around each artifact of its package, named by the
small form of the type name, and a public module for each package inside. The public ones are
different and legal names. The private ones are spelled as identifiers, but the small form of a name
forgets where its capitals are, and it may be a keyword or the name of a package inside:
`index_declares` says exactly when a block is free of clashes, and that regular type names do not clash
with each other. `index_clashes` is a crate in which they do.
-/

set_option autoImplicit false

namespace ExprGate.Output

open Declaration Marker Artifact Text Token

/-- A legal name of a module: it is spelled as an identifier and is no keyword. -/
def IsModuleName (name : String) : Prop :=
  IsWord name ∧ isPlainIdent name = true

/-- The names of the modules that a block declares, in the order of its lines. -/
def declared (block : Module) : List String :=
  block.inclusions.map (fun (_, i) => i.module) ++ block.children.map Prod.fst

/-- The entries whose artifacts are in a package. -/
def entriesIn (entries : List Entry) (package : List String) : List Entry :=
  entries.filter fun e => e.artifact.packageSegments == package

/-- The entries in a package are those whose artifacts are in it. -/
theorem mem_entriesIn {entries : List Entry} {package : List String} {e : Entry} :
    e ∈ entriesIn entries package ↔ e ∈ entries ∧ e.artifact.packageSegments = package := by
  unfold entriesIn
  rw [List.mem_filter, beq_iff_eq]

/-- The names of the packages directly inside a package. -/
def IsInside (entries : List Entry) (package : List String) (name : String) : Prop :=
  ∃ e ∈ entries, package ++ [name] <+: e.artifact.packageSegments

/-! ## Names of artifacts -/

/-- The type name of an artifact is a legal name of a module. -/
theorem isModuleName_ident {m : Marker} {e : Element} {a : Artifact} (h : BuiltFrom m e a) :
    IsModuleName a.ident :=
  h.spelled

/-- The type name of an artifact is spelled as an identifier, without reserved characters. -/
theorem isWord_ident {m : Marker} {e : Element} {a : Artifact} (h : BuiltFrom m e a) :
    IsWord a.ident ∧ Unreserved a.ident.toList :=
  ⟨h.spelled.1, h.unreserved⟩

/-- The identifier of an artifact is not empty. -/
theorem ident_ne_empty {m : Marker} {e : Element} {a : Artifact} (h : BuiltFrom m e a) :
    a.ident ≠ "" := by
  obtain ⟨c, rest, hchars, -⟩ := (isWord_ident h).1
  intro hempty
  rw [hempty] at hchars
  cases hchars

/-- The segments of a plain package are legal names of modules. -/
theorem isModuleName_segment {m : Marker} {e : Element} {a : Artifact} (h : BuiltFrom m e a)
    (hplain : a.HasPlainPackage) {segment : String} (hsegment : segment ∈ a.packageSegments) :
    IsModuleName segment := by
  obtain ⟨-, hnil⟩ | ⟨hne, hsegments⟩ := packageSegments_cases h.badSegment?_eq_none
  · rw [hnil] at hsegment
    cases hsegment
  · refine isWord_of_isIdentifier ?_
      (isIdentifier_of_badSegment? h.badSegment?_eq_none hne segment (hsegments ▸ hsegment))
    intro c hc
    exact solid_of_isIdentContinue (List.all_eq_true.1 (hplain segment hsegment) c hc)

/-- Two artifacts have private modules of one name exactly if the words of their type names are the
same up to case. -/
theorem moduleName_eq_iff {m m' : Marker} {e e' : Element} {a a' : Artifact} (h : BuiltFrom m e a)
    (h' : BuiltFrom m' e' a') :
    a.moduleName = a'.moduleName ↔ lowerWords a.ident = lowerWords a'.ident :=
  snakeName_eq_iff (isWord_ident h).2 (isWord_ident h').2 (ident_ne_empty h) (ident_ne_empty h')

/-! ## Blocks -/

section

variable {entries : List Entry} (hplaces : (entries.map Entry.place).Nodup) {package : List String}

include hplaces

/-- In one package, places differ by the names of types. -/
theorem nodup_idents_entriesIn (package : List String) :
    ((entriesIn entries package).map fun e => e.artifact.ident).Nodup := by
  have hfilter := (List.pairwise_map.1 hplaces).filter fun e =>
    e.artifact.packageSegments == package
  refine List.pairwise_map.2 (hfilter.imp_of_mem ?_)
  intro e e' he he' hne hident
  exact hne (Prod.ext ((mem_entriesIn.1 he).2.trans (mem_entriesIn.1 he').2.symm) hident)

/-- A block includes the files of the entries in its package, each once. -/
theorem inclusions_perm {block : Module}
    (hblock : (Module.ofEntries entries).block? package = some block) :
    block.inclusions.Perm
      ((entriesIn entries package).map fun e => (e.artifact.ident, e.inclusion)) := by
  have horder := ((inOrder_ofEntries entries).block? hblock).own
  refine (List.perm_ext_iff_of_nodup horder.inclusions.nodup.of_map ?_).2 ?_
  · refine List.Nodup.of_map Prod.fst ?_
    rw [List.map_map]
    exact nodup_idents_entriesIn hplaces package
  · rintro ⟨ident, i⟩
    rw [mem_inclusions_ofEntries hplaces hblock, List.mem_map]
    constructor
    · rintro ⟨e, he, hplace, rfl⟩
      obtain ⟨hpackage, rfl⟩ := Prod.mk.inj hplace
      exact ⟨e, mem_entriesIn.2 ⟨he, hpackage⟩, rfl⟩
    · rintro ⟨e, he, heq⟩
      obtain ⟨rfl, rfl⟩ := Prod.mk.inj heq
      obtain ⟨hentry, rfl⟩ := mem_entriesIn.1 he
      exact ⟨e, hentry, rfl, rfl⟩

end

/-- What a block of the index over some entries declares. -/
structure Declares (entries : List Entry) (package : List String) (block : Module) : Prop where
  /-- The private modules are those around the artifacts of the package, one for each. -/
  wrappers : (block.inclusions.map fun (_, i) => i.module).Perm
    ((entriesIn entries package).map fun e => e.artifact.moduleName)
  /-- The public modules are the packages inside. -/
  children : ∀ name, name ∈ block.children.map Prod.fst ↔ IsInside entries package name
  /-- The public modules have different names. -/
  distinctChildren : (block.children.map Prod.fst).Nodup
  /-- The public modules have legal names. -/
  legalChildren : ∀ name ∈ block.children.map Prod.fst, IsModuleName name
  /-- The private modules have names that are spelled as identifiers. -/
  spelled : ∀ e ∈ entriesIn entries package, IsWord e.artifact.moduleName
  /-- All modules have different and legal names exactly if no private one is named by a keyword or
  as a package inside, and no two types have the same words up to case. -/
  clear_iff : ((declared block).Nodup ∧ ∀ name ∈ declared block, IsModuleName name) ↔
    (∀ e ∈ entriesIn entries package, isPlainIdent e.artifact.moduleName = true ∧
      ¬ IsInside entries package e.artifact.moduleName) ∧
    ∀ e ∈ entriesIn entries package, ∀ e' ∈ entriesIn entries package,
      lowerWords e.artifact.ident = lowerWords e'.artifact.ident →
        e.artifact.ident = e'.artifact.ident
  /-- Types with regular names have private modules of different names. -/
  regular : (∀ e ∈ entriesIn entries package, IsRegular e.artifact.ident) →
    (block.inclusions.map fun (_, i) => i.module).Nodup

/-- For all declarations, markers and paths of the runtime library, and for entries of any artifacts
that are generated, with plain packages: every block of the index declares what `Declares` says. -/
theorem index_declares (c : Catalog) (markers : List Marker) (runtime : String) (entries : List Entry)
    (hentries : (entries.map Entry.artifact).Sublist (generate c markers runtime).1)
    (hplain : ∀ e ∈ entries, e.artifact.HasPlainPackage) (package : List String) (block : Module)
    (hblock : (Module.ofEntries entries).block? package = some block) :
    Declares entries package block := by
  have hplaces := nodup_place_of_sublist hentries
  have horder := ((inOrder_ofEntries entries).block? hblock).own
  have hbuilt (e : Entry) (he : e ∈ entries) : ∃ m x, BuiltFrom m x e.artifact :=
    exists_builtFrom (hentries.mem (List.mem_map_of_mem he))
  have hidents := nodup_idents_entriesIn hplaces package
  have hwrappers : (block.inclusions.map fun (_, i) => i.module).Perm
      ((entriesIn entries package).map fun e => e.artifact.moduleName) := by
    have hmap := (inclusions_perm hplaces hblock).map fun (_, i) => i.module
    rw [List.map_map] at hmap
    exact hmap
  have hdistinct : (block.inclusions.map fun (_, i) => i.module).Nodup ↔
      ∀ e ∈ entriesIn entries package, ∀ e' ∈ entriesIn entries package,
        lowerWords e.artifact.ident = lowerWords e'.artifact.ident →
          e.artifact.ident = e'.artifact.ident := by
    rw [hwrappers.nodup_iff, List.nodup_map_iff_inj_on hidents.of_map]
    refine forall₂_congr fun e he => forall₂_congr fun e' he' => ?_
    obtain ⟨m, x, hx⟩ := hbuilt e (mem_entriesIn.1 he).1
    obtain ⟨m', x', hx'⟩ := hbuilt e' (mem_entriesIn.1 he').1
    refine imp_congr (moduleName_eq_iff hx hx') ?_
    constructor
    · rintro rfl
      rfl
    · exact List.inj_on_of_nodup_map hidents he he'
  have hspelled : ∀ e ∈ entriesIn entries package, IsWord e.artifact.moduleName := by
    intro e he
    obtain ⟨m, x, hx⟩ := hbuilt e (mem_entriesIn.1 he).1
    exact isWord_snakeName (isWord_ident hx).1 (isWord_ident hx).2
  have hchildren (name : String) : name ∈ block.children.map Prod.fst ↔ _ :=
    mem_children_ofEntries hblock
  have hlegal : ∀ name ∈ block.children.map Prod.fst, IsModuleName name := by
    intro name hname
    obtain ⟨e, he, hway⟩ := (hchildren name).1 hname
    obtain ⟨m, x, hx⟩ := hbuilt e he
    exact isModuleName_segment hx (hplain e he) (hway.mem (by simp))
  constructor
  case wrappers => exact hwrappers
  case children => exact hchildren
  case distinctChildren => exact horder.children.nodup
  case legalChildren => exact hlegal
  case spelled => exact hspelled
  case clear_iff =>
    unfold declared
    rw [List.nodup_append, hdistinct]
    constructor
    · rintro ⟨⟨hwords, -, hdisjoint⟩, hnames⟩
      refine ⟨?_, hwords⟩
      intro e he
      have hwrapper := hwrappers.mem_iff.2 (List.mem_map_of_mem he)
      refine ⟨(hnames _ (List.mem_append_left _ hwrapper)).2, ?_⟩
      intro hinside
      exact hdisjoint _ hwrapper _ ((hchildren _).2 hinside) rfl
    · rintro ⟨hfree, hwords⟩
      refine ⟨⟨hwords, horder.children.nodup, ?_⟩, ?_⟩
      · intro name hwrapper name' hchild heq
        obtain ⟨e, he, rfl⟩ := List.mem_map.1 (hwrappers.mem_iff.1 hwrapper)
        exact (hfree e he).2 ((hchildren _).1 (heq ▸ hchild))
      · intro name hname
        obtain hwrapper | hchild := List.mem_append.1 hname
        · obtain ⟨e, he, rfl⟩ := List.mem_map.1 (hwrappers.mem_iff.1 hwrapper)
          exact ⟨hspelled e he, (hfree e he).1⟩
        · exact hlegal name hchild
  case regular =>
    intro hregular
    refine hdistinct.2 ?_
    intro e he e' he' heq
    exact (hregular e he).eq_of_lowerWords_eq (hregular e' he') heq

/-- The index over the one evaluator of the small catalog has one module in its package. -/
theorem index_declares_orders :
    let entries := memoryEntries [ordersArtifact]
    ∃ block, (Module.ofEntries entries).block? ["app"] = some block ∧
      (entries.map Entry.artifact).Sublist
        (generate ordersCatalog [accessMarker] ordersOptions.runtime).1 ∧
      (∀ e ∈ entries, e.artifact.HasPlainPackage) ∧ Declares entries ["app"] block ∧
        declared block = ["orders_simple_jel_evaluator"] := by
  intro entries
  obtain ⟨block, hblock, hdeclared⟩ : ∃ block,
      (Module.ofEntries entries).block? ["app"] = some block ∧
        declared block = ["orders_simple_jel_evaluator"] := ⟨_, rfl, rfl⟩
  have hentries : (entries.map Entry.artifact).Sublist
      (generate ordersCatalog [accessMarker] ordersOptions.runtime).1 := by
    rw [map_artifact_memoryEntries, generate_orders]
  have hplain : ∀ e ∈ entries, e.artifact.HasPlainPackage := by
    intro e he
    obtain rfl := List.mem_singleton.1 he
    unfold HasPlainPackage
    decide
  exact ⟨block, hblock, hentries, hplain,
    index_declares ordersCatalog [accessMarker] ordersOptions.runtime entries hentries hplain ["app"] block
      hblock, hdeclared⟩

/-! ## A clash -/

/-- A marker, a type with a method that uses it, and a type whose name is made of the letters of
both. -/
def clashingCatalog : Catalog :=
  .ofTypes
    [{ name := "app::Access", annotations := [⟨"meta_jel", []⟩], members := ["value"] },
     { name := "app::A",
       methods := [⟨"b", "app", [⟨"Access", [("value", .text "true")]⟩], none⟩] },
     { name := "app::Ab", annotations := [⟨"Access", [("value", .text "false")]⟩] }]

/-- The evaluator of the method. -/
def clashingMethod : Artifact :=
  { ordersArtifact with
    element := "app::A::b"
    qualifiedName := "app::A$b$SimpleJelEvaluator"
    className := "A$b$SimpleJelEvaluator"
    ident := "ABSimpleJelEvaluator"
    body := "true;" }

/-- The evaluator of the other type. -/
def clashingType : Artifact :=
  { ordersArtifact with
    element := "app::Ab"
    qualifiedName := "app::Ab$SimpleJelEvaluator"
    className := "Ab$SimpleJelEvaluator"
    ident := "AbSimpleJelEvaluator"
    body := "false;" }

/-- Of the clashing declarations both evaluators are generated, and nothing is reported. -/
theorem generate_clashing :
    generate clashingCatalog [accessMarker] ordersOptions.runtime =
      ([clashingMethod, clashingType], []) := by
  have helements : elements clashingCatalog accessMarker.name =
      [⟨"app::A", some ⟨"b", "app", [⟨"Access", [("value", .text "true")]⟩], none⟩,
          ⟨"Access", [("value", .text "true")]⟩, 1⟩,
        ⟨"app::Ab", none, ⟨"Access", [("value", .text "false")]⟩, 1⟩] := by
    decide
  have hmethod : accessMarker.descriptor.naming.evaluatorName "app::A" (some "b") =
      .ok "app::A$b$SimpleJelEvaluator" :=
    Naming.evaluatorName_standard ⟨by decide, by simp⟩
  have htype : accessMarker.descriptor.naming.evaluatorName "app::Ab" none =
      .ok "app::Ab$SimpleJelEvaluator" :=
    Naming.evaluatorName_standard ⟨by decide, by simp⟩
  unfold generate
  simp only [List.foldl_cons, List.foldl_nil, Generated.addMarker, helements, Generated.step, build,
    Element.methodName?, Option.map_some, Option.map_none, hmethod, htype]
  rfl

/-- Two artifacts without any report have private modules of the same name. -/
theorem index_clashes :
    generate clashingCatalog [accessMarker] ordersOptions.runtime =
        ([clashingMethod, clashingType], []) ∧
      clashingMethod.HasPlainPackage ∧ clashingType.HasPlainPackage ∧
        ∃ block, (Module.ofEntries (memoryEntries [clashingMethod, clashingType])).block? ["app"] =
            some block ∧
          declared block = ["ab_simple_jel_evaluator", "ab_simple_jel_evaluator"] ∧
            ¬ (declared block).Nodup := by
  have hnot : ¬ ["ab_simple_jel_evaluator", "ab_simple_jel_evaluator"].Nodup := by decide
  refine ⟨generate_clashing, ?_, ?_, _, rfl, rfl, hnot⟩
  · unfold HasPlainPackage
    decide
  · unfold HasPlainPackage
    decide

end ExprGate.Output
