import ExprGate.Proofs.Artifact.ModuleTree
import ExprGate.Proofs.Artifact.Reordering
import ExprGate.Proofs.Output.Agreement
import ExprGate.Proofs.Source.Finishing

/-!
# The order in which files are read

Files can be read in any order, as long as no module and no type is declared twice: a generation
without errors generates the same artifacts and the same index into memory (`generateInMemory_order`).
Each path that is not written twice has the same contents then, so everything is the same if packages
are plain.

Whether two artifacts go to different paths is not checked by a generation. A package may have a
segment that is an identifier with a comment behind it, and two paths that differ in a slash at the
end of a comment are the same; what is found there depends on the order (`generateInMemory_disorder`).
-/

set_option autoImplicit false

namespace ExprGate.Output

open Declaration Marker Artifact Files Source

/-! ## What is stored -/

/-- The artifact that is stored last is found at its path, and elsewhere what was stored before. -/
theorem Memory.get?_store_concat (m : Memory) (artifacts : List Artifact) (b : Artifact) (p : Path) :
    (m.store (artifacts ++ [b])).get? p =
      if b.file.same p then some b.source else (m.store artifacts).get? p := by
  unfold Memory.store
  rw [List.foldl_concat, Memory.get?_put]

/-- Where only one artifact is stored, its source is found. -/
theorem Memory.get?_store_of_unique (m : Memory) {artifacts : List Artifact} {a : Artifact} {p : Path}
    (ha : a ∈ artifacts) (hsame : a.file.same p = true)
    (honly : ∀ b ∈ artifacts, b.file.same p = true → b = a) :
    (m.store artifacts).get? p = some a.source := by
  induction artifacts using List.reverseRecOn with
  | nil => cases ha
  | append_singleton artifacts b ih =>
    rw [Memory.get?_store_concat]
    by_cases hb : b.file.same p = true
    · rw [if_pos hb, honly b (by simp) hb]
    · have hmem : a ∈ artifacts := by
        obtain hmem | hmem := List.mem_append.1 ha
        · exact hmem
        · obtain rfl := List.mem_singleton.1 hmem
          exact absurd hsame hb
      rw [if_neg hb]
      exact ih hmem fun x hx => honly x (List.mem_append_left _ hx)

/-- There is a file where an artifact is stored. -/
theorem Memory.isSome_get?_store (m : Memory) {artifacts : List Artifact} {p : Path} :
    ((m.store artifacts).get? p).isSome = true ↔
      (∃ a ∈ artifacts, a.file.same p = true) ∨ (m.get? p).isSome = true := by
  induction artifacts using List.reverseRecOn with
  | nil => simp [Memory.store]
  | append_singleton artifacts b ih =>
    rw [Memory.get?_store_concat]
    by_cases hb : b.file.same p = true
    · simp [hb]
    · rw [if_neg hb, ih]
      simp [or_and_right, exists_or, hb]

/-- Artifacts that are stored in another order are at the same paths, and where only one is, the
contents are the same. -/
structure Memory.Agrees (artifacts : List Artifact) (m m' : Memory) : Prop where
  paths : ∀ p, (m.get? p).isSome = (m'.get? p).isSome
  contents : ∀ p, (∀ a ∈ artifacts, ∀ b ∈ artifacts,
    a.file.same p = true → b.file.same p = true → a = b) → m.get? p = m'.get? p

/-- Artifacts that are stored in another order lead to memories that agree. -/
theorem Memory.agrees_store (m : Memory) {artifacts artifacts' : List Artifact}
    (h : artifacts.Perm artifacts') : Agrees artifacts (m.store artifacts) (m.store artifacts') := by
  constructor
  case paths =>
    intro p
    rw [Bool.eq_iff_iff, Memory.isSome_get?_store, Memory.isSome_get?_store]
    simp only [h.mem_iff]
  case contents =>
    intro p honly
    by_cases hstored : ∃ a ∈ artifacts, a.file.same p = true
    · obtain ⟨a, ha, hsame⟩ := hstored
      rw [Memory.get?_store_of_unique m ha hsame fun b hb hb' => honly b hb a ha hb' hsame,
        Memory.get?_store_of_unique m (h.mem_iff.1 ha) hsame
          fun b hb hb' => honly b (h.mem_iff.2 hb) a ha hb' hsame]
    · have hnone : ∀ a ∈ artifacts, a.file.same p = false := by
        intro a ha
        exact Bool.eq_false_iff.2 fun hsame => hstored ⟨a, ha, hsame⟩
      rw [Memory.get?_store_of_not_same m hnone,
        Memory.get?_store_of_not_same m fun a ha => hnone a (h.mem_iff.2 ha)]

/-- Memories that agree do so after a text is put into both. -/
theorem Memory.Agrees.put {artifacts : List Artifact} {m m' : Memory} (h : Agrees artifacts m m')
    (q : Path) (text : String) : Agrees artifacts (m.put q text) (m'.put q text) := by
  constructor
  case paths =>
    intro p
    rw [Memory.get?_put, Memory.get?_put]
    split
    · rfl
    · exact h.paths p
  case contents =>
    intro p honly
    rw [Memory.get?_put, Memory.get?_put, h.contents p honly]

/-! ## Generating from a crate -/

/-- Generates from what is collected of a crate into memory. The result comes with all reports. -/
def generateInMemory (o : Options) (c : Collection) : Output × List Diagnostic × Memory :=
  let (catalog, found) := c.finish
  let (output, reports, m) := run Memory.sink catalog o {}
  (output, found ++ reports, m)

/-- Two generations into memory that differ in the order of artifacts only. -/
structure SameOutcome (o : Options) (first second : Output × List Diagnostic × Memory) : Prop where
  /-- There is no error in the second one either. -/
  quiet : ∀ d ∈ second.2.1, d.isError = false
  artifacts : first.1.artifacts.Perm second.1.artifacts
  /-- The same paths are written, and each that is written once has the same contents. -/
  memory : Memory.Agrees first.1.artifacts first.2.2 second.2.2
  index : first.2.2.get? ⟨o.indexFile⟩ = second.2.2.get? ⟨o.indexFile⟩
  /-- With plain packages all contents are the same. -/
  plain : (∀ a ∈ first.1.artifacts, a.HasPlainPackage) →
    ∀ p, first.2.2.get? p = second.2.2.get? p

/-- What is generated into memory are the artifacts and the index over them. -/
theorem generateInMemory_eq (o : Options) (c : Collection) :
    let markers := (discover c.finish.1).1
    let artifacts := (generate c.finish.1 markers o.runtime).1
    generateInMemory o c =
      ({ markers, artifacts, files := artifacts.map Artifact.file, index := some ⟨o.indexFile⟩ },
        c.finish.2 ++ ((discover c.finish.1).2 ++ (generate c.finish.1 markers o.runtime).2),
        (Memory.store {} artifacts).put ⟨o.indexFile⟩
          (Artifact.index (memoryEntries artifacts) o.runtime)) := by
  intro markers artifacts
  unfold generateInMemory
  simp only [run_eq_emit, emit_memory, artifacts, markers]

/-- Artifacts with plain packages that go to the same path are the same. -/
theorem eq_of_same_file {c : Catalog} {markers : List Marker} {runtime : String}
    (hplain : ∀ a ∈ (generate c markers runtime).1, a.HasPlainPackage) {a b : Artifact}
    (ha : a ∈ (generate c markers runtime).1) (hb : b ∈ (generate c markers runtime).1) {p : Path}
    (hap : a.file.same p = true) (hbp : b.file.same p = true) : a = b := by
  have hsame : a.file.same b.file = true := by
    unfold Path.same at hap hbp ⊢
    rw [beq_iff_eq.1 hap, beq_iff_eq.1 hbp]
    exact beq_self_eq_true _
  obtain ⟨m, e, hbuilt⟩ := exists_builtFrom ha
  obtain ⟨m', e', hbuilt'⟩ := exists_builtFrom hb
  obtain ⟨hpackage, hident⟩ := (hbuilt.file_same_iff hbuilt' (hplain a ha) (hplain b hb)).1 hsame
  exact List.inj_on_of_nodup_map (nodup_places_generate c markers runtime) ha hb
    (Prod.ext hpackage hident)

/-- Generating from a catalog in another order has the same outcome. -/
theorem sameOutcome_of_reordered {c c' : Collection} (h : c.finish.1.Reordered c'.finish.1)
    (o : Options) (hquiet : ∀ d ∈ (generateInMemory o c).2.1, d.isError = false) :
    SameOutcome o (generateInMemory o c) (generateInMemory o c') := by
  rw [generateInMemory_eq] at hquiet ⊢
  -- the same markers are generated for, so only the order of the artifacts is left
  rw [generateInMemory_eq, ← discover_eq_of_reordered h]
  obtain ⟨-, hquiet⟩ := List.forall_mem_append.1 hquiet
  obtain ⟨hfound, hquiet⟩ := List.forall_mem_append.1 hquiet
  obtain ⟨hquiet', hperm⟩ := generate_reordered h hquiet
  have hindex : Artifact.index (memoryEntries (generate c.finish.1 _ o.runtime).1) o.runtime =
      Artifact.index (memoryEntries (generate c'.finish.1 _ o.runtime).1) o.runtime :=
    index_eq_of_perm (hperm.map _) (nodup_place_memoryEntries _ _ _) _
  have hmemory := (Memory.agrees_store {} hperm).put ⟨o.indexFile⟩
    (Artifact.index (memoryEntries (generate c.finish.1 (discover c.finish.1).1 o.runtime).1) o.runtime)
  constructor
  case quiet =>
    exact List.forall_mem_append.2 ⟨fun d hd => Collection.isError_of_mem_finish hd,
      List.forall_mem_append.2 ⟨hfound, hquiet'⟩⟩
  case artifacts => exact hperm
  case memory =>
    dsimp only
    rw [← hindex]
    exact hmemory
  case index =>
    have hself : Path.same ⟨o.indexFile⟩ ⟨o.indexFile⟩ = true := beq_self_eq_true _
    dsimp only
    rw [← hindex, Memory.get?_put_same _ _ hself, Memory.get?_put_same _ _ hself]
  case plain =>
    intro hplain p
    dsimp only
    rw [← hindex]
    exact hmemory.contents p fun a ha b hb => eq_of_same_file hplain ha hb

/-! ## A crate with two evaluators -/

/-- A marker with one name for the evaluators of types and one for those of methods. -/
def fixedNames (methodName : String) : ModuleFile where
  segments := []
  text := "#[meta_jel(evaluator_class_name_pattern = \"app::X\", " ++
    "evaluator_method_name_pattern = \"" ++ methodName ++ "\")]\n" ++
    "pub struct SecuredBy \x7b pub value: &'static str \x7d\n"

/-- A type that uses the marker. -/
def securedType : ModuleFile where
  segments := ["a"]
  text := "#[mark(SecuredBy = \"true\")]\npub struct A;\n"

/-- A type with a method that uses the marker. -/
def securedMethod : ModuleFile where
  segments := ["b"]
  text := "pub struct B;\n" ++
    "impl B \x7b #[mark(SecuredBy = \"false\")] pub fn run(&self) \x7b\x7d \x7d\n"

/-- The declaration of the marker. -/
def fixedNamesDecl (methodName : String) : TypeDecl where
  name := "app::SecuredBy"
  annotations := [⟨"meta_jel", [("evaluator_class_name_pattern", .text "app::X"),
    ("evaluator_method_name_pattern", .text methodName)]⟩]
  members := ["value"]

/-- The declaration of the type that uses the marker. -/
def securedTypeDecl : TypeDecl where
  name := "app::a::A"
  annotations := [⟨"SecuredBy", [("value", .text "true")]⟩]

/-- The declaration of the type whose method uses the marker. -/
def securedMethodDecl : TypeDecl where
  name := "app::b::B"
  methods := [⟨"run", "app::b", [⟨"SecuredBy", [("value", .text "false")]⟩], none⟩]

/-- The marker as it is discovered. -/
def fixedMarker (methodName : String) : Marker :=
  ⟨"app::SecuredBy", { naming := ⟨"app::X", methodName⟩ }⟩

/-- The use of the marker on the type. -/
def typeElement : Element :=
  ⟨"app::a::A", none, ⟨"SecuredBy", [("value", .text "true")]⟩, 1⟩

/-- The use of the marker on the method. -/
def methodElement : Element :=
  ⟨"app::b::B", some ⟨"run", "app::b", [⟨"SecuredBy", [("value", .text "false")]⟩], none⟩,
    ⟨"SecuredBy", [("value", .text "false")]⟩, 1⟩

/-- The evaluator of the type. -/
def typeEvaluator (methodName : String) : Artifact :=
  artifactOf ordersOptions.runtime (fixedMarker methodName) typeElement "true" "app::X" "app" "X" "X"

/-- The evaluator of the method, at its place. -/
def methodEvaluator (methodName package ident : String) : Artifact :=
  artifactOf ordersOptions.runtime (fixedMarker methodName) methodElement "false" methodName package
    ident ident

/-- The evaluator of the type is built under the fixed name. -/
theorem build_typeElement (methodName : String) :
    build ordersOptions.runtime (fixedMarker methodName) typeElement =
      .ok (typeEvaluator methodName) := by
  have hname : (fixedMarker methodName).descriptor.naming.evaluatorName typeElement.className
      typeElement.methodName? = .ok "app::X" :=
    Naming.evaluatorName_verbatim _ (.of_not_mem (show '$' ∉ "app::X".toList by decide))
      (show "app::X".toList.all Text.isBlank = false by decide)
  exact build_eq_ok _ rfl hname (by decide +kernel)

/-- The evaluator of the method is built at the place of its fixed name. -/
theorem build_methodElement {methodName package ident : String}
    (hdollar : '$' ∉ methodName.toList) (hblank : methodName.toList.all Text.isBlank = false)
    (hplace : placeOf methodName = .ok (package, ident, ident)) :
    build ordersOptions.runtime (fixedMarker methodName) methodElement =
      .ok (methodEvaluator methodName package ident) := by
  have hname : (fixedMarker methodName).descriptor.naming.evaluatorName methodElement.className
      methodElement.methodName? = .ok methodName :=
    Naming.evaluatorName_verbatim _ (.of_not_mem hdollar) hblank
  exact build_eq_ok _ rfl hname hplace

/-- A marker with two elements, whose artifacts have different places. -/
structure Pair (c : Catalog) (m : Marker) (a a' : Artifact) : Prop where
  discovered : discover c = ([m], [])
  elements : ∃ e e', elements c m.name = [e, e'] ∧ e.usages ≤ 1 ∧ e'.usages ≤ 1 ∧
    build ordersOptions.runtime m e = .ok a ∧ build ordersOptions.runtime m e' = .ok a'
  places : (a.package, a.ident) ≠ (a'.package, a'.ident)

/-- Both artifacts are generated, and no error is reported. -/
theorem Pair.generated {c : Catalog} {m : Marker} {a a' : Artifact} (h : Pair c m a a') :
    (generate c [m] ordersOptions.runtime).1 = [a, a'] ∧
      ∀ d ∈ (generate c [m] ordersOptions.runtime).2, d.isError = false := by
  obtain ⟨e, e', helements, husages, husages', hbuild, hbuild'⟩ := h.elements
  have hcandidates : candidates c ordersOptions.runtime [m] = [⟨m, e, a⟩, ⟨m, e', a'⟩] := by
    simp [candidates, candidatesOf, helements, candidate?, hbuild, hbuild', Except.toOption]
  have hquiet : ∀ d ∈ (generate c [m] ordersOptions.runtime).2, d.isError = false := by
    refine generate_quiet_iff.2 ⟨?_, ?_⟩
    · intro m' hm' x hx
      obtain rfl := List.mem_singleton.1 hm'
      rw [helements, List.mem_pair] at hx
      obtain rfl | rfl := hx
      · exact ⟨husages, a, hbuild⟩
      · exact ⟨husages', a', hbuild'⟩
    · rw [hcandidates]
      simpa [Candidate.place] using h.places
  refine ⟨?_, hquiet⟩
  rw [artifacts_of_no_error hquiet, hcandidates]
  rfl

/-- Files from which a pair of artifacts is generated into memory. -/
theorem Pair.exists_generated {c : Catalog} {m : Marker} {a a' : Artifact} (h : Pair c m a a')
    {files : List ModuleFile}
    (hread : (Collection.readFiles { crate := "app" } files).map Collection.finish = .ok (c, [])) :
    ∃ collected, Collection.readFiles { crate := "app" } files = .ok collected ∧
      (∀ d ∈ (generateInMemory ordersOptions collected).2.1, d.isError = false) ∧
      (generateInMemory ordersOptions collected).1.artifacts = [a, a'] ∧
      (generateInMemory ordersOptions collected).2.2 =
        (Memory.store {} [a, a']).put ⟨ordersOptions.indexFile⟩
          (Artifact.index (memoryEntries [a, a']) ordersOptions.runtime) := by
  obtain ⟨hartifacts, hquiet⟩ := h.generated
  generalize Collection.readFiles { crate := "app" } files = r at hread ⊢
  cases r with
  | error collected => cases hread
  | ok collected =>
    have hfinish : collected.finish = (c, []) := Except.ok.inj hread
    refine ⟨collected, rfl, ?_⟩
    rw [generateInMemory_eq, hfinish]
    dsimp only
    rw [h.discovered]
    dsimp only
    rw [hartifacts]
    exact ⟨by simpa using hquiet, rfl, rfl⟩

/-- The files with a marker that gives plain packages are read in the order they are in. -/
theorem read_plain :
    (Collection.readFiles { crate := "app" } [fixedNames "app::Y", securedType, securedMethod]).map
        Collection.finish =
      .ok (.ofTypes [fixedNamesDecl "app::Y", securedTypeDecl, securedMethodDecl], []) ∧
    (Part.ofFiles "app" [fixedNames "app::Y", securedType, securedMethod]).typeNames.Nodup ∧
    (Part.ofFiles "app" [fixedNames "app::Y", securedType, securedMethod]).modules.Nodup := by
  decide +kernel

/-- The files with a marker that gives a package with a comment are read in both orders. -/
theorem read_commented :
    (Collection.readFiles { crate := "app" } [fixedNames "app//::X", securedType, securedMethod]).map
        Collection.finish =
      .ok (.ofTypes [fixedNamesDecl "app//::X", securedTypeDecl, securedMethodDecl], []) ∧
    (Collection.readFiles { crate := "app" } [fixedNames "app//::X", securedMethod, securedType]).map
        Collection.finish =
      .ok (.ofTypes [fixedNamesDecl "app//::X", securedMethodDecl, securedTypeDecl], []) ∧
    (Part.ofFiles "app" [fixedNames "app//::X", securedType, securedMethod]).typeNames.Nodup ∧
    (Part.ofFiles "app" [fixedNames "app//::X", securedType, securedMethod]).modules.Nodup := by
  decide +kernel

/-! ## Main results -/

/-- For all files of a crate in which no module and no type is declared twice, and all options: if all
files can be read in one order and generating from them into memory reports no error, then all files
can be read in any other order, and this has the same outcome. -/
theorem generateInMemory_order {files files' : List ModuleFile} (hfiles : files.Perm files')
    (crate : String) (o : Options) {c : Collection}
    (hread : Collection.readFiles { crate } files = .ok c)
    (htypes : (Part.ofFiles crate files).typeNames.Nodup)
    (hmodules : (Part.ofFiles crate files).modules.Nodup)
    (hquiet : ∀ d ∈ (generateInMemory o c).2.1, d.isError = false) :
    ∃ c', Collection.readFiles { crate } files' = .ok c' ∧
      SameOutcome o (generateInMemory o c) (generateInMemory o c') := by
  obtain ⟨hparts, hholds⟩ := Collection.holds_readFiles (.start crate) hread
  have hparts' : ∀ f ∈ files', (f.part? crate).isSome = true := by
    intro f hf
    exact hparts f (hfiles.mem_iff.2 hf)
  obtain ⟨c', hread'⟩ := Collection.exists_readFiles (.start crate) hparts'
  obtain ⟨-, hholds'⟩ := Collection.holds_readFiles (.start crate) hread'
  refine ⟨c', hread', sameOutcome_of_reordered ?_ o hquiet⟩
  exact Collection.reordered_finish hholds hholds' (Part.shuffled_ofFiles hfiles crate) htypes hmodules

/-- With plain packages all files are the same when the crate is read backwards. -/
theorem generateInMemory_order_fixedNames :
    ∃ c c', Collection.readFiles { crate := "app" }
        [fixedNames "app::Y", securedType, securedMethod] = .ok c ∧
      Collection.readFiles { crate := "app" }
        [securedMethod, securedType, fixedNames "app::Y"] = .ok c' ∧
      SameOutcome ordersOptions (generateInMemory ordersOptions c)
        (generateInMemory ordersOptions c') ∧
      ∀ p, (generateInMemory ordersOptions c).2.2.get? p =
        (generateInMemory ordersOptions c').2.2.get? p := by
  obtain ⟨hread, htypes, hmodules⟩ := read_plain
  have hplace : placeOf "app::Y" = .ok ("app", "Y", "Y") := by decide +kernel
  have hpair : Pair (.ofTypes [fixedNamesDecl "app::Y", securedTypeDecl, securedMethodDecl])
      (fixedMarker "app::Y") (typeEvaluator "app::Y") (methodEvaluator "app::Y" "app" "Y") :=
    { discovered := by decide +kernel
      elements := ⟨typeElement, methodElement, by decide +kernel, by decide, by decide,
        build_typeElement _, build_methodElement (by decide) (by decide) hplace⟩
      places := by simp [typeEvaluator, methodEvaluator, artifactOf] }
  obtain ⟨c, hread, hquiet, hartifacts, -⟩ := hpair.exists_generated hread
  obtain ⟨c', hread', hsame⟩ :=
    generateInMemory_order (List.reverse_perm _).symm "app" ordersOptions hread htypes hmodules hquiet
  refine ⟨c, c', hread, hread', hsame, hsame.plain ?_⟩
  rw [hartifacts]
  intro a ha
  obtain rfl | rfl := List.mem_pair.1 ha <;> unfold HasPlainPackage <;> decide

/-- A package with a comment is a place of its own, but not a directory of its own: both evaluators
are written to one file, no error is reported, and the file that is read last decides what it holds. -/
theorem generateInMemory_disorder :
    ∃ files files' c c',
      files.Perm files' ∧
      (Part.ofFiles "app" files).typeNames.Nodup ∧ (Part.ofFiles "app" files).modules.Nodup ∧
      Collection.readFiles { crate := "app" } files = .ok c ∧
      Collection.readFiles { crate := "app" } files' = .ok c' ∧
      (∀ d ∈ (generateInMemory ordersOptions c).2.1, d.isError = false) ∧
      (∀ d ∈ (generateInMemory ordersOptions c').2.1, d.isError = false) ∧
      (generateInMemory ordersOptions c).2.2.get? ⟨"app/X.rs"⟩ =
        some (methodEvaluator "app//::X" "app//" "X").source ∧
      (generateInMemory ordersOptions c').2.2.get? ⟨"app/X.rs"⟩ =
        some (typeEvaluator "app//::X").source ∧
      (methodEvaluator "app//::X" "app//" "X").source ≠ (typeEvaluator "app//::X").source := by
  obtain ⟨hread, hread', htypes, hmodules⟩ := read_commented
  have hplace : placeOf "app//::X" = .ok ("app//", "X", "X") := by decide +kernel
  have htype := build_typeElement "app//::X"
  have hmethod : build ordersOptions.runtime (fixedMarker "app//::X") methodElement =
      .ok (methodEvaluator "app//::X" "app//" "X") :=
    build_methodElement (by decide) (by decide) hplace
  have hpair : Pair (.ofTypes [fixedNamesDecl "app//::X", securedTypeDecl, securedMethodDecl])
      (fixedMarker "app//::X") (typeEvaluator "app//::X")
      (methodEvaluator "app//::X" "app//" "X") :=
    { discovered := by decide +kernel
      elements := ⟨typeElement, methodElement, by decide +kernel, by decide, by decide, htype, hmethod⟩
      places := by simp [typeEvaluator, methodEvaluator, artifactOf] }
  have hpair' : Pair (.ofTypes [fixedNamesDecl "app//::X", securedMethodDecl, securedTypeDecl])
      (fixedMarker "app//::X") (methodEvaluator "app//::X" "app//" "X")
      (typeEvaluator "app//::X") :=
    { discovered := by decide +kernel
      elements := ⟨methodElement, typeElement, by decide +kernel, by decide, by decide, hmethod, htype⟩
      places := hpair.places.symm }
  obtain ⟨c, hread, hquiet, -, hmemory⟩ := hpair.exists_generated hread
  obtain ⟨c', hread', hquiet', -, hmemory'⟩ := hpair'.exists_generated hread'
  have hindex : Path.same ⟨ordersOptions.indexFile⟩ ⟨"app/X.rs"⟩ = false := by decide +kernel
  have hfile : (typeEvaluator "app//::X").file.same ⟨"app/X.rs"⟩ = true := by decide +kernel
  have hfile' : (methodEvaluator "app//::X" "app//" "X").file.same ⟨"app/X.rs"⟩ = true := by
    decide +kernel
  -- the evaluator that is stored last is found at the path of both
  refine ⟨_, _, c, c', (List.Perm.swap _ _ _).cons _, htypes, hmodules, hread, hread', hquiet, hquiet',
    ?_, ?_, by decide +kernel⟩
  · rw [hmemory, Memory.get?_put, hindex]
    exact (Memory.get?_store_concat {} [_] _ _).trans (if_pos hfile')
  · rw [hmemory', Memory.get?_put, hindex]
    exact (Memory.get?_store_concat {} [_] _ _).trans (if_pos hfile)

end ExprGate.Output
