import ExprGate.Artifact.Source
import ExprGate.Proofs.Artifact.Build
import ExprGate.Proofs.Output.Emission
import ExprGate.Proofs.Text.Sorted

/-!
# Short names in an evaluator

The source text of an evaluator refers to what it imports by last segments: to the contract, to the
types of its signature, to the attributes stamped on it. It imports the paths that are configured,
each of them once (`mem_imports_of_build`), and a name that was configured as a plain path is the
last segment of this path (`build_shortNames`). If no other configured path ends in the same
segment, no other import does, and the name has one meaning (`Bound`). A configured text that is no
plain path, such as `bool` or `Option<auth::Claims>`, brings no import and stands as it is.
-/

set_option autoImplicit false

namespace ExprGate.Artifact

open Text Marker

/-! ## Configured paths -/

/-- The path that a text configures for import: the text itself, if it is a plain qualified path. -/
def plainPath? (text : String) : Option String :=
  if isImportable (trim text) then some (trim text) else none

/-- The same for a type, where the empty text configures the open type. -/
def typePath? (runtime text : String) : Option String :=
  if trim text = "" then some (runtime ++ separator ++ "Dynamic") else plainPath? text

/-- The paths that are configured for the evaluators of a marker. -/
def configuredPaths (runtime : String) (d : Descriptor) : List String :=
  (runtime ++ separator ++ "Evaluator") ::
    ([d.contextType, d.returnType].filterMap (typePath? runtime) ++
      (d.imports ++ d.evaluatorMarkers).filterMap plainPath?)

variable {runtime text path : String} {d : Descriptor} {m : Marker} {e : Element} {a : Artifact}

/-- A text configures a plain path for import if that path is left without the blanks around it. -/
theorem plainPath?_eq_some : plainPath? text = some path ↔
    isImportable (trim text) = true ∧ trim text = path := by
  unfold plainPath?
  split <;> simp [*]

/-- Nothing is no plain path. -/
theorem plainPath?_of_trim (h : trim text = "") : plainPath? text = none := by
  unfold plainPath?
  rw [h]
  rfl

/-- A path among the further imports and the attributes is imported if it is a plain one. -/
theorem mem_filterMap_plainPath? {texts : List String} :
    path ∈ texts.filterMap plainPath? ↔ path ∈ (texts.map trim).filter isImportable := by
  rw [List.mem_filterMap, List.mem_filter, List.mem_map]
  constructor
  · rintro ⟨text, htext, hpath⟩
    obtain ⟨himportable, rfl⟩ := plainPath?_eq_some.1 hpath
    exact ⟨⟨text, htext, rfl⟩, himportable⟩
  · rintro ⟨⟨text, htext, rfl⟩, himportable⟩
    exact ⟨text, htext, plainPath?_eq_some.2 ⟨himportable, rfl⟩⟩

/-! ## Configured types -/

/-- A text configures an open type, a path, or a type that stands as it is. -/
theorem ofText_cases (text : String) :
    trim text = "" ∧ TypeRef.ofText text = .dynamic ∨
      trim text ≠ "" ∧ plainPath? text = some (trim text) ∧
        TypeRef.ofText text = .named (simpleName (trim text)) (some (trim text)) ∨
      trim text ≠ "" ∧ plainPath? text = none ∧ TypeRef.ofText text = .named (trim text) none := by
  unfold TypeRef.ofText plainPath?
  dsimp only
  by_cases hempty : trim text = ""
  · rw [hempty]
    exact .inl ⟨rfl, rfl⟩
  · have hfalse : (trim text).isEmpty = false := by
      simpa using hempty
    rw [hfalse]
    cases isImportable (trim text) with
    | true => exact .inr (.inl ⟨hempty, rfl, rfl⟩)
    | false => exact .inr (.inr ⟨hempty, rfl, rfl⟩)

/-- What a type has imported: the open type if it is open, else the path that it is named by. -/
theorem typePath?_eq_some : typePath? runtime text = some path ↔
    (TypeRef.ofText text).isDynamic = true ∧ path = runtime ++ separator ++ "Dynamic" ∨
      (TypeRef.ofText text).importPath? = some path := by
  unfold typePath?
  obtain ⟨hempty, htype⟩ | ⟨hne, hpath, htype⟩ | ⟨hne, hpath, htype⟩ := ofText_cases text
  · rw [if_pos hempty, htype, Option.some_inj, eq_comm]
    simp [TypeRef.isDynamic, TypeRef.importPath?]
  · rw [if_neg hne, htype, hpath]
    simp [TypeRef.isDynamic, TypeRef.importPath?]
  · rw [if_neg hne, htype, hpath]
    simp [TypeRef.isDynamic, TypeRef.importPath?]

/-! ## What is imported -/

/-- What is imported is the contract, the open type where it is used, and the plain paths of the
signature and of further texts. -/
theorem mem_importsOf {context result : TypeRef} {extra : List String} :
    path ∈ importsOf runtime context result extra ↔
      path = runtime ++ separator ++ "Evaluator" ∨
        (context.isDynamic = true ∨ result.isDynamic = true) ∧
          path = runtime ++ separator ++ "Dynamic" ∨
        context.importPath? = some path ∨ result.importPath? = some path ∨
        path ∈ (extra.map trim).filter isImportable := by
  have hopen : path ∈ (if context.isDynamic || result.isDynamic then
      [runtime ++ separator ++ "Dynamic"] else []) ↔
      (context.isDynamic = true ∨ result.isDynamic = true) ∧
        path = runtime ++ separator ++ "Dynamic" := by
    rw [← Bool.or_eq_true, List.mem_ite_nil_right, List.mem_singleton]
  unfold importsOf
  dsimp only
  rw [mem_sortedTexts]
  simp only [List.mem_append, List.mem_singleton, hopen, Option.mem_toList, or_assoc]

/-- The parts of an artifact that its marker configures. -/
theorem configured_of_build (h : build runtime m e = .ok a) :
    a.contextType = .ofText m.descriptor.contextType ∧
      a.returnType = .ofText m.descriptor.returnType ∧
      a.markers = stamps m.descriptor.evaluatorMarkers ∧
      a.imports = importsOf runtime (.ofText m.descriptor.contextType)
        (.ofText m.descriptor.returnType) (m.descriptor.imports ++ m.descriptor.evaluatorMarkers) := by
  have hbuilt := builtFrom_of_build h
  obtain ⟨expression, hexpression, -⟩ := hbuilt.body
  have hok := build_eq_ok runtime hexpression hbuilt.named hbuilt.placed
  rw [h] at hok
  have heq := Except.ok.inj hok
  unfold artifactOf at heq
  exact ⟨by rw [heq], by rw [heq], by rw [heq], by rw [heq]⟩

/-- The imports are in ascending order, and so none of them stands there twice. -/
theorem sorted_of_build (h : build runtime m e = .ok a) : a.imports.Pairwise (· < ·) := by
  obtain ⟨-, -, -, himports⟩ := configured_of_build h
  rw [himports]
  exact pairwise_sortedTexts _

/-- An artifact imports the paths that are configured for it. -/
theorem mem_imports_of_build (h : build runtime m e = .ok a) :
    path ∈ a.imports ↔ path ∈ configuredPaths runtime m.descriptor := by
  obtain ⟨-, -, -, himports⟩ := configured_of_build h
  have htypes : path ∈ [m.descriptor.contextType, m.descriptor.returnType].filterMap
      (typePath? runtime) ↔ typePath? runtime m.descriptor.contextType = some path ∨
        typePath? runtime m.descriptor.returnType = some path := by
    simp [List.mem_filterMap]
  rw [himports, mem_importsOf]
  unfold configuredPaths
  rw [List.mem_cons, List.mem_append, htypes, mem_filterMap_plainPath?, typePath?_eq_some,
    typePath?_eq_some, or_and_right]
  simp only [or_assoc, or_left_comm]

/-! ## Names -/

/-- A name in an evaluator stands for a path: the path is imported and ends in the name, and no
other import does if no other of the configured paths does. -/
structure Bound (paths imports : List String) (name path : String) : Prop where
  imported : path ∈ imports
  ends : simpleName path = name
  only : (∀ other ∈ paths, simpleName other = name → other = path) →
    imports.filter (simpleName · == name) = [path]

/-- A type in a signature is as its text configures it: open, by the name of a path, or verbatim. -/
structure Shown (runtime : String) (paths imports : List String) (text openType shown : String) :
    Prop where
  blank : trim text = "" →
    shown = openType ∧ Bound paths imports "Dynamic" (runtime ++ separator ++ "Dynamic")
  plain : ∀ path, plainPath? text = some path → Bound paths imports shown path
  verbatim : trim text ≠ "" → plainPath? text = none → shown = trim text

/-- The imports of an artifact are the paths that are configured, and the names in its signature and
of its attributes stand for those that they were configured with. -/
structure ShortNames (runtime : String) (d : Descriptor) (a : Artifact) : Prop where
  sorted : a.imports.Pairwise (· < ·)
  mem_imports : ∀ path, path ∈ a.imports ↔ path ∈ configuredPaths runtime d
  /-- If the configured paths end in different segments, the imports do. -/
  distinct : (∀ path ∈ configuredPaths runtime d, ∀ other ∈ configuredPaths runtime d,
    simpleName path = simpleName other → path = other) → (a.imports.map simpleName).Nodup
  contract : Bound (configuredPaths runtime d) a.imports "Evaluator"
    (runtime ++ separator ++ "Evaluator")
  context : Shown runtime (configuredPaths runtime d) a.imports d.contextType "Dynamic"
    a.contextType.asContext
  result : Shown runtime (configuredPaths runtime d) a.imports d.returnType "Box<Dynamic>"
    a.returnType.asResult
  stamped : ∀ marker ∈ a.markers, ∃ text ∈ d.evaluatorMarkers, marker = simpleName (trim text) ∧
    ∀ path, plainPath? text = some path → Bound (configuredPaths runtime d) a.imports marker path

/-- A configured path is bound to its last segment. -/
theorem bound_of_build (h : build runtime m e = .ok a) {name : String}
    (hpath : path ∈ configuredPaths runtime m.descriptor) (hname : simpleName path = name) :
    Bound (configuredPaths runtime m.descriptor) a.imports name path := by
  have himported := (mem_imports_of_build h).2 hpath
  refine ⟨himported, hname, ?_⟩
  intro honly
  have hsame : ∀ other ∈ a.imports, (simpleName other == name) = (other == path) := by
    intro other hother
    have honly := honly other ((mem_imports_of_build h).1 hother)
    rw [Bool.eq_iff_iff, beq_iff_eq, beq_iff_eq]
    exact ⟨honly, fun heq => heq ▸ hname⟩
  rw [List.filter_congr hsame, List.filter_beq,
    List.count_eq_one_of_mem (sorted_of_build h).nodup himported, List.replicate_one]

/-- A type is shown as it is configured, if the texts of its kinds are the ones that signatures
have and its path is among the configured ones. -/
theorem shown_of_build (h : build runtime m e = .ok a) {openType shown : String}
    (htext : ∀ path, typePath? runtime text = some path →
      path ∈ configuredPaths runtime m.descriptor)
    (hshown : shown = match TypeRef.ofText text with
      | .dynamic => openType
      | .named display _ => display) :
    Shown runtime (configuredPaths runtime m.descriptor) a.imports text openType shown := by
  obtain ⟨hempty, htype⟩ | ⟨hne, hpath, htype⟩ | ⟨hne, hpath, htype⟩ := ofText_cases text
  · rw [htype] at hshown
    have hconfigured : typePath? runtime text = some (runtime ++ separator ++ "Dynamic") := by
      unfold typePath?
      rw [if_pos hempty]
    refine ⟨fun _ => ⟨hshown, ?_⟩, ?_, fun hne => absurd hempty hne⟩
    · exact bound_of_build h (htext _ hconfigured) (simpleName_append runtime (by decide))
    · intro path hpath
      rw [plainPath?_of_trim hempty] at hpath
      cases hpath
  · rw [htype] at hshown
    refine ⟨fun hempty => absurd hempty hne, ?_, ?_⟩
    · intro path hplain
      have hconfigured : typePath? runtime text = some path := by
        unfold typePath?
        rw [if_neg hne, hplain]
      rw [hpath] at hplain
      obtain rfl := Option.some.inj hplain
      exact bound_of_build h (htext _ hconfigured) hshown.symm
    · intro _ hnone
      rw [hpath] at hnone
      cases hnone
  · rw [htype] at hshown
    refine ⟨fun hempty => absurd hempty hne, ?_, fun _ _ => hshown⟩
    intro path hplain
    rw [hpath] at hplain
    cases hplain

/-- An artifact imports what is configured, and its short names stand for the paths that they were
configured with. -/
theorem build_shortNames (h : build runtime m e = .ok a) :
    ShortNames runtime m.descriptor a := by
  obtain ⟨hcontext, hresult, hmarkers, -⟩ := configured_of_build h
  have htype (text : String) (htext : text ∈ [m.descriptor.contextType, m.descriptor.returnType])
      (path : String) (hpath : typePath? runtime text = some path) :
      path ∈ configuredPaths runtime m.descriptor :=
    List.mem_cons_of_mem _ (List.mem_append_left _ (List.mem_filterMap.2 ⟨text, htext, hpath⟩))
  refine ⟨sorted_of_build h, fun _ => mem_imports_of_build h, ?_, ?_, ?_, ?_, ?_⟩
  · intro hdistinct
    refine List.Nodup.map_on ?_ (sorted_of_build h).nodup
    intro path hpath other hother hsame
    exact hdistinct path ((mem_imports_of_build h).1 hpath) other
      ((mem_imports_of_build h).1 hother) hsame
  · exact bound_of_build h List.mem_cons_self (simpleName_append runtime (by decide))
  · refine shown_of_build h (htype _ (by simp)) ?_
    rw [hcontext]
    cases TypeRef.ofText m.descriptor.contextType with
    | dynamic => rfl
    | named display path => rfl
  · refine shown_of_build h (htype _ (by simp)) ?_
    rw [hresult]
    cases TypeRef.ofText m.descriptor.returnType with
    | dynamic => rfl
    | named display path => rfl
  · intro marker hmarker
    rw [hmarkers] at hmarker
    obtain ⟨text, htext, rfl⟩ := List.mem_map.1 (List.mem_filter.1 hmarker).1
    refine ⟨text, htext, rfl, ?_⟩
    intro path hpath
    obtain ⟨-, rfl⟩ := plainPath?_eq_some.1 hpath
    refine bound_of_build h ?_ rfl
    have hextra : trim text ∈ (m.descriptor.imports ++ m.descriptor.evaluatorMarkers).filterMap
        plainPath? :=
      List.mem_filterMap.2 ⟨text, List.mem_append_right _ htext, hpath⟩
    exact List.mem_cons_of_mem _ (List.mem_append_right _ hextra)

/-! ## An evaluator over claims -/

/-- A marker with a configured context and result, an attribute and further imports. -/
def claimsMarker (imports : List String) : Marker :=
  ⟨"app::Access",
    { contextType := " auth::Claims", returnType := "bool", imports
      evaluatorMarkers := ["audit::Audited"] }⟩

/-- The evaluator of a type that uses it. -/
def claimsArtifact (imports : List String) : Artifact :=
  artifactOf "::jel" (claimsMarker imports) Output.ordersElement "context.admin "
    "app::Orders$SimpleJelEvaluator" "app" "Orders$SimpleJelEvaluator" "OrdersSimpleJelEvaluator"

/-- The artifact over the claims is built from its marker. -/
theorem build_claims (imports : List String) :
    build "::jel" (claimsMarker imports) Output.ordersElement = .ok (claimsArtifact imports) := by
  have hname : (claimsMarker imports).descriptor.naming.evaluatorName
      Output.ordersElement.className Output.ordersElement.methodName? =
        .ok "app::Orders$SimpleJelEvaluator" :=
    Naming.evaluatorName_standard ⟨by decide, fun _ h => by cases h⟩
  exact build_eq_ok "::jel" rfl hname rfl

/-- The paths `::jel::Evaluator`, `auth::Claims`, `auth::Role` and `audit::Audited` end in
different segments, so that each name has one import. -/
theorem build_shortNames_claims :
    build "::jel" (claimsMarker ["auth::Role"]) Output.ordersElement =
        .ok (claimsArtifact ["auth::Role"]) ∧
      ((claimsArtifact ["auth::Role"]).imports.map simpleName).Nodup ∧
      (claimsArtifact ["auth::Role"]).imports.filter (simpleName · == "Claims") =
        ["auth::Claims"] := by
  have hbuild := build_claims ["auth::Role"]
  have hnames := build_shortNames hbuild
  have hbound : Bound _ _ "Claims" "auth::Claims" := hnames.context.plain _ (by decide +kernel)
  exact ⟨hbuild, hnames.distinct (by decide +kernel), hbound.only (by decide +kernel)⟩

/-- A further import whose name is that of the context: `Claims` stands for two imports then. The
result `bool` has none, as it is no path. -/
theorem build_sharedName :
    build "::jel" (claimsMarker ["billing::Claims"]) Output.ordersElement =
        .ok (claimsArtifact ["billing::Claims"]) ∧
      (claimsArtifact ["billing::Claims"]).contextType.asContext = "Claims" ∧
      (claimsArtifact ["billing::Claims"]).imports.filter (simpleName · == "Claims") =
        ["auth::Claims", "billing::Claims"] ∧
      (claimsArtifact ["billing::Claims"]).returnType.asResult = "bool" ∧
      (claimsArtifact ["billing::Claims"]).imports.filter (simpleName · == "bool") = [] :=
  ⟨build_claims ["billing::Claims"], by decide +kernel, by decide +kernel, by decide +kernel,
    by decide +kernel⟩

end ExprGate.Artifact
