import ExprGate.Build.Settings
import ExprGate.Proofs.Output.Modules
import ExprGate.Proofs.Source.ModulePath

/-!
# The names that a build accepts

Three readers check names with one test: the package of an evaluator is divided into names of
modules, the name of the crate starts every qualified name, and a file is the module that its path
spells. What passes is a name with blanks and comments around it (`IsAccepted`), and it is used as it
is written. `accepted_names` says so for each of them. Only the name of a generated type is the name
alone, since it is put together from letters and digits. Where the segments of a package have nothing
around them, the file of an evaluator lies in directories of these names.
-/

set_option autoImplicit false

namespace ExprGate.Build

open Declaration Marker Artifact Source Files Text Token

/-- A text that is accepted as a name is one with something around it that reading skips; nothing
is around it exactly if nothing in it is skipped. -/
def IsAccepted (text : String) : Prop :=
  ∃ name, IsName name ∧ Wraps text name ∧ (text = name ↔ IsTight text)

/-- The accepted names are the texts that are read as an identifier. -/
theorem isAccepted_iff {text : String} : IsAccepted text ↔ isIdentifier text = true := by
  rw [isIdentifier_iff]
  constructor
  · rintro ⟨name, hname, hwraps, -⟩
    exact ⟨name, hname, hwraps⟩
  · rintro ⟨name, hname, hwraps⟩
    exact ⟨name, hname, hwraps, hwraps.eq_iff hname⟩

/-- An accepted text is a name exactly if nothing in it is skipped. -/
theorem IsAccepted.isName_iff {text : String} (h : IsAccepted text) : IsName text ↔ IsTight text := by
  obtain ⟨name, hname, -, hiff⟩ := h
  constructor
  · exact IsName.isTight
  · intro htight
    rw [hiff.2 htight]
    exact hname

/-! ## Evaluators -/

/-- An evaluator stands in modules of accepted names, under a name that is an identifier. -/
structure WellPlaced (a : Artifact) : Prop where
  ident : Output.IsModuleName a.ident
  package : joinSegments a.packageSegments = a.package
  accepted : ∀ segment ∈ a.packageSegments, IsAccepted segment
  /-- Below segments with nothing around them, the file is where the modules are. -/
  file : (∀ segment ∈ a.packageSegments, IsTight segment) →
    a.file.components = (a.packageSegments ++ [a.ident ++ ".rs"]).map .name

/-- Every artifact that is built is well placed. -/
theorem wellPlaced_of_builtFrom {m : Marker} {e : Element} {a : Artifact} (h : BuiltFrom m e a) :
    WellPlaced a := by
  have haccepted : ∀ segment ∈ a.packageSegments, IsAccepted segment := by
    intro segment hsegment
    obtain ⟨-, hnil⟩ | ⟨hne, hsegments⟩ := packageSegments_cases h.badSegment?_eq_none
    · rw [hnil] at hsegment
      cases hsegment
    · rw [hsegments] at hsegment
      exact isAccepted_iff.2 (isIdentifier_of_badSegment? h.badSegment?_eq_none hne segment hsegment)
  refine ⟨Output.isModuleName_ident h, joinSegments_packageSegments h.badSegment?_eq_none,
    haccepted, ?_⟩
  intro htight
  refine Path.components_ofNames ?_
  intro name hname
  obtain hname | hname := List.mem_append.1 hname
  · exact isPlain_of_isName ((haccepted name hname).isName_iff.2 (htight name hname))
  · obtain rfl := List.mem_singleton.1 hname
    exact isPlain_fileName (slash_not_mem_of_typeName? (placeOf_ok h.placed).2.2)

/-! ## The crate and its files -/

/-- The text that the name of the crate is taken from. -/
def crateText? (s : Settings) (env : Environment) : Option String :=
  s.crateName.or (env.packageName.map crateNameOfPackage)

/-- The name of a crate is accepted as it is, or not at all. -/
theorem checkCrateName_ok_iff {text name : String} :
    checkCrateName text = .ok name ↔ text = name ∧ IsAccepted name := by
  rw [isAccepted_iff]
  unfold checkCrateName
  constructor
  · intro h
    split at h
    · rename_i hident
      obtain rfl := Except.ok.inj h
      exact ⟨rfl, hident⟩
    · cases h
  · rintro ⟨rfl, hident⟩
    exact if_pos hident

/-- The name of the crate is the text that it is taken from, if that is accepted. -/
theorem resolvedCrateName_ok_iff {s : Settings} {env : Environment} {name : String} :
    s.resolvedCrateName env = .ok name ↔ crateText? s env = some name ∧ IsAccepted name := by
  unfold Settings.resolvedCrateName crateText?
  cases s.crateName with
  | some text => simp [checkCrateName_ok_iff]
  | none =>
    cases env.packageName with
    | some text => simp [checkCrateName_ok_iff]
    | none => simp

/-- The segments of a file's module are accepted names. -/
theorem accepted_of_moduleSegments? {root : List Component} {file : Path} {segs : List String}
    (h : moduleSegments? root file = some segs) : ∀ segment ∈ segs, IsAccepted segment := by
  obtain ⟨hidentifiers, -⟩ := moduleSegments?_eq_some.1 h
  intro segment hsegment
  exact isAccepted_iff.2 (hidentifiers segment hsegment)

/-! ## Main result -/

/-- Generated types have identifiers for names. The segments of their packages, the names of crates
and the segments of the modules of files are names with blanks and comments around them. -/
theorem accepted_names (c : Catalog) (markers : List Marker) (runtime : String) (s : Settings)
    (env : Environment) (root : List Component) (file : Path) :
    (∀ a ∈ (generate c markers runtime).1, WellPlaced a) ∧
      (∀ name, s.resolvedCrateName env = .ok name ↔
        crateText? s env = some name ∧ IsAccepted name) ∧
      (∀ segs, moduleSegments? root file = some segs → ∀ segment ∈ segs, IsAccepted segment) := by
  refine ⟨?_, fun _ => resolvedCrateName_ok_iff, fun _ => accepted_of_moduleSegments?⟩
  intro a ha
  obtain ⟨m, e, hbuilt⟩ := exists_builtFrom ha
  exact wellPlaced_of_builtFrom hbuilt

/-- The artifact over the orders is well placed, and the names of its crate and package are
accepted. -/
theorem accepted_names_orders :
    WellPlaced Output.ordersArtifact ∧ IsAccepted "my_app" ∧
      ∀ segment ∈ ["auth", "claims"], IsAccepted segment := by
  obtain ⟨hartifacts, hcrate, hfile⟩ := accepted_names Output.ordersCatalog [Output.accessMarker]
    Output.ordersOptions.runtime {} ⟨some "my-app", none⟩ [.name "src"] ⟨"src/auth/claims.rs"⟩
  refine ⟨hartifacts _ ?_, ((hcrate "my_app").1 (by decide)).2, hfile _ (by decide)⟩
  rw [Output.generate_orders]
  exact List.mem_singleton_self _

/-- A marker whose patterns put a comment into the package. -/
def commentedMarker : Marker :=
  ⟨"app::Access", { naming := ⟨"app//::X", "app//::X"⟩ }⟩

/-- Each reader accepts a text that is no name: a package with a comment, a crate with a blank in front
and a file whose name starts with one. -/
theorem accepted_commented :
    (∃ a ∈ (generate Output.ordersCatalog [commentedMarker] Output.ordersOptions.runtime).1,
        "app//" ∈ a.packageSegments) ∧
      Settings.resolvedCrateName { crateName := some " app" } {} = .ok " app" ∧
      moduleSegments? [.name "src"] ⟨"src/ my.rs"⟩ = some [" my"] ∧
      ∀ text ∈ ["app//", " app", " my"], ¬ IsName text := by
  refine ⟨?_, by decide, by decide, ?_⟩
  · have hname : commentedMarker.descriptor.naming.evaluatorName Output.ordersElement.className
        Output.ordersElement.methodName? = .ok "app//::X" :=
      Naming.evaluatorName_verbatim _ (.of_not_mem (show '$' ∉ "app//::X".toList by decide))
        (show "app//::X".toList.all Text.isBlank = false by decide)
    have hplace : placeOf "app//::X" = .ok ("app//", "X", "X") := by decide +kernel
    have hexpression : expressionOf Output.ordersElement.usage
        commentedMarker.descriptor.expressionMember = .ok "context.admin " := rfl
    have hbuild := build_eq_ok Output.ordersOptions.runtime hexpression hname hplace
    have helements : elements Output.ordersCatalog commentedMarker.name =
        [Output.ordersElement] := by decide
    have hgenerate : (generate Output.ordersCatalog [commentedMarker]
        Output.ordersOptions.runtime).1 =
          [artifactOf Output.ordersOptions.runtime commentedMarker Output.ordersElement
            "context.admin " "app//::X" "app//" "X" "X"] := by
      unfold generate
      simp only [List.foldl_cons, List.foldl_nil, Generated.addMarker, helements, Generated.step,
        hbuild]
      rfl
    rw [hgenerate]
    exact ⟨_, List.mem_singleton_self _, by decide⟩
  · intro text htext hname
    have hskipped : ∀ text ∈ ["app//", " app", " my"],
        text.toList.any (fun c => c == '/' || isTokenBlank c) = true := by decide
    obtain ⟨c, hc, hseparates⟩ := List.any_eq_true.1 (hskipped text htext)
    exact (hname.isTight c hc).1 (by simpa [Separates] using hseparates)

end ExprGate.Build
