import ExprGate.Artifact.Source

/-!
# What a source text holds

The source text of an artifact imports its paths, declares its type and implements the evaluator
contract for it, with the body as what is evaluated (`source_holds`). The body is written as it is,
and what is around it does not depend on it (`source_around_body`).
-/

set_option autoImplicit false

namespace ExprGate.Artifact

open Text

/-- Lines that stand in a text one after another. -/
def Stands (block : List String) (text : String) : Prop :=
  ∃ before after, text = lines (before ++ block ++ after)

/-- The line with which the evaluation begins. -/
def signature (a : Artifact) : String :=
  "    fn evaluate(&self, " ++ a.contextVariable ++ ": &" ++ a.contextType.asContext ++ ") -> " ++
    a.returnType.asResult ++ " \x7b"

/-- A text holds the evaluator of an artifact. -/
structure Holds (text : String) (a : Artifact) : Prop where
  /-- All paths of the artifact are imported. -/
  imports : ∀ path ∈ a.imports, Stands ["use " ++ path ++ ";"] text
  /-- The type is declared, with its attributes in front of it. -/
  type : Stands (a.markers.map (fun path => "#[" ++ path ++ "]") ++
    ["pub struct " ++ a.ident ++ ";"]) text
  /-- The type implements the contract, for the types of the context and of the result. -/
  contract : Stands ["impl Evaluator for " ++ a.ident ++ " \x7b",
    "    type Context = " ++ a.contextType.asContext ++ ";",
    "    type Output = " ++ a.returnType.asResult ++ ";"] text
  /-- A result with a declared type is what the body comes to. -/
  declared : a.returnType.isDynamic = false →
    Stands [a.signature, "        " ++ a.body, "    \x7d"] text
  /-- Another result is what a closure around the body comes to, in a box. -/
  boxed : a.returnType.isDynamic = true →
    Stands [a.signature, "        Box::new((move || \x7b", "            " ++ a.body,
      "        \x7d)())", "    \x7d"] text
  /-- The body stands in the text as it is, and with another body the rest would be the same. -/
  verbatim : ∃ front back, text = front ++ a.body ++ back ∧
    ∀ body, ({ a with body } : Artifact).source = front ++ body ++ back
  /-- Further items are items of the type, if there are any. -/
  items : isBlankText a.customMethods = false →
    Stands ["impl " ++ a.ident ++ " \x7b",
      String.ofList (dropBlanks a.customMethods.toList.reverse).reverse, "\x7d"] text

/-- Lines that are among those of a text stand in it. -/
theorem stands_of_infix {block ls : List String} (h : block <:+: ls) : Stands block (lines ls) := by
  obtain ⟨before, after, rfl⟩ := h
  exact ⟨before, after, rfl⟩

/-- The parts of a source text behind its first lines. -/
def sourceParts (a : Artifact) : List (List String) :=
  [a.importLines, a.typeLines, a.contractLines, a.customLines]

/-- Lines of one part stand in the source text. -/
theorem stands_of_part {a : Artifact} {part block : List String} (hpart : part ∈ a.sourceParts)
    (h : block <:+: part) : Stands block a.source := by
  have hsource : a.source = lines
      ([generatedMark ++ " from `" ++ a.element ++ "`. Do not edit.", ""] ++
        a.sourceParts.flatten) := by
    simp [source, sourceParts]
  rw [hsource]
  apply stands_of_infix
  have hflatten := List.infix_of_mem_flatten hpart
  exact h.trans (hflatten.trans (List.suffix_append _ _).isInfix)

/-- Every path of an artifact has its line among the imports. -/
theorem mem_importLines {a : Artifact} {path : String} (h : path ∈ a.imports) :
    "use " ++ path ++ ";" ∈ a.importLines := by
  have hlines : "use " ++ path ++ ";" ∈ a.imports.flatMap fun path =>
      ["#[allow(unused_imports)]", "use " ++ path ++ ";"] :=
    List.mem_flatMap.2 ⟨path, h, by simp⟩
  unfold importLines
  dsimp only
  split
  · rename_i hempty
    rw [List.isEmpty_iff.1 hempty] at hlines
    cases hlines
  · exact List.mem_append_left _ hlines

/-- Lines around one line, as texts around it. -/
theorem lines_around (before after : List String) (blanks text : String) :
    lines (before ++ [blanks ++ text] ++ after) =
      (lines before ++ blanks) ++ text ++ ("\n" ++ lines after) := by
  unfold lines
  simp [String.append_assoc]

/-- The body is a line of its own behind some blanks, among others that do not depend on it. -/
theorem exists_lines_around_body (a : Artifact) :
    ∃ before blanks after, ∀ body,
      ({ a with body } : Artifact).source = lines (before ++ [blanks ++ body] ++ after) := by
  have hbody : ∃ opening blanks closing, ∀ body,
      ({ a with body } : Artifact).bodyLines = opening ++ [blanks ++ body] ++ closing := by
    cases hdynamic : a.returnType.isDynamic with
    | false =>
      refine ⟨[], "        ", [], ?_⟩
      intro body
      simp [bodyLines, hdynamic]
    | true =>
      refine ⟨["        Box::new((move || \x7b"], "            ", ["        \x7d)())"], ?_⟩
      intro body
      simp [bodyLines, hdynamic]
  obtain ⟨opening, blanks, closing, hlines⟩ := hbody
  refine ⟨[generatedMark ++ " from `" ++ a.element ++ "`. Do not edit.", ""] ++ a.importLines ++
    a.typeLines ++ a.contractLines.take 6 ++ opening, blanks,
    closing ++ ["    \x7d", "\x7d"] ++ a.customLines, ?_⟩
  intro body
  have hcontract : ({ a with body } : Artifact).contractLines =
      a.contractLines.take 6 ++ (opening ++ [blanks ++ body] ++ closing) ++ ["    \x7d", "\x7d"] := by
    rw [← hlines body]
    rfl
  unfold source
  rw [hcontract]
  simp only [List.append_assoc]
  rfl

/-- The body stands in the source text as it is, and what is around it does not depend on it. -/
theorem source_around_body (a : Artifact) :
    ∃ front back, ∀ body, ({ a with body } : Artifact).source = front ++ body ++ back := by
  obtain ⟨before, blanks, after, h⟩ := exists_lines_around_body a
  refine ⟨lines before ++ blanks, "\n" ++ lines after, ?_⟩
  intro body
  rw [h, lines_around]

/-- The source text of an artifact holds its evaluator. -/
theorem source_holds (a : Artifact) : Holds a.source a := by
  have hcontract {block : List String} (h : block <:+: a.contractLines) : Stands block a.source := by
    have hpart : a.contractLines ∈ a.sourceParts := by simp [sourceParts]
    exact stands_of_part hpart h
  constructor
  case imports =>
    intro path hpath
    obtain ⟨before, after, hlines⟩ := List.append_of_mem (mem_importLines hpath)
    have hpart : a.importLines ∈ a.sourceParts := by simp [sourceParts]
    apply stands_of_part hpart
    exact ⟨before, after, by simp [hlines]⟩
  case type =>
    have hpart : a.typeLines ∈ a.sourceParts := by simp [sourceParts]
    apply stands_of_part hpart
    exact ⟨["/// Evaluator `" ++ a.qualifiedName ++ "`.", "#[derive(Debug, Default, Clone, Copy)]"],
      [""], by simp [typeLines]⟩
  case contract =>
    apply hcontract
    refine ⟨[], a.contractLines.drop 3, ?_⟩
    unfold contractLines
    rfl
  case declared =>
    intro hdynamic
    apply hcontract
    refine ⟨a.contractLines.take 5, ["\x7d"], ?_⟩
    unfold contractLines bodyLines
    rw [hdynamic]
    rfl
  case boxed =>
    intro hdynamic
    apply hcontract
    refine ⟨a.contractLines.take 5, ["\x7d"], ?_⟩
    unfold contractLines bodyLines
    rw [hdynamic]
    rfl
  case verbatim =>
    obtain ⟨front, back, h⟩ := source_around_body a
    exact ⟨front, back, h a.body, h⟩
  case items =>
    intro hitems
    have hpart : a.customLines ∈ a.sourceParts := by simp [sourceParts]
    apply stands_of_part hpart
    refine ⟨a.customLines.take 2, [], ?_⟩
    simp [customLines, hitems]

end ExprGate.Artifact
