import ExprGate.Artifact.Basic
import ExprGate.Text.Sorted

/-!
# The source text of an artifact

An artifact is written as a type without fields that implements the evaluator contract. Equal
artifacts have equal texts.
-/

set_option autoImplicit false

namespace ExprGate.Artifact

open Text

/-- The beginning of every generated file. -/
def generatedMark : String := "// @generated by jel-codegen"

/-- How a type stands for the context in a signature. -/
def TypeRef.asContext : TypeRef → String
  | .dynamic => "Dynamic"
  | .named display _ => display

/-- How a type stands for the result in a signature. -/
def TypeRef.asResult : TypeRef → String
  | .dynamic => "Box<Dynamic>"
  | .named display _ => display

/-- The lines that import paths. -/
def importLines (a : Artifact) : List String :=
  let imports := a.imports.flatMap fun path => ["#[allow(unused_imports)]", "use " ++ path ++ ";"]
  if imports.isEmpty then [] else imports ++ [""]

/-- The lines that declare the type. -/
def typeLines (a : Artifact) : List String :=
  ["/// Evaluator `" ++ a.qualifiedName ++ "`.", "#[derive(Debug, Default, Clone, Copy)]"] ++
    a.markers.map (fun path => "#[" ++ path ++ "]") ++ ["pub struct " ++ a.ident ++ ";", ""]

/-- The lines of the expression. A result without declared type is put into a box, so that `return`
leaves the expression only. -/
def bodyLines (a : Artifact) : List String :=
  if a.returnType.isDynamic then
    ["        Box::new((move || \x7b", "            " ++ a.body, "        \x7d)())"]
  else
    ["        " ++ a.body]

/-- The lines that implement the contract. -/
def contractLines (a : Artifact) : List String :=
  ["impl Evaluator for " ++ a.ident ++ " \x7b",
    "    type Context = " ++ a.contextType.asContext ++ ";",
    "    type Output = " ++ a.returnType.asResult ++ ";",
    "",
    "    #[allow(unused_variables, clippy::needless_return, clippy::redundant_closure_call)]",
    "    fn evaluate(&self, " ++ a.contextVariable ++ ": &" ++ a.contextType.asContext ++ ") -> " ++
      a.returnType.asResult ++ " \x7b"] ++
    a.bodyLines ++ ["    \x7d", "\x7d"]

/-- The lines of further items. -/
def customLines (a : Artifact) : List String :=
  if isBlankText a.customMethods then []
  else
    ["", "#[allow(dead_code)]", "impl " ++ a.ident ++ " \x7b",
      String.ofList (dropBlanks a.customMethods.toList.reverse).reverse, "\x7d"]

/-- The source text of an artifact. -/
def source (a : Artifact) : String :=
  lines <|
    [generatedMark ++ " from `" ++ a.element ++ "`. Do not edit.", ""] ++ a.importLines ++
      a.typeLines ++ a.contractLines ++ a.customLines

end ExprGate.Artifact
