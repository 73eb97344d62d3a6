import ExprGate.Artifact.Basic
import ExprGate.Artifact.Element
import ExprGate.Artifact.TypeName
import ExprGate.Text.Sorted

/-!
# Building an artifact

An artifact is built from a marker and an element that carries it. The expression is a member of the
usage; the marker's patterns give the name, which has to be divided into a package of modules and
the name of a type. What is configured by the marker is taken over.
-/

set_option autoImplicit false

namespace ExprGate.Artifact

open Text Marker

/-- Why no artifact can be built. -/
inductive BuildError where
  /-- The usage lacks the member for the expression. -/
  | noExpression (usage member : String)
  /-- The member for the expression holds something else. -/
  | notExpression (usage member : String)
  /-- The patterns give no name. -/
  | noName (source : NamingError)
  /-- A segment of the package is no name of a module. -/
  | badSegment (qualifiedName segment : String)
  /-- The name gives no name of a type. -/
  | noTypeName (qualifiedName : String)
deriving DecidableEq, Repr

/-- The wording of an error in building. -/
def BuildError.message : BuildError → String
  | .noExpression usage member => "`" ++ usage ++ "` usage has no `" ++ member ++ "`"
  | .notExpression usage member =>
    "`" ++ usage ++ "` member `" ++ member ++ "` is not an expression"
  | .noName source => source.message
  | .badSegment qualifiedName segment =>
    "evaluator `" ++ qualifiedName ++ "` has package segment `" ++ segment ++
      "`, which is not a module name"
  | .noTypeName qualifiedName => "evaluator `" ++ qualifiedName ++ "` has no usable type name"

/-- The expression of a usage. -/
def expressionOf (usage : Declaration.Annotation) (member : String) : Except BuildError String :=
  match usage.get? member with
  | none => .error (.noExpression usage.name member)
  | some value =>
    match value.asText? with
    | some text => .ok text
    | none => .error (.notExpression usage.name member)

/-- The first segment of a package that is no identifier. The empty package has none. -/
def badSegment? (package : String) : Option String :=
  if package.isEmpty then none
  else (segments package).find? (!Token.isIdentifier ·)

/-- A name divided into a package of modules and a class, and the type name that the class gives. -/
def placeOf (qualifiedName : String) : Except BuildError (String × String × String) :=
  let (package, className) := splitQualified qualifiedName
  match badSegment? package with
  | some segment => .error (.badSegment qualifiedName segment)
  | none =>
    match typeName? className with
    | none => .error (.noTypeName qualifiedName)
    | some ident => .ok (package, className, ident)

/-- An expression without the blanks behind it, and with a semicolon at its end. -/
def terminate (expression : String) : String :=
  let cs := (dropBlanks expression.toList.reverse).reverse
  if cs.getLast? == some ';' then String.ofList cs else String.ofList (cs ++ [';'])

/-- The paths that an artifact imports: the contract, the configured types, and what is configured
beside them, if it is a plain path. -/
def importsOf (runtime : String) (contextType returnType : TypeRef) (extra : List String) :
    List String :=
  let contract := [runtime ++ separator ++ "Evaluator"]
  let openType :=
    if contextType.isDynamic || returnType.isDynamic then [runtime ++ separator ++ "Dynamic"]
    else []
  sortedTexts <| contract ++ openType ++ contextType.importPath?.toList ++
    returnType.importPath?.toList ++ (extra.map trim).filter isImportable

/-- The attributes that a list of paths stamps on a type. -/
def stamps (paths : List String) : List String :=
  (paths.map fun path => simpleName (trim path)).filter (!·.isEmpty)

/-- The artifact of an element that carries a marker. -/
def build (runtime : String) (m : Marker) (e : Element) : Except BuildError Artifact := do
  let d := m.descriptor
  let expression ← expressionOf e.usage d.expressionMember
  let qualifiedName ← (d.naming.evaluatorName e.className e.methodName?).mapError .noName
  let (package, className, ident) ← placeOf qualifiedName
  let contextType := TypeRef.ofText d.contextType
  let returnType := TypeRef.ofText d.returnType
  return {
    element := e.name
    marker := m.name
    qualifiedName, package, className, ident
    contextVariable := d.contextVariable
    contextType, returnType
    body := terminate expression
    customMethods := d.customMethods
    markers := stamps d.evaluatorMarkers
    imports := importsOf runtime contextType returnType (d.imports ++ d.evaluatorMarkers) }

end ExprGate.Artifact
