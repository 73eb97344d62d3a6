import ExprGate.Expansion.QuotedPath
import ExprGate.Marker.Descriptor
import ExprGate.Token.Printer

/-!
# Expanding marker types

The annotation of a marker type implements the runtime contract for it, with the descriptor that
its arguments give. The structure needs a field for the expression, and the patterns have to give
names. All errors in arguments are reported together; only then the structure is looked at.
-/

set_option autoImplicit false

namespace ExprGate.Expansion

open Grammar Token Marker

/-- Why an argument or a structure cannot be expanded. An error may name the argument that it is
in. -/
inductive MarkerTypeError where
  /-- It does not follow the grammar. -/
  | malformed
  /-- An argument without name. -/
  | nameless
  | unknownArgument (name : String)
  | repeatedArgument (name : String)
  /-- An argument without value. -/
  | withoutValue (argument : String)
  /-- An argument with a list in place of a value. -/
  | listForValue (argument : String)
  /-- An argument with a value of a wrong kind. -/
  | wrongValue (kind argument : String)
  /-- An element of a list that is no path. -/
  | notPath (argument : String)
  /-- The structure lacks the field for the expression. -/
  | noField (name : String)
  /-- The patterns give no names. -/
  | badNaming (source : NamingError)
deriving DecidableEq, Repr

/-- The wording of an error; an error of grammar has none of its own. -/
def MarkerTypeError.message? : MarkerTypeError → Option String
  | .malformed => none
  | .nameless => some "Unexpected meta-item format `literal`"
  | .unknownArgument name => some ("Unknown field: `" ++ name ++ "`")
  | .repeatedArgument name => some ("Duplicate field `" ++ name ++ "`")
  | .withoutValue argument => some ("Unexpected meta-item format `word` at " ++ argument)
  | .listForValue argument => some ("Unexpected meta-item format `list` at " ++ argument)
  | .wrongValue kind argument => some ("Unexpected type `" ++ kind ++ "` at " ++ argument)
  | .notPath argument => some ("expected a path or a string literal at " ++ argument)
  | .noField name => some ("marker has no named field `" ++ name ++ "` to hold the expression")
  | .badNaming source => some source.message

/-! ## Arguments -/

/-- The kind of a literal by its text. -/
def literalKind (text : String) : String :=
  match text.toList with
  | 'b' :: '\'' :: _ => "byte"
  | 'b' :: '"' :: _ => "byte string"
  | 'b' :: 'r' :: _ => "byte string"
  | 'c' :: _ => "unknown"
  | '\'' :: _ => "char"
  | _ => if isFloating text then "float" else "int"

/-- The kind of a value by the word for it. -/
def valueKind (e : Expr) : String :=
  match e.form with
  | .literal (.string _) => "string"
  | .literal (.bool _) => "bool"
  | .literal (.other _) =>
    match e.tokens.getLast? with
    | some (.literal text) => literalKind text
    | _ => "unknown"
  | form => form.construct.name

/-- The error of an argument with a list in place of a value. -/
def listError (argument : String) (tokens : List Tree) : MarkerTypeError :=
  match parse argumentList tokens with
  | some _ => .listForValue argument
  | none => .malformed

/-- The value of an argument that is a text. -/
def textOf (argument : String) : Meta → Except MarkerTypeError String
  | .path _ => .error (.withoutValue argument)
  | .list _ _ tokens => .error (listError argument tokens)
  | .value _ e =>
    match e.form with
    | .literal (.string s) => .ok s
    | _ => .error (.wrongValue (valueKind e) argument)

/-- The path to the runtime library that an argument gives. -/
def runtimePathOf (argument : String) : Meta → Except MarkerTypeError (List Tree)
  | .path _ => .error (.withoutValue argument)
  | .list _ _ tokens => .error (listError argument tokens)
  | .value _ e =>
    match e.form with
    | .literal (.string s) =>
      match quotedPath? e s with
      | some (_, tokens) => .ok tokens
      | none => .error .malformed
    | .path _ => .ok e.tokens
    | .qualifiedPath tokens => .ok tokens
    | _ => .error (.wrongValue (valueKind e) argument)

/-- The path that an element of a list gives. -/
def entryPath (argument : String) (e : Expr) : Except MarkerTypeError String :=
  match e.form with
  | .path p => .ok p.text
  | .literal (.string s) =>
    match quotedPath? e s with
    | some (p, _) => .ok p.text
    | none => .error .malformed
  | _ => .error (.notPath argument)

/-- The elements of an argument that is a list of paths. -/
def entriesOf (argument : String) : Meta → Except MarkerTypeError (List Expr)
  | .path _ => .error (.withoutValue argument)
  | .list _ _ tokens =>
    match parse exprList tokens with
    | some es => .ok es
    | none => .error .malformed
  | .value _ e =>
    match e.form with
    | .array => .ok e.elements
    | _ => .ok [e]

/-- The results that are errors. -/
def errorsOf {ε α : Type} : List (Except ε α) → List ε
  | [] => []
  | .error e :: rest => e :: errorsOf rest
  | .ok _ :: rest => errorsOf rest

/-- The results that are values. -/
def valuesOf {ε α : Type} : List (Except ε α) → List α
  | [] => []
  | .ok a :: rest => a :: valuesOf rest
  | .error _ :: rest => valuesOf rest

/-- All values, or all errors if there is one. -/
def collect {ε α : Type} (rs : List (Except ε α)) : Except (List ε) (List α) :=
  if (errorsOf rs).isEmpty then .ok (valuesOf rs) else .error (errorsOf rs)

/-- The paths of an argument that is a list of paths. -/
def pathsOf (argument : String) (m : Meta) : Except (List MarkerTypeError) (List String) :=
  match entriesOf argument m with
  | .error e => .error [e]
  | .ok es => collect (es.map (entryPath argument))

/-- What has been read of the arguments. -/
structure Arguments where
  descriptor : Descriptor := {}
  /-- The tokens of the path to the runtime library. -/
  runtime : List Tree := defaultRuntime
  /-- The settings that have occurred. -/
  seen : List Setting := []
  errors : List MarkerTypeError := []

namespace Arguments

/-- Adds errors. -/
def fail (a : Arguments) (es : List MarkerTypeError) : Arguments :=
  { a with errors := a.errors ++ es }

/-- Takes over the value of a setting, or its errors. -/
def set (a : Arguments) (s : Setting) (m : Meta) : Arguments :=
  match s with
  | .text t =>
    match textOf s.key m with
    | .ok value => { a with descriptor := a.descriptor.setText t value }
    | .error e => a.fail [e]
  | .paths p =>
    match pathsOf s.key m with
    | .ok value => { a with descriptor := a.descriptor.setPaths p value }
    | .error es => a.fail es
  | .runtime =>
    match runtimePathOf s.key m with
    | .ok runtime => { a with runtime }
    | .error e => a.fail [e]

/-- Takes over an argument. A setting counts as seen even if its value is an error. -/
def add (a : Arguments) : Argument → Arguments
  | .literal _ => a.fail [.nameless]
  | .named m =>
    let name := Text.joinSegments (m.name.segments.map Segment.name)
    match Setting.ofKey? name with
    | none => a.fail [.unknownArgument name]
    | some s =>
      if a.seen.contains s then a.fail [.repeatedArgument name]
      else { a with seen := a.seen ++ [s] }.set s m

/-- The arguments that tokens give. -/
def ofTokens (args : List Tree) : Except (List MarkerTypeError) Arguments :=
  match parse argumentList args with
  | none => .error [.malformed]
  | some as =>
    let a := as.foldl add {}
    if a.errors.isEmpty then .ok a else .error a.errors

end Arguments

/-! ## The expansion -/

/-- A structure that is a marker type, and how it is described. -/
structure MarkerType where
  /-- The tokens of the structure. -/
  declaration : List Tree
  body : TypeBody
  descriptor : Descriptor
  /-- The tokens of the path to the runtime library. -/
  runtime : List Tree

/-- The errors of a structure that is described by some arguments. -/
def structureErrors (d : Descriptor) (fields : List String) : List MarkerTypeError :=
  let field := if fields.contains d.expressionMember then [] else [.noField d.expressionMember]
  let naming := match d.naming.validate with
    | .ok () => []
    | .error e => [.badNaming e]
  field ++ naming

/-- The marker type that a structure with some arguments is. -/
def MarkerType.ofTokens (args item : List Tree) : Except (List MarkerTypeError) MarkerType := do
  let a ← Arguments.ofTokens args
  match parse structDeclaration item with
  | none => .error [.malformed]
  | some (body, declaration) =>
    let errors := structureErrors a.descriptor body.fields
    if errors.isEmpty then
      return { declaration, body, descriptor := a.descriptor, runtime := a.runtime }
    else
      .error errors

/-- Trees with commas between them. -/
def commaSeparated (ts : List Tree) : List Tree :=
  (operator ",").intercalate (ts.map ([·]))

/-- The tokens of a field with its value. -/
def fieldTokens (name : String) (value : List Tree) : List Tree :=
  .ident name :: operator ":" ++ value

/-- The tokens of a list of strings. -/
def listTokens (items : List String) : List Tree :=
  operator "&" ++ [.group .bracket (commaSeparated (items.map stringLiteral))]

namespace MarkerType

/-- The tokens of the path to a name in the runtime library. -/
def runtimeName (m : MarkerType) (name : String) : List Tree :=
  m.runtime ++ operator "::" ++ [.ident name]

/-- The tokens of the descriptor. -/
def descriptorTokens (m : MarkerType) : List Tree :=
  let texts := TextSetting.all.map fun s =>
    fieldTokens s.key [stringLiteral (m.descriptor.text s)]
  let paths := [PathSetting.evaluatorMarkers, .imports].map fun s =>
    fieldTokens s.key (listTokens (m.descriptor.paths s))
  m.runtimeName "Descriptor" ++ [.group .brace ((operator ",").intercalate (texts ++ paths))]

/-- The tokens of the two constants of the contract. -/
def constants (m : MarkerType) : List Tree :=
  let text := operator "&" ++ lifetime "static" ++ [.ident "str"]
  [.ident "const", .ident "NAME"] ++ operator ":" ++ text ++ operator "=" ++
    [stringLiteral m.body.name] ++ operator ";" ++
    [.ident "const", .ident "DESCRIPTOR"] ++ operator ":" ++ m.runtimeName "Descriptor" ++
    operator "=" ++ m.descriptorTokens ++ operator ";"

/-- A parameter as an implementation declares it, without default. -/
def declaredParameter (p : Parameter) : List Tree :=
  p.attributes ++ p.declared

/-- The tokens of the implementation of the contract. -/
def implementation (m : MarkerType) : List Tree :=
  let conditions :=
    if m.body.conditions.isEmpty then [] else .ident "where" :: m.body.conditions
  .ident "impl" :: inAngles declaredParameter m.body.parameters ++ m.runtimeName "Marker" ++
    [.ident "for", .ident m.body.name] ++ inAngles Parameter.name m.body.parameters ++ conditions ++
    [.group .brace m.constants]

/-- The tokens of a marker type with its implementation. -/
def tokens (m : MarkerType) : List Tree :=
  m.declaration ++ m.implementation

end MarkerType

/-- The expansion of the annotation of a marker type with some arguments in front of a structure. -/
def expandMarkerType (args item : List Tree) : Except (List MarkerTypeError) (List Tree) :=
  (MarkerType.ofTokens args item).map MarkerType.tokens

end ExprGate.Expansion
