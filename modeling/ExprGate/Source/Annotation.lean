import ExprGate.Grammar.File
import ExprGate.Marker.Descriptor
import ExprGate.Token.Printer

/-!
# Annotations in source text

Attributes in front of a declaration are read as its annotations. The container `mark` holds usages of
markers and has to be well formed; every other attribute is an annotation, of which arguments that
do not follow the grammar are dropped. Documentation is no annotation.
-/

set_option autoImplicit false

namespace ExprGate.Source

open Declaration Grammar Token

/-- The member that holds a value without name. -/
def valueMember : String := "value"

/-- The value that a literal gives. -/
def literalValue : Literal → Value
  | .string s => .text s
  | .bool b => .flag b
  | .other text => .raw text

/-- The text that an element of a list gives: a string, a path, or the tokens. -/
def elementText (e : Expr) : String :=
  match e.form with
  | .literal (.string s) => s
  | .path p => p.text
  | _ => print e.tokens

/-- The value that an expression gives. -/
def expressionValue (e : Expr) : Value :=
  match e.form with
  | .literal l => literalValue l
  | .array => .list (e.elements.map elementText)
  | _ => .raw (print e.tokens)

/-- The value that tokens in parentheses give: a list of expressions, or else the tokens. -/
def listValue (tokens : List Tree) : Value :=
  match parse exprList tokens with
  | some items => .list (items.map elementText)
  | none => .raw (print tokens)

/-- The member that an argument gives. -/
def argumentMember : Argument → String × Value
  | .literal l => (valueMember, literalValue l)
  | .named (.path p) => (p.text, .flag true)
  | .named (.value p e) => (p.text, expressionValue e)
  | .named (.list p _ tokens) => (p.text, listValue tokens)

/-- The members that arguments give, if they follow the grammar. -/
def members? (tokens : List Tree) : Option (List (String × Value)) :=
  (parse argumentList tokens).map (·.map argumentMember)

/-- The annotation of an attribute, if its arguments follow the grammar. -/
def annotation? : Meta → Option Annotation
  | .path p => some ⟨p.text, []⟩
  | .value p e => some ⟨p.text, [(valueMember, expressionValue e)]⟩
  | .list p _ tokens => (members? tokens).map fun members => ⟨p.text, members⟩

/-- Whether an entry of a container names the runtime library and is no usage. -/
def isRuntimeEntry (m : Meta) : Bool :=
  m.name.isWord Marker.runtimeKey

/-- The usages among the entries of a container. -/
def usageEntries (entries : List Meta) : List Meta :=
  entries.filter (!isRuntimeEntry ·)

/-- The usages of markers in a container. -/
def usages? : Meta → Option (List Annotation)
  | .list _ _ tokens => do (usageEntries (← parse metaList tokens)).mapM annotation?
  | _ => none

/-- Whether a path names the container of usages. -/
def isMark (p : Grammar.Path) : Bool :=
  p.segments.getLast?.any (·.name == "mark")

/-- The annotations of one attribute; there are none in a container that is not well formed. -/
def annotationsOf? (m : Meta) : Option (List Annotation) :=
  if m.name.isWord "doc" then some []
  else if isMark m.name then usages? m
  else some [(annotation? m).getD ⟨m.name.text, []⟩]

/-- The annotations of a declaration. -/
def annotations? (attributes : List Meta) : Option (List Annotation) :=
  (attributes.mapM annotationsOf?).map List.flatten

/-- Whether a declaration belongs to tests only. -/
def isTestOnly (attributes : List Meta) : Bool :=
  attributes.any fun
    | .list p _ [.ident "test"] => p.isWord "cfg"
    | _ => false

end ExprGate.Source
