import ExprGate.Declaration.Basic
import ExprGate.Grammar.Construct
import ExprGate.Grammar.Parser

/-!
# What the grammar is made of

The constructs that answers depend on are kept: paths, the shape of types and expressions, and
declarations. Of everything else only the printed tokens matter. The grammar is recursive in a few
constructs; `Rules` bundles their parsers, so that the parser of each construct is an ordinary
function of the parsers of the constructs nested in it.
-/

set_option autoImplicit false

namespace ExprGate.Grammar

open Token
open Declaration (Kind)

/-- The arguments behind a segment of a path. -/
inductive Arguments where
  | none
  | angled
  | parenthesized
deriving DecidableEq, Repr

/-- A segment of a path. -/
structure Segment where
  name : String
  arguments : Arguments := .none
deriving DecidableEq, Repr

/-- A path, possibly with a leading `::`. -/
structure Path where
  leading : Bool
  segments : List Segment
deriving DecidableEq, Repr

/-- A path as text, without arguments. -/
def Path.text (p : Path) : String :=
  let joined := "::".intercalate (p.segments.map Segment.name)
  if p.leading then "::" ++ joined else joined

/-- The tokens of a path, without arguments. -/
def Path.tokens (p : Path) : List Tree :=
  (if p.leading then operator "::" else []) ++
    (operator "::").intercalate (p.segments.map fun s => [.ident s.name])

/-- Whether no segment has arguments. -/
def Path.isPlain (p : Path) : Bool :=
  p.segments.all fun s => s.arguments == .none

/-- The name that a path consists of, if it is one segment without anything else. -/
def Path.word? (p : Path) : Option String :=
  match p with
  | ⟨false, [⟨name, .none⟩]⟩ => some name
  | _ => none

/-- Whether a path is a certain name. -/
def Path.isWord (p : Path) (name : String) : Bool :=
  p.word? == some name

/-- What a type is, as far as it matters around it. -/
inductive TypeForm where
  /-- A path that does not start with a type in angle brackets. -/
  | path (p : Path)
  /-- Bounds without `dyn` in front; `single` if it is one bound with nothing behind. -/
  | bounds (single : Bool)
  /-- A type in parentheses. -/
  | parenthesized
  /-- Any other type. -/
  | other
deriving DecidableEq, Repr

/-- What an expression is, as far as it matters around it. -/
inductive Form where
  | literal (l : Literal)
  /-- A path that does not start with a type in angle brackets. -/
  | path (p : Path)
  /-- A path that starts with a type in angle brackets, with the tokens that the rest of it has as a
  path of its own. -/
  | qualifiedPath (tokens : List Tree)
  /-- A list of expressions in brackets. -/
  | array
  /-- An expression that ends with a block and can be a statement by itself. -/
  | blockLike (c : Construct)
  /-- A call of a macro, and whether its argument is in braces. -/
  | call (braced : Bool)
  | range
  | comparison
  | other (c : Construct)
deriving Repr

/-- What kind of expression a form belongs to. -/
def Form.construct : Form → Construct
  | .literal _ => .literal
  | .path _ => .path
  | .qualifiedPath _ => .path
  | .array => .array
  | .blockLike c => c
  | .call _ => .macroCall
  | .range => .range
  | .comparison => .binary
  | .other c => c

/-- Whether a form is that of a range. -/
def Form.isRange : Form → Bool
  | .range => true
  | _ => false

/-- Whether a form is that of a comparison. -/
def Form.isComparison : Form → Bool
  | .comparison => true
  | _ => false

/-- Whether a form is that of an expression that can be a statement by itself. -/
def Form.isBlockLike : Form → Bool
  | .blockLike _ => true
  | _ => false

/-- An expression: its form, the elements of a list, and its tokens. -/
inductive Expr where
  | mk (form : Form) (elements : List Expr) (tokens : List Tree)

/-- The form of an expression. -/
def Expr.form : Expr → Form
  | .mk form _ _ => form

/-- The elements of a list expression. -/
def Expr.elements : Expr → List Expr
  | .mk _ elements _ => elements

/-- The tokens of an expression. -/
def Expr.tokens : Expr → List Tree
  | .mk _ _ tokens => tokens

/-- The argument of an attribute, or a part of it. -/
inductive Meta where
  /-- A path alone. -/
  | path (p : Path)
  /-- A path with tokens in some delimiters. -/
  | list (p : Path) (d : Delimiter) (tokens : List Tree)
  /-- A path and a value. -/
  | value (p : Path) (e : Expr)

/-- The path of an attribute. -/
def Meta.name : Meta → Path
  | .path p => p
  | .list p _ _ => p
  | .value p _ => p

/-- A tree of imports. -/
inductive UseTree where
  /-- A segment with a tree below it. -/
  | path (segment : String) (tree : UseTree)
  | name (name : String)
  | rename (name newName : String)
  | glob
  | group (trees : List UseTree)

/-- A function in an `impl` block. -/
structure Function where
  attributes : List Meta
  name : String

/-- A declaration. -/
inductive Item where
  /-- A type with the names of its fields, where they have names. -/
  | type (kind : Kind) (attributes : List Meta) (name : String) (fields : List String)
  /-- An `impl` block: the path of the trait, the form of the type, and the functions. -/
  | implementation (attributes : List Meta) (ofTrait : Option Path) (selfType : TypeForm)
      (functions : List Function)
  /-- A module, with its contents if they are in place. -/
  | module (attributes : List Meta) (name : String) (content : Option (List Item))
  | imports (attributes : List Meta) (absolute : Bool) (tree : UseTree)
  | other

/-- What a pattern is, as far as it matters around it. -/
inductive PatternForm where
  /-- The pattern `..`. -/
  | rest
  /-- A range that lacks an end. -/
  | openRange
  | other
deriving DecidableEq, Repr

/-- The parsers of the constructs in which the grammar is recursive. -/
structure Rules where
  /-- A type; the flag says whether it may be several bounds joined by `+`. -/
  type : Bool → Parser TypeForm
  /-- A bound of a type; the flags allow captured sets and `const`. The result tells whether it is a
  trait. -/
  bound : Bool → Bool → Parser Bool
  /-- An expression; the flag says whether braces behind a path belong to it. -/
  expr : Bool → Parser Expr
  /-- An operand with its leading operators and everything attached to it. -/
  unary : Bool → Parser Expr
  /-- A match of a value against patterns. -/
  matching : Parser Expr
  /-- A pattern without alternatives at its top. -/
  pattern : Parser PatternForm
  /-- The statements of a block, without the braces. -/
  statements : Parser Unit
  /-- A declaration. -/
  item : Parser Item
  /-- A tree of imports; the flag says whether parts may start with `::`. The result is missing if
  one does. -/
  useTree : Bool → Parser (Option UseTree)

/-- Rules by which nothing can be parsed. -/
def Rules.nothing : Rules where
  type _ := failure
  bound _ _ := failure
  expr _ := failure
  unary _ := failure
  matching := failure
  pattern := failure
  statements := failure
  item := failure
  useTree _ := failure

end ExprGate.Grammar
