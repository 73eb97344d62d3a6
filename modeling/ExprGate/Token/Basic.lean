/-!
# Token trees

Source text is read as a sequence of trees: identifiers, single operator characters, literals,
and groups between matching delimiters. An operator character that is directly followed by
another one is `joint` to it, which is how operators of several characters are told from
operators side by side. A lifetime is a joint apostrophe before an identifier.
-/

set_option autoImplicit false

namespace ExprGate.Token

/-- The delimiters of groups. -/
inductive Delimiter where
  | paren
  | bracket
  | brace
deriving DecidableEq, Repr

/-- The character that opens a group. -/
def Delimiter.opening : Delimiter → Char
  | .paren => '('
  | .bracket => '['
  | .brace => '{'

/-- The character that closes a group. -/
def Delimiter.closing : Delimiter → Char
  | .paren => ')'
  | .bracket => ']'
  | .brace => '}'

/-- A token, or a group of tokens. -/
inductive Tree where
  /-- An identifier or keyword as it is written, with `r#` if it has that. -/
  | ident (name : String)
  /-- An operator character; `joint` if another one follows at once. -/
  | punct (c : Char) (joint : Bool)
  /-- A literal as it is written. -/
  | literal (text : String)
  /-- A group with its contents. -/
  | group (d : Delimiter) (trees : List Tree)
deriving Repr

/-- The number of tokens in a list of trees, groups counted with their contents. -/
def count : List Tree → Nat
  | [] => 0
  | .group _ inner :: rest => 1 + count inner + count rest
  | _ :: rest => 1 + count rest

/-- The characters that can be operators. -/
def isOperatorChar (c : Char) : Bool :=
  "~!@#$%^&*-=+|;:,<.>/?'".toList.contains c

/-- The trees of an operator: its characters, each joint to the next. -/
def operator (text : String) : List Tree :=
  match text.toList with
  | [] => []
  | cs => cs.dropLast.map (.punct · true) ++ (cs.getLast?.map (.punct · false)).toList

/-- The trees of a lifetime. -/
def lifetime (name : String) : List Tree :=
  [.punct '\'' true, .ident name]

/-- The words that cannot be plain identifiers. -/
def keywords : List String :=
  ["_", "abstract", "as", "async", "await", "become", "box", "break", "const", "continue",
   "crate", "do", "dyn", "else", "enum", "extern", "false", "final", "fn", "for", "if", "impl",
   "in", "let", "loop", "macro", "match", "mod", "move", "mut", "override", "priv", "pub", "ref",
   "return", "Self", "self", "static", "struct", "super", "trait", "true", "try", "type",
   "typeof", "unsafe", "unsized", "use", "virtual", "where", "while", "yield"]

/-- Whether a word is an identifier and not a keyword. -/
def isPlainIdent (name : String) : Bool :=
  !keywords.contains name

end ExprGate.Token
