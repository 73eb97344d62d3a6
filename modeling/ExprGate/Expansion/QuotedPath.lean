import ExprGate.Grammar.File

/-!
# Paths in strings

A path may be given as a string literal. The text of the literal is then read as a path, which may
have arguments.
-/

set_option autoImplicit false

namespace ExprGate.Expansion

open Grammar Token

/-- Whether a string literal ends with its quotes, and no suffix is behind them. -/
def endsWithQuotes (text : String) : Bool :=
  match text.toList.getLast? with
  | some '"' => true
  | some '#' => true
  | _ => false

/-- Whether an expression is a literal without suffix. -/
def isUnsuffixed (e : Expr) : Bool :=
  match e.tokens with
  | [.literal text] => endsWithQuotes text
  | _ => true

/-- The path that a text spells, and its tokens. -/
def pathOfText? (text : String) : Option (Grammar.Path × List Tree) := do
  parse (fun r => noting (path r false)) (← lex text)

/-- The path in a string literal with the given text, and its tokens. -/
def quotedPath? (e : Expr) (text : String) : Option (Grammar.Path × List Tree) :=
  if isUnsuffixed e then pathOfText? text else none

/-- The tokens of the path to the runtime library, where none is configured. -/
def defaultRuntime : List Tree :=
  operator "::" ++ [.ident "jel"]

end ExprGate.Expansion
