/-!
# Constructs

The kinds of expressions by the words that messages use for them.
-/

set_option autoImplicit false

namespace ExprGate.Grammar

/-- A kind of expression. -/
inductive Construct where
  | array
  | assignment
  | asyncBlock
  | awaiting
  | binary
  | block
  | breaking
  | call
  | cast
  | closure
  | constBlock
  | continuing
  | field
  | forLoop
  | choice
  | index
  | inferred
  | binding
  | literal
  | loop
  | macroCall
  | matching
  | methodCall
  | parenthesized
  | path
  | range
  | reference
  | repetition
  | returning
  | structBody
  | propagation
  | tryBlock
  | tuple
  | unary
  | unsafeBlock
  | verbatim
  | whileLoop
  | yielding
  /-- An expression that has no word. -/
  | unknown
deriving DecidableEq, Repr

/-- The word for a kind of expression. -/
def Construct.name : Construct → String
  | .array => "array"
  | .assignment => "assign"
  | .asyncBlock => "async"
  | .awaiting => "await"
  | .binary => "binary"
  | .block => "block"
  | .breaking => "break"
  | .call => "call"
  | .cast => "cast"
  | .closure => "closure"
  | .constBlock => "const"
  | .continuing => "continue"
  | .field => "field"
  | .forLoop => "for_loop"
  | .choice => "if"
  | .index => "index"
  | .inferred => "infer"
  | .binding => "let"
  | .literal => "lit"
  | .loop => "loop"
  | .macroCall => "macro"
  | .matching => "match"
  | .methodCall => "method_call"
  | .parenthesized => "paren"
  | .path => "path"
  | .range => "range"
  | .reference => "reference"
  | .repetition => "repeat"
  | .returning => "return"
  | .structBody => "struct"
  | .propagation => "try"
  | .tryBlock => "try_block"
  | .tuple => "tuple"
  | .unary => "unary"
  | .unsafeBlock => "unsafe"
  | .verbatim => "verbatim"
  | .whileLoop => "while"
  | .yielding => "yield"
  | .unknown => "unknown"

end ExprGate.Grammar
