import ExprGate.Token.Basic
import ExprGate.Text.Quoted

/-!
# Printing tokens

Trees are printed with one space between any two of them, except behind a joint operator
character. Parentheses and brackets stand close to their contents; braces have a space inside,
which an empty pair keeps. `flatten` gives the tokens as separate texts instead, with every
operator character on its own.
-/

set_option autoImplicit false

namespace ExprGate.Token

mutual

/-- The text of a tree. -/
def Tree.text : Tree → String
  | .ident name => name
  | .punct c _ => String.ofList [c]
  | .literal text => text
  | .group .paren trees => "(" ++ printAll false trees ++ ")"
  | .group .bracket trees => "[" ++ printAll false trees ++ "]"
  | .group .brace [] => "\x7b \x7d"
  | .group .brace (t :: ts) => "\x7b " ++ printAll false (t :: ts) ++ " \x7d"

/-- The text of trees; `spaced` says whether a space comes in front. -/
def printAll (spaced : Bool) : List Tree → String
  | [] => ""
  | t :: ts =>
    let joint := match t with
      | .punct _ joint => joint
      | _ => false
    (if spaced then " " else "") ++ Tree.text t ++ printAll (!joint) ts

end

/-- The text of trees. -/
def print (trees : List Tree) : String :=
  printAll false trees

/-- The tokens of trees one by one. A lifetime is one token. -/
def flatten : List Tree → List String
  | [] => []
  | .punct '\'' true :: .ident name :: rest => ("'" ++ name) :: flatten rest
  | .ident name :: rest => name :: flatten rest
  | .punct c _ :: rest => String.ofList [c] :: flatten rest
  | .literal text :: rest => text :: flatten rest
  | .group d inner :: rest =>
    String.ofList [d.opening] :: (flatten inner ++ String.ofList [d.closing] :: flatten rest)

/-- A character inside a string literal. -/
def escapeInLiteral (next : Option Char) (c : Char) : List Char :=
  if c.toNat = 0 then
    if next.any fun d => '0' ≤ d && d ≤ '7' then ['\\', 'x', '0', '0'] else ['\\', '0']
  else Text.quoteChar c

/-- The characters of a string literal between its quotes. -/
def literalChars : List Char → List Char
  | [] => []
  | c :: rest => escapeInLiteral rest.head? c ++ literalChars rest

/-- A string literal that denotes a text. -/
def stringLiteral (s : String) : Tree :=
  .literal (String.ofList ('"' :: (literalChars s.toList ++ ['"'])))

end ExprGate.Token
