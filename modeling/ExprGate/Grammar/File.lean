import ExprGate.Grammar.Item

/-!
# Whole inputs

The rules of the grammar tied together, and what is parsed with them: source files, lists of
attributes, arguments of attributes, expressions and single declarations. Each use of a nested rule
takes at least one token or happens a bounded number of times without one, so a depth that is
proportional to the number of tokens suffices.
-/

set_option autoImplicit false

namespace ExprGate.Grammar

open Token
open Declaration (Kind)

/-- The rules for constructs nested up to a depth. -/
def rules : Nat → Rules
  | 0 => .nothing
  | depth + 1 =>
    let r := rules depth
    { type := typeWith r
      bound := boundWith r
      expr := exprWith r
      unary := unaryWith r
      matching := matchExpr r
      pattern := patternWith r
      statements := statementsWith r
      item := itemWith r
      useTree := useTreeWith r }

/-- The rules that suffice for some trees. -/
def rulesFor (ts : List Tree) : Rules :=
  rules (4 * count ts + 16)

/-- Parses trees, all of which have to be used up. -/
def parse {α : Type} (p : Rules → Parser α) (ts : List Tree) : Option α :=
  parseAll (p (rulesFor ts)) ts

/-- The declarations of a file behind the attributes of its own. -/
def fileItems (r : Rules) : Parser (List Item) := do
  let _ ← innerAttributes r
  repeated do
    if ← atEnd then
      return none
    return some (← r.item)

/-- A text without the line that names its interpreter. -/
def dropInterpreterLine (cs : List Char) : List Char :=
  match cs with
  | '#' :: '!' :: after =>
    let rec skipBlanks : Nat → List Char → List Char
      | 0, cs => cs
      | _ + 1, [] => []
      | fuel + 1, c :: rest =>
        match afterComment? (c :: rest) with
        | some after => skipBlanks fuel after
        | none => if isTokenBlank c then skipBlanks fuel rest else c :: rest
    if (skipBlanks after.length after).head? = some '[' then cs
    else cs.dropWhile (· != '\n')
  | _ => cs

/-- The declarations of a source text. -/
def parseFile? (source : String) : Option (List Item) :=
  (lexChars (dropInterpreterLine (dropByteOrderMark source.toList))).bind (parse fileItems)

/-- The attributes that a text consists of. -/
def parseAttributes? (text : String) : Option (List Meta) :=
  (lex text).bind (parse outerAttributes)

/-- Comma-separated arguments of an attribute. -/
def metaList (r : Rules) : Parser (List Meta) :=
  commaTerminated (attributeMeta r)

/-- An argument of an attribute that may also be a literal. -/
inductive Argument where
  | literal (l : Literal)
  | named (m : Meta)

/-- An argument of an attribute. -/
def argument (r : Rules) : Parser Argument := do
  if isLiteral (← rest) then
    return .literal (← literal)
  else
    return .named (← attributeMeta r)

/-- Comma-separated arguments, some of which may be literals. -/
def argumentList (r : Rules) : Parser (List Argument) :=
  commaTerminated (argument r)

/-- Comma-separated expressions. -/
def exprList (r : Rules) : Parser (List Expr) :=
  commaTerminated (r.expr true)

/-- A declaration of a type with its attributes, and its kind. -/
def typeDeclaration (r : Rules) : Parser (Kind × TypeBody) := do
  let _ ← outerAttributes r
  let _ ← visibility
  let ts ← rest
  if isWord "struct" ts then
    return (.struct, ← structBodyItem r)
  else if isWord "enum" ts then
    return (.enum, ← enumBodyItem r)
  else
    return (.union, ← unionBodyItem r)

/-- A declaration of a structure, with its tokens. -/
def structDeclaration (r : Rules) : Parser (TypeBody × List Tree) :=
  noting do
    let _ ← outerAttributes r
    let _ ← visibility
    structBodyItem r

end ExprGate.Grammar
