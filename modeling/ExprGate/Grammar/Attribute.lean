import ExprGate.Grammar.Rules

/-!
# Attributes

An attribute names a path and may go on with tokens in delimiters or with a value. Attributes stand
in front of the construct that they belong to, or inside its braces at the beginning.
-/

set_option autoImplicit false

namespace ExprGate.Grammar

open Token

/-- Whether a segment of a path without arguments comes next. -/
def isPlainSegment (ts : List Tree) : Bool :=
  isIdent ts || isPathWord ts

/-- Auxiliary to `plainPath`: the segments; the fuel bounds their number. -/
def plainSegments : Nat → Parser (List Segment)
  | 0 => failure
  | fuel + 1 => do
    require (isPlainSegment (← rest))
    let name ← anyWord
    if isPunct "::" (← rest) then
      punct "::"
      return ⟨name, .none⟩ :: (← plainSegments fuel)
    else
      return [⟨name, .none⟩]

/-- A path without arguments. -/
def plainPath : Parser Path := do
  let leading ← optPunct "::"
  return ⟨leading, ← plainSegments ((← rest).length + 1)⟩

/-- The path of an attribute, which may be the word `unsafe`. -/
def attributePath : Parser Path := do
  if isWord "unsafe" (← rest) then
    return ⟨false, [⟨← anyWord, .none⟩]⟩
  else
    plainPath

/-- The value of an attribute. A literal that is all that is left is taken as it stands; other values
are expressions, which may not carry attributes themselves. -/
def attributeValue (r : Rules) : Parser Expr := do
  let ts ← rest
  let alone := match ts with
    | [_] => isLiteral ts
    | [.punct '-' _, _] => isLiteral ts
    | _ => false
  if alone then
    let (l, tokens) ← noting literal
    return .mk (.literal l) [] tokens
  else
    require (!(isPunct "#" ts && isGroup .bracket (skip ts)))
    r.expr true

/-- What stands between the brackets of an attribute, and the parts of lists in attributes. -/
def attributeMeta (r : Rules) : Parser Meta := do
  let p ← attributePath
  let ts ← rest
  if isGroup .paren ts || isGroup .bracket ts || isGroup .brace ts then
    let (d, tokens) ← anyGroup
    return .list p d tokens
  else if isPunct "=" ts then
    punct "="
    return .value p (← attributeValue r)
  else
    return .path p

/-- The attributes in front of a construct. -/
def outerAttributes (r : Rules) : Parser (List Meta) :=
  repeated do
    if isPunct "#" (← rest) then
      punct "#"
      return some (← group .bracket (attributeMeta r))
    else
      return none

/-- The attributes at the beginning of what is in braces. -/
def innerAttributes (r : Rules) : Parser (List Meta) :=
  repeated do
    let ts ← rest
    if isPunct "#" ts && isPunct "!" (skip ts) then
      punct "#"
      punct "!"
      return some (← group .bracket (attributeMeta r))
    else
      return none

/-- A block of statements; the result is its attributes. -/
def blockAttributes (r : Rules) : Parser (List Meta) :=
  group .brace do
    let attributes ← innerAttributes r
    r.statements
    return attributes

/-- A block of statements, in which attributes are allowed at the beginning. -/
def block (r : Rules) : Parser Unit := do
  let _ ← blockAttributes r

/-- A block of statements without attributes of its own. -/
def bareBlock (r : Rules) : Parser Unit :=
  group .brace r.statements

end ExprGate.Grammar
