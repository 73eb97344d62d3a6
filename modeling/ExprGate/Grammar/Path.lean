import ExprGate.Grammar.Attribute

/-!
# Paths

Segments joined by `::`. In types and expressions segments carry arguments in angle brackets, in
expressions only behind a further `::`. A path may start with a type in angle brackets.
-/

set_option autoImplicit false

namespace ExprGate.Grammar

open Token

/-- A value in angle brackets, or the default of a constant parameter: a literal, a name or a
block. -/
def constArgument (r : Rules) : Parser Unit := do
  let ts ← rest
  if isLiteral ts then
    let _ ← literal
  else if isIdent ts then
    let _ ← ident
  else
    block r

/-- An argument in angle brackets, and whether it is a lifetime. -/
def angledArgument (r : Rules) : Parser Bool := do
  let ts ← rest
  if isLifetime ts && !isPunct "+" (skip ts) then
    lifetimeName
    return true
  else if isLiteral ts || isGroup .brace ts then
    constArgument r
    return false
  else
    match ← r.type true with
    | .path ⟨false, [⟨_, arguments⟩]⟩ =>
      if arguments == .parenthesized then
        return false
      else if isPunct "=" (← rest) then
        punct "="
        let ts ← rest
        if isLiteral ts || isGroup .brace ts then
          constArgument r
        else
          let _ ← r.type true
        return false
      else if isPunct ":" (← rest) then
        punct ":"
        let _ ← joined (fun ts => isPunct "," ts || isPunct ">" ts) "+" (r.bound false true)
        return false
      else
        return false
    | _ => return false

/-- An argument in angle brackets with its tokens and the comma behind it. -/
structure PrintedArgument where
  isLifetime : Bool
  tokens : List Tree
  comma : Bool

/-- Auxiliary to `angledArguments`. -/
def printedArguments (r : Rules) : Nat → Parser (List PrintedArgument)
  | 0 => failure
  | fuel + 1 => do
    if isPunct ">" (← rest) then
      return []
    let (isLifetime, tokens) ← printing (angledArgument r)
    if isPunct ">" (← rest) then
      return [⟨isLifetime, tokens, false⟩]
    silently (punct ",")
    return ⟨isLifetime, tokens, true⟩ :: (← printedArguments r fuel)

/-- Puts arguments into written order: the lifetimes come first. -/
def orderArguments (args : List PrintedArgument) : List Tree :=
  let lifetimes := args.filter (·.isLifetime)
  let others := args.filter (!·.isLifetime)
  let withComma (a : PrintedArgument) : List Tree :=
    a.tokens ++ if a.comma then operator "," else []
  let join (state : List Tree × Bool) (a : PrintedArgument) : List Tree × Bool :=
    (state.1 ++ (if state.2 then [] else operator ",") ++ withComma a, a.comma)
  let first := lifetimes.foldl
    (fun (state : List Tree × Bool) a => (state.1 ++ withComma a, a.comma)) ([], true)
  (others.foldl join first).1

/-- Arguments in angle brackets. -/
def angledArguments (r : Rules) : Parser Unit := do
  punct "<"
  let args ← printedArguments r ((← rest).length + 1)
  emit (orderArguments args)
  punct ">"

/-- A segment of a path; in expressions arguments need a `::` in front. -/
def segment (r : Rules) (inExpr : Bool) : Parser Segment := do
  if isOneOf ["super", "self", "crate", "try"] (← rest) then
    return ⟨← anyWord, .none⟩
  let name ← if isWord "Self" (← rest) then anyWord else ident
  let ts ← rest
  if (!inExpr && isPunct "<" ts && !isPunct "<=" ts) ||
      (isPunct "::" ts && isPunct "<" (skip (skip ts))) then
    let _ ← optPunct "::"
    angledArguments r
    return ⟨name, .angled⟩
  else
    return ⟨name, .none⟩

/-- Auxiliary to `path`: further segments. A `::` before parentheses is left alone. -/
def furtherSegments (r : Rules) (inExpr : Bool) : Parser (List Segment) :=
  repeated do
    let ts ← rest
    if isPunct "::" ts && !isGroup .paren (skip (skip ts)) then
      punct "::"
      return some (← segment r inExpr)
    else
      return none

/-- A path. -/
def path (r : Rules) (inExpr : Bool) : Parser Path := do
  let leading ← optPunct "::"
  let first ← segment r inExpr
  return ⟨leading, first :: (← furtherSegments r inExpr)⟩

/-- A path that may start with a type in angle brackets. In that case it comes with the tokens of
what is a path beside that type: the trait, if there is one, and the segments behind. -/
def qualifiedPath (r : Rules) (inExpr : Bool) : Parser (Option (List Tree) × Path) := do
  if isPunct "<" (← rest) then
    punct "<"
    let _ ← r.type true
    let (_, ofTrait) ← noting do
      if isWord "as" (← rest) then
        word "as"
        let _ ← path r false
    punct ">"
    let (segments, behind) ← noting do
      punct "::"
      let first ← segment r inExpr
      let others ← repeated do
        if isPunct "::" (← rest) then
          punct "::"
          return some (← segment r inExpr)
        else
          return none
      return first :: others
    return (some (ofTrait.drop 1 ++ behind), ⟨false, segments⟩)
  else
    return (none, ← path r inExpr)

end ExprGate.Grammar
