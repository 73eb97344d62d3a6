import ExprGate.Grammar.Type

/-!
# Patterns

Patterns of bindings, matches and parameters. A range without upper end is not allowed if it
includes its end, and an open range not directly inside brackets.
-/

set_option autoImplicit false

namespace ExprGate.Grammar

open Token

/-- Whether the end of a range pattern is missing because something else comes next. -/
def endsRangePattern (ts : List Tree) : Bool :=
  ts.isEmpty || isPunct "|" ts || isPunct "=" ts || (isPunct ":" ts && !isPunct "::" ts) ||
    isPunct "," ts || isPunct ";" ts || isWord "if" ts

/-- An end of a range pattern: a literal, a path or a constant block; the result tells whether there
is one. -/
def rangeEnd (r : Rules) : Parser Bool := do
  let ts ← rest
  if endsRangePattern ts then
    return false
  else if isLiteral ts then
    let _ ← literal
    return true
  else if isIdent ts || isPathWord ts || isPunct "::" ts || isPunct "<" ts then
    let _ ← qualifiedPath r true
    return true
  else if isWord "const" ts then
    word "const"
    block r
    return true
  else
    failure

/-- The operator of a range pattern; the result tells whether the end is included. -/
def rangeLimits : Parser Bool := do
  let ts ← rest
  if isPunct "..=" ts then
    punct "..="
    return true
  else if isPunct "..." ts then
    silently (punct "...")
    emit (operator "..=")
    return true
  else
    punct ".."
    return false

/-- The rest of a range pattern behind its beginning. -/
def rangeFrom (r : Rules) : Parser PatternForm := do
  let closed ← rangeLimits
  let hasEnd ← rangeEnd r
  require (hasEnd || !closed)
  return if hasEnd then .other else .openRange

/-- Whether a bar between alternatives comes next. -/
def isBar (ts : List Tree) : Bool :=
  isPunct "|" ts && !isPunct "||" ts && !isPunct "|=" ts

/-- A pattern that may have alternatives, with a bar in front allowed. -/
def alternatives (r : Rules) : Parser PatternForm := do
  let leading ← optPunct "|"
  let first ← r.pattern
  let others ← repeated do
    if isBar (← rest) then
      punct "|"
      return some (← r.pattern)
    else
      return none
  return if leading || !others.isEmpty then .other else first

/-- The first number that is too large for a field. -/
def fieldLimit : Nat := 4294967296

/-- The name of a field, or its number, which is written in decimal; the result tells whether it is a
name. -/
def member : Parser Bool := do
  match ← rest with
  | .literal text :: _ => do
    match plainInteger? text with
    | some n => do
      require (n < fieldLimit)
      advance 1
      emit [.literal (toString n)]
      return false
    | none => failure
  | _ => do
    let _ ← ident
    return true

/-- A field in a pattern. -/
def fieldPattern (r : Rules) : Parser Unit := do
  let boxed ← optWord "box"
  let byRef ← optWord "ref"
  let mutable_ ← optWord "mut"
  if boxed || byRef || mutable_ then
    let _ ← ident
  else
    let named ← member
    if isPunct ":" (← rest) || !named then
      punct ":"
      let _ ← alternatives r

/-- The fields of a pattern for a struct. -/
def fieldPatterns (r : Rules) : Nat → Parser Unit
  | 0 => failure
  | fuel + 1 => do
    if ← atEnd then
      return
    let _ ← outerAttributes r
    if isPunct ".." (← rest) then
      punct ".."
    else
      fieldPattern r
      unless ← atEnd do
        punct ","
        fieldPatterns r fuel

/-- The pattern of a name, possibly with a pattern behind `@`. -/
def bindingPattern (r : Rules) : Parser Unit := do
  let _ ← optWord "ref"
  let _ ← optWord "mut"
  if isWord "self" (← rest) then
    word "self"
  else
    let _ ← ident
  if ← optPunct "@" then
    let _ ← r.pattern

/-- A pattern that starts with a path. -/
def pathPattern (r : Rules) : Parser PatternForm := do
  let (qualified, p) ← qualifiedPath r true
  let ts ← rest
  if qualified.isNone && isPunct "!" ts && !isPunct "!=" ts && p.isPlain then
    punct "!"
    let _ ← anyGroup
    return .other
  else if isGroup .brace ts then
    group .brace do
      fieldPatterns r ((← rest).length + 1)
    return .other
  else if isGroup .paren ts then
    let _ ← group .paren (commaTerminated (alternatives r))
    return .other
  else if isPunct ".." ts then
    rangeFrom r
  else
    return .other

/-- A pattern without alternatives at its top. -/
def patternWith (r : Rules) : Parser PatternForm := do
  let ts ← rest
  let next := skip ts
  if (isIdent ts && (isPunct "::" next || isPunct "!" next || isGroup .brace next ||
        isGroup .paren next || isPunct ".." next)) ||
      (isWord "self" ts && isPunct "::" next) || isPunct "::" ts || isPunct "<" ts ||
      isOneOf ["Self", "super", "crate"] ts then
    pathPattern r
  else if isWord "_" ts then
    word "_"
    return .other
  else if isWord "box" ts then
    word "box"
    let _ ← r.pattern
    return .other
  else if isPunct "-" ts || isLiteral ts || isWord "const" ts then
    let hasStart ← rangeEnd r
    require hasStart
    if isPunct ".." (← rest) then
      rangeFrom r
    else
      return .other
  else if isOneOf ["ref", "mut", "self"] ts || isIdent ts then
    bindingPattern r
    return .other
  else if isPunct "&" ts then
    punct "&"
    let _ ← optWord "mut"
    let _ ← r.pattern
    return .other
  else if isGroup .paren ts then
    let _ ← group .paren (commaTerminated (alternatives r))
    return .other
  else if isGroup .bracket ts then
    let forms ← group .bracket (commaTerminated (alternatives r))
    require (!forms.contains .openRange)
    return .other
  else if isPunct ".." ts && !isPunct "..." ts then
    let closed ← if isPunct "..=" ts then do punct "..="; pure true else do punct ".."; pure false
    let hasEnd ← rangeEnd r
    require (hasEnd || !closed)
    return if hasEnd then .openRange else .rest
  else
    failure

end ExprGate.Grammar
