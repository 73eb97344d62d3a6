import ExprGate.Grammar.Path

/-!
# Types and generic parameters

Types, the bounds on them, generic parameters and conditions on these. Generic parameters are
written out in an order of their own, lifetimes first; empty lists of parameters and of conditions
are not written out at all.
-/

set_option autoImplicit false

namespace ExprGate.Grammar

open Token

/-- The result of a function type or of arguments in parentheses; the flag is as for types. -/
def returnType (r : Rules) (plus : Bool) : Parser (Option TypeForm) :=
  optional (isPunct "->") do
    punct "->"
    r.type plus

/-- Arguments in parentheses behind the name of a trait, and their result. -/
def parenthesizedArguments (r : Rules) : Parser (Option TypeForm) := do
  let _ ← group .paren (commaTerminated (r.type true))
  returnType r false

/-- Whether arguments in parentheses come next, possibly behind `::`. -/
def isParenthesizedArguments (ts : List Tree) : Bool :=
  isGroup .paren ts || (isPunct "::" ts && isGroup .paren (skip (skip ts)))

/-- Changes the arguments of the last segment of a path. -/
def withLastArguments (p : Path) (arguments : Arguments) : Path :=
  match p.segments.getLast? with
  | some last => ⟨p.leading, p.segments.dropLast ++ [{ last with arguments }]⟩
  | none => p

/-- Whether the last segment of a path has no arguments. -/
def hasBareEnd (p : Path) : Bool :=
  p.segments.getLast?.any fun s => s.arguments == .none

/-- Auxiliary to `typePath`: arguments in parentheses, behind which the path may go on if their
result is in parentheses too. -/
def typePathFrom (r : Rules) : Nat → Path → Parser Path
  | 0, _ => failure
  | fuel + 1, p => do
    if hasBareEnd p && isParenthesizedArguments (← rest) then
      let _ ← silently (optPunct "::")
      let result ← parenthesizedArguments r
      let p := withLastArguments p .parenthesized
      let more ← match result with
        | none => furtherSegments r false
        | some .parenthesized => furtherSegments r false
        | some _ => pure []
      typePathFrom r fuel ⟨p.leading, p.segments ++ more⟩
    else
      return p

/-- A path as a type, and whether it starts with a type in angle brackets. -/
def typePath (r : Rules) : Parser (Bool × Path) := do
  let (qualified, p) ← qualifiedPath r false
  return (qualified.isSome, ← typePathFrom r ((← rest).length + 1) p)

/-- Lifetimes that a type or a condition is quantified over. -/
def forLifetimes (r : Rules) : Parser Unit := do
  word "for"
  punct "<"
  let _ ← separated (isPunct ">") "," do
    let _ ← outerAttributes r
    lifetimeName
  punct ">"

/-- Lifetimes that something is quantified over, if there are any. -/
def optForLifetimes (r : Rules) : Parser Bool := do
  if isWord "for" (← rest) then
    forLifetimes r
    return true
  else
    return false

/-- A trait as a bound, without the parentheses around it. What is optional is not quantified. -/
def traitBound (r : Rules) (const : Bool) : Parser Unit := do
  let quantified ← optForLifetimes r
  let ts ← rest
  if isGroup .bracket ts then
    require const
    group .bracket (word "const")
  else if isWord "const" ts then
    require const
    word "const"
  if ← optPunct "?" then
    require (!quantified && !isWord "for" (← rest))
  let p ← path r false
  if hasBareEnd p && isParenthesizedArguments (← rest) then
    let _ ← silently (optPunct "::")
    let _ ← parenthesizedArguments r

/-- The parameters that a type captures. -/
def captures : Parser Unit := do
  word "use"
  punct "<"
  let _ ← separated (isPunct ">") "," do
    let ts ← rest
    if isLifetime ts then
      lifetimeName
    else
      require (isIdent ts || isWord "Self" ts)
      let _ ← anyWord
  punct ">"

/-- A bound; the result tells whether it is a trait. -/
def boundWith (r : Rules) (allowCaptures const : Bool) : Parser Bool := do
  let ts ← rest
  if isLifetime ts then
    lifetimeName
    return false
  else if isWord "use" ts then
    captures
    require allowCaptures
    return false
  else if isGroup .paren ts then
    group .paren (traitBound r const)
    return true
  else
    traitBound r const
    return true

/-- Whether a further bound may come next behind a `+`. -/
def isBoundStart (ts : List Tree) : Bool :=
  isAnyWord ts || isPunct "::" ts || isPunct "?" ts || isLifetime ts || isGroup .paren ts ||
    isGroup .bracket ts

/-- Auxiliary to `bounds`: the bounds after the first one. -/
def furtherBounds (r : Rules) (allowCaptures const : Bool) : Nat → Parser (List Bool)
  | 0 => failure
  | fuel + 1 => do
    if isPunct "+" (← rest) then
      punct "+"
      if isBoundStart (← rest) then
        let isTrait ← r.bound allowCaptures const
        return isTrait :: (← furtherBounds r allowCaptures const fuel)
      else
        return []
    else
      return []

/-- Bounds of a trait object or an opaque type, of which one has to be a trait. -/
def bounds (r : Rules) (plus allowCaptures const : Bool) : Parser Unit := do
  let first ← r.bound allowCaptures const
  let others ← if plus then furtherBounds r allowCaptures const ((← rest).length + 1) else pure []
  require (first || others.any id)

/-- Bounds behind a first one that has been parsed as a type: each `+` has to be followed by one. -/
def boundsAfterFirst (r : Rules) : Parser Unit := do
  let _ ← repeated do
    if isPunct "+" (← rest) then
      punct "+"
      let _ ← r.bound false false
      return some ()
    else
      return none

/-- The inside of parentheses where a type is expected. -/
inductive Parenthesized where
  | tuple
  | bound
  | inner (t : TypeForm)

/-- What is in parentheses where a type is expected: nothing, one type or bound, or several types. -/
def parenthesizedTypes (r : Rules) : Parser Parenthesized := do
  let ts ← rest
  if ts.isEmpty then
    return .tuple
  else if isLifetime ts then
    bounds r true false false
    return .inner .other
  else if isPunct "?" ts then
    traitBound r false
    return .bound
  else
    let first ← r.type true
    if isPunct "," (← rest) then
      punct ","
      let _ ← commaTerminated (r.type true)
      return .tuple
    else
      return .inner first

/-- A parameter of a function type. -/
def bareParameter (r : Rules) (first : Bool) : Parser Unit := do
  let ts ← rest
  let mutSelf := first && isWord "mut" ts && isWord "self" (skip ts)
  if mutSelf then
    word "mut"
  let ts ← rest
  let colon := isPunct ":" (skip ts) && !isPunct "::" (skip ts)
  let named := (isIdent ts || isWord "_" ts || (first && isWord "self" ts)) && colon
  if named then
    let _ ← anyWord
    punct ":"
    let _ ← r.type true
  else if mutSelf then
    word "self"
  else
    let _ ← r.type true

/-- Whether open parameters come next, possibly with a name in front. -/
def isVariadic (ts : List Tree) : Bool :=
  isPunct "..." ts ||
    ((isIdent ts || isWord "_" ts) && isPunct ":" (skip ts) && isPunct "..." (skip (skip ts)))

/-- The parameters of a function type. -/
def bareParametersFrom (r : Rules) : Bool → Nat → Parser Unit
  | _, 0 => failure
  | first, fuel + 1 => do
    if (← rest).isEmpty then
      return
    let _ ← outerAttributes r
    if isVariadic (← rest) then
      if isAnyWord (← rest) then
        let _ ← anyWord
        punct ":"
      punct "..."
      let _ ← optPunct ","
    else
      bareParameter r first
      unless ← atEnd do
        punct ","
        bareParametersFrom r false fuel

/-- A linkage, which may be named by a string. -/
def abi : Parser Unit := do
  word "extern"
  match ← rest with
  | .literal text :: _ =>
    if (stringValue? text).isSome then
      let _ ← literal
  | _ => pure ()

/-- A function type. -/
def bareFunction (r : Rules) : Parser Unit := do
  let _ ← optForLifetimes r
  let _ ← optWord "unsafe"
  let _ ← optional (isWord "extern") abi
  word "fn"
  group .paren do
    bareParametersFrom r true ((← rest).length + 1)
  let _ ← returnType r false

/-- A type that starts with a path. -/
def pathType (r : Rules) (plus quantified : Bool) : Parser TypeForm := do
  let (qualified, p) ← typePath r
  if qualified then
    return .other
  let ts ← rest
  if isPunct "!" ts && !isPunct "!=" ts && p.isPlain then
    punct "!"
    let _ ← anyGroup
    return .other
  else if quantified || (plus && isPunct "+" ts) then
    if plus then
      let bare := !isPunct "+" ts
      let _ ← furtherBounds r false false (ts.length + 1)
      return .bounds bare
    else
      return .bounds true
  else
    return .path p

/-- A type that starts with parentheses. -/
def parenthesizedType (r : Rules) (plus : Bool) : Parser TypeForm := do
  match ← group .paren (parenthesizedTypes r) with
  | .tuple => return .other
  | .bound =>
    let single := !isPunct "+" (← rest)
    boundsAfterFirst r
    return .bounds single
  | .inner first =>
    let canBeBound := match first with
      | .path _ => true
      | .bounds single => single
      | _ => false
    if plus && isPunct "+" (← rest) && canBeBound then
      boundsAfterFirst r
      return .bounds false
    else
      return .parenthesized

/-- A type. -/
def typeWith (r : Rules) (plus : Bool) : Parser TypeForm := do
  let quantified ← if isWord "for" (← rest) then
      forLifetimes r
      let ts ← rest
      require (isIdent ts || isOneOf ["fn", "unsafe", "extern"] ts || isPathWord ts)
      require (!isWord "dyn" ts)
      pure true
    else
      pure false
  let ts ← rest
  if isGroup .paren ts then
    parenthesizedType r plus
  else if isOneOf ["fn", "unsafe", "extern"] ts then
    bareFunction r
    return .other
  else if isIdent ts || isPathWord ts || isPunct "::" ts || isPunct "<" ts then
    pathType r plus quantified
  else if isWord "dyn" ts then
    word "dyn"
    let _ ← optPunct "*"
    bounds r plus false false
    return .other
  else if isGroup .bracket ts then
    group .bracket do
      let _ ← r.type true
      if ← optPunct ";" then
        let _ ← r.expr true
    return .other
  else if isPunct "*" ts then
    punct "*"
    if isWord "const" (← rest) then
      word "const"
    else
      word "mut"
    let _ ← r.type false
    return .other
  else if isPunct "&" ts then
    punct "&"
    let _ ← optional isLifetime lifetimeName
    let _ ← optWord "mut"
    let _ ← r.type false
    return .other
  else if isPunct "!" ts && !isPunct "=" ts then
    punct "!"
    return .other
  else if isWord "impl" ts then
    word "impl"
    bounds r plus true true
    return .other
  else if isWord "_" ts then
    word "_"
    return .other
  else if isLifetime ts then
    bounds r true false false
    return .other
  else
    failure

/-! ## Generic parameters -/

/-- What a generic parameter stands for. -/
inductive ParameterKind where
  | lifetime
  | type
  | const
deriving DecidableEq, Repr

/-- A generic parameter with its tokens: the attributes, what is written where it is declared, and
the default. -/
structure Parameter where
  kind : ParameterKind
  /-- What is written where the parameter is used. -/
  name : List Tree
  attributes : List Tree
  /-- The name with what it is bound by. -/
  declared : List Tree
  default : List Tree
  comma : Bool

/-- Whether the bounds of a parameter end here. -/
def endsParameter (ts : List Tree) : Bool :=
  ts.isEmpty || isPunct "," ts || isPunct ">" ts || isPunct "=" ts

/-- Bounds behind a colon, which is not written if there are none. -/
def colonBounds (p : Parser (List Unit)) : Parser Unit := do
  if isPunct ":" (← rest) then
    silently (punct ":")
    let (found, tokens) ← printing p
    unless found.isEmpty do
      emit (operator ":" ++ tokens)

/-- A generic parameter without the comma behind it. -/
def parameter (r : Rules) : Parser Parameter := do
  let (_, attributes) ← printing (outerAttributes r)
  let ts ← rest
  if isLifetime ts then
    let (_, name) ← printing lifetimeName
    let (_, bounded) ← printing <|
      colonBounds (joined (fun ts => ts.isEmpty || isPunct "," ts || isPunct ">" ts) "+" lifetimeName)
    return ⟨.lifetime, name, attributes, name ++ bounded, [], false⟩
  else if isIdent ts then
    let (_, name) ← printing ident
    let (_, bounded) ← printing <|
      colonBounds (joined endsParameter "+" do let _ ← r.bound false true)
    let (_, default) ← printing do
      if ← optPunct "=" then
        let _ ← r.type true
    return ⟨.type, name, attributes, name ++ bounded, default, false⟩
  else if isWord "const" ts then
    let (_, const) ← printing (word "const")
    let (_, name) ← printing ident
    let (_, typed) ← printing do
      punct ":"
      let _ ← r.type true
    let (_, default) ← printing do
      if ← optPunct "=" then
        constArgument r
    return ⟨.const, name, attributes, const ++ name ++ typed, default, false⟩
  else
    let (_, name) ← printing (word "_")
    return ⟨.type, name, attributes, name, [], false⟩

/-- Auxiliary to `parameters`. -/
def parametersFrom (r : Rules) : Nat → Parser (List Parameter)
  | 0 => failure
  | fuel + 1 => do
    if isPunct ">" (← rest) then
      return []
    let p ← parameter r
    if isPunct ">" (← rest) then
      return [p]
    silently (punct ",")
    return { p with comma := true } :: (← parametersFrom r fuel)

/-- Writes parameters in their order: the lifetimes come first. -/
def orderParameters (write : Parameter → List Tree) (ps : List Parameter) : List Tree :=
  orderArguments (ps.map fun p => ⟨p.kind == .lifetime, write p, p.comma⟩)

/-- A parameter as it is declared, with its default. -/
def Parameter.full (p : Parameter) : List Tree :=
  p.attributes ++ p.declared ++ p.default

/-- Parameters in angle brackets; no parameters are written as nothing. -/
def inAngles (write : Parameter → List Tree) (ps : List Parameter) : List Tree :=
  if ps.isEmpty then []
  else operator "<" ++ orderParameters write ps ++ operator ">"

/-- The generic parameters of a declaration, if there are any. -/
def parameters (r : Rules) : Parser (List Parameter) := do
  if isPunct "<" (← rest) then
    silently (punct "<")
    let ps ← parametersFrom r ((← rest).length + 1)
    silently (punct ">")
    emit (inAngles Parameter.full ps)
    return ps
  else
    return []

/-- Whether the conditions on generic parameters end here. -/
def endsConditions (ts : List Tree) : Bool :=
  ts.isEmpty || isGroup .brace ts || isPunct "," ts || isPunct ";" ts ||
    (isPunct ":" ts && !isPunct "::" ts) || isPunct "=" ts

/-- A condition on a lifetime or on a type. -/
def condition (r : Rules) : Parser Unit := do
  let ts ← rest
  if isLifetime ts && isPunct ":" (skip ts) then
    lifetimeName
    punct ":"
    let _ ← joined (fun ts => endsConditions ts || isPunct ":" ts) "+" lifetimeName
  else
    let _ ← optForLifetimes r
    let _ ← r.type true
    punct ":"
    let _ ← joined endsConditions "+" do let _ ← r.bound false true

/-- The conditions on generic parameters, if there are any; the result is their tokens. -/
def conditions (r : Rules) : Parser (List Tree) := do
  if isWord "where" (← rest) then
    silently (word "where")
    let (_, tokens) ← printing (joined endsConditions "," (condition r))
    unless tokens.isEmpty do
      emit (.ident "where" :: tokens)
    return tokens
  else
    return []

end ExprGate.Grammar
