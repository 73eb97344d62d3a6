import ExprGate.Grammar.Pattern

/-!
# Expressions

Operators by precedence around operands; an operand is an atom with prefix operators and with what
is attached behind it. Comparisons cannot be chained, and a range cannot be the left side of an
operator. Where a block comes next, as behind the condition of `if`, braces do not belong to the
path in front of them.
-/

set_option autoImplicit false

namespace ExprGate.Grammar

open Token

/-- How tightly an operator binds. -/
inductive Precedence where
  | jump
  | assign
  | range
  | or
  | and
  | letBinding
  | compare
  | bitOr
  | bitXor
  | bitAnd
  | shift
  | sum
  | product
  | cast
deriving DecidableEq, Repr

/-- Precedences by rank, the loosest first. -/
def Precedence.rank : Precedence → Nat
  | .jump => 0
  | .assign => 1
  | .range => 2
  | .or => 3
  | .and => 4
  | .letBinding => 5
  | .compare => 6
  | .bitOr => 7
  | .bitXor => 8
  | .bitAnd => 9
  | .shift => 10
  | .sum => 11
  | .product => 12
  | .cast => 13

/-- The binary operators in the order in which they are looked for, with their precedence. -/
def binaryOperators : List (String × Precedence) :=
  [("+=", .assign), ("-=", .assign), ("*=", .assign), ("/=", .assign), ("%=", .assign),
   ("^=", .assign), ("&=", .assign), ("|=", .assign), ("<<=", .assign), (">>=", .assign),
   ("&&", .and), ("||", .or), ("<<", .shift), (">>", .shift), ("==", .compare), ("<=", .compare),
   ("!=", .compare), (">=", .compare), ("+", .sum), ("-", .sum), ("*", .product), ("/", .product),
   ("%", .product), ("^", .bitXor), ("&", .bitAnd), ("|", .bitOr), ("<", .compare),
   (">", .compare)]

/-- The binary operator that comes next. -/
def binaryOperator? (ts : List Tree) : Option (String × Precedence) :=
  binaryOperators.find? fun (op, _) => isPunct op ts

/-- The precedence of what comes next. -/
def nextPrecedence (ts : List Tree) : Precedence :=
  match binaryOperator? ts with
  | some (_, p) => p
  | none =>
    if isPunct "=" ts && !isPunct "=>" ts then .assign
    else if isPunct ".." ts then .range
    else if isWord "as" ts then .cast
    else .jump

/-- Whether the end of a range is missing because something else comes next. -/
def endsRange (struct : Bool) (ts : List Tree) : Bool :=
  ts.isEmpty || isPunct "," ts || isPunct ";" ts || (isPunct "." ts && !isPunct ".." ts) ||
    isPunct "?" ts || isPunct "=>" ts || (!struct && isGroup .brace ts) ||
    ["=", "+", "/", "%", "^", ">", "<=", "!=", "-=", "*=", "&=", "|=", "<<="].any
      (isPunct · ts) ||
    isWord "as" ts

/-- Whether a cast is followed by something that would have to be attached to it. -/
def breaksCast (ts : List Tree) : Bool :=
  (isPunct "." ts && !isPunct ".." ts) || isPunct "?" ts || isGroup .bracket ts || isGroup .paren ts

/-- An expression of a kind without form of its own. -/
def plainExpr (c : Construct) (tokens : List Tree) : Expr :=
  .mk (.other c) [] tokens

/-- Runs a parser and makes an expression of a form out of what it prints. -/
def formed (form : Form) (p : Parser Unit) : Parser Expr := do
  let ((), tokens) ← noting p
  return .mk form [] tokens

/-- Whether an expression ends in braces that close it. -/
def endsInBraces (e : Expr) : Bool :=
  match e.tokens.getLast? with
  | some (.group .brace _) => true
  | _ => false

/-- The operator between the ends of a range; the result tells whether the end is included. -/
def rangeOperator : Parser Bool := do
  let ts ← rest
  if isPunct "..=" ts then
    punct "..="
    return true
  else
    require (!isPunct "..." ts)
    punct ".."
    return false

mutual

/-- What follows an operand, as far as it binds at least as tightly as `base`. -/
def operatorsFrom (r : Rules) (unary : Bool → Parser Expr) (struct : Bool) (base : Precedence) :
    Nat → Expr → Parser Expr
  | 0, _ => failure
  | fuel + 1, lhs => do
    let ts ← rest
    if lhs.form.isRange then
      return lhs
    match binaryOperator? ts with
    | some (op, precedence) =>
      if precedence.rank < base.rank then
        return lhs
      require (!(precedence == .compare && lhs.form.isComparison))
      let (rhs, tokens) ← noting do
        punct op
        operand r unary struct precedence fuel
      let _ := rhs
      let form := if precedence == .compare then .comparison else .other .binary
      operatorsFrom r unary struct base fuel (.mk form [] (lhs.tokens ++ tokens))
    | none =>
      if isPunct "=" ts && !isPunct "=>" ts then
        if Precedence.assign.rank < base.rank then
          return lhs
        let ((), tokens) ← noting do
          punct "="
          let _ ← operand r unary struct .assign fuel
        operatorsFrom r unary struct base fuel (plainExpr .assignment (lhs.tokens ++ tokens))
      else if isPunct ".." ts then
        if Precedence.range.rank < base.rank then
          return lhs
        let ((), tokens) ← noting do
          let closed ← rangeOperator
          if closed || !endsRange struct (← rest) then
            let _ ← operand r unary struct .range fuel
        operatorsFrom r unary struct base fuel (.mk .range [] (lhs.tokens ++ tokens))
      else if isWord "as" ts then
        if Precedence.cast.rank < base.rank then
          return lhs
        let ((), tokens) ← noting do
          word "as"
          let _ ← r.type false
        require (!breaksCast (← rest))
        operatorsFrom r unary struct base fuel (plainExpr .cast (lhs.tokens ++ tokens))
      else
        return lhs

/-- The right side of an operator. -/
def operand (r : Rules) (unary : Bool → Parser Expr) (struct : Bool) (precedence : Precedence) :
    Nat → Parser Expr
  | 0 => failure
  | fuel + 1 => do
    operandRest r unary struct precedence fuel (← unary struct)

/-- What follows the first operand on the right side of an operator and binds more tightly than
that operator. -/
def operandRest (r : Rules) (unary : Bool → Parser Expr) (struct : Bool)
    (precedence : Precedence) : Nat → Expr → Parser Expr
  | 0, _ => failure
  | fuel + 1, rhs => do
    let ts ← rest
    let next := nextPrecedence ts
    if precedence.rank < next.rank || (next == precedence && precedence == .assign) then
      let more ← operatorsFrom r unary struct next fuel rhs
      if (← rest).length == ts.length then
        return more
      else
        operandRest r unary struct precedence fuel more
    else
      return rhs

end

/-- The fuel for operators: each takes at least one tree, and needs a few steps. -/
def operatorFuel : Parser Nat := do
  return 3 * (← rest).length + 3

/-- An expression behind its first operand. -/
def afterOperand (r : Rules) (unary : Bool → Parser Expr) (struct : Bool) (base : Precedence)
    (lhs : Expr) : Parser Expr := do
  operatorsFrom r unary struct base (← operatorFuel) lhs

/-! ## What is attached behind an atom -/

/-- The texts between the points of a number. -/
def splitPoints (text : String) : List String :=
  let parts (acc : List Char × List String) (c : Char) : List Char × List String :=
    if c == '.' then ([], acc.2 ++ [String.ofList acc.1.reverse]) else (c :: acc.1, acc.2)
  let (last, parts) := text.toList.foldl parts ([], [])
  parts ++ [String.ofList last.reverse]

/-- The field numbers that a floating literal behind a point stands for, and whether a point ends
it. -/
def fieldNumbers? (text : String) : Option (List Nat × Bool) :=
  let parts := splitPoints text
  let open_ := parts.getLast? == some ""
  let parts := if open_ then parts.dropLast else parts
  (parts.mapM fun part => (plainInteger? part).filter (· < fieldLimit)).map (·, open_)

/-- Whether a number is a floating literal. -/
def isFloating (text : String) : Bool :=
  isNumber text && (afterFloatDigits? text.toList).isSome

/-- Arguments of a call. -/
def callArguments (r : Rules) : Parser Unit := do
  let _ ← group .paren (commaTerminated (r.expr true))

/-- A field or method behind a point that has been taken. -/
def attachedMember (r : Rules) : Parser Construct := do
  if isWord "await" (← rest) then
    word "await"
    return .awaiting
  else
    let named ← member
    let turbofish ← if named && isPunct "::" (← rest) then do
        punct "::"
        angledArguments r
        pure true
      else
        pure false
    if turbofish || isGroup .paren (← rest) then
      if named then
        callArguments r
        return .methodCall
    return .field

/-- What is attached behind an expression: a call, an index, `?`, or a field or method. -/
def attached (r : Rules) : Parser Construct := do
  let ts ← rest
  if isGroup .paren ts then
    callArguments r
    return .call
  else if isGroup .bracket ts then
    group .bracket do let _ ← r.expr true
    return .index
  else if isPunct "?" ts then
    punct "?"
    return .propagation
  else
    punct "."
    match ← rest with
    | .literal text :: _ =>
      if isFloating text then
        match fieldNumbers? text with
        | none => failure
        | some (numbers, open_) => do
          advance 1
          let fields := numbers.map fun n => [Tree.literal (toString n)]
          emit ((operator ".").intercalate fields)
          if open_ then do
            emit (operator ".")
            attachedMember r
          else
            return .field
      else
        attachedMember r
    | _ => attachedMember r

/-- Whether something attached comes next. -/
def isAttached (ts : List Tree) : Bool :=
  isGroup .paren ts || isGroup .bracket ts || isPunct "?" ts || (isPunct "." ts && !isPunct ".." ts)

/-- An expression with all that is attached behind it; nothing attaches to a range but calls and
indices. -/
def withAttached (r : Rules) : Nat → Expr → Parser Expr
  | 0, _ => failure
  | fuel + 1, e => do
    let ts ← rest
    if isAttached ts && !(e.form.isRange && !isGroup .paren ts && !isGroup .bracket ts) then
      let (c, tokens) ← noting (attached r)
      withAttached r fuel (plainExpr c (e.tokens ++ tokens))
    else
      return e

/-- What is attached behind an expression. -/
def attachments (r : Rules) (e : Expr) : Parser Expr := do
  withAttached r ((← rest).length + 1) e

/-! ## Atoms -/

/-- Whether an expression can start here. -/
def startsExpr (ts : List Tree) : Bool :=
  (isAnyWord ts && !isWord "as" ts) || isGroup .paren ts || isGroup .bracket ts ||
    isGroup .brace ts || isLiteral ts || (isPunct "!" ts && !isPunct "!=" ts) ||
    (isPunct "-" ts && !isPunct "-=" ts && !isPunct "->" ts) ||
    (isPunct "*" ts && !isPunct "*=" ts) || (isPunct "|" ts && !isPunct "|=" ts) ||
    (isPunct "&" ts && !isPunct "&=" ts) || isPunct ".." ts ||
    (isPunct "<" ts && !isPunct "<=" ts && !isPunct "<<=" ts) || isPunct "::" ts ||
    isLifetime ts || isPunct "#" ts

/-- A field with its value. -/
def fieldValue (r : Rules) : Parser Unit := do
  let _ ← outerAttributes r
  let named ← member
  if isPunct ":" (← rest) || !named then
    punct ":"
    let _ ← r.expr true

/-- Auxiliary to `structBody`. -/
def fieldValues (r : Rules) : Nat → Parser Unit
  | 0 => failure
  | fuel + 1 => do
    if ← atEnd then
      return
    if isPunct ".." (← rest) then
      punct ".."
      unless ← atEnd do
        let _ ← r.expr true
    else
      fieldValue r
      unless ← atEnd do
        punct ","
        fieldValues r fuel

/-- The fields of a structure in braces. -/
def structBody (r : Rules) : Parser Unit :=
  group .brace do
    fieldValues r ((← rest).length + 1)

/-- A path, a call of a macro, or a structure. -/
def pathExpr (r : Rules) (struct : Bool) : Parser Expr := do
  let ((qualified, p), tokens) ← noting (qualifiedPath r true)
  let ts ← rest
  if qualified.isNone && isPunct "!" ts && !isPunct "!=" ts && p.isPlain then
    let ((d, _), argument) ← noting do
      punct "!"
      anyGroup
    return .mk (.call (d == .brace)) [] (tokens ++ argument)
  else if struct && isGroup .brace ts then
    let ((), body) ← noting (structBody r)
    return plainExpr .structBody (tokens ++ body)
  else
    return .mk (qualified.elim (.path p) .qualifiedPath) [] tokens

/-- An expression in parentheses, or several ones. -/
def tupleExpr (r : Rules) : Parser Expr := do
  let (c, tokens) ← noting <| group .paren do
    let ts ← rest
    let es ← commaTerminated (r.expr true)
    let closed := match ts.getLast? with
      | some (.punct ',' _) => true
      | _ => false
    return if es.length == 1 && !closed then Construct.parenthesized else .tuple
  return plainExpr c tokens

/-- A list of expressions, or one expression with the number of its repetitions. -/
def listExpr (r : Rules) : Parser Expr := do
  let ((form, elements), tokens) ← noting <| group .bracket do
    if ← atEnd then
      return (Form.array, [])
    let first ← r.expr true
    if isPunct ";" (← rest) then
      punct ";"
      let _ ← r.expr true
      return (.other .repetition, [])
    if ← atEnd then
      return (.array, [first])
    punct ","
    return (.array, first :: (← commaTerminated (r.expr true)))
  return .mk form elements tokens

/-- A parameter of a closure. -/
def closureParameter (r : Rules) : Parser Unit := do
  let _ ← outerAttributes r
  let _ ← r.pattern
  if isPunct ":" (← rest) then
    punct ":"
    let _ ← r.type true

/-- A closure. -/
def closure (r : Rules) (struct : Bool) : Parser Expr :=
  formed (.other .closure) do
    let _ ← optForLifetimes r
    let _ ← optWord "const"
    let _ ← optWord "static"
    let _ ← optWord "async"
    let _ ← optWord "move"
    punct "|"
    let _ ← separated (isPunct "|") "," (closureParameter r)
    punct "|"
    if isPunct "->" (← rest) then
      punct "->"
      let _ ← r.type true
      bareBlock r
    else
      let _ ← r.expr struct

/-- Auxiliary to `ifExpr`; the fuel bounds the number of conditions. -/
def ifClauses (r : Rules) : Nat → Parser Unit
  | 0 => failure
  | fuel + 1 => do
    let _ ← outerAttributes r
    word "if"
    let _ ← r.expr false
    bareBlock r
    if isWord "else" (← rest) then
      word "else"
      if isWord "if" (← rest) then
        ifClauses r fuel
      else
        bareBlock r

/-- A choice by conditions. -/
def ifExpr (r : Rules) : Parser Expr :=
  formed (.blockLike .choice) do
    ifClauses r ((← rest).length + 1)

/-- The label of a loop or block, if there is one. -/
def optLabel : Parser Unit := do
  if isLifetime (← rest) then
    lifetimeName
    punct ":"

/-- A loop under a condition. -/
def whileExpr (r : Rules) : Parser Unit := do
  word "while"
  let _ ← r.expr false
  block r

/-- A loop over values. -/
def forExpr (r : Rules) : Parser Unit := do
  word "for"
  let _ ← alternatives r
  word "in"
  let _ ← r.expr false
  block r

/-- A loop without end of its own. -/
def loopExpr (r : Rules) : Parser Unit := do
  word "loop"
  block r

/-- A word and a block behind it. -/
def wordBlock (r : Rules) (name : String) : Parser Unit := do
  word name
  block r

/-- A loop or block with a label. -/
def labeled (r : Rules) : Parser Expr := do
  let (c, tokens) ← noting do
    optLabel
    let ts ← rest
    if isWord "while" ts then
      whileExpr r
      return Construct.whileLoop
    else if isWord "for" ts then
      forExpr r
      return .forLoop
    else if isWord "loop" ts then
      loopExpr r
      return .loop
    else
      block r
      return .block
  return .mk (.blockLike c) [] tokens

/-- Whether the word `for` starts the lifetimes of a closure. -/
def isForLifetimes (ts : List Tree) : Bool :=
  isWord "for" ts && isPunct "<" (skip ts) &&
    (isLifetime (skip (skip ts)) || isPunct ">" (skip (skip ts)))

/-- Whether an asynchronous block comes next. -/
def isAsyncBlock (ts : List Tree) : Bool :=
  isWord "async" ts &&
    (isGroup .brace (skip ts) || (isWord "move" (skip ts) && isGroup .brace (skip (skip ts))))

/-- Whether a closure comes next. -/
def isClosure (ts : List Tree) : Bool :=
  isPunct "|" ts || isWord "move" ts || isForLifetimes ts ||
    (isWord "const" ts && !isGroup .brace (skip ts)) || isWord "static" ts ||
    (isWord "async" ts && (isPunct "|" (skip ts) || isWord "move" (skip ts)))

/-- The end of a loop with the value that it gives, if any. -/
def breakExpr (r : Rules) (struct : Bool) : Parser Expr :=
  formed (.other .breaking) do
    word "break"
    let ts ← rest
    require (!(isLifetime ts && isPunct ":" (skip ts)))
    let _ ← optional isLifetime lifetimeName
    let ts ← rest
    if startsExpr ts && (struct || !isGroup .brace ts) then
      let _ ← r.expr true

/-- A binding as a condition. -/
def letExpr (r : Rules) (struct : Bool) : Parser Expr :=
  formed (.other .binding) do
    word "let"
    let _ ← alternatives r
    punct "="
    let lhs ← r.unary struct
    let _ ← afterOperand r r.unary struct .compare lhs

/-- An operand with its first expression behind a word, if one can start there. -/
def wordExpr (r : Rules) (c : Construct) (name : String) (struct : Bool) : Parser Expr :=
  formed (.other c) do
    word name
    if startsExpr (← rest) then
      let _ ← r.expr struct

/-! ## Matches and statements -/

/-- Whether an expression can be followed by another statement or arm without anything between. -/
def Expr.standsAlone (e : Expr) : Bool :=
  e.form.isBlockLike

/-- The loops, choices and blocks with which a statement or the body of an arm can begin. -/
def leadingBlock? (r : Rules) (ts : List Tree) : Option (Parser Expr) :=
  if isWord "if" ts then some (ifExpr r)
  else if isWord "while" ts then some (formed (.blockLike .whileLoop) (whileExpr r))
  else if isWord "for" ts && !isForLifetimes ts then some (formed (.blockLike .forLoop) (forExpr r))
  else if isWord "loop" ts then some (formed (.blockLike .loop) (loopExpr r))
  else if isWord "match" ts then some r.matching
  else if isWord "try" ts && isGroup .brace (skip ts) then
    some (formed (.blockLike .tryBlock) do word "try"; bareBlock r)
  else if isWord "unsafe" ts then some (formed (.blockLike .unsafeBlock) (wordBlock r "unsafe"))
  else if isWord "const" ts && isGroup .brace (skip ts) then
    some (formed (.blockLike .constBlock) (wordBlock r "const"))
  else if isGroup .brace ts then some (formed (.blockLike .block) (block r))
  else if isLifetime ts then some (labeled r)
  else none

/-- An expression as a statement or the body of an arm: if it begins with a block, it ends there
unless a point or `?` attaches more to it. -/
def statementExpr (r : Rules) : Parser Expr := do
  let (_, attributes) ← noting (outerAttributes r)
  match leadingBlock? r (← rest) with
  | some p => do
    let e ← p
    let ts ← rest
    if (isPunct "." ts && !isPunct ".." ts) || isPunct "?" ts then
      let e ← attachments r e
      afterOperand r r.unary true .jump (.mk e.form e.elements (attributes ++ e.tokens))
    else
      return .mk e.form e.elements (attributes ++ e.tokens)
  | none => do
    let e ← r.unary true
    afterOperand r r.unary true .jump (.mk e.form e.elements (attributes ++ e.tokens))

/-- An arm of a match. A comma may be missing behind a block, and at the end. -/
def arm (r : Rules) : Parser Unit := do
  let _ ← outerAttributes r
  let _ ← alternatives r
  if isWord "if" (← rest) then
    word "if"
    let _ ← r.expr true
  punct "=>"
  let body ← statementExpr r
  if body.standsAlone || (← atEnd) then
    let _ ← optPunct ","
  else
    punct ","

/-- A match of a value against patterns. -/
def matchExpr (r : Rules) : Parser Expr :=
  formed (.blockLike .matching) do
    word "match"
    let _ ← r.expr false
    group .brace do
      let _ ← innerAttributes r
      let _ ← repeated do
        if ← atEnd then
          return none
        arm r
        return some ()

/-- An atom: an expression without operators. -/
def atom (r : Rules) (struct : Bool) : Parser Expr := do
  let ts ← rest
  let next := skip ts
  if isLiteral ts then
    let (l, tokens) ← noting literal
    return .mk (.literal l) [] tokens
  else if isAsyncBlock ts then
    formed (.other .asyncBlock) do
      word "async"
      let _ ← optWord "move"
      bareBlock r
  else if isWord "try" ts && isGroup .brace next then
    formed (.blockLike .tryBlock) do
      word "try"
      bareBlock r
  else if isClosure ts then
    closure r struct
  else if isWord "builtin" ts && isPunct "#" next then
    formed (.other .verbatim) do
      word "builtin"
      punct "#"
      let _ ← anyWord
      require (isGroup .paren (← rest))
      let _ ← anyGroup
  else if isIdent ts || isPathWord ts || isPunct "::" ts || isPunct "<" ts ||
      (isWord "try" ts && (isPunct "!" next || isPunct "::" next)) then
    pathExpr r struct
  else if isGroup .paren ts then
    tupleExpr r
  else if isWord "break" ts then
    breakExpr r struct
  else if isWord "continue" ts then
    formed (.other .continuing) do
      word "continue"
      let _ ← optional isLifetime lifetimeName
  else if isWord "return" ts then
    wordExpr r .returning "return" struct
  else if isWord "become" ts then
    formed (.other .verbatim) do
      word "become"
      let _ ← r.expr struct
  else if isGroup .bracket ts then
    listExpr r
  else if isWord "let" ts then
    letExpr r struct
  else if isWord "if" ts then
    ifExpr r
  else if isWord "while" ts then
    formed (.blockLike .whileLoop) (whileExpr r)
  else if isWord "for" ts then
    formed (.blockLike .forLoop) (forExpr r)
  else if isWord "loop" ts then
    formed (.blockLike .loop) (loopExpr r)
  else if isWord "match" ts then
    matchExpr r
  else if isWord "yield" ts then
    wordExpr r .yielding "yield" true
  else if isWord "unsafe" ts then
    formed (.blockLike .unsafeBlock) (wordBlock r "unsafe")
  else if isWord "const" ts then
    formed (.blockLike .constBlock) (wordBlock r "const")
  else if isGroup .brace ts then
    formed (.blockLike .block) (block r)
  else if isPunct ".." ts then
    let ((), tokens) ← noting do
      let closed ← rangeOperator
      if closed || !endsRange struct (← rest) then
        let _ ← operand r r.unary struct .range (← operatorFuel)
    return .mk .range [] tokens
  else if isWord "_" ts then
    formed (.other .inferred) (word "_")
  else if isLifetime ts then
    labeled r
  else
    failure

/-- An operand: an atom with what is attached to it, behind prefix operators. -/
def unaryWith (r : Rules) (struct : Bool) : Parser Expr := do
  let (attributes, attributeTokens) ← noting (outerAttributes r)
  let ts ← rest
  if isPunct "&" ts then
    let (c, tokens) ← noting do
      punct "&"
      let ts ← rest
      if isWord "raw" ts && (isWord "mut" (skip ts) || isWord "const" (skip ts)) then
        word "raw"
        let _ ← anyWord
        let _ ← r.unary struct
        return Construct.unknown
      else
        let _ ← optWord "mut"
        let _ ← r.unary struct
        return .reference
    return plainExpr c (attributeTokens ++ tokens)
  else if isPunct "*" ts || isPunct "!" ts || isPunct "-" ts then
    let ((), tokens) ← noting do
      punct (if isPunct "*" ts then "*" else if isPunct "!" ts then "!" else "-")
      let _ ← r.unary struct
    return plainExpr .unary (attributeTokens ++ tokens)
  else
    let e ← attachments r (← atom r struct)
    require (attributes.isEmpty || !e.form.isRange)
    return .mk e.form e.elements (attributeTokens ++ e.tokens)

/-- An expression. -/
def exprWith (r : Rules) (struct : Bool) : Parser Expr := do
  afterOperand r (unaryWith r) struct .jump (← unaryWith r struct)

end ExprGate.Grammar
