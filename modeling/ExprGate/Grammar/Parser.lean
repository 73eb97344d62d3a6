import ExprGate.Token.Lexer

/-!
# Parsers over token trees

A parser takes trees from the front of its input and may fail. As it goes it prints what it has
taken, in the form in which the construct is written out again: operators of several characters
become one operator, whatever stood next to them. What is inside a group is parsed on its own and
has to be used up.
-/

set_option autoImplicit false

namespace ExprGate.Grammar

open Token

/-- What is left to parse, and what has been printed, newest first. -/
structure Input where
  rest : List Tree
  printed : List Tree := []

/-- A parser of `α`. -/
abbrev Parser := StateT Input Option

/-! ## Looking ahead -/

/-- The trees after the first one; a lifetime counts as one. -/
def skip : List Tree → List Tree
  | [] => []
  | .punct '\'' true :: .ident _ :: rest => rest
  | _ :: rest => rest

/-- Auxiliary to `isPunct`: the characters of an operator, all but the last one joint. -/
def isPunctChars : List Char → List Tree → Bool
  | [], _ => false
  | [c], .punct d _ :: _ => c == d
  | c :: cs, .punct d joint :: rest => c == d && joint && isPunctChars cs rest
  | _, _ => false

/-- Whether an operator comes next. What follows its last character plays no part. -/
def isPunct (op : String) (ts : List Tree) : Bool :=
  isPunctChars op.toList ts

/-- Whether a certain word comes next. -/
def isWord (word : String) : List Tree → Bool
  | .ident name :: _ => name == word
  | _ => false

/-- Whether one of several words comes next. -/
def isOneOf (words : List String) : List Tree → Bool
  | .ident name :: _ => words.contains name
  | _ => false

/-- Whether an identifier that is no keyword comes next. -/
def isIdent : List Tree → Bool
  | .ident name :: _ => isPlainIdent name
  | _ => false

/-- Whether an identifier or keyword comes next. -/
def isAnyWord : List Tree → Bool
  | .ident _ :: _ => true
  | _ => false

/-- Whether a lifetime comes next. -/
def isLifetime : List Tree → Bool
  | .punct '\'' true :: .ident _ :: _ => true
  | _ => false

/-- Whether a group comes next. -/
def isGroup (d : Delimiter) : List Tree → Bool
  | .group e _ :: _ => d == e
  | _ => false

/-- Whether a literal text stands for a number. -/
def isNumber (text : String) : Bool :=
  text.toList.head?.any Char.isDigit

/-- Whether a literal comes next; truth values and negative numbers are literals. -/
def isLiteral : List Tree → Bool
  | .literal _ :: _ => true
  | .ident name :: _ => name == "true" || name == "false"
  | .punct '-' _ :: .literal text :: _ => isNumber text
  | _ => false

/-- Whether one of the words that start a path without being plain identifiers comes next. -/
def isPathWord (ts : List Tree) : Bool :=
  isOneOf ["super", "self", "Self", "crate"] ts

/-! ## Steps -/

/-- What is left to parse. -/
def rest : Parser (List Tree) := do
  return (← get).rest

/-- Whether everything is parsed. -/
def atEnd : Parser Bool := do
  return (← rest).isEmpty

/-- Prints trees. -/
def emit (ts : List Tree) : Parser Unit :=
  modify fun s => { s with printed := ts.reverse ++ s.printed }

/-- Goes past a number of trees without printing them. -/
def advance (n : Nat) : Parser Unit :=
  modify fun s => { s with rest := s.rest.drop n }

/-- Fails unless a condition holds. -/
def require (condition : Bool) : Parser Unit :=
  if condition then pure () else failure

/-- Runs a parser and gives what it prints instead of printing it. -/
def printing {α : Type} (p : Parser α) : Parser (α × List Tree) := do
  let before := (← get).printed
  modify fun s => { s with printed := [] }
  let a ← p
  let printed := (← get).printed.reverse
  modify fun s => { s with printed := before }
  return (a, printed)

/-- Runs a parser without printing. -/
def silently {α : Type} (p : Parser α) : Parser α := do
  return (← printing p).1

/-- Runs a parser and gives, beside printing it, what it prints. -/
def noting {α : Type} (p : Parser α) : Parser (α × List Tree) := do
  let (a, printed) ← printing p
  emit printed
  return (a, printed)

/-- Runs a parser without moving on, and tells whether it succeeds. -/
def succeeds {α : Type} (p : Parser α) : Parser Bool := fun s =>
  some ((p s).isSome, s)

/-- An operator. -/
def punct (op : String) : Parser Unit := do
  require (isPunct op (← rest))
  advance op.length
  emit (operator op)

/-- A certain word. -/
def word (name : String) : Parser Unit := do
  require (isWord name (← rest))
  advance 1
  emit [.ident name]

/-- An identifier or keyword. -/
def anyWord : Parser String := do
  match ← rest with
  | .ident name :: _ => do
    advance 1
    emit [.ident name]
    return name
  | _ => failure

/-- An identifier that is no keyword. -/
def ident : Parser String := do
  require (isIdent (← rest))
  anyWord

/-- A lifetime. -/
def lifetimeName : Parser Unit := do
  match ← rest with
  | .punct '\'' true :: .ident name :: _ => do
    advance 2
    emit (lifetime name)
  | _ => failure

/-- A literal: the text of a string literal, a truth value, or the printed tokens of any other
literal. -/
inductive Literal where
  | string (value : String)
  | bool (value : Bool)
  | other (text : String)
deriving DecidableEq, Repr

/-- The literal that a token is. -/
def Literal.ofText (text : String) : Literal :=
  match stringValue? text with
  | some value => .string value
  | none => .other text

/-- A literal. A negative number is two tokens. -/
def literal : Parser Literal := do
  match ← rest with
  | .literal text :: _ => do
    advance 1
    emit [.literal text]
    return .ofText text
  | .ident name :: _ => do
    require (name == "true" || name == "false")
    advance 1
    emit [.ident name]
    return .bool (name == "true")
  | .punct '-' _ :: .literal text :: _ => do
    require (isNumber text)
    advance 2
    emit [.punct '-' false, .literal text]
    return .other ("- " ++ text)
  | _ => failure

/-- A group whose contents a parser uses up. -/
def group {α : Type} (d : Delimiter) (p : Parser α) : Parser α := do
  match ← rest with
  | .group e inner :: _ => do
    require (d == e)
    match p { rest := inner } with
    | some (a, { rest := [], printed }) => do
      advance 1
      emit [.group d printed.reverse]
      return a
    | _ => failure
  | _ => failure

/-- A group of any kind, printed as it stands. -/
def anyGroup : Parser (Delimiter × List Tree) := do
  match ← rest with
  | .group d inner :: _ => do
    advance 1
    emit [.group d inner]
    return (d, inner)
  | _ => failure

/-- An operator, if it comes next. -/
def optPunct (op : String) : Parser Bool := do
  if isPunct op (← rest) then
    punct op
    return true
  else
    return false

/-- A word, if it comes next. -/
def optWord (name : String) : Parser Bool := do
  if isWord name (← rest) then
    word name
    return true
  else
    return false

/-- Runs a parser if a condition on what comes next holds. -/
def optional {α : Type} (condition : List Tree → Bool) (p : Parser α) : Parser (Option α) := do
  if condition (← rest) then
    return some (← p)
  else
    return none

/-- Auxiliary to `repeated`; the fuel bounds the number of results. -/
def repeatedFrom {α : Type} (step : Parser (Option α)) : Nat → Parser (List α)
  | 0 => failure
  | fuel + 1 => do
    match ← step with
    | none => return []
    | some a => return a :: (← repeatedFrom step fuel)

/-- Runs a step until it gives nothing. A step that gives something has to move on. -/
def repeated {α : Type} (step : Parser (Option α)) : Parser (List α) := do
  repeatedFrom step ((← rest).length + 1)

/-- Auxiliary to `separated`; the fuel bounds the number of results. -/
def separatedFrom {α : Type} (ends : List Tree → Bool) (sep : String) (p : Parser α) :
    Nat → Parser (List α)
  | 0 => failure
  | fuel + 1 => do
    if ends (← rest) then
      return []
    let a ← p
    if ends (← rest) then
      return [a]
    punct sep
    return a :: (← separatedFrom ends sep p fuel)

/-- Results with a separator between them, and possibly behind them, up to where a condition on what
comes next holds. -/
def separated {α : Type} (ends : List Tree → Bool) (sep : String) (p : Parser α) :
    Parser (List α) := do
  separatedFrom ends sep p ((← rest).length + 1)

/-- Auxiliary to `joined`; the fuel bounds the number of results. -/
def joinedFrom {α : Type} (ends : List Tree → Bool) (sep : String) (p : Parser α) :
    Nat → Parser (List α)
  | 0 => failure
  | fuel + 1 => do
    if ends (← rest) then
      return []
    let a ← p
    if isPunct sep (← rest) then
      punct sep
      return a :: (← joinedFrom ends sep p fuel)
    else
      return [a]

/-- Results with a separator between them, and possibly behind them, as long as there is one; none
are taken where a condition on what comes next holds. -/
def joined {α : Type} (ends : List Tree → Bool) (sep : String) (p : Parser α) :
    Parser (List α) := do
  joinedFrom ends sep p ((← rest).length + 1)

/-- Results with commas between them up to the end of the input. -/
def commaTerminated {α : Type} (p : Parser α) : Parser (List α) :=
  separated List.isEmpty "," p

/-- Runs a parser on trees, which it has to use up. -/
def parseAll {α : Type} (p : Parser α) (ts : List Tree) : Option α :=
  match p { rest := ts } with
  | some (a, { rest := [], .. }) => some a
  | _ => none

end ExprGate.Grammar
