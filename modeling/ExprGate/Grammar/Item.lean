import ExprGate.Grammar.Expr

/-!
# Declarations and statements

Types, `impl` blocks, modules and imports are kept; other declarations are only recognised. Some
forms are accepted without standing for what they look like: an `impl` block with a visibility or
for a trait that is no path, and imports with parts that start with `::`, declare nothing.
-/

set_option autoImplicit false

namespace ExprGate.Grammar

open Token
open Declaration (Kind)

/-- A visibility, if there is one; the result tells whether there is. -/
def visibility : Parser Bool := do
  if isWord "pub" (← rest) then
    word "pub"
    match ← rest with
    | .group .paren inner :: _ =>
      match inner with
      | [.ident name] =>
        if name == "crate" || name == "self" || name == "super" then
          let _ ← anyGroup
      | .ident "in" :: _ =>
        group .paren do
          word "in"
          let _ ← plainPath
      | _ => pure ()
    | _ => pure ()
    return true
  else
    return false

/-- The trees behind a visibility. -/
def afterVisibility (ts : List Tree) : List Tree :=
  match (silently visibility) { rest := ts } with
  | some (_, s) => s.rest
  | none => ts

/-- The trees behind a word, if it comes next. -/
def skipWord (name : String) (ts : List Tree) : List Tree :=
  if isWord name ts then skip ts else ts

/-- Whether a function comes next, behind the words that can stand in front of `fn`. -/
def isSignature (safe : Bool) (ts : List Tree) : Bool :=
  let ts := skipWord "async" (skipWord "const" ts)
  let ts := if safe && isWord "safe" ts then skip ts else skipWord "unsafe" ts
  let ts := if isWord "extern" ts then
      match skip ts with
      | .literal text :: after => if (stringValue? text).isSome then after else skip ts
      | after => after
    else ts
  isWord "fn" ts

/-- The receiver of a method. -/
def receiver (r : Rules) : Parser Unit := do
  let byRef ← optPunct "&"
  if byRef then
    let _ ← optional isLifetime lifetimeName
  let _ ← optWord "mut"
  word "self"
  if !byRef && isPunct ":" (← rest) then
    punct ":"
    let _ ← r.type true

/-- A parameter of a function behind its attributes; the result tells whether it is a receiver. Open
parameters end the list, which is the second flag. -/
def functionParameter (r : Rules) : Parser (Bool × Bool) := do
  if ← succeeds (receiver r) then
    receiver r
    return (true, false)
  let ts ← rest
  if isIdent ts && isPunct "<" (skip ts) then
    emit (.ident "_" :: operator ":")
    let _ ← r.type true
    return (false, false)
  let _ ← r.pattern
  punct ":"
  if isPunct "..." (← rest) then
    punct "..."
    return (false, true)
  let _ ← r.type true
  return (false, false)

/-- The parameters of a function; a receiver is only allowed first. -/
def functionParametersFrom (r : Rules) : Bool → Nat → Parser Unit
  | _, 0 => failure
  | first, fuel + 1 => do
    if ← atEnd then
      return
    let _ ← outerAttributes r
    if isPunct "..." (← rest) then
      punct "..."
      unless ← atEnd do
        punct ","
    else
      let (isReceiver, isOpen) ← functionParameter r
      require (!isReceiver || first)
      unless ← atEnd do
        punct ","
        if !isOpen then
          functionParametersFrom r false fuel

/-- The signature of a function; the result is its name. -/
def signature (r : Rules) (safe : Bool) : Parser String := do
  let _ ← optWord "const"
  let _ ← optWord "async"
  if safe && isWord "safe" (← rest) then
    word "safe"
  else
    let _ ← optWord "unsafe"
  let _ ← optional (isWord "extern") abi
  word "fn"
  let name ← ident
  let _ ← parameters r
  group .paren do
    functionParametersFrom r true ((← rest).length + 1)
  let _ ← returnType r true
  let _ ← conditions r
  return name

/-- A function whose body may be missing. -/
def functionItem (r : Rules) : Parser Unit := do
  let _ ← signature r false
  if isPunct ";" (← rest) then
    punct ";"
  else
    block r

/-! ## Types -/

/-- A field with a name. -/
def namedField (r : Rules) : Parser String := do
  let _ ← outerAttributes r
  let _ ← visibility
  let unnamed := isWord "_" (← rest)
  let name ← if unnamed then anyWord else ident
  punct ":"
  let ts ← rest
  if unnamed && (isWord "struct" ts || (isWord "union" ts && isGroup .brace (skip ts))) then
    let _ ← anyWord
    require (isGroup .brace (← rest))
    let _ ← anyGroup
  else
    let _ ← r.type true
  return name

/-- Fields with names, in braces. -/
def namedFields (r : Rules) : Parser (List String) :=
  group .brace (commaTerminated (namedField r))

/-- Fields without names, in parentheses. -/
def positionalFields (r : Rules) : Parser Unit := do
  let _ ← group .paren <| commaTerminated do
    let _ ← outerAttributes r
    let _ ← visibility
    let _ ← r.type true

/-- What declares a type behind its visibility: its name, generic parameters and named fields, with
the tokens of the fields as they are written out. -/
structure TypeBody where
  name : String
  parameters : List Parameter
  conditions : List Tree
  fields : List String

/-- A structure behind its visibility. -/
def structBodyItem (r : Rules) : Parser TypeBody := do
  word "struct"
  let name ← ident
  let ps ← parameters r
  if isWord "where" (← rest) then
    let cs ← conditions r
    if isGroup .brace (← rest) then
      return ⟨name, ps, cs, ← namedFields r⟩
    else
      punct ";"
      return ⟨name, ps, cs, []⟩
  else
    let ts ← rest
    if isGroup .paren ts then
      positionalFields r
      let cs ← conditions r
      punct ";"
      return ⟨name, ps, cs, []⟩
    else if isGroup .brace ts then
      return ⟨name, ps, [], ← namedFields r⟩
    else
      punct ";"
      return ⟨name, ps, [], []⟩

/-- A variant of an enumeration. Its visibility is not written out. -/
def variant (r : Rules) : Parser Unit := do
  let _ ← outerAttributes r
  let _ ← silently visibility
  let _ ← ident
  let ts ← rest
  if isGroup .brace ts then
    let _ ← namedFields r
  else if isGroup .paren ts then
    positionalFields r
  if isPunct "=" (← rest) then
    punct "="
    let _ ← r.expr true

/-- An enumeration behind its visibility. -/
def enumBodyItem (r : Rules) : Parser TypeBody := do
  word "enum"
  let name ← ident
  let ps ← parameters r
  let cs ← conditions r
  let _ ← group .brace (commaTerminated (variant r))
  return ⟨name, ps, cs, []⟩

/-- A union behind its visibility. -/
def unionBodyItem (r : Rules) : Parser TypeBody := do
  word "union"
  let name ← ident
  let ps ← parameters r
  let cs ← conditions r
  return ⟨name, ps, cs, ← namedFields r⟩

/-! ## Imports -/

/-- Auxiliary to `useTreeWith`: the parts of a group. -/
def useParts (r : Rules) (rooted : Bool) : Nat → Parser (Option (List UseTree))
  | 0 => failure
  | fuel + 1 => do
    if ← atEnd then
      return some []
    let fromRoot ← if rooted then optPunct "::" else pure false
    let tree ← r.useTree (rooted && !fromRoot)
    let tree := if fromRoot then none else tree
    let others ← if ← atEnd then pure (some []) else do
      punct ","
      useParts r rooted fuel
    return match tree, others with
      | some tree, some others => some (tree :: others)
      | _, _ => none

/-- A tree of imports. -/
def useTreeWith (r : Rules) (rooted : Bool) : Parser (Option UseTree) := do
  let ts ← rest
  if isIdent ts || isOneOf ["self", "super", "crate", "try"] ts then
    let name ← anyWord
    if isPunct "::" (← rest) then
      punct "::"
      return (← r.useTree false).map (.path name)
    else if isWord "as" (← rest) then
      word "as"
      let ts ← rest
      require (isIdent ts || isWord "_" ts)
      return some (.rename name (← anyWord))
    else
      return some (.name name)
  else if isPunct "*" ts then
    punct "*"
    return some .glob
  else
    return (← group .brace do useParts r rooted ((← rest).length + 1)).map .group

/-- Imports behind their visibility. -/
def useItem (r : Rules) : Parser (Option (Bool × UseTree)) := do
  word "use"
  let absolute ← optPunct "::"
  let tree ← r.useTree (!absolute)
  punct ";"
  return tree.map (absolute, ·)

/-! ## Implementations and traits -/

/-- A call of a macro as a declaration: a semicolon follows unless braces are used. -/
def macroItem (named : Bool) : Parser Unit := do
  let _ ← plainPath
  punct "!"
  if named then
    let ts ← rest
    if isWord "try" ts || isIdent ts then
      let _ ← anyWord
  let (d, _) ← anyGroup
  unless d == .brace do
    punct ";"

/-- Whether a call of a macro may come next as a declaration. -/
def isMacroStart (ts : List Tree) : Bool :=
  isIdent ts || isOneOf ["self", "super", "crate"] ts || isPunct "::" ts

/-- A constant behind its visibility and the words in front of `const`; a value may be missing. -/
def constItem (r : Rules) : Parser Unit := do
  word "const"
  let ts ← rest
  require (isIdent ts || isWord "_" ts)
  let _ ← anyWord
  let _ ← parameters r
  punct ":"
  let _ ← r.type true
  if ← optPunct "=" then
    let _ ← r.expr true
  let _ ← conditions r
  punct ";"

/-- Where the conditions of a type alias stand. -/
inductive ConditionPlace where
  | before
  | after
  | both
deriving DecidableEq, Repr

/-- A type alias behind its visibility. -/
def aliasItem (r : Rules) (place : ConditionPlace) : Parser Unit := do
  word "type"
  let _ ← ident
  let _ ← parameters r
  if isPunct ":" (← rest) then
    punct ":"
    let _ ← separated (fun ts => isWord "where" ts || isPunct "=" ts || isPunct ";" ts) "+" do
      let _ ← r.bound false true
  let early ← if place == .after then pure [] else conditions r
  if ← optPunct "=" then
    let _ ← r.type true
  if place != .before && early.isEmpty then
    let _ ← conditions r
  punct ";"

/-- An item of an `impl` block; functions with a body are kept. -/
def implementationItem (r : Rules) : Parser (Option Function) := do
  let attributes ← outerAttributes r
  let ts := afterVisibility (← rest)
  let hasDefault := isWord "default" ts && !isPunct "!" (skip ts)
  let ts := if hasDefault then skip ts else ts
  if isWord "fn" ts || isSignature false ts then
    let _ ← visibility
    let _ ← optWord "default"
    let name ← signature r false
    if ← optPunct ";" then
      return none
    let inner ← blockAttributes r
    return some ⟨attributes ++ inner, name⟩
  else if isWord "const" ts then
    let _ ← visibility
    if hasDefault then
      word "default"
    constItem r
    return none
  else if isWord "type" ts then
    let _ ← visibility
    let _ ← optWord "default"
    aliasItem r .after
    return none
  else
    require (!hasDefault && !isWord "pub" (← rest) && isMacroStart ts)
    macroItem false
    return none

/-- Whether angle brackets behind `impl` hold parameters and do not start a path. -/
def startsParameters (ts : List Tree) : Bool :=
  let second := skip ts
  let third := skip second
  isPunct "<" ts &&
    (isPunct ">" second || isPunct "#" second ||
      ((isLifetime second || isIdent second) &&
        ((isPunct ":" third && !isPunct "::" third) || isPunct "," third || isPunct ">" third ||
          isPunct "=" third)) ||
      isWord "const" second)

/-- An `impl` block behind its attributes. Only one for a trait can be negative. -/
def implementation (r : Rules) (attributes : List Meta) : Parser Item := do
  let visible ← visibility
  let _ ← optWord "default"
  let _ ← optWord "unsafe"
  word "impl"
  if startsParameters (← rest) then
    let _ ← parameters r
  let ts ← rest
  let const := isWord "const" ts || (isPunct "?" ts && isWord "const" (skip ts))
  if const then
    let _ ← optPunct "?"
    word "const"
  let ts ← rest
  let negative := isPunct "!" ts && !isGroup .brace (skip ts)
  if negative then
    punct "!"
  let first ← r.type true
  let ofTrait := isWord "for" (← rest)
  require (ofTrait || !negative)
  let selfType ← if ofTrait then do
      word "for"
      r.type true
    else
      pure first
  let _ ← conditions r
  let (inner, functions) ← group .brace do
    let inner ← innerAttributes r
    let items ← repeated do
      if ← atEnd then
        return none
      return some (← implementationItem r)
    return (inner, items.filterMap id)
  let traitPath := match first with
    | .path p => some p
    | _ => none
  if visible || const || (ofTrait && traitPath.isNone) then
    return .other
  else
    return .implementation (attributes ++ inner) (if ofTrait then traitPath else none) selfType
      functions

/-- An item of a trait. -/
def traitItem (r : Rules) : Parser Unit := do
  let _ ← outerAttributes r
  let visible ← visibility
  let hasDefault ← optWord "default"
  let ts ← rest
  if isWord "fn" ts || isSignature false ts then
    functionItem r
  else if isWord "const" ts then
    constItem r
  else if isWord "type" ts then
    aliasItem r .after
  else
    require (!visible && !hasDefault && isMacroStart ts)
    macroItem false

/-- A trait, or an alias of bounds, behind its visibility. A colon without bounds is not printed. -/
def traitDeclaration (r : Rules) : Parser Unit := do
  let isUnsafe ← optWord "unsafe"
  let isAuto ← optWord "auto"
  word "trait"
  let _ ← ident
  let _ ← parameters r
  if isPunct "=" (← rest) && !isUnsafe && !isAuto then
    punct "="
    let _ ← separated (fun ts => isWord "where" ts || isPunct ";" ts) "+" do
      let _ ← r.bound false true
    let _ ← conditions r
    punct ";"
  else
    let ts ← rest
    let ends := fun ts => isWord "where" ts || isGroup .brace ts
    if isPunct ":" ts && ends (skip ts) then
      silently (punct ":")
    else if isPunct ":" ts then
      punct ":"
      let _ ← separated ends "+" do
        let _ ← r.bound false true
    let _ ← conditions r
    group .brace do
      let _ ← innerAttributes r
      let _ ← repeated do
        if ← atEnd then
          return none
        traitItem r
        return some ()

/-! ## Other declarations -/

/-- A declaration of something that is linked to. -/
def foreignItem (r : Rules) : Parser Unit := do
  let _ ← outerAttributes r
  let ts := afterVisibility (← rest)
  if isWord "fn" ts || isSignature true ts then
    let _ ← visibility
    let _ ← signature r true
    if isGroup .brace (← rest) then
      block r
    else
      punct ";"
  else if isWord "static" ts || (isOneOf ["unsafe", "safe"] ts && isWord "static" (skip ts)) then
    let _ ← visibility
    if isOneOf ["unsafe", "safe"] (← rest) then
      let _ ← anyWord
    word "static"
    let _ ← optWord "mut"
    let _ ← ident
    punct ":"
    let _ ← r.type true
    if ← optPunct "=" then
      let _ ← r.expr true
    punct ";"
  else if isWord "type" ts then
    let _ ← visibility
    aliasItem r .both
  else
    require (!isWord "pub" (← rest) && isMacroStart ts)
    macroItem false

/-- A block of declarations of things that are linked to. -/
def foreignBlock (r : Rules) : Parser Unit := do
  let _ ← optWord "unsafe"
  abi
  group .brace do
    let _ ← innerAttributes r
    let _ ← repeated do
      if ← atEnd then
        return none
      foreignItem r
      return some ()

/-- A crate that is linked to, behind its visibility. -/
def crateItem : Parser Unit := do
  word "extern"
  word "crate"
  if isWord "self" (← rest) then
    word "self"
  else
    let _ ← ident
  if isWord "as" (← rest) then
    word "as"
    let ts ← rest
    require (isIdent ts || isWord "_" ts)
    let _ ← anyWord
  punct ";"

/-- A static variable behind its visibility; its type or its value may be missing. -/
def staticItem (r : Rules) : Parser Unit := do
  word "static"
  let _ ← optWord "mut"
  let _ ← ident
  if isPunct "=" (← rest) then
    punct "="
    let _ ← r.expr true
  else
    punct ":"
    let _ ← r.type true
    if isPunct "=" (← rest) then
      punct "="
      let _ ← r.expr true
  punct ";"

/-- A module behind its attributes. -/
def moduleItem (r : Rules) (attributes : List Meta) : Parser Item := do
  let _ ← visibility
  let _ ← optWord "unsafe"
  word "mod"
  let name ← if isWord "try" (← rest) then anyWord else ident
  if isPunct ";" (← rest) then
    punct ";"
    return .module attributes name none
  else
    let (inner, items) ← group .brace do
      let inner ← innerAttributes r
      let items ← repeated do
        if ← atEnd then
          return none
        return some (← r.item)
      return (inner, items)
    return .module (attributes ++ inner) name (some items)

/-- A macro with its rules, behind its visibility. -/
def macroDeclaration : Parser Unit := do
  word "macro"
  let _ ← ident
  if isGroup .paren (← rest) then
    let _ ← anyGroup
  require (isGroup .brace (← rest))
  let _ ← anyGroup

/-- A declaration behind its attributes. -/
def itemAfterAttributes (r : Rules) (attributes : List Meta) : Parser Item := do
  let ts := afterVisibility (← rest)
  let next := skip ts
  let other (p : Parser Unit) : Parser Item := do
    p
    return .other
  let behindVisibility (p : Parser Unit) : Parser Item := do
    let _ ← visibility
    p
    return .other
  let typeItem (kind : Kind) (p : Parser TypeBody) : Parser Item := do
    let _ ← visibility
    let body ← p
    return .type kind attributes body.name body.fields
  if isWord "fn" ts || isSignature false ts then
    behindVisibility (functionItem r)
  else if isWord "extern" ts then
    if isWord "crate" next then
      behindVisibility crateItem
    else
      other (foreignBlock r)
  else if isWord "use" ts then
    let _ ← visibility
    match ← useItem r with
    | some (absolute, tree) => return .imports attributes absolute tree
    | none => return .other
  else if isWord "static" ts then
    behindVisibility (staticItem r)
  else if isWord "const" ts then
    behindVisibility (constItem r)
  else if isWord "unsafe" ts then
    if isWord "trait" next || (isWord "auto" next && isWord "trait" (skip next)) then
      behindVisibility (traitDeclaration r)
    else if isWord "impl" next then
      implementation r attributes
    else if isWord "extern" next then
      other (foreignBlock r)
    else
      moduleItem r attributes
  else if isWord "mod" ts then
    moduleItem r attributes
  else if isWord "type" ts then
    behindVisibility (aliasItem r .before)
  else if isWord "struct" ts then
    typeItem .struct (structBodyItem r)
  else if isWord "enum" ts then
    typeItem .enum (enumBodyItem r)
  else if isWord "union" ts && isIdent next then
    typeItem .union (unionBodyItem r)
  else if isWord "trait" ts || (isWord "auto" ts && isWord "trait" next) then
    behindVisibility (traitDeclaration r)
  else if isWord "impl" ts || (isWord "default" ts && !isPunct "!" next) then
    implementation r attributes
  else if isWord "macro" ts then
    behindVisibility macroDeclaration
  else
    require (!isWord "pub" (← rest) && isMacroStart ts)
    other (macroItem true)

/-- A declaration. -/
def itemWith (r : Rules) : Parser Item := do
  itemAfterAttributes r (← outerAttributes r)

/-! ## Statements -/

/-- Whether a call of a macro that is a statement by itself comes next: one in braces to which
nothing is attached. -/
inductive MacroStatement where
  | none
  | item
  | braced
deriving DecidableEq, Repr

/-- What the path that comes next starts, if a macro is called by it. -/
def macroStatement (ts : List Tree) : MacroStatement :=
  match plainPath { rest := ts } with
  | some (_, s) =>
    let next := skip s.rest
    let third := skip next
    if isPunct "!" s.rest then
      if isIdent next || isWord "try" next then .item
      else if isGroup .brace next &&
          !((isPunct "." third && !isPunct ".." third) || isPunct "?" third) then .braced
      else .none
    else .none
  | _ => .none

/-- Whether a declaration comes next as a statement. -/
def startsItem (ts : List Tree) : Bool :=
  let second := skip ts
  let third := skip second
  isOneOf ["pub", "extern", "use", "fn", "mod", "type", "struct", "enum", "trait", "impl", "macro"]
      ts ||
    (isWord "crate" ts && !isPunct "::" second) ||
    (isWord "static" ts &&
      (isWord "mut" second ||
        (isIdent second &&
          !(isWord "async" second && (isWord "move" third || isPunct "|" third))))) ||
    (isWord "const" ts &&
      !(isGroup .brace second || isWord "static" second ||
        (isWord "async" second && !isOneOf ["unsafe", "extern", "fn"] third) ||
        isWord "move" second || isPunct "|" second)) ||
    (isWord "unsafe" ts && !isGroup .brace second) ||
    (isWord "async" ts && isOneOf ["unsafe", "extern", "fn"] second) ||
    (isWord "union" ts && isIdent second) ||
    (isWord "auto" ts && isWord "trait" second) ||
    (isWord "default" ts && isOneOf ["unsafe", "impl"] second)

/-- A binding. A block behind `else` may follow a value that does not end in braces itself. -/
def letStatement (r : Rules) : Parser Unit := do
  word "let"
  let _ ← r.pattern
  if isPunct ":" (← rest) then
    punct ":"
    let _ ← r.type true
  if isPunct "=" (← rest) then
    punct "="
    let value ← r.expr true
    if !endsInBraces value && isWord "else" (← rest) then
      word "else"
      bareBlock r
  punct ";"

/-- A statement; the result tells whether something has to follow it before the next one. -/
def statement (r : Rules) : Parser Bool := do
  let attributes ← outerAttributes r
  let ts ← rest
  match macroStatement ts with
  | .braced => do
    let _ ← plainPath
    punct "!"
    let _ ← anyGroup
    let _ ← optPunct ";"
    return false
  | form =>
    if isWord "let" ts then
      letStatement r
      return false
    else if startsItem ts || form == .item then
      let _ ← itemAfterAttributes r attributes
      return false
    else
      let e ← statementExpr r
      if ← optPunct ";" then
        return false
      return match e.form with
        | .blockLike _ => false
        | .call braced => !braced
        | _ => true

/-- Auxiliary to `statementsWith`. -/
def statementsFrom (r : Rules) : Nat → Parser Unit
  | 0 => failure
  | fuel + 1 => do
    if ← atEnd then
      return
    if ← optPunct ";" then
      statementsFrom r fuel
    else
      let open_ ← statement r
      require (!open_ || (← atEnd))
      statementsFrom r fuel

/-- The statements of a block. -/
def statementsWith (r : Rules) : Parser Unit := do
  statementsFrom r ((← rest).length + 1)

end ExprGate.Grammar
