import ExprGate.Text.Blank
import ExprGate.Token.Literal
import ExprGate.Token.Printer

/-!
# Reading tokens

Text is divided into lexemes: identifiers, operator characters, literals and delimiters. Blanks and
comments vanish, except that documentation comments become `doc` attributes. Lexemes between
matching delimiters are then gathered into groups. Reading fails on unfinished or malformed
literals and comments, on characters that start no lexeme, and on delimiters that do not match.
-/

set_option autoImplicit false

namespace ExprGate.Token

open Text

/-- A token, or one of the delimiters of a group. -/
inductive Lexeme where
  | tree (t : Tree)
  | opening (d : Delimiter)
  | closing (d : Delimiter)
deriving Repr

/-- Blanks between tokens: white space and the two direction marks. -/
def isTokenBlank (c : Char) : Bool :=
  isBlank c || c.toNat == 0x200E || c.toNat == 0x200F

/-- A line up to its end, with the rest of the text from the line feed on. -/
def takeLine : List Char → List Char × List Char
  | [] => ([], [])
  | '\n' :: rest => ([], '\n' :: rest)
  | '\r' :: '\n' :: rest => ([], '\n' :: rest)
  | c :: rest =>
    let (line, after) := takeLine rest
    (c :: line, after)

/-- The contents of a block comment from behind its opening on, up to the end that matches it;
`depth` comments are open inside. -/
def takeBlock? : Nat → List Char → Option (List Char × List Char)
  | _, [] => none
  | depth, '/' :: '*' :: rest =>
    (takeBlock? (depth + 1) rest).map fun (body, after) => ('/' :: '*' :: body, after)
  | 0, '*' :: '/' :: rest => some ([], rest)
  | depth + 1, '*' :: '/' :: rest =>
    (takeBlock? depth rest).map fun (body, after) => ('*' :: '/' :: body, after)
  | depth, c :: rest => (takeBlock? depth rest).map fun (body, after) => (c :: body, after)

/-- The text after the comment that it starts with, if that is no documentation. -/
def afterComment? : List Char → Option (List Char)
  | '/' :: '/' :: rest =>
    let isDoc := match rest with
      | '/' :: '/' :: _ => false
      | '/' :: _ => true
      | '!' :: _ => true
      | _ => false
    if isDoc then none else some (takeLine rest).2
  | '/' :: '*' :: rest =>
    let isDoc := match rest with
      | '*' :: '/' :: _ => false
      | '*' :: '*' :: _ => false
      | '*' :: _ => true
      | '!' :: _ => true
      | _ => false
    if isDoc then none else (takeBlock? 0 rest).map Prod.snd
  | _ => none

/-- Whether every carriage return comes before a line feed. -/
def hasNoBareReturn : List Char → Bool
  | [] => true
  | '\r' :: '\n' :: rest => hasNoBareReturn rest
  | '\r' :: _ => false
  | _ :: rest => hasNoBareReturn rest

/-- The documentation comment that a text starts with: whether it is an inner one, its text, and what
comes after it. -/
def docComment? (cs : List Char) : Option (Bool × List Char × List Char) :=
  let found :=
    match cs with
    | '/' :: '/' :: '!' :: rest =>
      let (line, after) := takeLine rest
      some (true, line, after)
    | '/' :: '*' :: '!' :: rest =>
      (takeBlock? 0 rest).map fun (body, after) => (true, body, after)
    | '/' :: '/' :: '/' :: rest =>
      if rest.head? = some '/' then none
      else
        let (line, after) := takeLine rest
        some (false, line, after)
    | '/' :: '*' :: '*' :: rest =>
      if rest.head? = some '*' then none
      else (takeBlock? 0 rest).map fun (body, after) => (false, body, after)
    | _ => none
  found.bind fun (inner, text, after) =>
    if hasNoBareReturn text then some (inner, text, after) else none

/-- The attribute that a documentation comment stands for. -/
def docAttribute (inner : Bool) (text : List Char) : List Tree :=
  let body := [.ident "doc", .punct '=' false, stringLiteral (String.ofList text)]
  (operator "#" ++ if inner then operator "!" else []) ++ [.group .bracket body]

/-- What a text may not start with where an identifier is expected. -/
def literalStarts : List (List Char) :=
  ["r\"", "r#\"", "r##", "b\"", "b'", "br\"", "br#", "c\"", "cr\"", "cr#"].map String.toList

/-- The names that cannot be written with `r#`. -/
def neverRaw : List String :=
  ["_", "super", "self", "Self", "crate"]

/-- The identifier that a text starts with, raw or not, and what comes after it. -/
def identAny? (cs : List Char) : Option (String × List Char) :=
  match cs with
  | 'r' :: '#' :: rest =>
    match afterIdent? rest with
    | none => none
    | some after =>
      let name := String.ofList (rest.take (rest.length - after.length))
      if neverRaw.contains name then none else some ("r#" ++ name, after)
  | _ =>
    (afterIdent? cs).map fun after => (String.ofList (cs.take (cs.length - after.length)), after)

/-- The identifier that a text starts with, if no literal could start there. -/
def identifier? (cs : List Char) : Option (String × List Char) :=
  if literalStarts.any (·.isPrefixOf cs) then none else identAny? cs

/-- The operator character that a text starts with; the slash of a comment is none. -/
def operatorChar? : List Char → Option (Char × List Char)
  | '/' :: '/' :: _ => none
  | '/' :: '*' :: _ => none
  | c :: rest => if isOperatorChar c then some (c, rest) else none
  | [] => none

/-- The operator that a text starts with. An apostrophe is one only in front of an identifier that
no further apostrophe follows. -/
def punct? (cs : List Char) : Option (Tree × List Char) :=
  match operatorChar? cs with
  | none => none
  | some ('\'', rest) =>
    match identAny? rest with
    | none => none
    | some (_, after) =>
      let hashed := after.head? == some '#' && !(List.isPrefixOf ['r', '#'] rest)
      if after.head? == some '\'' || hashed then none else some (.punct '\'' true, rest)
  | some (c, rest) => some (.punct c (operatorChar? rest).isSome, rest)

/-- The lexeme that a text starts with. -/
def lexeme? (cs : List Char) : Option (Lexeme × List Char) :=
  match cs with
  | '(' :: rest => some (.opening .paren, rest)
  | '[' :: rest => some (.opening .bracket, rest)
  | '{' :: rest => some (.opening .brace, rest)
  | ')' :: rest => some (.closing .paren, rest)
  | ']' :: rest => some (.closing .bracket, rest)
  | '}' :: rest => some (.closing .brace, rest)
  | _ =>
    match afterLiteral? cs with
    | some rest =>
      some (.tree (.literal (String.ofList (cs.take (cs.length - rest.length)))), rest)
    | none =>
      match punct? cs with
      | some (t, rest) => some (.tree t, rest)
      | none => (identifier? cs).map fun (name, rest) => (.tree (.ident name), rest)

/-- The lexemes of a text. The fuel bounds the number of steps. -/
def lexemes? : Nat → List Char → Option (List Lexeme)
  | _, [] => some []
  | 0, _ => none
  | fuel + 1, c :: rest =>
    match afterComment? (c :: rest) with
    | some after => lexemes? fuel after
    | none =>
      if isTokenBlank c then lexemes? fuel rest
      else
        match docComment? (c :: rest) with
        | some (inner, text, after) =>
          (lexemes? fuel after).map fun found => (docAttribute inner text).map .tree ++ found
        | none =>
          match lexeme? (c :: rest) with
          | none => none
          | some (l, after) => (lexemes? fuel after).map (l :: ·)

/-- Gathers lexemes into trees. `done` holds the trees of the innermost open group, newest first, and
`outer` the delimiters and the trees of the groups around it. -/
def gather (outer : List (Delimiter × List Tree)) (done : List Tree) :
    List Lexeme → Option (List Tree)
  | [] => if outer.isEmpty then some done.reverse else none
  | .tree t :: rest => gather outer (t :: done) rest
  | .opening d :: rest => gather ((d, done) :: outer) [] rest
  | .closing d :: rest =>
    match outer with
    | [] => none
    | (open_, before) :: outer =>
      if open_ = d then gather outer (.group d done.reverse :: before) rest else none

/-- The mark at the beginning of a text that tells its byte order. -/
def byteOrderMark : Char := Char.ofNat 0xFEFF

/-- A text without the mark that may stand at its beginning. -/
def dropByteOrderMark : List Char → List Char
  | c :: rest => if c == byteOrderMark then rest else c :: rest
  | [] => []

/-- The trees of a text. -/
def lexChars (cs : List Char) : Option (List Tree) :=
  let cs := dropByteOrderMark cs
  (lexemes? (cs.length + 1) cs).bind (gather [] [])

/-- The trees of a text. -/
def lex (text : String) : Option (List Tree) :=
  lexChars text.toList

/-- Whether a text, blanks and comments aside, is one identifier that is no keyword. -/
def isIdentifier (text : String) : Bool :=
  match lex text with
  | some [.ident name] => isPlainIdent name
  | _ => false

end ExprGate.Token
