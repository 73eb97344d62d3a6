import ExprGate.Text.IdentChar

/-!
# Literals

Scanners for the literals of source text. Each takes the characters from where a literal may
start and gives the characters after it, or nothing if there is no such literal. The scanner of
cooked text gives the denoted characters too. Literals may carry a suffix, which is an
identifier that follows at once.
-/

set_option autoImplicit false

namespace ExprGate.Token

open Text

/-- The characters after an identifier that is not raw. -/
def afterIdent? : List Char → Option (List Char)
  | [] => none
  | c :: rest => if isIdentStart c then some (rest.dropWhile isIdentContinue) else none

/-- The characters after the suffix of a literal, if it has one. -/
def afterSuffix (cs : List Char) : List Char :=
  (afterIdent? cs).getD cs

/-- The value of a hexadecimal digit. -/
def hexValue? (c : Char) : Option Nat :=
  if '0' ≤ c && c ≤ '9' then some (c.toNat - '0'.toNat)
  else if 'a' ≤ c && c ≤ 'f' then some (c.toNat - 'a'.toNat + 10)
  else if 'A' ≤ c && c ≤ 'F' then some (c.toNat - 'A'.toNat + 10)
  else none

/-- Whether a number is the code point of a character. -/
def isCodePoint (n : Nat) : Bool :=
  n < 0xD800 || (0xDFFF < n && n < 0x110000)

/-- What cooked text is made of. -/
inductive Alphabet where
  /-- Characters. -/
  | text
  /-- Bytes, written as ASCII characters. -/
  | bytes
  /-- Characters other than NUL. -/
  | nulFree
deriving DecidableEq, Repr

/-- The rest of a code point in braces: at least one and at most six digits, with underscores
between and after them. -/
def codePoint? (value digits : Nat) : List Char → Option (Char × List Char)
  | [] => none
  | '_' :: rest => if digits = 0 then none else codePoint? value digits rest
  | '}' :: rest =>
    if digits ≠ 0 && isCodePoint value then some (Char.ofNat value, rest) else none
  | c :: rest =>
    match hexValue? c with
    | none => none
    | some d => if digits = 6 then none else codePoint? (value * 16 + d) (digits + 1) rest

/-- Skips the blanks that start at an escaped line end; `last` is the blank just passed. A carriage
return has to be followed by a line feed, and something other than a blank has to come. -/
def afterLineEnd? (last : Char) : List Char → Option (List Char)
  | [] => none
  | c :: rest =>
    if last == '\r' then
      if c != '\n' then none
      else
        match rest with
        | [] => none
        | d :: rest' =>
          if d == ' ' || d == '\t' || d == '\n' || d == '\r' then afterLineEnd? d rest'
          else some (d :: rest')
    else if c == ' ' || c == '\t' || c == '\n' || c == '\r' then afterLineEnd? c rest
    else some (c :: rest)

/-- Reads what stands behind a backslash: the denoted character, if there is one, and the rest. -/
def escape? (a : Alphabet) : List Char → Option (Option Char × List Char)
  | 'x' :: h :: l :: rest =>
    match hexValue? h, hexValue? l with
    | some high, some low =>
      let value := high * 16 + low
      match a with
      | .text => if high < 8 then some (some (Char.ofNat value), rest) else none
      | .bytes => some (some (Char.ofNat value), rest)
      | .nulFree => if value = 0 then none else some (some (Char.ofNat value), rest)
    | _, _ => none
  | 'u' :: '{' :: rest =>
    if a = .bytes then none
    else
      match codePoint? 0 0 rest with
      | some (c, rest) => if a = .nulFree && c.toNat = 0 then none else some (some c, rest)
      | none => none
  | 'n' :: rest => some (some '\n', rest)
  | 'r' :: rest => some (some '\r', rest)
  | 't' :: rest => some (some '\t', rest)
  | '\\' :: rest => some (some '\\', rest)
  | '\'' :: rest => some (some '\'', rest)
  | '"' :: rest => some (some '"', rest)
  | '0' :: rest => if a = .nulFree then none else some (some (Char.ofNat 0), rest)
  | '\n' :: rest => (afterLineEnd? '\n' rest).map fun rest => (none, rest)
  | '\r' :: rest => (afterLineEnd? '\r' rest).map fun rest => (none, rest)
  | _ => none

/-- Reads cooked text up to its closing quote. The fuel bounds the number of characters. -/
def cooked? (a : Alphabet) : Nat → List Char → Option (List Char × List Char)
  | 0, _ => none
  | _ + 1, [] => none
  | _ + 1, '"' :: rest => some ([], rest)
  | fuel + 1, '\r' :: rest =>
    match rest with
    | '\n' :: rest => (cooked? a fuel rest).map fun (value, rest) => ('\n' :: value, rest)
    | _ => none
  | fuel + 1, '\\' :: rest =>
    match escape? a rest with
    | none => none
    | some (c, rest) => (cooked? a fuel rest).map fun (value, rest) => (c.toList ++ value, rest)
  | fuel + 1, c :: rest =>
    if (a = .bytes && 128 ≤ c.toNat) || (a = .nulFree && c.toNat = 0) then none
    else (cooked? a fuel rest).map fun (value, rest) => (c :: value, rest)

/-- Reads raw text up to a quote with the given hashes behind it. -/
def raw? (a : Alphabet) (hashes : List Char) : List Char → Option (List Char × List Char)
  | [] => none
  | c :: rest =>
    if c == '"' && hashes.isPrefixOf rest then some ([], rest.drop hashes.length)
    else if c == '\r' && rest.head? != some '\n' then none
    else if (a = .bytes && 128 ≤ c.toNat) || (a = .nulFree && c.toNat = 0) then none
    else (raw? a hashes rest).map fun (value, rest) => (c :: value, rest)

/-- Reads raw text from its hashes and opening quote on. At most 255 hashes are allowed. -/
def rawFromHashes? (a : Alphabet) (cs : List Char) : Option (List Char × List Char) :=
  let hashes := cs.takeWhile (· == '#')
  match cs.dropWhile (· == '#') with
  | '"' :: rest => if 255 < hashes.length then none else raw? a hashes rest
  | _ => none

/-- Reads a literal of several characters with what stands before its quote or hashes removed. -/
def quotedFrom? (a : Alphabet) (isRaw : Bool) (cs : List Char) :
    Option (List Char × List Char) :=
  if isRaw then rawFromHashes? a cs
  else
    match cs with
    | '"' :: rest => cooked? a (rest.length + 1) rest
    | _ => none

/-- The denoted text of a string literal and the characters after it, its suffix included in the
literal. -/
def string? (cs : List Char) : Option (List Char × List Char) :=
  let found :=
    match cs with
    | 'r' :: rest => quotedFrom? .text true rest
    | _ => quotedFrom? .text false cs
  found.map fun (value, rest) => (value, afterSuffix rest)

/-- The characters after a byte string or a string without NUL. -/
def afterOtherString? (cs : List Char) : Option (List Char) :=
  let found :=
    match cs with
    | 'b' :: 'r' :: rest => quotedFrom? .bytes true rest
    | 'b' :: rest => quotedFrom? .bytes false rest
    | 'c' :: 'r' :: rest => quotedFrom? .nulFree true rest
    | 'c' :: rest => quotedFrom? .nulFree false rest
    | _ => none
  found.map fun (_, rest) => afterSuffix rest

/-- The characters after a character or byte literal from behind its opening quote. -/
def afterChar? (a : Alphabet) (cs : List Char) : Option (List Char) :=
  let after :=
    match cs with
    | [] => none
    | '\\' :: rest =>
      match rest with
      | '\n' :: _ => none
      | '\r' :: _ => none
      | _ => (escape? a rest).map Prod.snd
    | c :: rest => if a = .bytes && 128 ≤ c.toNat then none else some rest
  match after with
  | some ('\'' :: rest) => some (afterSuffix rest)
  | _ => none

/-- Auxiliary to `afterFloatDigits?`: goes through the digits in front of an exponent. The flag says
whether the point has been met; the result tells also whether an exponent starts. -/
def beforeExponent? (dot : Bool) : List Char → Option (Bool × Bool × List Char)
  | '.' :: rest =>
    if dot then some (dot, false, '.' :: rest)
    else
      match rest with
      | '.' :: _ => none
      | c :: rest' => if isIdentStart c then none else beforeExponent? true (c :: rest')
      | [] => some (true, false, [])
  | c :: rest =>
    if c.isDigit || c == '_' then beforeExponent? dot rest
    else if c == 'e' || c == 'E' then some (dot, true, rest)
    else some (dot, false, c :: rest)
  | [] => some (dot, false, [])

/-- The characters after the digits of an exponent; `none` if they hold no digit. -/
def afterExponent? : List Char → Option (List Char)
  | cs =>
    let unsigned := cs.dropWhile (· == '_')
    let digits :=
      match unsigned with
      | '+' :: rest => rest
      | '-' :: rest => rest
      | _ => unsigned
    let body := digits.takeWhile fun c => c.isDigit || c == '_'
    if body.any Char.isDigit then some (digits.drop body.length) else none

/-- The characters after the digits, point and exponent of a floating literal. A letter `e` with no
exponent behind it belongs to the suffix, if there is a point. -/
def afterFloatDigits? (cs : List Char) : Option (List Char) :=
  match cs with
  | [] => none
  | c :: rest =>
    if !c.isDigit then none
    else
      match beforeExponent? false rest with
      | none => none
      | some (dot, false, after) => if dot then some after else none
      | some (dot, true, after) =>
        match afterExponent? after with
        | some after => some after
        | none => if dot then some (cs.drop (cs.length - after.length - 1)) else none

/-- Whether a number has to be refused because an identifier goes on behind it. -/
def goesOn : List Char → Bool
  | [] => false
  | c :: _ => isIdentContinue c

/-- The characters after the suffix of a number; a number ends where an identifier would end. -/
def afterNumber? (cs : List Char) : Option (List Char) :=
  let after := afterSuffix cs
  if goesOn after then none else some after

/-- Auxiliary to `afterDigits?`. -/
def digitsFrom? (base : Nat) (empty : Bool) : List Char → Option (List Char)
  | [] => if empty then none else some []
  | '_' :: rest => if empty && base == 10 then none else digitsFrom? base empty rest
  | c :: rest =>
    match hexValue? c with
    | some d =>
      if c.isDigit then (if base ≤ d then none else digitsFrom? base false rest)
      else if base ≤ d then (if empty then none else some (c :: rest))
      else digitsFrom? base false rest
    | none => if empty then none else some (c :: rest)

/-- The characters after the digits of an integer literal. -/
def afterDigits? : List Char → Option (List Char)
  | '0' :: 'x' :: rest => digitsFrom? 16 true rest
  | '0' :: 'o' :: rest => digitsFrom? 8 true rest
  | '0' :: 'b' :: rest => digitsFrom? 2 true rest
  | cs => digitsFrom? 10 true cs

/-- The characters after a literal. -/
def afterLiteral? (cs : List Char) : Option (List Char) :=
  match string? cs with
  | some (_, rest) => some rest
  | none =>
    match afterOtherString? cs with
    | some rest => some rest
    | none =>
      let char :=
        match cs with
        | 'b' :: '\'' :: rest => afterChar? .bytes rest
        | '\'' :: rest => afterChar? .text rest
        | _ => none
      match char with
      | some rest => some rest
      | none =>
        match (afterFloatDigits? cs).bind afterNumber? with
        | some rest => some rest
        | none => (afterDigits? cs).bind afterNumber?

/-- The text that a string literal denotes; `none` for other literals. -/
def stringValue? (text : String) : Option String :=
  (string? text.toList).map fun (value, _) => String.ofList value

/-- The value of the integer literal without suffix that the text is, in any base. -/
def plainInteger? (text : String) : Option Nat :=
  let value (base : Nat) (cs : List Char) : Option Nat :=
    match digitsFrom? base true cs with
    | some [] => some ((cs.filterMap hexValue?).foldl (fun n d => n * base + d) 0)
    | _ => none
  match text.toList with
  | '0' :: 'x' :: rest => value 16 rest
  | '0' :: 'o' :: rest => value 8 rest
  | '0' :: 'b' :: rest => value 2 rest
  | cs => value 10 cs

end ExprGate.Token
