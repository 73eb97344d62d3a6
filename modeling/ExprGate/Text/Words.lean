import ExprGate.Text.Case
import ExprGate.Text.Mark

/-!
# Words of a name

Names are divided into words where their case or the kind of their characters changes: before a
capital that follows a small letter, before the last of several capitals if a small letter comes
next, and between letters and digits. Underscores, hyphens and spaces divide words and vanish.
`pascalCase` and `snakeCase` put the words together again. Case is asked of units of text, so that
marks stay with the letter that they belong to.
-/

set_option autoImplicit false

namespace ExprGate.Text

/-- Whether a unit of text is in upper case. -/
def isUpperUnit (u : List Char) : Bool :=
  upper u != lower u && u == upper u

/-- Whether a unit of text is in lower case. -/
def isLowerUnit (u : List Char) : Bool :=
  upper u != lower u && u == lower u

/-- Whether a unit of text is a digit. -/
def isDigitUnit (u : List Char) : Bool :=
  u.all Char.isDigit

/-- Whether a unit of text stands between words and belongs to none. -/
def isWordGap (u : List Char) : Bool :=
  u == ['_'] || u == ['-'] || u == [' ']

/-- Whether a word ends between two units; `after` is what follows the second one. -/
def endsWord (first second : List Char) (after : Option (List Char)) : Bool :=
  (isLowerUnit first && isUpperUnit second) ||
  (isUpperUnit first && isUpperUnit second && after.any isLowerUnit) ||
  (isLowerUnit first && isDigitUnit second) ||
  (isUpperUnit first && isDigitUnit second) ||
  (isDigitUnit first && isLowerUnit second) ||
  (isDigitUnit first && isUpperUnit second)

/-- Auxiliary to `words`: divides units into words, of which some may be empty. -/
def divide : List (List Char) → List (List (List Char))
  | [] => [[]]
  | u :: rest =>
    if isWordGap u then [] :: divide rest
    else
      let ends := match rest with
        | [] => false
        | v :: after => endsWord u v after.head?
      match divide rest with
      | [] => [[u]]
      | word :: others => if ends then [u] :: word :: others else (u :: word) :: others

/-- The words of a name, each as its units. -/
def words (cs : List Char) : List (List (List Char)) :=
  (divide (clusters cs)).filter (!·.isEmpty)

/-- A word with its first unit in upper case and the others in lower case. -/
def capitalize : List (List Char) → List Char
  | [] => []
  | u :: rest => upper u ++ lower rest.flatten

/-- The words of a name, capitalised and put together. -/
def pascalCase (cs : List Char) : List Char :=
  (words cs).flatMap capitalize

/-- The words of a name in lower case, joined by underscores. -/
def snakeCase (cs : List Char) : List Char :=
  ['_'].intercalate ((words cs).map fun word => lower word.flatten)

/-- A name in small words joined by underscores. -/
def snakeName (s : String) : String :=
  String.ofList (snakeCase s.toList)

end ExprGate.Text
