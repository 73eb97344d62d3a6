/-!
# Searching text

Questions about parts of a text, asked of its characters.
-/

set_option autoImplicit false

namespace ExprGate.Text

/-- Whether a part occurs somewhere in a text. -/
def occursIn (part : List Char) : List Char → Bool
  | [] => part.isEmpty
  | c :: rest => part.isPrefixOf (c :: rest) || occursIn part rest

/-- Whether a text starts with another. -/
def startsWith (text start : String) : Bool :=
  start.toList.isPrefixOf text.toList

/-- Whether a text ends with another. -/
def endsWith (text tail : String) : Bool :=
  tail.toList.isSuffixOf text.toList

/-- Whether a part occurs somewhere in a text. -/
def contains (text part : String) : Bool :=
  occursIn part.toList text.toList

end ExprGate.Text
