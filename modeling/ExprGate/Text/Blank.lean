/-!
# Blanks

White space as Unicode defines it (the property `White_Space`), and text with the blanks at
its two ends removed. Settings are read through `trim`: the name of a type, a path to import, an
attribute, the path of the runtime library.
-/

set_option autoImplicit false

namespace ExprGate.Text

/-- The characters with the Unicode property `White_Space`. -/
def isBlank (c : Char) : Bool :=
  let n := c.toNat
  (9 ≤ n && n ≤ 13) || n == 0x20 || n == 0x85 || n == 0xA0 || n == 0x1680 ||
    (0x2000 ≤ n && n ≤ 0x200A) || n == 0x2028 || n == 0x2029 || n == 0x202F ||
    n == 0x205F || n == 0x3000

/-- Removes the blanks in front. -/
def dropBlanks (cs : List Char) : List Char :=
  cs.dropWhile isBlank

/-- Removes the blanks at both ends. -/
def trimChars (cs : List Char) : List Char :=
  (dropBlanks (dropBlanks cs).reverse).reverse

/-- A text without the blanks at its two ends. -/
def trim (s : String) : String :=
  String.ofList (trimChars s.toList)

/-- A text is blank when it holds blanks only. -/
def isBlankText (s : String) : Bool :=
  s.toList.all isBlank

end ExprGate.Text
