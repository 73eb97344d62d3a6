/-!
# Sorted lists of texts

Lists that are kept in ascending order of texts, by code points: sets of texts, and values under
texts as keys. A text occurs once; a value under a key that is taken replaces the one before.
-/

set_option autoImplicit false

namespace ExprGate.Text

/-- Adds a text to a sorted list. -/
def insertText (s : String) : List String → List String
  | [] => [s]
  | t :: rest =>
    if s < t then s :: t :: rest
    else if s = t then t :: rest
    else t :: insertText s rest

/-- Texts in ascending order without repetition. -/
def sortedTexts (ss : List String) : List String :=
  ss.foldr insertText []

/-- Puts a value under a key in a list sorted by keys. -/
def insertEntry {α : Type} (key : String) (value : α) : List (String × α) → List (String × α)
  | [] => [(key, value)]
  | (k, v) :: rest =>
    if key < k then (key, value) :: (k, v) :: rest
    else if key = k then (key, value) :: rest
    else (k, v) :: insertEntry key value rest

/-- Texts joined, each with the end of a line behind it. -/
def lines (ls : List String) : String :=
  String.join (ls.map (· ++ "\n"))

end ExprGate.Text
