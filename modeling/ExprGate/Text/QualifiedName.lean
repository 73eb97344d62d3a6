/-!
# Qualified names

A qualified name is written as segments joined by `::`. The last separator divides it into the
package in front and the simple name behind; a name without separator has the empty package.
Texts are scanned from left to right as characters, and `:::` counts as the separator that
starts as late as possible when the last one is asked for.
-/

set_option autoImplicit false

namespace ExprGate.Text

/-- What stands between the segments of a qualified name. -/
def separator : String := "::"

/-- The text before and after the last `::`, if there is one. -/
def splitLastSeparator? : List Char → Option (List Char × List Char)
  | [] => none
  | c :: rest =>
    match splitLastSeparator? rest with
    | some (before, after) => some (c :: before, after)
    | none =>
      match c, rest with
      | ':', ':' :: after => some ([], after)
      | _, _ => none

/-- The text before and after the first `::`, if there is one. -/
def splitFirstSeparator? : List Char → Option (List Char × List Char)
  | [] => none
  | ':' :: ':' :: after => some ([], after)
  | c :: rest => (splitFirstSeparator? rest).map fun (before, after) => (c :: before, after)

/-- Divides a qualified name into its package and its simple name. -/
def splitQualified (name : String) : String × String :=
  match splitLastSeparator? name.toList with
  | some (package, simple) => (String.ofList package, String.ofList simple)
  | none => ("", name)

/-- The part of a qualified name behind its last separator. -/
def simpleName (name : String) : String :=
  (splitQualified name).2

/-- Auxiliary to `segments`: the segments of a text, the pending one given in reverse. -/
def segmentsFrom (pending : List Char) : List Char → List (List Char)
  | [] => [pending.reverse]
  | ':' :: ':' :: rest => pending.reverse :: segmentsFrom [] rest
  | c :: rest => segmentsFrom (c :: pending) rest

/-- The texts between the separators; the text without separator is its only segment. -/
def segments (name : String) : List String :=
  (segmentsFrom [] name.toList).map String.ofList

/-- Segments joined by the separator. -/
def joinSegments (segs : List String) : String :=
  separator.intercalate segs

/-- A name below a package; the empty package adds nothing. -/
def qualify (package name : String) : String :=
  if package.isEmpty then name else package ++ separator ++ name

end ExprGate.Text
