/-!
# Paths

A path is a text whose parts are joined by `/`. What a path leads to depends on its components
only: repeated and trailing slashes do not count, nor does a `.` behind the first component. Two
paths are the same if their components are; the spelling is kept for messages and answers.
-/

set_option autoImplicit false

namespace ExprGate.Files

/-- A component of a path. -/
inductive Component where
  /-- The slash at the beginning of an absolute path. -/
  | root
  /-- A `.` at the beginning. -/
  | current
  | parent
  | name (s : String)
deriving DecidableEq, Repr

/-- A path as it is spelled. -/
structure Path where
  text : String
deriving DecidableEq, Repr

/-- Auxiliary to `splitSlashes`: the pending part is given in reverse. -/
def splitSlashesFrom (pending : List Char) : List Char → List (List Char)
  | [] => [pending.reverse]
  | '/' :: rest => pending.reverse :: splitSlashesFrom [] rest
  | c :: rest => splitSlashesFrom (c :: pending) rest

/-- The parts of a text between slashes. -/
def splitSlashes (text : String) : List String :=
  (splitSlashesFrom [] text.toList).map String.ofList

/-- What a part of a path means anywhere but at the beginning. -/
def Component.ofPart? (part : String) : Option Component :=
  if part == "" || part == "." then none
  else if part == ".." then some .parent
  else some (.name part)

namespace Path

/-- Whether a path starts at the root. -/
def isAbsolute (p : Path) : Bool :=
  p.text.toList.head? == some '/'

/-- The components of a path. -/
def components (p : Path) : List Component :=
  let parts := splitSlashes p.text
  let first : List Component :=
    if p.isAbsolute then [.root]
    else if parts.head? == some "." then [.current]
    else []
  first ++ parts.filterMap Component.ofPart?

/-- Whether two paths have the same components. -/
def same (p q : Path) : Bool :=
  p.components == q.components

/-- A path below another one; an absolute path stands for itself. -/
def join (base : Path) (p : Path) : Path :=
  if p.isAbsolute || base.text.isEmpty then p
  else if base.text.toList.getLast? == some '/' then ⟨base.text ++ p.text⟩
  else ⟨base.text ++ "/" ++ p.text⟩

/-- The components of what a path is in; the root and the empty path are in nothing. -/
def parent? (p : Path) : Option (List Component) :=
  match p.components.getLast? with
  | none => none
  | some .root => none
  | some _ => some p.components.dropLast

/-- Whether the last components of a path are those of another one. -/
def endsWith (p tail : Path) : Bool :=
  tail.components.isSuffixOf p.components

end Path

/-- The components behind the first ones, if those are as given. -/
def below? : List Component → List Component → Option (List Component)
  | [], cs => some cs
  | _ :: _, [] => none
  | r :: rs, c :: cs => if r = c then below? rs cs else none

end ExprGate.Files
