import ExprGate.Declaration.Catalog
import ExprGate.Grammar.Rules

/-!
# Imports in source text

A tree of imports is flattened: each leaf with a name becomes an alias for its full path, each `*` a
path below which everything is imported. A leaf `self` means the path in front of it. The segments in
front of where flattening is are kept in one list, which grows on the way down and shrinks on the way
back.
-/

set_option autoImplicit false

namespace ExprGate.Source

open Declaration Grammar

/-- The path of some segments. -/
def importPath (absolute : Bool) (segments : List String) : String :=
  let path := Text.joinSegments segments
  if absolute then Text.separator ++ path else path

/-- What one leaf adds to the imports below the segments in front of it. -/
def addLeaf (absolute : Bool) (above : List String) (s : Scope) (name shown : String) : Scope :=
  if name == "self" then s.addAlias shown (importPath absolute above)
  else s.addAlias shown (importPath absolute (above ++ [name]))

/-- How far flattening has come: the segments in front of where it is, and the imports so far. -/
structure Flattening where
  above : List String
  scope : Scope
deriving DecidableEq, Repr

namespace Flattening

/-- Goes below a segment. -/
def enter (f : Flattening) (segment : String) : Flattening :=
  { f with above := f.above ++ [segment] }

/-- Comes back from below the last segment. -/
def leave (f : Flattening) : Flattening :=
  { f with above := f.above.dropLast }

/-- Takes in a leaf. -/
def add (f : Flattening) (absolute : Bool) (name shown : String) : Flattening :=
  { f with scope := addLeaf absolute f.above f.scope name shown }

/-- Takes in a leaf `*`. -/
def addGlob (f : Flattening) (absolute : Bool) : Flattening :=
  { f with scope := f.scope.addGlob (importPath absolute f.above) }

end Flattening

mutual

/-- Takes in the leaves of a tree. -/
def flattenTree (absolute : Bool) (f : Flattening) : UseTree → Flattening
  | .path first tree => (flattenTree absolute (f.enter first) tree).leave
  | .name name =>
    if name == "self" then
      match f.above.getLast? with
      | some last => f.add absolute name last
      | none => f
    else f.add absolute name name
  | .rename name shown => if shown == "_" then f else f.add absolute name shown
  | .glob => f.addGlob absolute
  | .group trees => flattenTrees absolute f trees

/-- Takes in the leaves of several trees from left to right. -/
def flattenTrees (absolute : Bool) (f : Flattening) : List UseTree → Flattening
  | [] => f
  | tree :: rest => flattenTrees absolute (flattenTree absolute f tree) rest

end

/-- Adds the imports of a tree below some segments. -/
def addTree (absolute : Bool) (above : List String) (s : Scope) (tree : UseTree) : Scope :=
  (flattenTree absolute ⟨above, s⟩ tree).scope

end ExprGate.Source
