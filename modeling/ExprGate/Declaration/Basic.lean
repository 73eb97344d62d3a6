import ExprGate.Declaration.Annotation

/-!
# Declared types

What is known of a declared type: its qualified name, its kind, and what is attached to it. Methods
keep the module of the block that they stand in, because the names of their annotations are
understood there.
-/

set_option autoImplicit false

namespace ExprGate.Declaration

/-- The kinds of declared types. -/
inductive Kind where
  | struct
  | enum
  | union
deriving DecidableEq, Repr

/-- A method of a type. -/
structure Method where
  name : String
  /-- The module in which the method is written. -/
  module : String
  annotations : List Annotation := []
  /-- The trait that the method belongs to, if it does. -/
  inheritedFrom : Option String := none
deriving DecidableEq, Repr

/-- A declared type. -/
structure TypeDecl where
  /-- The qualified name. -/
  name : String
  kind : Kind := .struct
  annotations : List Annotation := []
  /-- The fields that have names. -/
  members : List String := []
  methods : List Method := []
deriving DecidableEq, Repr

/-- The module in which a type is declared. -/
def TypeDecl.module (t : TypeDecl) : String :=
  (Text.splitQualified t.name).1

/-- The name of a type without its module. -/
def TypeDecl.simpleName (t : TypeDecl) : String :=
  Text.simpleName t.name

/-- Whether a type has a field of a certain name. -/
def TypeDecl.hasMember (t : TypeDecl) (name : String) : Bool :=
  t.members.contains name

end ExprGate.Declaration
