import ExprGate.Declaration.Basic

/-!
# Catalogs of declarations

A catalog holds the types that are known to one run, in the order in which they were added, and the
imports of each module. The first declaration of a name stays; later ones are refused. An index
tells where a name stands in the list of types.
-/

set_option autoImplicit false

namespace ExprGate.Declaration

/-- The imports of a module. -/
structure Scope where
  /-- The path that each imported name stands for, as it is written. -/
  aliases : List (String × String) := []
  /-- The paths below which every name is imported. -/
  globs : List String := []
deriving DecidableEq, Repr

/-- Lets a name stand for a path, and no longer for what it stood for before. -/
def Scope.addAlias (s : Scope) (name path : String) : Scope :=
  { s with aliases := s.aliases.filter (·.1 != name) ++ [(name, path)] }

/-- Imports every name below a path. -/
def Scope.addGlob (s : Scope) (path : String) : Scope :=
  { s with globs := s.globs ++ [path] }

/-- The path that a name stands for. -/
def Scope.target? (s : Scope) (name : String) : Option String :=
  s.aliases.lookup name

/-- Whether nothing is imported. -/
def Scope.isEmpty (s : Scope) : Bool :=
  s.aliases.isEmpty && s.globs.isEmpty

/-- The declarations known to one run. -/
structure Catalog where
  types : List TypeDecl := []
  /-- The position of each name in `types`. -/
  index : List (String × Nat) := []
  /-- The imports of the modules that have some. -/
  scopes : List (String × Scope) := []
deriving DecidableEq, Repr

namespace Catalog

/-- The positions of the names of some types. -/
def positions (ts : List TypeDecl) : List (String × Nat) :=
  ts.mapIdx fun i t => (t.name, i)

/-- Whether a name is declared. -/
def declares (c : Catalog) (name : String) : Bool :=
  (c.index.lookup name).isSome

/-- The type of a name. -/
def get? (c : Catalog) (name : String) : Option TypeDecl := do
  c.types[← c.index.lookup name]?

/-- Adds a type unless its name is taken. -/
def push (c : Catalog) (t : TypeDecl) : Catalog :=
  if c.declares t.name then c
  else { c with types := c.types ++ [t], index := c.index ++ [(t.name, c.types.length)] }

/-- Keeps the types for which a condition holds. -/
def retain (c : Catalog) (keep : TypeDecl → Bool) : Catalog :=
  let types := c.types.filter keep
  { c with types, index := positions types }

/-- Records the imports of a module in place of those recorded before. -/
def setScope (c : Catalog) (module : String) (s : Scope) : Catalog :=
  { c with scopes := (module, s) :: c.scopes.filter (·.1 != module) }

/-- Changes the type of a name; its name stays. -/
def modify (c : Catalog) (name : String) (f : TypeDecl → TypeDecl) : Catalog :=
  match c.index.lookup name with
  | none => c
  | some i => { c with types := c.types.modify i fun t => { f t with name := t.name } }

/-- Adds a field to the type of a name. -/
def addMember (c : Catalog) (name member : String) : Catalog :=
  c.modify name fun t => { t with members := t.members ++ [member] }

/-- Adds a method to the type of a name. -/
def addMethod (c : Catalog) (name : String) (m : Method) : Catalog :=
  c.modify name fun t => { t with methods := t.methods ++ [m] }

/-- A catalog of some types, of which the first of each name counts. -/
def ofTypes (ts : List TypeDecl) : Catalog :=
  ts.foldl push {}

/-- The names of the types in order. -/
def names (c : Catalog) : List String :=
  c.types.map TypeDecl.name

/-- The number of types. -/
def size (c : Catalog) : Nat :=
  c.types.length

end Catalog

end ExprGate.Declaration
