import ExprGate.Declaration.Catalog

/-!
# What a path means

A path is written in a module and stands for a declared type. A leading `::` makes it absolute; a
leading `crate`, `self` or `super` anchors it at the module; such paths mean one name only. Any
other path is looked for below the module, among the imports of the module, as it stands, and at
last by its simple name, if only one type is called so.
-/

set_option autoImplicit false

namespace ExprGate.Declaration

open Text

/-- Goes up one module for each `super` in front, but not out of the crate. The base has its last
segment in front. -/
def climb : List String → List String → List String × List String
  | base, "super" :: rest =>
    climb (match base with
      | _ :: b :: bs => b :: bs
      | base => base) rest
  | base, rest => (base, rest)

/-- The name that an anchored path stands for in a module. -/
def anchored? (module path : String) : Option String :=
  let base := segments module
  let extend (base rest : List String) : String :=
    let (base, rest) := climb base.reverse rest
    joinSegments (base.reverse ++ rest)
  match segments path with
  | "crate" :: rest => some (extend (base.take 1) rest)
  | "self" :: rest => some (extend base rest)
  | "super" :: rest => some (extend base ("super" :: rest))
  | _ => none

/-- The first segment of a path and what is behind its separator. -/
def splitFirst (path : String) : String × Option String :=
  match splitFirstSeparator? path.toList with
  | some (first, rest) => (String.ofList first, some (String.ofList rest))
  | none => (path, none)

/-- The text behind a leading separator. -/
def absolute? (path : String) : Option String :=
  match path.toList with
  | ':' :: ':' :: rest => some (String.ofList rest)
  | _ => none

/-- The path that the imported first segment of a path leads to. -/
def Scope.follow? (s : Scope) (path : String) : Option String :=
  let (first, rest) := splitFirst path
  (s.target? first).map fun target =>
    match rest with
    | some rest => qualify target rest
    | none => target

namespace Catalog

/-- A name, if it is declared. -/
def declared? (c : Catalog) (name : String) : Option String :=
  if c.declares name then some name else none

/-- What the target of an import stands for in a module: an anchored path, a path below the module,
or a path as it stands, whichever is declared first. -/
def resolveImport? (c : Catalog) (module target : String) : Option String :=
  ((anchored? module target).toList ++ [qualify module target, target]).find? c.declares

/-- What a path stands for by the imports of a module. -/
def resolveImported? (c : Catalog) (module path : String) : Option String :=
  match c.scopes.lookup module with
  | none => none
  | some s =>
    ((s.follow? path).toList ++ s.globs.map (qualify · path)).findSome?
      (c.resolveImport? module)

/-- The only declared name with the same simple name as a path. -/
def uniqueNamesake? (c : Catalog) (path : String) : Option String :=
  match c.types.filter (·.simpleName == simpleName path) with
  | [only] => some only.name
  | _ => none

/-- The name that a path written in a module stands for. -/
def resolveName? (c : Catalog) (module path : String) : Option String :=
  match absolute? path with
  | some name => c.declared? name
  | none =>
    match anchored? module path with
    | some name => c.declared? name
    | none =>
      (c.declared? (qualify module path)).or <|
        (c.resolveImported? module path).or <|
          (c.declared? path).or (c.uniqueNamesake? path)

/-- The type that a path written in a module stands for. -/
def resolve? (c : Catalog) (module path : String) : Option TypeDecl :=
  (c.resolveName? module path).bind c.get?

end Catalog

end ExprGate.Declaration
