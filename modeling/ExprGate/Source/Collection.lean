import ExprGate.Declaration.Resolution
import ExprGate.Diagnostic
import ExprGate.Source.Annotation
import ExprGate.Source.Imports
import ExprGate.Text.Search

/-!
# Collecting declarations

The files of a crate are read one after another. Types are declared at once; the methods of `impl`
blocks wait until all files are read, because their types may come later. Declarations that belong
to tests only are left out: those in place at once, and those in files of test modules at the end.

Reading a file stops at the first container of usages that is not well formed; what the file has
declared up to there stays.
-/

set_option autoImplicit false

namespace ExprGate.Source

open Declaration Grammar

/-- Methods that wait for their type. -/
structure Block where
  /-- The module in which they are written. -/
  module : String
  /-- The path of their type as it is written. -/
  selfType : String
  methods : List Method
  /-- Whether one of them carries a container of usages. -/
  marked : Bool
deriving DecidableEq, Repr

/-- What has been read of a crate. -/
structure Collection where
  /-- The name of the crate. -/
  crate : String
  catalog : Catalog := {}
  blocks : List Block := []
  /-- The test modules that are in files of their own. -/
  testModules : List String := []
  /-- The names of types that were declared again. -/
  duplicates : List String := []
deriving DecidableEq, Repr

/-- The result of reading something: what is collected; as an error, if reading stopped. -/
abbrev Reading := Except Collection

namespace Collection

/-- Goes on with a value, or stops if there is none. -/
def orStop {α : Type} (c : Collection) : Option α → Reading α
  | some a => .ok a
  | none => .error c

/-- Declares a type in a module. -/
def addType (c : Collection) (module name : String) (kind : Kind) (attributes : List Meta)
    (fields : List String) : Reading Collection := do
  let annotations ← c.orStop (annotations? attributes)
  let t : TypeDecl := { name := module ++ "::" ++ name, kind, annotations, members := fields }
  if c.catalog.declares t.name then
    return { c with duplicates := c.duplicates ++ [t.name] }
  else
    return { c with catalog := c.catalog.push t }

/-- The methods of a block that do not belong to tests only, if their annotations can be read. -/
def methods? (module : String) (ofTrait : Option Grammar.Path) (fs : List Function) :
    Option (List Method) :=
  fs.mapM fun f => do
    return { name := f.name, module, annotations := ← annotations? f.attributes,
             inheritedFrom := ofTrait.map Grammar.Path.text }

/-- Keeps the methods of a block. Blocks for other types than those with a path hold none that
count. -/
def addBlock (c : Collection) (module : String) (ofTrait : Option Grammar.Path)
    (selfType : TypeForm) (functions : List Function) : Reading Collection := do
  match selfType with
  | .path p => do
    let fs := functions.filter (!isTestOnly ·.attributes)
    let methods ← c.orStop (methods? module ofTrait fs)
    if methods.isEmpty then
      return c
    else
      let marked := fs.any fun f => f.attributes.any fun m => isMark m.name
      return { c with blocks := c.blocks ++ [⟨module, p.text, methods, marked⟩] }
  | _ => return c

/-- Records the imports of a module if it has some. -/
def setScope (c : Collection) (module : String) (s : Scope) : Collection :=
  if s.isEmpty then c else { c with catalog := c.catalog.setScope module s }

/-- Records a test module that is in a file of its own. -/
def addTestModule (c : Collection) (module : String) : Collection :=
  { c with testModules := c.testModules ++ [module] }

mutual

/-- Reads a declaration in a module, in which some imports are known already. -/
def readItem (module : String) (c : Collection) (s : Scope) : Item → Reading (Collection × Scope)
  | .type kind attributes name fields => do
    if isTestOnly attributes then
      return (c, s)
    else
      return (← c.addType module name kind attributes fields, s)
  | .implementation attributes ofTrait selfType functions => do
    if isTestOnly attributes then
      return (c, s)
    else
      return (← c.addBlock module ofTrait selfType functions, s)
  | .module attributes name (some items) => do
    if isTestOnly attributes then
      return (c, s)
    else
      return (← readItems (module ++ "::" ++ name) c {} items, s)
  | .module attributes name none =>
    if isTestOnly attributes then .ok (c.addTestModule (module ++ "::" ++ name), s)
    else .ok (c, s)
  | .imports _ absolute tree => .ok (c, addTree absolute [] s tree)
  | .other => .ok (c, s)

/-- Reads the declarations of a module, and records its imports at the end. -/
def readItems (module : String) (c : Collection) (s : Scope) : List Item → Reading Collection
  | [] => .ok (c.setScope module s)
  | item :: rest => do
    let (c, s) ← readItem module c s item
    readItems module c s rest

end

/-- Reads a source text as a module of the crate. -/
def readModule (c : Collection) (segments : List String) (source : String) : Reading Collection := do
  let items ← c.orStop (parseFile? source)
  c.readItems (Text.joinSegments (c.crate :: segments)) {} items

/-! ## The end -/

/-- Whether a module is one of the given modules or inside one. -/
def isWithin (modules : List String) (module : String) : Bool :=
  modules.any fun m => module == m || Text.startsWith module (m ++ "::")

/-- Whether a module belongs to tests only. -/
def inTests (c : Collection) (module : String) : Bool :=
  isWithin c.testModules module

/-- The report of a type that was declared again. -/
def duplicateReport (name : String) : Diagnostic :=
  ⟨.warning, name, "type declared more than once, the first declaration is used"⟩

/-- The report of methods whose type is unknown. -/
def strayReport (b : Block) : Diagnostic :=
  ⟨.warning, b.module ++ "::" ++ b.selfType,
    "impl of a type outside the scanned sources, its marked methods are ignored"⟩

/-- The name of the type of a block. -/
def typeOf? (catalog : Catalog) (b : Block) : Option String :=
  catalog.resolveName? b.module b.selfType

/-- Attaches the methods of a block to its type. -/
def attach (catalog : Catalog) (b : Block) : Catalog :=
  match typeOf? catalog b with
  | some name => b.methods.foldl (fun catalog m => catalog.addMethod name m) catalog
  | none => catalog

/-- The report of a block, if its type is unknown and it carries usages. -/
def strayReports (catalog : Catalog) (b : Block) : List Diagnostic :=
  if b.marked && (typeOf? catalog b).isNone then [strayReport b] else []

/-- The declarations of the crate and the reports about them. -/
def finish (c : Collection) : Catalog × List Diagnostic :=
  let catalog := c.catalog.retain (!c.inTests ·.module)
  let blocks := c.blocks.filter (!c.inTests ·.module)
  let duplicates := c.duplicates.filter fun name => !c.inTests (Text.splitQualified name).1
  (blocks.foldl attach catalog,
    duplicates.map duplicateReport ++ blocks.flatMap (strayReports catalog))

end Collection

end ExprGate.Source
