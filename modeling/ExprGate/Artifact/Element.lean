import ExprGate.Marker.Discovery

/-!
# Elements

An element is a declaration that carries a marker: a type, or a method of a type. The first usage
of the marker counts; further usages are reported.
-/

set_option autoImplicit false

namespace ExprGate.Artifact

open Declaration Marker

/-- A declaration that carries a marker. -/
structure Element where
  /-- The qualified name of the type. -/
  className : String
  /-- The method of the type, if it is one. -/
  method : Option Method
  /-- The first usage of the marker. -/
  usage : Annotation
  /-- How often the marker is used. -/
  usages : Nat
deriving DecidableEq, Repr

namespace Element

/-- The name of the method, if the element is one. -/
def methodName? (e : Element) : Option String :=
  e.method.map Method.name

/-- The trait from which the method is, if it is from one. -/
def trait? (e : Element) : Option String :=
  e.method.bind Method.inheritedFrom

/-- The name of a declaration in reports. -/
def name (e : Element) : String :=
  match e.method with
  | none => e.className
  | some m =>
    match m.inheritedFrom with
    | some trait => "<" ++ e.className ++ " as " ++ trait ++ ">::" ++ m.name
    | none => e.className ++ "::" ++ m.name

/-- The report of a marker that is used more than once. -/
def repetition (e : Element) (marker : String) : List Diagnostic :=
  if e.usages ≤ 1 then []
  else
    [⟨.error, e.name, "`" ++ marker ++ "` is used " ++ toString e.usages ++
      " times; only the first usage generates an evaluator"⟩]

end Element

/-- The element of a type or method, if it carries a marker. -/
def elementAt? (c : Catalog) (marker : String) (t : TypeDecl) (s : Site) : Option Element :=
  match s.annotations.filter fun a => c.resolveName? s.module a.name == some marker with
  | [] => none
  | usage :: more => some ⟨t.name, s.method, usage, more.length + 1⟩

/-- The declarations that carry a marker, in the order of types, each type before its methods. -/
def elements (c : Catalog) (marker : String) : List Element :=
  c.types.flatMap fun t => (sites t).filterMap (elementAt? c marker t)

end ExprGate.Artifact
