import ExprGate.Artifact.Build

/-!
# Generating artifacts

For every marker and every element that carries it one artifact is generated, in this order. An
artifact whose name is taken is reported and left out, and so is one whose type has the place of an
earlier one: its package and its type name.
-/

set_option autoImplicit false

namespace ExprGate.Artifact

open Declaration Marker

/-- What has been generated so far. -/
structure Generated where
  artifacts : List Artifact := []
  /-- The names that are taken. -/
  names : List String := []
  /-- The packages and type names that are taken. -/
  places : List (String × String) := []
  reports : List Diagnostic := []

namespace Generated

/-- Adds a report. -/
def report (g : Generated) (d : Diagnostic) : Generated :=
  { g with reports := g.reports ++ [d] }

/-- The note about a method that is part of a trait. -/
def traitNote (e : Element) (a : Artifact) : List Diagnostic :=
  match e.methodName?, e.trait? with
  | some method, some trait =>
    [⟨.note, e.name, "implemented from `" ++ trait ++ "`; call sites find `" ++ a.qualifiedName ++
      "` by method name `" ++ method ++ "` only"⟩]
  | _, _ => []

/-- Adds an artifact unless its name or its place is taken. -/
def add (g : Generated) (e : Element) (a : Artifact) : Generated :=
  if g.names.contains a.qualifiedName then
    g.report ⟨.error, e.name, "evaluator `" ++ a.qualifiedName ++ "` is generated twice"⟩
  else
    let g := { g with names := g.names ++ [a.qualifiedName] }
    if g.places.contains (a.package, a.ident) then
      g.report ⟨.error, e.name, "evaluator `" ++ a.qualifiedName ++ "` maps to `" ++ a.ident ++
        "` in `" ++ a.package ++ "`, which is already taken"⟩
    else
      { g with
        artifacts := g.artifacts ++ [a]
        places := g.places ++ [(a.package, a.ident)]
        reports := g.reports ++ traitNote e a }

/-- Adds the artifact of an element, if it can be built. -/
def step (runtime : String) (m : Marker) (g : Generated) (e : Element) : Generated :=
  match build runtime m e with
  | .ok a => g.add e a
  | .error err => g.report ⟨.error, e.name, err.message⟩

/-- Adds the artifacts of all elements of a marker. -/
def addMarker (runtime : String) (c : Catalog) (g : Generated) (m : Marker) : Generated :=
  let es := elements c m.name
  es.foldl (step runtime m) { g with reports := g.reports ++ es.flatMap (·.repetition m.name) }

end Generated

/-- The artifacts of some markers, and the reports about them. -/
def generate (c : Catalog) (markers : List Marker) (runtime : String) :
    List Artifact × List Diagnostic :=
  let g := markers.foldl (Generated.addMarker runtime c) {}
  (g.artifacts, g.reports)

end ExprGate.Artifact
