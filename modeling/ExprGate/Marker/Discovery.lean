import ExprGate.Declaration.Resolution
import ExprGate.Diagnostic
import ExprGate.Marker.Descriptor
import ExprGate.Text.Sorted

/-!
# Markers in use

A type is a marker if it carries the annotation `meta_jel`. A declaration uses a marker if one of
its annotations, or of those of its methods, names the marker, or names a type that carries the
marker in turn. Each marker in use is examined once, in the order of names; one that cannot be used
is reported and left out.
-/

set_option autoImplicit false

namespace ExprGate

/-- A marker that can be used. -/
structure Marker where
  /-- The qualified name of its type. -/
  name : String
  descriptor : Marker.Descriptor
deriving DecidableEq, Repr

namespace Marker

open Declaration

/-- Whether an annotation makes its type a marker. -/
def isMeta (a : Annotation) : Bool :=
  a.simpleName == metaName

/-- Whether a type is a marker. -/
def isMarker (t : TypeDecl) : Bool :=
  t.annotations.any isMeta

/-- Where annotations stand: on a type, or on one of its methods. -/
structure Site where
  /-- The method, if it is one. -/
  method : Option Method
  /-- The module in which the names of the annotations are understood. -/
  module : String
  annotations : List Annotation
deriving DecidableEq, Repr

/-- The places of a type that have annotations, the type itself first. -/
def sites (t : TypeDecl) : List Site :=
  ⟨none, t.module, t.annotations⟩ :: t.methods.map fun m => ⟨some m, m.module, m.annotations⟩

/-- The markers among a type and the types of its annotations. -/
def markersAt (c : Catalog) (t : TypeDecl) : List String :=
  (t :: t.annotations.filterMap fun a => c.resolve? t.module a.name).filter isMarker
    |>.map TypeDecl.name

/-- The markers that a type or its methods use, in the order of names. -/
def markersOf (c : Catalog) (t : TypeDecl) : List String :=
  Text.sortedTexts <| (sites t).flatMap fun s =>
    (s.annotations.filterMap fun a => c.resolve? s.module a.name).flatMap (markersAt c)

/-- All markers in use, in the order of names. -/
def used (c : Catalog) : List String :=
  Text.sortedTexts (c.types.flatMap (markersOf c))

/-- Why a marker cannot be used. -/
inductive MarkerError where
  /-- It is no structure. -/
  | notStruct
  /-- Its configuration is unusable. -/
  | badSetting (source : SettingError)
  /-- It lacks the field that holds the expression. -/
  | noExpressionMember (member : String)
deriving DecidableEq, Repr

/-- The wording of an error about a marker. -/
def MarkerError.message : MarkerError → String
  | .notStruct => "only structs can be markers, `" ++ metaName ++ "` accepts nothing else"
  | .badSetting source => source.message
  | .noExpressionMember member => "marker has no member `" ++ member ++ "` to hold the expression"

/-- The report of a member that is no setting. -/
def unknownMember (marker key : String) : Diagnostic :=
  ⟨.warning, marker, "unknown `" ++ metaName ++ "` member `" ++ key ++ "` ignored"⟩

/-- The configuration of a type as a marker by one of its annotations, and the names of the members
that are no settings. -/
def configure (t : TypeDecl) (a : Annotation) : Except MarkerError Descriptor × List String :=
  if t.kind != .struct then (.error .notStruct, [])
  else
    match Descriptor.ofAnnotation a with
    | (.error e, unknown) => (.error (.badSetting e), unknown)
    | (.ok d, unknown) =>
      if t.hasMember d.expressionMember then (.ok d, unknown)
      else (.error (.noExpressionMember d.expressionMember), unknown)

/-- Examines a marker in use. -/
def examine (c : Catalog) (name : String) : Option Marker × List Diagnostic :=
  match c.get? name with
  | none => (none, [])
  | some t =>
    match t.annotations.find? isMeta with
    | none => (none, [])
    | some a =>
      let (result, unknown) := configure t a
      let warnings := unknown.map (unknownMember name)
      match result with
      | .ok d => (some ⟨name, d⟩, warnings)
      | .error e => (none, warnings ++ [⟨.error, name, e.message⟩])

/-- The markers in use that can be used, and the reports about all in use. -/
def discover (c : Catalog) : List Marker × List Diagnostic :=
  let results := (used c).map (examine c)
  (results.filterMap Prod.fst, results.flatMap Prod.snd)

end Marker

end ExprGate
