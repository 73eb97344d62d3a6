import ExprGate.Declaration.Annotation
import ExprGate.Naming

/-!
# Descriptors of markers

A marker is configured by an annotation whose members are settings: texts, and lists of paths. What
is not set has its default. One further setting names the runtime library and plays no part here.
-/

set_option autoImplicit false

namespace ExprGate.Marker

open Declaration

/-- The name of the annotation that makes a type a marker. -/
def metaName : String := "meta_jel"

/-- The settings whose values are texts. -/
inductive TextSetting where
  | expressionMember
  | contextVariable
  | contextType
  | returnType
  | classPattern
  | methodPattern
  | customMethods
deriving DecidableEq, Repr

/-- The settings whose values are lists of paths. -/
inductive PathSetting where
  | evaluatorMarkers
  | imports
deriving DecidableEq, Repr

/-- The settings of a marker. -/
inductive Setting where
  | text (s : TextSetting)
  | paths (s : PathSetting)
  /-- The path of the runtime library. -/
  | runtime
deriving DecidableEq, Repr

/-- All settings whose values are texts. -/
def TextSetting.all : List TextSetting :=
  [.expressionMember, .contextVariable, .contextType, .returnType, .classPattern, .methodPattern,
   .customMethods]

/-- The name of a setting in an annotation. -/
def TextSetting.key : TextSetting → String
  | .expressionMember => "expression_element_name"
  | .contextVariable => "context_variable_name"
  | .contextType => "context_type"
  | .returnType => "return_type"
  | .classPattern => "evaluator_class_name_pattern"
  | .methodPattern => "evaluator_method_name_pattern"
  | .customMethods => "custom_methods"

/-- The name of a setting in an annotation. -/
def PathSetting.key : PathSetting → String
  | .evaluatorMarkers => "evaluator_markers"
  | .imports => "imports"

/-- The name of the setting that names the runtime library. It stands among the usages of markers
too, where it is not one of them. -/
def runtimeKey : String := "crate"

/-- The name of a setting in an annotation. -/
def Setting.key : Setting → String
  | .text s => s.key
  | .paths s => s.key
  | .runtime => runtimeKey

/-- All settings. -/
def Setting.all : List Setting :=
  TextSetting.all.map .text ++ [.paths .evaluatorMarkers, .paths .imports, .runtime]

/-- The setting of a name. -/
def Setting.ofKey? (key : String) : Option Setting :=
  Setting.all.find? (·.key == key)

/-- The configuration of a marker. -/
structure Descriptor where
  /-- The member of a usage that holds the expression. -/
  expressionMember : String := "value"
  /-- The name of the context in expressions. -/
  contextVariable : String := "context"
  /-- The type of the context; blank if open. -/
  contextType : String := ""
  /-- The type of results; blank if open. -/
  returnType : String := ""
  /-- The patterns of evaluator names. -/
  naming : Naming := .standard
  /-- Items that evaluators get in addition. -/
  customMethods : String := ""
  /-- The attributes that evaluators get. -/
  evaluatorMarkers : List String := []
  /-- What evaluators import in addition. -/
  imports : List String := []
deriving DecidableEq, Repr

namespace Descriptor

/-- The value of a text setting. -/
def text (d : Descriptor) : TextSetting → String
  | .expressionMember => d.expressionMember
  | .contextVariable => d.contextVariable
  | .contextType => d.contextType
  | .returnType => d.returnType
  | .classPattern => d.naming.classPattern
  | .methodPattern => d.naming.methodPattern
  | .customMethods => d.customMethods

/-- Changes the value of a text setting. -/
def setText (d : Descriptor) (s : TextSetting) (value : String) : Descriptor :=
  match s with
  | .expressionMember => { d with expressionMember := value }
  | .contextVariable => { d with contextVariable := value }
  | .contextType => { d with contextType := value }
  | .returnType => { d with returnType := value }
  | .classPattern => { d with naming := { d.naming with classPattern := value } }
  | .methodPattern => { d with naming := { d.naming with methodPattern := value } }
  | .customMethods => { d with customMethods := value }

/-- The value of a setting of paths. -/
def paths (d : Descriptor) : PathSetting → List String
  | .evaluatorMarkers => d.evaluatorMarkers
  | .imports => d.imports

/-- Changes the value of a setting of paths. -/
def setPaths (d : Descriptor) (s : PathSetting) (value : List String) : Descriptor :=
  match s with
  | .evaluatorMarkers => { d with evaluatorMarkers := value }
  | .imports => { d with imports := value }

end Descriptor

/-- Why an annotation describes no marker. -/
inductive SettingError where
  /-- A text setting has another value. -/
  | notText (s : TextSetting)
  /-- A setting of paths has a value that is no list of them. -/
  | notPaths (s : PathSetting)
deriving DecidableEq, Repr

/-- The wording of an error in a setting. -/
def SettingError.message : SettingError → String
  | .notText s => "`" ++ metaName ++ "` member `" ++ s.key ++ "` must be a string literal"
  | .notPaths s => "`" ++ metaName ++ "` member `" ++ s.key ++ "` must be a list of paths"

/-- The paths that a value gives: a list, or a single path as a text. -/
def pathsOf? : Value → Option (List String)
  | .list items => some items
  | .text s => some [s]
  | _ => none

/-- Sets one member of an annotation. -/
def Descriptor.set (d : Descriptor) (s : Setting) (value : Value) : Except SettingError Descriptor :=
  match s with
  | .text s =>
    match value with
    | .text t => .ok (d.setText s t)
    | _ => .error (.notText s)
  | .paths s =>
    match pathsOf? value with
    | some ps => .ok (d.setPaths s ps)
    | none => .error (.notPaths s)
  | .runtime => .ok d

/-- Sets the members of an annotation one after another, up to the first error. Beside the result
come the names of the members so far that are no settings. -/
def Descriptor.setAll (d : Descriptor) :
    List (String × Value) → Except SettingError Descriptor × List String
  | [] => (.ok d, [])
  | (key, value) :: rest =>
    match Setting.ofKey? key with
    | none =>
      let (result, unknown) := d.setAll rest
      (result, key :: unknown)
    | some s =>
      match d.set s value with
      | .error e => (.error e, [])
      | .ok d => d.setAll rest

/-- The configuration that an annotation gives, and the names of its members that are no settings. -/
def Descriptor.ofAnnotation (a : Annotation) : Except SettingError Descriptor × List String :=
  Descriptor.setAll {} a.values

end ExprGate.Marker
