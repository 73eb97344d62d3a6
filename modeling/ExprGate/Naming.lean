import ExprGate.Placeholder.Expand
import ExprGate.Text.Blank

/-!
# Evaluator names

Generated evaluators and the call sites that look for them meet in one thing only: the name under
which an evaluator is registered. A `Naming` derives it from a template, one for types and one
for methods, in which `${class}` stands for the qualified name of the type and `${method}` for
the name of the method. Naming fails closed: a placeholder without value and a blank name are
errors.
-/

set_option autoImplicit false

namespace ExprGate

open Placeholder

/-- The two templates from which evaluator names are derived. -/
structure Naming where
  /-- The template for declarations on types. -/
  classPattern : String
  /-- The template for declarations on methods. -/
  methodPattern : String
deriving DecidableEq, Repr

namespace Naming

/-- The placeholder bound to the qualified name of the type. -/
def classPlaceholder : String := "class"

/-- The placeholder bound to the name of the method. -/
def methodPlaceholder : String := "method"

/-- The template for types where a marker configures none. -/
def defaultClassPattern : String := "$\x7bclass\x7d$SimpleJelEvaluator"

/-- The template for methods where a marker configures none. -/
def defaultMethodPattern : String := "$\x7bclass\x7d$$\x7bmethod\x7d$SimpleJelEvaluator"

end Naming

/-- The templates of a marker that configures none. -/
def Naming.standard : Naming :=
  ⟨Naming.defaultClassPattern, Naming.defaultMethodPattern⟩

/-- Why no evaluator name can be derived. -/
inductive NamingError where
  /-- The pattern cannot be expanded. -/
  | badPattern (pattern : String) (source : Failure)
  /-- The pattern expands to blanks. -/
  | emptyName (pattern : String)
deriving DecidableEq, Repr

/-- The wording of a naming error. -/
def NamingError.message : NamingError → String
  | .badPattern pattern source =>
    "invalid evaluator name pattern `" ++ pattern ++ "`: " ++ source.message
  | .emptyName pattern => "evaluator name pattern `" ++ pattern ++ "` resolved to an empty name"

/-- The values of the placeholders for a type and possibly one of its methods. -/
def Naming.bindings (className : String) (method : Option String) : Bindings :=
  .ofList <| (classPlaceholder, className) ::
    (method.map fun name => (methodPlaceholder, name)).toList

/-- The template that applies to a type or to one of its methods. -/
def Naming.patternFor (n : Naming) (method : Option String) : String :=
  if method.isSome then n.methodPattern else n.classPattern

/-- The name of the evaluator for a type or one of its methods. -/
def Naming.evaluatorName (n : Naming) (className : String) (method : Option String) :
    Except NamingError String :=
  let pattern := n.patternFor method
  match replace (bindings className method) .strict pattern with
  | .error failure => .error (.badPattern pattern failure)
  | .ok name => if Text.isBlankText name then .error (.emptyName pattern) else .ok name

/-- The type name on which patterns are tried out. -/
def Naming.sampleClass : String := "app::Type"

/-- The method name on which patterns are tried out. -/
def Naming.sampleMethod : String := "method"

/-- Tries both patterns on sample names and reports the first error. -/
def Naming.validate (n : Naming) : Except NamingError Unit := do
  let _ ← n.evaluatorName sampleClass none
  let _ ← n.evaluatorName sampleClass (some sampleMethod)

end ExprGate
