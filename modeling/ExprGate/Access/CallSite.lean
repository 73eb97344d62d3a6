import ExprGate.Naming

/-!
# Call sites

A call site is the place of a guarded call: a type, or a method of a type. Two sites are the same
when their types and their methods are. The types are told apart by their full names, generic
arguments included, while the name that enters the evaluator name ends before the first `<`: so
different instances of one generic type are different sites that look for one evaluator. What stands
behind the `<` only tells types apart.
-/

set_option autoImplicit false

namespace ExprGate.Access

/-- A type, or a method of a type, at which calls are guarded. -/
structure CallSite where
  /-- The type, written out with its generic arguments. -/
  fullType : String
  /-- The method, if the site is one. -/
  method : Option String
deriving DecidableEq, Repr

/-- The name of the site's type without generic arguments: all before the first `<`. -/
def CallSite.typeName (site : CallSite) : String :=
  String.ofList (site.fullType.toList.takeWhile (· != '<'))

/-- The site as messages name it. -/
def CallSite.label (site : CallSite) : String :=
  match site.method with
  | some method => site.typeName ++ "::" ++ method
  | none => site.typeName

/-- The name of the evaluator that a site looks for. -/
def CallSite.evaluatorName (site : CallSite) (naming : Naming) : Except NamingError String :=
  naming.evaluatorName site.typeName site.method

end ExprGate.Access
