import ExprGate.Expansion.QuotedPath
import ExprGate.Source.Annotation

/-!
# Expanding usages

A container of usages leaves its declaration as it is. Behind the declaration of a type it adds a
check that every named type is a marker. An entry `crate` is no usage: it names the runtime library
for the check, and the last one counts.
-/

set_option autoImplicit false

namespace ExprGate.Expansion

open Grammar Token

/-- Why a container of usages cannot be expanded. -/
inductive UsageError where
  /-- It does not follow the grammar. -/
  | malformed
  /-- The value for the runtime library is no string. -/
  | runtimeNotText
  /-- The entry for the runtime library has no value. -/
  | runtimeWithoutValue
deriving DecidableEq, Repr

/-- The wording of an error in a container; an error of grammar has none of its own. -/
def UsageError.message? : UsageError → Option String
  | .malformed => none
  | .runtimeNotText => some "expected a string literal path"
  | .runtimeWithoutValue => some "expected `crate = \"::path\"`"

/-- What is checked behind a declaration. -/
structure Check where
  /-- The tokens of the path to the runtime library. -/
  runtime : List Tree := defaultRuntime
  /-- The paths of the markers. -/
  markers : List Grammar.Path := []

/-- The path to the runtime library that an entry gives. -/
def runtimeOf (m : Meta) : Except UsageError (List Tree) :=
  match m with
  | .value _ e =>
    match e.form with
    | .literal (.string text) =>
      match quotedPath? e text with
      | some (_, tokens) => .ok tokens
      | none => .error .malformed
    | _ => .error .runtimeNotText
  | _ => .error .runtimeWithoutValue

/-- Adds an entry of a container to the check. -/
def Check.add (c : Check) (m : Meta) : Except UsageError Check :=
  if Source.isRuntimeEntry m then
    (runtimeOf m).map fun runtime => { c with runtime }
  else
    .ok { c with markers := c.markers ++ [m.name] }

/-- The check that the arguments of a container ask for. -/
def Check.ofArguments (args : List Tree) : Except UsageError Check :=
  match parse metaList args with
  | none => .error .malformed
  | some entries => entries.foldlM Check.add {}

/-- The tokens of the check of one marker. -/
def markerCheck (p : Grammar.Path) : List Tree :=
  .ident "assert_marker" :: operator "::" ++ operator "<" ++ p.tokens ++ operator ">" ++
    .group .paren [] :: operator ";"

/-- The tokens of a check. -/
def Check.tokens (c : Check) : List Tree :=
  let bound := .ident "M" :: operator ":" ++ c.runtime ++ operator "::" ++ [.ident "Marker"]
  let function :=
    [.ident "fn", .ident "assert_marker"] ++ operator "<" ++ bound ++ operator ">" ++
      [.group .paren [], .group .brace []]
  [.ident "const", .ident "_"] ++ operator ":" ++ [.ident "fn", .group .paren []] ++
    operator "=" ++ operator "||" ++
    .group .brace (function ++ c.markers.flatMap markerCheck) :: operator ";"

/-- Whether tokens declare a type. -/
def declaresType (item : List Tree) : Bool :=
  (parse typeDeclaration item).isSome

/-- The expansion of a container with some arguments in front of a declaration. -/
def expandUsages (args item : List Tree) : Except UsageError (List Tree) :=
  (Check.ofArguments args).map fun check =>
    if declaresType item then item ++ check.tokens else item

end ExprGate.Expansion
