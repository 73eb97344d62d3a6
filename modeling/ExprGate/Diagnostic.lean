/-!
# Diagnostics

What goes wrong with one declaration is reported and does not stop the rest. A report names the
element that it is about: a type, a method, a marker or a file. Reports are kept in the order in
which they are made.
-/

set_option autoImplicit false

namespace ExprGate

/-- How serious a report is. -/
inductive Level where
  | note
  | warning
  | error
deriving DecidableEq, Repr

/-- The name of a level. -/
def Level.name : Level → String
  | .note => "note"
  | .warning => "warning"
  | .error => "error"

/-- A report about an element. -/
structure Diagnostic where
  level : Level
  element : String
  message : String
deriving DecidableEq, Repr

namespace Diagnostic

/-- A report as one text. -/
def text (d : Diagnostic) : String :=
  d.level.name ++ ": `" ++ d.element ++ "`: " ++ d.message

/-- Whether a report is an error. -/
def isError (d : Diagnostic) : Bool :=
  d.level == .error

/-- The errors among some reports. -/
def errors (ds : List Diagnostic) : List Diagnostic :=
  ds.filter isError

/-- The number of errors among some reports. -/
def errorCount (ds : List Diagnostic) : Nat :=
  (errors ds).length

/-- What a build script prints of some reports, so that the build shows them: a text for each that
is more than a note. -/
def buildWarnings (ds : List Diagnostic) : List String :=
  (ds.filter (·.level != .note)).map fun d => "cargo:warning=" ++ d.text

end Diagnostic

end ExprGate
