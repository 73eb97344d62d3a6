import ExprGate.Files.Path
import ExprGate.Output.Run
import ExprGate.Token.Lexer

/-!
# Settings of a build

Where sources are, where files go, and how generated code names the runtime library. The name of
the crate and the directory for files come from the environment where they are not set.
-/

set_option autoImplicit false

namespace ExprGate.Build

open Files Output

/-- What the environment of a build says. -/
structure Environment where
  /-- The name of the package. -/
  packageName : Option String := none
  /-- The directory for what the build makes. -/
  outDir : Option String := none
deriving DecidableEq, Repr

/-- The settings of a build. -/
structure Settings where
  /-- Directories that are scanned, each the root of a module tree. -/
  sourceDirs : List Path := []
  /-- Files that are read, each in the root of a module tree. -/
  sourceFiles : List Path := []
  crateName : Option String := none
  outDir : Option Path := none
  runtimeCrate : String := "jel"
  indexFile : String := "evaluators.rs"
  /-- Whether the build system is told to watch the sources. -/
  watchesSources : Bool := true
  /-- Whether the build system is told about warnings and errors. -/
  printsWarnings : Bool := true
deriving DecidableEq, Repr

/-- What is wrong with settings. -/
inductive SettingsError where
  /-- A setting that is neither set nor given by the environment. -/
  | missing (setting envName : String)
  | noSources
  | badCrateName (name : String)
deriving DecidableEq, Repr

/-- The wording of what is wrong with settings. -/
def SettingsError.message : SettingsError → String
  | .missing setting envName =>
    "`" ++ setting ++ "` is not configured and `" ++ envName ++ "` is not set"
  | .noSources => "no source directory or file configured"
  | .badCrateName name => "crate name `" ++ name ++ "` is not a valid identifier"

/-- A name that can be the name of a crate. -/
def checkCrateName (name : String) : Except SettingsError String :=
  if Token.isIdentifier name then .ok name else .error (.badCrateName name)

/-- The name of a package as an identifier. -/
def crateNameOfPackage (name : String) : String :=
  String.ofList (name.toList.map fun c => if c == '-' then '_' else c)

namespace Settings

/-- The name of the crate. -/
def resolvedCrateName (s : Settings) (env : Environment) : Except SettingsError String :=
  match s.crateName with
  | some name => checkCrateName name
  | none =>
    match env.packageName with
    | some name => checkCrateName (crateNameOfPackage name)
    | none => .error (.missing "crate_name" "CARGO_PKG_NAME")

/-- The directory for files. -/
def resolvedOutDir (s : Settings) (env : Environment) : Except SettingsError Path :=
  match s.outDir with
  | some dir => .ok dir
  | none =>
    match env.outDir with
    | some dir => .ok (Path.join ⟨dir⟩ ⟨"jel"⟩)
    | none => .error (.missing "out_dir" "OUT_DIR")

/-- What generation depends on. -/
def options (s : Settings) : Options :=
  ⟨runtimePath s.runtimeCrate, s.indexFile⟩

end Settings

end ExprGate.Build
