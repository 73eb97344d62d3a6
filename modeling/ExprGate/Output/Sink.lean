import ExprGate.Files.Path

/-!
# Where files are written

A sink takes a file at a relative path and answers with the path under which it can be included, or
with the reason why it cannot be written. It may be any state machine. `Memory` is a sink that keeps
everything in memory.
-/

set_option autoImplicit false

namespace ExprGate.Output

open Files

/-- A place for files, whose state is a `σ`. An error is the reason in words. -/
structure Sink (σ : Type) where
  write : Path → String → σ → Except String Path × σ

/-- Files in memory: paths that are all different, and their contents. -/
structure Memory where
  files : List (Path × String) := []
deriving DecidableEq, Repr

namespace Memory

/-- Auxiliary to `put`. -/
def putIn (p : Path) (contents : String) : List (Path × String) → List (Path × String)
  | [] => [(p, contents)]
  | (q, old) :: rest =>
    if q.same p then (q, contents) :: rest else (q, old) :: putIn p contents rest

/-- Stores contents at a path. A path that is taken keeps its spelling. -/
def put (m : Memory) (p : Path) (contents : String) : Memory :=
  ⟨putIn p contents m.files⟩

/-- The contents at a path. -/
def get? (m : Memory) (p : Path) : Option String :=
  (m.files.find? fun (q, _) => q.same p).map Prod.snd

/-- The number of files. -/
def size (m : Memory) : Nat :=
  m.files.length

/-- The sink that stores files in memory. -/
def sink : Sink Memory where
  write p contents m := (.ok p, m.put p contents)

/-- A sink in memory that takes no file whose path ends as one of the given paths. -/
def sinkExcept (refused : List Path) : Sink Memory where
  write p contents m :=
    if refused.any p.endsWith then (.error "read-only", m) else (.ok p, m.put p contents)

end Memory

end ExprGate.Output
