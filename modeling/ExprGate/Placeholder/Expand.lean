import ExprGate.Placeholder.Basic

/-!
# Expansion of templates

Every placeholder of a template is replaced by the value bound to its name, or by its fallback.
Values and fallbacks are templates again. A name that comes up while it is still being replaced
is an error that carries the names in progress; a name with neither value nor fallback is left
as it is written, or is an error in the strict mode.

Names are bound by a finite list, so expansion ends: a value is entered only for a bound name
that is not in progress (`length_unused_lt`), and a fallback is shorter than the text that it
stands in.
-/

set_option autoImplicit false

namespace ExprGate.Placeholder

/-- Values by name; the first value of a name counts. -/
structure Bindings where
  /-- The bound names with their values. -/
  entries : List (List Char × List Char)
deriving DecidableEq, Repr

/-- The value bound to a name. -/
def Bindings.value? (b : Bindings) (name : List Char) : Option (List Char) :=
  b.entries.lookup name

/-- Bindings given as texts. -/
def Bindings.ofList (entries : List (String × String)) : Bindings :=
  ⟨entries.map fun (name, value) => (name.toList, value.toList)⟩

/-- The bound names, one for each binding, that are not in progress. -/
def Bindings.unused (b : Bindings) (inProgress : List (List Char)) : List (List Char) :=
  (b.entries.map Prod.fst).filter fun name => !inProgress.contains name

/-- What expansion does with a placeholder that has neither value nor fallback. -/
inductive Mode where
  /-- The placeholder stays as it is written. -/
  | lenient
  /-- The placeholder is an error. -/
  | strict
deriving DecidableEq, Repr

/-- Why a template cannot be expanded. -/
inductive Cause where
  /-- The last name of the chain is met while it is being replaced; the names before it are the
  ones in progress, outermost first. -/
  | cyclic (chain : List (List Char))
  /-- The name has no value and its placeholder no fallback. -/
  | undefined (name : List Char)
deriving DecidableEq, Repr

/-- A name with a value is one of the bound names. -/
theorem mem_of_value? {b : Bindings} {name value : List Char} (h : b.value? name = some value) :
    name ∈ b.entries.map Prod.fst := by
  obtain ⟨entries⟩ := b
  induction entries with
  | nil => simp [Bindings.value?] at h
  | cons e es ih =>
    obtain ⟨k, v⟩ := e
    by_cases hk : name = k
    · simp [hk]
    · have : (name == k) = false := by simpa using hk
      simp only [Bindings.value?, List.lookup_cons, this] at h
      simp only [List.map_cons, List.mem_cons]
      exact Or.inr (ih h)

/-- A stricter filter that drops an element which the other keeps leaves fewer elements. -/
theorem length_filter_lt_of_imp {α : Type} {p q : α → Bool} {xs : List α} {x : α}
    (hpq : ∀ y, p y = true → q y = true) (hx : x ∈ xs) (hq : q x = true) (hp : p x = false) :
    (xs.filter p).length < (xs.filter q).length := by
  induction xs with
  | nil => simp at hx
  | cons y ys ih =>
    rcases List.mem_cons.1 hx with rfl | hmem
    · have hle : ys.countP p ≤ ys.countP q := List.countP_mono_left fun y _ => hpq y
      simp [hq, hp, ← List.countP_eq_length_filter]
      omega
    · have hlt := ih hmem
      by_cases hy : p y = true
      · simp [hy, hpq y hy]
        omega
      · by_cases hy' : q y = true
        · simp [hy, hy']
          omega
        · simp [hy, hy']
          omega

/-- Entering the value of a name that is not in progress uses up one of the bound names. -/
theorem length_unused_lt {b : Bindings} {inProgress : List (List Char)} {name value : List Char}
    (hv : b.value? name = some value) (hn : name ∉ inProgress) :
    (b.unused (inProgress ++ [name])).length < (b.unused inProgress).length := by
  apply length_filter_lt_of_imp (x := name) _ (mem_of_value? hv) <;>
    simp_all

/-- Putting more names in progress leaves no more bound names unused. -/
theorem length_unused_le (b : Bindings) (inProgress : List (List Char)) (name : List Char) :
    (b.unused (inProgress ++ [name])).length ≤ (b.unused inProgress).length := by
  simp only [Bindings.unused, ← List.countP_eq_length_filter]
  exact List.countP_mono_left fun k _ hk => by simp_all

/-- Replaces the placeholders among the pieces of a template. -/
def expandPieces (b : Bindings) (mode : Mode) (inProgress : List (List Char)) :
    List Piece → Except Cause (List Char)
  | [] => .ok []
  | .literal text :: ps => do
    let after ← expandPieces b mode inProgress ps
    .ok (text ++ after)
  | .placeholder p :: ps =>
    if hn : p.name ∈ inProgress then
      .error (.cyclic (inProgress ++ [p.name]))
    else
      match hv : b.value? p.name, hf : p.fallback? with
      | some value, _ => do
        have := length_unused_lt hv hn
        let replaced ← expandPieces b mode (inProgress ++ [p.name]) (pieces value)
        let after ← expandPieces b mode inProgress ps
        .ok (replaced ++ after)
      | none, some fallback => do
        have := length_unused_le b inProgress p.name
        have := weight_pieces_le fallback
        have := length_fallback_lt hf
        let replaced ← expandPieces b mode (inProgress ++ [p.name]) (pieces fallback)
        let after ← expandPieces b mode inProgress ps
        .ok (replaced ++ after)
      | none, none =>
        match mode with
        | .strict => .error (.undefined p.name)
        | .lenient => do
          let after ← expandPieces b mode inProgress ps
          .ok (p.text ++ after)
termination_by ps => ((b.unused inProgress).length, weight ps)
decreasing_by
  · exact .right _ (weight_lt_cons _ _)
  · exact .left _ _ (by assumption)
  · exact .right _ (weight_lt_cons _ _)
  · rw [Prod.lex_def]
    simp only [weight_cons, Piece.weight]
    omega
  · exact .right _ (weight_lt_cons _ _)
  · exact .right _ (weight_lt_cons _ _)

/-- Replaces the placeholders of a text; the names in progress may not come up. -/
def expand (b : Bindings) (mode : Mode) (inProgress : List (List Char)) (text : List Char) :
    Except Cause (List Char) :=
  expandPieces b mode inProgress (pieces text)

/-- Why a template could not be expanded, with the template. -/
structure Failure where
  /-- The template as a whole. -/
  template : String
  /-- What went wrong. -/
  cause : Cause
deriving DecidableEq, Repr

/-- The wording of a failure. -/
def Failure.message (f : Failure) : String :=
  match f.cause with
  | .cyclic chain =>
    "cyclic placeholder substitution in `" ++ f.template ++ "`: " ++
      "->".intercalate (chain.map String.ofList)
  | .undefined name =>
    "placeholder `$\x7b" ++ String.ofList name ++ "\x7d` in `" ++ f.template ++ "` has no value"

/-- Expands a template. -/
def replace (b : Bindings) (mode : Mode) (template : String) : Except Failure String :=
  match expand b mode [] template.toList with
  | .ok text => .ok (String.ofList text)
  | .error cause => .error ⟨template, cause⟩

/-- Whether an expansion gives the template back, so that nothing had to be built. -/
def isVerbatim (template text : String) : Bool :=
  template == text

end ExprGate.Placeholder
