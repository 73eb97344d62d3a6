import ExprGate.Placeholder.Expand

/-!
# Expansion under any lookup

Values need not come from a list. A lookup is any rule that gives names values, also one that has a
value for every name. Its values can lead to ever new names, so expansion may go on for ever: what
comes of it is a text or an error, or nothing if it does not end (`Outcome`).
-/

set_option autoImplicit false

namespace ExprGate.Placeholder

/-- What comes of an expansion: a text or an error, and nothing if it does not end. -/
abbrev Outcome := Option (Except Cause (List Char))

/-- What comes of two texts, one behind the other. The second counts if the first can be expanded. -/
def Outcome.append : Outcome → Outcome → Outcome
  | none, _ => none
  | some (.error cause), _ => some (.error cause)
  | some (.ok text), second => second.map (·.map (text ++ ·))

instance : Append Outcome :=
  ⟨Outcome.append⟩

/-- Values by name, of any number of names. -/
structure Lookup where
  /-- The value of a name. -/
  value? : List Char → Option (List Char)

/-- Bindings as a lookup. -/
def Bindings.lookup (b : Bindings) : Lookup :=
  ⟨b.value?⟩

namespace Lookup

/-- The text that is expanded in place of a placeholder: the value of its name, or its fallback. -/
def text? (l : Lookup) (p : Placeholder) : Option (List Char) :=
  (l.value? p.name).or p.fallback?

/-- Replaces the placeholders among the pieces of a template. -/
def expandPieces (l : Lookup) (mode : Mode) (inProgress : List (List Char)) :
    List Piece → Outcome
  | [] => some (.ok [])
  | .literal text :: ps => do
    let after ← l |>.expandPieces mode inProgress ps
    some (after.map (text ++ ·))
  | .placeholder p :: ps =>
    if inProgress.contains p.name then
      some (.error (.cyclic (inProgress ++ [p.name])))
    else
      match l.text? p, mode with
      | some text, _ => do
        match ← l |>.expandPieces mode (inProgress ++ [p.name]) (pieces text) with
        | .error cause => some (.error cause)
        | .ok replaced =>
          let after ← l |>.expandPieces mode inProgress ps
          some (after.map (replaced ++ ·))
      | none, .strict => some (.error (.undefined p.name))
      | none, .lenient => do
        let after ← l |>.expandPieces mode inProgress ps
        some (after.map (p.text ++ ·))
partial_fixpoint

/-- Replaces the placeholders of a text; the names in progress may not come up. -/
def expand (l : Lookup) (mode : Mode) (inProgress : List (List Char)) (text : List Char) :
    Outcome :=
  l.expandPieces mode inProgress (pieces text)

/-- What takes the place of a placeholder. -/
def replacement (l : Lookup) (mode : Mode) (inProgress : List (List Char)) (p : Placeholder) :
    Outcome :=
  if inProgress.contains p.name then
    some (.error (.cyclic (inProgress ++ [p.name])))
  else
    match l.text? p, mode with
    | some text, _ => l.expand mode (inProgress ++ [p.name]) text
    | none, .strict => some (.error (.undefined p.name))
    | none, .lenient => some (.ok p.text)

/-- Expands a template. -/
def replace (l : Lookup) (mode : Mode) (template : String) : Option (Except Failure String) :=
  (l.expand mode [] template.toList).map fun
    | .ok text => .ok (String.ofList text)
    | .error cause => .error ⟨template, cause⟩

end Lookup

end ExprGate.Placeholder
