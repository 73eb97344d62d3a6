import ExprGate.Proofs.Placeholder.Verbatim
import ExprGate.Text.Blank

/-!
# What expansion makes of the values

Expansion looks at which names are bound, and at the values only where placeholders begin in them.
So two bindings of the same names whose values are verbatim lead it the same way
(`expandPieces_alike`): it comes to the same error, or to two texts of which both are blank or none
is, if no value is blank.
-/

set_option autoImplicit false

namespace ExprGate.Placeholder

/-- A value without placeholders and not of blanks only. -/
structure IsPlainValue (value : List Char) : Prop where
  verbatim : IsVerbatim value
  notBlank : value.all Text.isBlank = false

/-- Bindings that give the same names plain values. -/
structure Bindings.Interchangeable (b b' : Bindings) : Prop where
  /-- The same names are bound. -/
  value?_eq_none : ∀ name, b.value? name = none ↔ b'.value? name = none
  plain : ∀ name value, b.value? name = some value → IsPlainValue value
  plain' : ∀ name value, b'.value? name = some value → IsPlainValue value

/-- Outcomes that differ in the text at most: the same error, or texts of which both are blank or
none is. -/
inductive Alike {ε : Type} : Except ε (List Char) → Except ε (List Char) → Prop where
  | error (e : ε) : Alike (.error e) (.error e)
  | ok {text text' : List Char} (h : text.all Text.isBlank = text'.all Text.isBlank) :
    Alike (.ok text) (.ok text')

/-- An outcome is like itself. -/
theorem Alike.refl {ε : Type} (x : Except ε (List Char)) : Alike x x := by
  cases x with
  | error e => exact .error e
  | ok text => exact .ok rfl

/-- Outcomes with the same text in front stay alike. -/
theorem Alike.map_append {ε : Type} {x x' : Except ε (List Char)} (text : List Char)
    (h : Alike x x') : Alike (x.map (text ++ ·)) (x'.map (text ++ ·)) := by
  cases h with
  | error e => exact .error e
  | ok h =>
    refine .ok ?_
    rw [List.all_append, List.all_append, h]

/-- Outcomes that are put together part by part are alike if the parts are. -/
theorem Alike.append {ε : Type} {x x' y y' : Except ε (List Char)} (hx : Alike x x')
    (hy : Alike y y') :
    Alike (do let a ← x; let c ← y; .ok (a ++ c)) (do let a ← x'; let c ← y'; .ok (a ++ c)) := by
  cases hx with
  | error e => exact .error e
  | ok hblank =>
    cases hy with
    | error e => exact .error e
    | ok hblank' =>
      refine .ok ?_
      rw [List.all_append, List.all_append, hblank, hblank']

/-- Interchangeable bindings give a name a value or none. -/
theorem Bindings.Interchangeable.cases {b b' : Bindings} (h : b.Interchangeable b')
    (name : List Char) :
    b.value? name = none ∧ b'.value? name = none ∨
      ∃ value value', b.value? name = some value ∧ b'.value? name = some value' ∧
        IsPlainValue value ∧ IsPlainValue value' := by
  cases hvalue : b.value? name with
  | none => exact .inl ⟨rfl, (h.value?_eq_none name).1 hvalue⟩
  | some value =>
    cases hvalue' : b'.value? name with
    | none =>
      rw [(h.value?_eq_none name).2 hvalue'] at hvalue
      cases hvalue
    | some value' =>
      exact .inr ⟨value, value', rfl, rfl, h.plain name value hvalue, h.plain' name value' hvalue'⟩

/-- Under interchangeable bindings the pieces of a template have outcomes that are alike. -/
theorem expandPieces_alike {b b' : Bindings} (h : b.Interchangeable b') (mode : Mode)
    (inProgress : List (List Char)) (ps : List Piece) :
    Alike (expandPieces b mode inProgress ps) (expandPieces b' mode inProgress ps) := by
  fun_induction expandPieces b mode inProgress ps with
  | case1 inProgress =>
    rw [expandPieces]
    exact .refl _
  | case2 inProgress literal ps ih =>
    rw [expandPieces]
    exact (Alike.refl (.ok literal)).append ih
  | case3 inProgress p ps hname =>
    rw [expandPieces_placeholder, if_pos hname]
    exact .refl _
  | case4 inProgress p ps hname value hvalue _ _ ihafter =>
    obtain ⟨hnone, -⟩ | ⟨value₁, value', hsome, hvalue', hplain, hplain'⟩ := h.cases p.name
    · rw [hvalue] at hnone
      cases hnone
    · obtain rfl : value = value₁ := Option.some.inj (hvalue.symm.trans hsome)
      rw [expandPieces_placeholder, if_neg hname, hvalue', Option.some_or]
      refine Alike.append ?_ ihafter
      -- the values may differ, but neither is looked into
      have hreplaced : expandPieces b mode (inProgress ++ [p.name]) (pieces value) = .ok value :=
        expand_of_verbatim b mode _ hplain.verbatim
      have hreplaced' := expand_of_verbatim b' mode (inProgress ++ [p.name]) hplain'.verbatim
      rw [hreplaced, hreplaced']
      exact .ok (hplain.notBlank.trans hplain'.notBlank.symm)
  | case5 inProgress p ps hname fallback hvalue hfallback _ _ _ ihfallback ihafter =>
    rw [expandPieces_placeholder, if_neg hname, (h.value?_eq_none p.name).1 hvalue, hfallback,
      Option.none_or]
    exact ihfallback.append ihafter
  | case6 inProgress p ps hname hvalue hfallback hmode =>
    obtain rfl := hmode
    rw [expandPieces_placeholder, if_neg hname, (h.value?_eq_none p.name).1 hvalue, hfallback,
      Option.none_or]
    exact .refl _
  | case7 inProgress p ps hname hvalue hfallback hmode ih =>
    obtain rfl := hmode
    rw [expandPieces_placeholder, if_neg hname, (h.value?_eq_none p.name).1 hvalue, hfallback,
      Option.none_or]
    exact ih.map_append p.text

/-- Under interchangeable bindings, a text expands to the same error or to texts of which both are
blank or none is. -/
theorem expand_alike {b b' : Bindings} (h : b.Interchangeable b') (mode : Mode)
    (inProgress : List (List Char)) (text : List Char) :
    Alike (expand b mode inProgress text) (expand b' mode inProgress text) :=
  expandPieces_alike h mode inProgress (pieces text)

end ExprGate.Placeholder
