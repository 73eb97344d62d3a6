import ExprGate.Expansion.MarkerType
import ExprGate.Proofs.Token.Literal

/-!
# The descriptor that is written out

The expansion of a marker type ends with the constants of the contract, the descriptor last. Its
fields can be read off the tokens (`emittedText?_tokens`, `emittedPaths?_tokens`): what is read is
what the marker type has been given.
-/

set_option autoImplicit false

namespace ExprGate.Expansion

open Token Marker

/-! ## Fields between commas -/

/-- The parts of some trees between the commas. -/
def betweenCommas : List Tree → List (List Tree)
  | [] => [[]]
  | .punct ',' _ :: rest => [] :: betweenCommas rest
  | t :: rest =>
    match betweenCommas rest with
    | [] => [[t]]
    | part :: parts => (t :: part) :: parts

/-- A part in which there is no comma. -/
def IsCommaFree (part : List Tree) : Prop :=
  ∀ joint, Tree.punct ',' joint ∉ part

/-- A tree that is no comma is put in front of the first part. -/
theorem betweenCommas_cons {t : Tree} {rest part : List Tree} {parts : List (List Tree)}
    (ht : ∀ joint, t ≠ .punct ',' joint) (h : betweenCommas rest = part :: parts) :
    betweenCommas (t :: rest) = (t :: part) :: parts := by
  rw [betweenCommas.eq_def]
  split
  · rename_i heq
    cases heq
  · rename_i heq
    exact absurd (List.cons.inj heq).1 (ht _)
  · rename_i heq
    obtain ⟨rfl, rfl⟩ := List.cons.inj heq
    rw [h]

/-- A part without comma is the only one. -/
theorem betweenCommas_of_isCommaFree {part : List Tree} (h : IsCommaFree part) :
    betweenCommas part = [part] := by
  induction part with
  | nil => rfl
  | cons t rest ih =>
    refine betweenCommas_cons ?_ (ih fun joint hmem => h joint (List.mem_cons_of_mem t hmem))
    rintro joint rfl
    exact h joint List.mem_cons_self

/-- A part without comma stands in front of the parts behind its comma. -/
theorem betweenCommas_append {part rest : List Tree} {joint : Bool} (h : IsCommaFree part) :
    betweenCommas (part ++ .punct ',' joint :: rest) = part :: betweenCommas rest := by
  induction part with
  | nil => rfl
  | cons t part ih =>
    refine betweenCommas_cons ?_ (ih fun joint hmem => h joint (List.mem_cons_of_mem t hmem))
    rintro joint rfl
    exact h joint List.mem_cons_self

/-- Parts are found again after they have been put together with commas. -/
theorem betweenCommas_intercalate {parts : List (List Tree)} (hne : parts ≠ [])
    (h : ∀ part ∈ parts, IsCommaFree part) :
    betweenCommas ((operator ",").intercalate parts) = parts := by
  induction parts with
  | nil => exact absurd rfl hne
  | cons part parts ih =>
    cases parts with
    | nil =>
      rw [List.intercalate_singleton]
      exact betweenCommas_of_isCommaFree (h part List.mem_cons_self)
    | cons next parts =>
      rw [List.intercalate_cons_cons, List.append_assoc]
      have hrest := ih (List.cons_ne_nil next parts) fun p hp => h p (List.mem_cons_of_mem part hp)
      exact (betweenCommas_append (h part List.mem_cons_self)).trans (congrArg (part :: ·) hrest)

/-! ## Reading the descriptor -/

/-- The value of a field, if it has a certain name. -/
def valueOf? (name : String) : List Tree → Option (List Tree)
  | .ident key :: .punct ':' _ :: value => if key = name then some value else none
  | _ => none

/-- The value of the field of a certain name. -/
def fieldValue? (fields : List Tree) (name : String) : Option (List Tree) :=
  (betweenCommas fields).findSome? (valueOf? name)

/-- The text that a value is. -/
def textValue? : List Tree → Option String
  | [t] => t.denoted?
  | _ => none

/-- The texts that are the elements of a list. -/
def textValues? : List Tree → Option (List String)
  | [.punct '&' _, .group .bracket []] => some []
  | [.punct '&' _, .group .bracket items] => (betweenCommas items).mapM textValue?
  | _ => none

/-- The fields of the descriptor in what a marker type expands to. The tokens end with the constants
of the contract, and these with the descriptor and a semicolon. -/
def descriptorFields? (out : List Tree) : Option (List Tree) :=
  match out.getLast? with
  | some (.group .brace constants) =>
    match constants.dropLast.getLast? with
    | some (.group .brace fields) => some fields
    | _ => none
  | _ => none

/-- The value of a text setting in the descriptor that is written out. -/
def emittedText? (out : List Tree) (s : TextSetting) : Option String := do
  textValue? (← fieldValue? (← descriptorFields? out) s.key)

/-- The value of a setting of paths in the descriptor that is written out. -/
def emittedPaths? (out : List Tree) (s : PathSetting) : Option (List String) := do
  textValues? (← fieldValue? (← descriptorFields? out) s.key)

/-- The patterns in the descriptor that is written out. -/
def emittedNaming? (out : List Tree) : Option Naming := do
  return ⟨← emittedText? out .classPattern, ← emittedText? out .methodPattern⟩

/-! ## What is read -/

/-- The fields of a descriptor as they are written out. -/
def descriptorFields (d : Descriptor) : List (List Tree) :=
  TextSetting.all.map (fun s => fieldTokens s.key [stringLiteral (d.text s)]) ++
    [PathSetting.evaluatorMarkers, .imports].map fun s =>
      fieldTokens s.key (listTokens (d.paths s))

/-- What a marker type expands to ends with the constants of the contract. -/
theorem getLast?_tokens (m : MarkerType) :
    m.tokens.getLast? = some (.group .brace m.constants) := by
  unfold MarkerType.tokens MarkerType.implementation
  rw [← List.append_assoc]
  exact List.getLast?_concat

/-- The constants end with the fields of the descriptor, and a semicolon. -/
theorem getLast?_constants (m : MarkerType) :
    m.constants.dropLast.getLast? =
      some (.group .brace ((operator ",").intercalate (descriptorFields m.descriptor))) := by
  have hend : operator ";" = [.punct ';' false] := rfl
  unfold MarkerType.constants MarkerType.descriptorTokens
  rw [hend, List.dropLast_concat, ← List.append_assoc]
  exact List.getLast?_concat

/-- The fields of the descriptor are found in the tokens of a marker type. -/
theorem descriptorFields?_tokens (m : MarkerType) :
    descriptorFields? m.tokens =
      some ((operator ",").intercalate (descriptorFields m.descriptor)) := by
  unfold descriptorFields?
  rw [getLast?_tokens]
  dsimp only
  rw [getLast?_constants]

/-- In a field there is no comma outside of its list. -/
theorem isCommaFree_of_mem_descriptorFields {d : Descriptor} {part : List Tree}
    (h : part ∈ descriptorFields d) : IsCommaFree part := by
  intro joint hcomma
  obtain h | h := List.mem_append.1 h
  · obtain ⟨s, -, rfl⟩ := List.mem_map.1 h
    simp [fieldTokens, operator, stringLiteral] at hcomma
  · obtain ⟨s, -, rfl⟩ := List.mem_map.1 h
    simp [fieldTokens, listTokens, operator] at hcomma

/-- The fields that are written out are those of the descriptor. -/
theorem fieldValue?_text (d : Descriptor) (s : TextSetting) :
    fieldValue? ((operator ",").intercalate (descriptorFields d)) s.key =
      some [stringLiteral (d.text s)] := by
  unfold fieldValue?
  rw [betweenCommas_intercalate (by simp [descriptorFields])
    fun part => isCommaFree_of_mem_descriptorFields]
  cases s <;> rfl

/-- The field of a setting of paths has the list of its paths for its value. -/
theorem fieldValue?_paths (d : Descriptor) (s : PathSetting) :
    fieldValue? ((operator ",").intercalate (descriptorFields d)) s.key =
      some (listTokens (d.paths s)) := by
  unfold fieldValue?
  rw [betweenCommas_intercalate (by simp [descriptorFields])
    fun part => isCommaFree_of_mem_descriptorFields]
  cases s <;> rfl

/-- The list of some texts is read as the texts. -/
theorem textValues?_listTokens (items : List String) :
    textValues? (listTokens items) = some items := by
  have hmap (items : List String) :
      (items.map fun item => [stringLiteral item]).mapM textValue? = some items := by
    induction items with
    | nil => rfl
    | cons item items ih =>
      have hitem : textValue? [stringLiteral item] = some item := denoted?_stringLiteral item
      rw [List.map_cons, List.mapM_cons, hitem, ih]
      rfl
  have hfree : ∀ part ∈ items.map fun item => [stringLiteral item], IsCommaFree part := by
    intro part hpart joint hcomma
    obtain ⟨item, -, rfl⟩ := List.mem_map.1 hpart
    simp [stringLiteral] at hcomma
  cases items with
  | nil => rfl
  | cons item items =>
    have hparts : commaSeparated ((item :: items).map stringLiteral) =
        (operator ",").intercalate ((item :: items).map fun item => [stringLiteral item]) := by
      unfold commaSeparated
      rw [List.map_map]
      rfl
    have hread := hmap (item :: items)
    rw [← betweenCommas_intercalate (by simp) hfree, ← hparts] at hread
    obtain ⟨ts, hts⟩ : ∃ ts, commaSeparated ((item :: items).map stringLiteral) =
        stringLiteral item :: ts := by
      cases items with
      | nil => exact ⟨[], rfl⟩
      | cons next items => exact ⟨_, rfl⟩
    unfold listTokens
    rw [hts] at hread ⊢
    exact hread

/-- What is written out of a marker type has the texts of its descriptor. -/
theorem emittedText?_tokens (m : MarkerType) (s : TextSetting) :
    emittedText? m.tokens s = some (m.descriptor.text s) := by
  unfold emittedText?
  rw [descriptorFields?_tokens]
  change (fieldValue? _ s.key).bind textValue? = _
  rw [fieldValue?_text]
  exact denoted?_stringLiteral (m.descriptor.text s)

/-- The paths that are written out are those of the descriptor. -/
theorem emittedPaths?_tokens (m : MarkerType) (s : PathSetting) :
    emittedPaths? m.tokens s = some (m.descriptor.paths s) := by
  unfold emittedPaths?
  rw [descriptorFields?_tokens]
  change (fieldValue? _ s.key).bind textValues? = _
  rw [fieldValue?_paths]
  exact textValues?_listTokens (m.descriptor.paths s)

/-- The patterns that are written out are those of the descriptor. -/
theorem emittedNaming?_tokens (m : MarkerType) :
    emittedNaming? m.tokens = some m.descriptor.naming := by
  unfold emittedNaming?
  rw [emittedText?_tokens, emittedText?_tokens]
  rfl

end ExprGate.Expansion
