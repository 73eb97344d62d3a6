import ExprGate.Grammar.File

/-!
# What attributes are parsed into

What holds of every result of a parser is carried through the parsers that use it (`Yields.bind`,
`Yields.commaTerminated`). So the paths in attributes are plain: the rules for them take words and
`::`, and nothing else (`isPlain_of_parse_metaList`). A plain path is a word exactly if it is written
like it (`Path.isWord_iff`).
-/

set_option autoImplicit false

namespace ExprGate.Grammar

open Token

variable {α β : Type}

/-! ## Results of parsers -/

/-- Every result of a parser has a property. -/
def Yields (p : Parser α) (P : α → Prop) : Prop :=
  ∀ s a s', p s = some (a, s') → P a

/-- Results of the second parser have a property, if they have it whatever the first one yields. -/
theorem Yields.bind {p : Parser α} {f : α → Parser β} {P : α → Prop} {Q : β → Prop}
    (hp : Yields p P) (hf : ∀ a, P a → Yields (f a) Q) : Yields (p >>= f) Q := by
  intro s b s' h
  obtain ⟨⟨a, t⟩, hfirst, hrest⟩ := Option.bind_eq_some_iff.1 h
  exact hf a (hp s a t hfirst) t b s' hrest

/-- Whatever is parsed first. -/
theorem Yields.behind {p : Parser α} {f : α → Parser β} {Q : β → Prop}
    (hf : ∀ a, Yields (f a) Q) : Yields (p >>= f) Q :=
  Yields.bind (P := fun _ => True) (fun _ _ _ _ => trivial) fun a _ => hf a

/-- A parser that gives a value without reading yields what the value has. -/
theorem yields_pure {a : α} {P : α → Prop} (h : P a) : Yields (pure a : Parser α) P := by
  intro s b s' hb
  obtain ⟨rfl, -⟩ := Prod.mk.inj (Option.some.inj hb)
  exact h

/-- A parser that fails yields everything. -/
theorem yields_failure {P : α → Prop} : Yields (failure : Parser α) P := by
  intro s b s' hb
  cases hb

/-- A choice between parsers yields what both of them yield. -/
theorem Yields.ite {condition : Prop} [Decidable condition] {p q : Parser α} {P : α → Prop}
    (hp : Yields p P) (hq : Yields q P) : Yields (if condition then p else q) P := by
  split
  · exact hp
  · exact hq

/-- All parts of a list have what a single part has. -/
theorem Yields.separatedFrom {p : Parser α} {P : α → Prop} (hp : Yields p P)
    (ends : List Tree → Bool) (sep : String) (fuel : Nat) :
    Yields (separatedFrom ends sep p fuel) fun l => ∀ a ∈ l, P a := by
  induction fuel with
  | zero => exact yields_failure
  | succ fuel ih =>
    unfold Grammar.separatedFrom
    refine .behind fun ts => .ite (yields_pure nofun) ?_
    refine hp.bind fun a ha => ?_
    refine .behind fun ts => .ite (yields_pure ?_) ?_
    · intro b hb
      exact List.mem_singleton.1 hb ▸ ha
    · refine .behind fun _ => ih.bind fun l hl => yields_pure ?_
      exact List.forall_mem_cons.2 ⟨ha, hl⟩

/-- All elements of a list have what its parser yields. -/
theorem Yields.commaTerminated {p : Parser α} {P : α → Prop} (hp : Yields p P) :
    Yields (commaTerminated p) fun l => ∀ a ∈ l, P a :=
  .behind fun _ => hp.separatedFrom _ _ _

/-- What is parsed from some tokens has what the parser yields. -/
theorem Yields.of_parse {p : Rules → Parser α} {P : α → Prop} (hp : ∀ r, Yields (p r) P)
    {ts : List Tree} {a : α} (h : parse p ts = some a) : P a := by
  unfold parse parseAll at h
  split at h
  · rename_i b printed hb
    obtain rfl := Option.some.inj h
    exact hp _ _ _ _ hb
  · cases h

/-! ## Paths in attributes -/

/-- The segments of a path in an attribute have no arguments. -/
theorem yields_plainSegments (fuel : Nat) :
    Yields (plainSegments fuel) fun l => ∀ s ∈ l, s.arguments = .none := by
  induction fuel with
  | zero => exact yields_failure
  | succ fuel ih =>
    unfold plainSegments
    refine .behind fun ts => .behind fun _ => .behind fun name => .behind fun ts => .ite ?_ ?_
    · refine .behind fun _ => ih.bind fun l hl => yields_pure ?_
      exact List.forall_mem_cons.2 ⟨rfl, hl⟩
    · refine yields_pure ?_
      intro s hs
      rw [List.mem_singleton.1 hs]

/-- The path of an attribute is plain. -/
theorem yields_attributePath : Yields attributePath fun p => p.isPlain = true := by
  unfold attributePath plainPath
  refine .behind fun ts => .ite (.behind fun name => yields_pure rfl) ?_
  refine .behind fun leading => .behind fun ts => ?_
  refine (yields_plainSegments _).bind fun l hl => yields_pure ?_
  exact List.all_eq_true.2 fun s hs => beq_iff_eq.2 (hl s hs)

/-- The name of an attribute is a plain path. -/
theorem yields_attributeMeta (r : Rules) :
    Yields (attributeMeta r) fun m => m.name.isPlain = true := by
  unfold attributeMeta
  refine yields_attributePath.bind fun p hp => .behind fun ts => .ite ?_ (.ite ?_ ?_)
  · exact .behind fun (d, tokens) => yields_pure hp
  · exact .behind fun _ => .behind fun e => yields_pure hp
  · exact yields_pure hp

/-- The entries of a container have plain paths. -/
theorem isPlain_of_parse_metaList {ts : List Tree} {entries : List Meta}
    (h : parse metaList ts = some entries) : ∀ m ∈ entries, m.name.isPlain = true :=
  Yields.of_parse (fun r => (yields_attributeMeta r).commaTerminated) h

/-- A plain path is a word exactly if it is written like it. -/
theorem Path.isWord_iff {p : Path} {word : String} (hp : p.isPlain = true)
    (hword : ':' ∉ word.toList) (hne : word ≠ "") : p.isWord word = true ↔ p.text = word := by
  obtain ⟨leading, segments⟩ := p
  -- a separator puts a colon into the text
  have hseparated (before after : String) : before ++ "::" ++ after ≠ word := by
    rintro rfl
    exact hword (by simp)
  unfold isWord
  rw [beq_iff_eq]
  match leading, segments with
  | true, segments =>
    unfold word? text
    simpa using hseparated "" ("::".intercalate (segments.map Segment.name))
  | false, [] =>
    unfold word? text
    simpa using hne.symm
  | false, [⟨name, arguments⟩] =>
    obtain rfl : arguments = .none := by simpa [isPlain] using hp
    unfold word? text
    simp
  | false, s :: t :: segments =>
    unfold word? text
    have hne := hseparated s.name ("::".intercalate (t.name :: segments.map Segment.name))
    simpa [String.intercalate_cons_cons] using hne

end ExprGate.Grammar
