import ExprGate.Proofs.Placeholder.Cycles

/-!
# What the strict mode adds

The two modes differ at a placeholder with neither value nor fallback: the strict one stops there, the
lenient one keeps the placeholder and goes on. Before it they take the same steps, with the same names in
progress. So they have the same outcome, or the strict one ends with the error that a name is undefined
(`expand_strict_eq_or`), and that error is the only one that it adds (`replace_strict_addsUndefined`).
-/

set_option autoImplicit false

namespace ExprGate.Placeholder

namespace Lookup

variable {l : Lookup} {inProgress : List (List Char)} {text : List Char}
  {result : Except Cause (List Char)}

/-! ## Two runs step by step -/

/-- A strict run does what a lenient one does, or it ends at a name that is undefined. -/
theorem Expands.strict_or_undefined (h : l.Expands .lenient inProgress text result) :
    l.Expands .strict inProgress text result ∨
      ∃ name, l.Expands .strict inProgress text (.error (.undefined name)) := by
  induction h with
  | nil => exact .inl .nil
  | escape _ ih =>
    obtain hsame | ⟨name, hundefined⟩ := ih
    · exact .inl hsame.escape
    · exact .inr ⟨name, hundefined.escape⟩
  | char hopening hescape _ ih =>
    obtain hsame | ⟨name, hundefined⟩ := ih
    · exact .inl (.char hopening hescape hsame)
    · exact .inr ⟨name, .char hopening hescape hundefined⟩
  | unclosed hnone => exact .inl (.unclosed hnone)
  | cyclic hbody hname => exact .inl (.cyclic hbody hname)
  | undefined _ _ _ hmode => cases hmode
  | @kept _ p _ _ _ hbody hname htext _ _ _ =>
    -- this is where the strict run stops, whatever the lenient one finds behind it
    exact .inr ⟨p.name, .undefined hbody hname htext rfl⟩
  | failed hbody hname htext _ ih =>
    obtain hsame | ⟨name, hundefined⟩ := ih
    · exact .inl (.failed hbody hname htext hsame)
    · exact .inr ⟨name, .failed hbody hname htext hundefined⟩
  | replaced hbody hname htext _ _ ih ihafter =>
    obtain hsame | ⟨name, hundefined⟩ := ih
    · obtain hafter | ⟨name, hundefined⟩ := ihafter
      · exact .inl (.replaced hbody hname htext hsame hafter)
      · exact .inr ⟨name, .replaced hbody hname htext hsame hundefined⟩
    · exact .inr ⟨name, .failed hbody hname htext hundefined⟩

/-- A lenient run does what a strict one does that does not end at an undefined name. -/
theorem Expands.lenient (h : l.Expands .strict inProgress text result)
    (hdefined : ∀ name, result ≠ .error (.undefined name)) :
    l.Expands .lenient inProgress text result := by
  -- a text in front leaves an error as it is
  have hbehind {out : List Char} {rest : Except Cause (List Char)}
      (hmap : ∀ name, rest.map (out ++ ·) ≠ .error (.undefined name)) (name : List Char) :
      rest ≠ .error (.undefined name) := by
    rintro rfl
    exact hmap name rfl
  induction h with
  | nil => exact .nil
  | escape _ ih => exact (ih (hbehind hdefined)).escape
  | char hopening hescape _ ih => exact .char hopening hescape (ih (hbehind hdefined))
  | unclosed hnone => exact .unclosed hnone
  | cyclic hbody hname => exact .cyclic hbody hname
  | @undefined _ p _ _ _ _ _ _ => exact absurd rfl (hdefined p.name)
  | kept _ _ _ hmode _ _ => cases hmode
  | failed hbody hname htext _ ih => exact .failed hbody hname htext (ih hdefined)
  | replaced hbody hname htext _ _ ih ihafter =>
    exact .replaced hbody hname htext (ih nofun) (ihafter (hbehind hdefined))

/-! ## Outcomes of the two modes -/

/-- Both modes have the same outcome, or the strict one finds an undefined name. Either both end or
neither does, unless such a name is found. -/
theorem expand_strict_eq_or (l : Lookup) (inProgress : List (List Char)) (text : List Char) :
    l.expand .strict inProgress text = l.expand .lenient inProgress text ∨
      ∃ name, l.expand .strict inProgress text = some (.error (.undefined name)) := by
  cases hlenient : l.expand .lenient inProgress text with
  | some result =>
    obtain hsame | ⟨name, hundefined⟩ := (expand_eq_some_iff.1 hlenient).strict_or_undefined
    · exact .inl hsame.expand_eq
    · exact .inr ⟨name, hundefined.expand_eq⟩
  | none =>
    cases hstrict : l.expand .strict inProgress text with
    | none => exact .inl rfl
    | some result =>
      -- a strict run that ends without this error would be one that the lenient mode can do
      refine .inr ?_
      by_contra hdefined
      have hrun := (expand_eq_some_iff.1 hstrict).lenient fun name heq => hdefined ⟨name, heq ▸ rfl⟩
      rw [hrun.expand_eq] at hlenient
      cases hlenient

/-- A name that is reported as undefined has no value, and the mode is the strict one. -/
theorem of_expand_eq_undefined {mode : Mode} {name : List Char}
    (h : l.expand mode inProgress text = some (.error (.undefined name))) :
    mode = .strict ∧ l.value? name = none := by
  obtain ⟨inner, -, hstops⟩ := expand_eq_error_iff.1 h
  cases hstops with
  | undefined _ _ htext hmode => exact ⟨hmode, (Option.or_eq_none_iff.1 htext).1⟩

/-! ## Templates -/

/-- What a template comes to in the strict mode, compared with the lenient one. -/
structure AddsUndefined (l : Lookup) (template : String) : Prop where
  /-- A text is that of the lenient mode. -/
  text : ∀ out, l.replace .strict template = some (.ok out) →
    l.replace .lenient template = some (.ok out)
  /-- A cycle is that of the lenient mode, with the same chain. -/
  cyclic : ∀ failure chain, l.replace .strict template = some (.error failure) →
    failure.cause = .cyclic chain → l.replace .lenient template = some (.error failure)
  /-- A cycle of the lenient mode is one of the strict mode too, unless a name is undefined. -/
  ofCyclic : ∀ failure chain, l.replace .lenient template = some (.error failure) →
    failure.cause = .cyclic chain → l.replace .strict template = some (.error failure) ∨
      ∃ name, l.replace .strict template = some (.error ⟨template, .undefined name⟩)
  /-- A name that is reported as undefined has no value. -/
  undefined : ∀ failure name, l.replace .strict template = some (.error failure) →
    failure.cause = .undefined name → l.value? name = none
  /-- The lenient mode reports no undefined name. -/
  lenient : ∀ failure name, l.replace .lenient template = some (.error failure) →
    failure.cause ≠ .undefined name

/-- The strict mode gives what the lenient one gives, or an undefined name. -/
theorem replace_strict_eq_or (l : Lookup) (template : String) :
    l.replace .strict template = l.replace .lenient template ∨
      ∃ name, l.replace .strict template = some (.error ⟨template, .undefined name⟩) := by
  unfold replace
  obtain hsame | ⟨name, hundefined⟩ := expand_strict_eq_or l [] template.toList
  · exact .inl (by rw [hsame])
  · exact .inr ⟨name, by rw [hundefined]; rfl⟩

/-- Only the strict mode fails with an undefined name, and only with one that has no value. -/
theorem of_replace_eq_undefined {mode : Mode} {template : String} {failure : Failure}
    {name : List Char} (h : l.replace mode template = some (.error failure))
    (hcause : failure.cause = .undefined name) : mode = .strict ∧ l.value? name = none := by
  have hfails := (replace_eq_error_iff.1 h).2
  rw [hcause] at hfails
  exact of_expand_eq_undefined hfails.expand_eq

/-- Under every lookup, the strict mode adds only errors about undefined names. -/
theorem replace_strict_addsUndefined (l : Lookup) (template : String) :
    l.AddsUndefined template := by
  have hmodes := replace_strict_eq_or l template
  refine ⟨?text, ?cyclic, ?ofCyclic, ?undefined, ?lenient⟩
  case text =>
    intro out hout
    obtain hsame | ⟨name, hundefined⟩ := hmodes
    · exact hsame.symm.trans hout
    · rw [hundefined] at hout
      cases hout
  case cyclic =>
    intro failure chain hfailure hcause
    obtain hsame | ⟨name, hundefined⟩ := hmodes
    · exact hsame.symm.trans hfailure
    · rw [hundefined] at hfailure
      cases hfailure
      cases hcause
  case ofCyclic =>
    intro failure chain hfailure _
    exact hmodes.imp_left fun hsame => hsame.trans hfailure
  case undefined =>
    intro failure name hfailure hcause
    exact (of_replace_eq_undefined hfailure hcause).2
  case lenient =>
    intro failure name hfailure hcause
    cases (of_replace_eq_undefined hfailure hcause).1

-- which error comes first depends on the order of the placeholders
example : (Bindings.ofList [("a", "$\x7ba\x7d")]).lookup.replace .strict "$\x7bx\x7d$\x7ba\x7d" =
    some (.error ⟨"$\x7bx\x7d$\x7ba\x7d", .undefined "x".toList⟩) := by
  cbv

example : (Bindings.ofList [("a", "$\x7ba\x7d")]).lookup.replace .strict "$\x7ba\x7d$\x7bx\x7d" =
    some (.error ⟨"$\x7ba\x7d$\x7bx\x7d", .cyclic ["a".toList, "a".toList]⟩) := by
  cbv

end Lookup

end ExprGate.Placeholder
