import ExprGate.Expansion.MarkerType
import ExprGate.Proofs.Marker.Descriptor
import ExprGate.Proofs.Naming.DryRun

/-!
# Marker types that are accepted

A marker type is accepted if its arguments are without error, the structure has the field for the
expression, and the patterns pass the trial on the sample names.
-/

set_option autoImplicit false

namespace ExprGate.Expansion

open Grammar Token Marker

/-! ## Arguments -/

/-- The name of an argument. -/
def settingName (m : Meta) : String :=
  Text.joinSegments (m.name.segments.map Segment.name)

/-- The setting that an argument is for. -/
def settingOf? : Argument → Option Setting
  | .literal _ => none
  | .named m => Setting.ofKey? (settingName m)

/-- An argument without error changes the descriptor from what it was to what it is. -/
inductive Takes : Descriptor → Argument → Descriptor → Prop where
  | text {d : Descriptor} {m : Meta} {t : TextSetting} {value : String}
    (hkey : settingOf? (.named m) = some (.text t)) (hvalue : textOf t.key m = .ok value) :
    Takes d (.named m) (d.setText t value)
  | paths {d : Descriptor} {m : Meta} {p : PathSetting} {value : List String}
    (hkey : settingOf? (.named m) = some (.paths p))
    (hvalue : pathsOf p.key m = .ok value) : Takes d (.named m) (d.setPaths p value)
  | runtime {d : Descriptor} {m : Meta} (hkey : settingOf? (.named m) = some .runtime) :
    Takes d (.named m) d

/-- Arguments without error change the descriptor one after another. -/
inductive TakesAll : Descriptor → List Argument → Descriptor → Prop where
  | nil (d : Descriptor) : TakesAll d [] d
  | cons {d d' d'' : Descriptor} {arg : Argument} {args : List Argument} (h : Takes d arg d')
    (hrest : TakesAll d' args d'') : TakesAll d (arg :: args) d''

/-- An argument without error is for a setting. -/
theorem Takes.setting {d d' : Descriptor} {arg : Argument} (h : Takes d arg d') :
    ∃ s, settingOf? arg = some s := by
  cases h with
  | text hkey _ => exact ⟨_, hkey⟩
  | paths hkey _ => exact ⟨_, hkey⟩
  | runtime hkey => exact ⟨_, hkey⟩

/-- An argument for another setting leaves the paths alone. -/
theorem Takes.paths_eq {d d' : Descriptor} {arg : Argument} {p : PathSetting}
    (h : Takes d arg d') (hp : settingOf? arg ≠ some (.paths p)) : d'.paths p = d.paths p := by
  cases h with
  | @text m t value _ _ => exact Descriptor.paths_setText d t value p
  | @paths m q value hkey _ =>
    rw [Descriptor.paths_setPaths, if_neg]
    rintro rfl
    exact hp hkey
  | runtime _ => rfl

/-- Paths for which there is no argument keep their value. -/
theorem TakesAll.paths_eq {d d' : Descriptor} {args : List Argument} {p : PathSetting}
    (h : TakesAll d args d') (hp : .paths p ∉ args.filterMap settingOf?) :
    d'.paths p = d.paths p := by
  induction h with
  | nil d => rfl
  | cons hfirst _ ih =>
    obtain ⟨s, hs⟩ := hfirst.setting
    rw [List.filterMap_cons_some hs, List.mem_cons, not_or] at hp
    rw [ih hp.2, hfirst.paths_eq]
    rw [hs]
    rintro heq
    exact hp.1 (Option.some.inj heq).symm

namespace Arguments

variable {a b : Arguments}

/-- Without errors after a failure there were none before, and the failure brought none. -/
theorem errors_of_fail {es : List MarkerTypeError} (h : (a.fail es).errors = []) :
    a.errors = [] ∧ es = [] :=
  List.append_eq_nil_iff.1 h

/-- A list of paths is never refused without an error. -/
theorem pathsOf_ne_nil {argument : String} {m : Meta} : pathsOf argument m ≠ .error [] := by
  unfold pathsOf
  split
  · simp
  · unfold collect
    split
    · simp
    · rename_i hnonempty
      rw [List.isEmpty_iff] at hnonempty
      simpa using hnonempty

/-- A value without error changes its setting. -/
theorem takes_of_set {s : Setting} {m : Meta} (hkey : settingOf? (.named m) = some s)
    (h : (a.set s m).errors = []) :
    a.errors = [] ∧ Takes a.descriptor (.named m) (a.set s m).descriptor := by
  cases s with
  | text t =>
    unfold set at h ⊢
    dsimp only [Setting.key] at h ⊢
    cases hvalue : textOf t.key m with
    | error e =>
      rw [hvalue] at h
      exact absurd (errors_of_fail h).2 (List.cons_ne_nil e [])
    | ok value =>
      rw [hvalue] at h
      exact ⟨h, .text hkey hvalue⟩
  | paths p =>
    unfold set at h ⊢
    dsimp only [Setting.key] at h ⊢
    cases hvalue : pathsOf p.key m with
    | error es =>
      rw [hvalue] at h
      rw [(errors_of_fail h).2] at hvalue
      exact absurd hvalue pathsOf_ne_nil
    | ok value =>
      rw [hvalue] at h
      exact ⟨h, .paths hkey hvalue⟩
  | runtime =>
    unfold set at h ⊢
    dsimp only at h ⊢
    split at h
    · exact ⟨h, .runtime hkey⟩
    · rename_i e _
      exact absurd (errors_of_fail h).2 (List.cons_ne_nil e [])

/-- A value leaves the settings that have been seen. -/
theorem seen_set (s : Setting) (m : Meta) : (a.set s m).seen = a.seen := by
  unfold set
  split
  all_goals split <;> rfl

/-- An argument that adds no error is for a setting that has not occurred before, and its value is
taken over. -/
theorem add_eq_set {arg : Argument} (h : (a.add arg).errors = []) :
    ∃ m s, arg = .named m ∧ settingOf? arg = some s ∧ s ∉ a.seen ∧
      a.add arg = { a with seen := a.seen ++ [s] }.set s m := by
  cases arg with
  | literal l => exact absurd (errors_of_fail h).2 (List.cons_ne_nil _ [])
  | named m =>
    unfold add at h ⊢
    dsimp only at h ⊢
    cases hkey : Setting.ofKey? (Text.joinSegments (m.name.segments.map Segment.name)) with
    | none =>
      rw [hkey] at h
      exact absurd (errors_of_fail h).2 (List.cons_ne_nil _ [])
    | some s =>
      rw [hkey] at h
      dsimp only at h ⊢
      split at h
      · exact absurd (errors_of_fail h).2 (List.cons_ne_nil _ [])
      · rename_i hseen
        rw [if_neg hseen]
        exact ⟨m, s, rfl, hkey, by simpa using hseen, rfl⟩

/-- An argument that adds no error changes the descriptor. -/
theorem takes_of_add {arg : Argument} (h : (a.add arg).errors = []) :
    a.errors = [] ∧ Takes a.descriptor arg (a.add arg).descriptor := by
  obtain ⟨m, s, rfl, hs, -, hadd⟩ := add_eq_set h
  rw [hadd] at h ⊢
  exact takes_of_set hs h

/-- Arguments that add no error change the descriptor one after another. -/
theorem takesAll_of_foldl {args : List Argument} (h : (args.foldl add a).errors = []) :
    a.errors = [] ∧ TakesAll a.descriptor args (args.foldl add a).descriptor := by
  induction args generalizing a with
  | nil => exact ⟨h, .nil _⟩
  | cons arg args ih =>
    obtain ⟨hadd, hrest⟩ := ih h
    obtain ⟨herrors, htakes⟩ := takes_of_add hadd
    exact ⟨herrors, .cons htakes hrest⟩

/-- Arguments that add no error are for different settings, none of which has occurred before. -/
theorem nodup_of_foldl {args : List Argument} (h : (args.foldl add a).errors = []) :
    (args.filterMap settingOf?).Nodup ∧ ∀ s ∈ a.seen, s ∉ args.filterMap settingOf? := by
  induction args generalizing a with
  | nil => exact ⟨List.nodup_nil, fun _ _ => List.not_mem_nil⟩
  | cons arg args ih =>
    obtain ⟨hnodup, hseen⟩ := ih h
    have hfirst : (a.add arg).errors = [] := (takesAll_of_foldl (a := a.add arg) h).1
    obtain ⟨m, s, -, hs, hnew, hadd⟩ := add_eq_set hfirst
    rw [hadd, seen_set] at hseen
    rw [List.filterMap_cons_some hs]
    refine ⟨List.nodup_cons.2 ⟨hseen s (by simp), hnodup⟩, ?_⟩
    intro other hother hmem
    obtain rfl | hmem := List.mem_cons.1 hmem
    · exact hnew hother
    · exact hseen other (List.mem_append_left [s] hother) hmem

/-- Accepted arguments follow the grammar, are for different settings, and change the descriptor one
after another from the one that configures nothing. -/
theorem takesAll_of_ofTokens {args : List Tree} (h : ofTokens args = .ok a) :
    ∃ as, parse argumentList args = some as ∧ TakesAll {} as a.descriptor ∧
      (as.filterMap settingOf?).Nodup := by
  unfold ofTokens at h
  cases hparse : parse argumentList args with
  | none =>
    rw [hparse] at h
    cases h
  | some as =>
    rw [hparse] at h
    dsimp only at h
    split at h
    · rename_i hempty
      obtain rfl := Except.ok.inj h
      have herrors := List.isEmpty_iff.1 hempty
      exact ⟨as, rfl, (takesAll_of_foldl herrors).2, (nodup_of_foldl herrors).1⟩
    · cases h

end Arguments

/-! ## Marker types -/

/-- What makes a structure with some arguments an accepted marker type. -/
structure MarkerType.Accepted (args item : List Tree) (m : MarkerType) : Prop where
  arguments : ∃ a, Arguments.ofTokens args = .ok a ∧ a.descriptor = m.descriptor ∧
    a.runtime = m.runtime
  declaration : parse structDeclaration item = some (m.body, m.declaration)
  errors : structureErrors m.descriptor m.body.fields = []

/-- So it is with every marker type that is accepted. -/
theorem MarkerType.accepted_of_ofTokens {args item : List Tree} {m : MarkerType}
    (h : MarkerType.ofTokens args item = .ok m) : MarkerType.Accepted args item m := by
  unfold MarkerType.ofTokens at h
  cases harguments : Arguments.ofTokens args with
  | error es =>
    rw [harguments] at h
    cases h
  | ok a =>
    rw [harguments] at h
    cases hparse : parse structDeclaration item with
    | none =>
      simp only [hparse, bind, Except.bind] at h
      cases h
    | some parsed =>
      obtain ⟨body, declaration⟩ := parsed
      simp only [hparse, bind, Except.bind] at h
      split at h
      · rename_i hempty
        obtain rfl := Except.ok.inj h
        exact ⟨⟨a, harguments, rfl, rfl⟩, hparse, List.isEmpty_iff.1 hempty⟩
      · cases h

/-- A structure that has the field for the expression is accepted with the standard patterns. -/
theorem MarkerType.ofTokens_of_standard {args item : List Tree} {a : Arguments} {body : TypeBody}
    {declaration : List Tree} (ha : Arguments.ofTokens args = .ok a)
    (hbody : parse structDeclaration item = some (body, declaration))
    (hfield : body.fields.contains a.descriptor.expressionMember = true)
    (hnaming : a.descriptor.naming = .standard) :
    MarkerType.ofTokens args item = .ok ⟨declaration, body, a.descriptor, a.runtime⟩ := by
  have herrors : structureErrors a.descriptor body.fields = [] := by
    unfold structureErrors
    rw [hfield, hnaming, Naming.validate_standard]
    rfl
  unfold MarkerType.ofTokens
  rw [ha]
  simp only [bind, Except.bind, hbody, herrors]
  rfl

/-- The arguments of an accepted marker type follow the grammar, are for different settings, and give
its descriptor. -/
theorem MarkerType.Accepted.takesAll {args item : List Tree} {m : MarkerType}
    (h : MarkerType.Accepted args item m) :
    ∃ as, parse argumentList args = some as ∧ TakesAll {} as m.descriptor ∧
      (as.filterMap settingOf?).Nodup := by
  obtain ⟨a, ha, hdescriptor, -⟩ := h.arguments
  rw [← hdescriptor]
  exact Arguments.takesAll_of_ofTokens ha

/-- The structure of an accepted marker type has the field for the expression. -/
theorem MarkerType.Accepted.contains {args item : List Tree} {m : MarkerType}
    (h : MarkerType.Accepted args item m) :
    m.body.fields.contains m.descriptor.expressionMember = true := by
  have hfield := (List.append_eq_nil_iff.1 h.errors).1
  split at hfield
  · assumption
  · cases hfield

/-- The patterns of an accepted marker type are valid. -/
theorem MarkerType.Accepted.validate {args item : List Tree} {m : MarkerType}
    (h : MarkerType.Accepted args item m) : m.descriptor.naming.validate = .ok () := by
  have hnaming := (List.append_eq_nil_iff.1 h.errors).2
  split at hnaming
  · rename_i hvalid
    exact hvalid
  · cases hnaming

/-- What a marker type expands to is written out of an accepted marker type. -/
theorem tokens_of_expandMarkerType {args item out : List Tree}
    (h : expandMarkerType args item = .ok out) :
    ∃ m, MarkerType.ofTokens args item = .ok m ∧ out = m.tokens := by
  unfold expandMarkerType at h
  cases hm : MarkerType.ofTokens args item with
  | error es =>
    rw [hm] at h
    cases h
  | ok m =>
    rw [hm] at h
    exact ⟨m, rfl, (Except.ok.inj h).symm⟩

end ExprGate.Expansion
