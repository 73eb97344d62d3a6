import ExprGate.Marker.Descriptor

/-!
# Settings of a descriptor

A setting has the value that it was given last, whatever the others were given.
-/

set_option autoImplicit false

namespace ExprGate.Marker

variable (d : Descriptor)

namespace Descriptor

/-- A text setting has the value that it is given, and the others keep theirs. -/
theorem text_setText (s t : TextSetting) (value : String) :
    (d.setText s value).text t = if t = s then value else d.text t := by
  cases s <;> cases t <;> rfl

/-- Setting paths leaves the texts. -/
theorem text_setPaths (p : PathSetting) (value : List String) (t : TextSetting) :
    (d.setPaths p value).text t = d.text t := by
  cases p <;> rfl

/-- A setting of paths has the value that it is given, and the other one keeps its value. -/
theorem paths_setPaths (p q : PathSetting) (value : List String) :
    (d.setPaths p value).paths q = if q = p then value else d.paths q := by
  cases p <;> cases q <;> rfl

/-- Setting a text leaves the paths. -/
theorem paths_setText (s : TextSetting) (value : String) (q : PathSetting) :
    (d.setText s value).paths q = d.paths q := by
  cases s <;> rfl

/-- Descriptors that agree in their texts have the same patterns. -/
theorem naming_eq {d d' : Descriptor} (h : ∀ s, d.text s = d'.text s) : d.naming = d'.naming := by
  change Naming.mk (d.text .classPattern) (d.text .methodPattern) =
    Naming.mk (d'.text .classPattern) (d'.text .methodPattern)
  rw [h, h]

/-- Where the members of an annotation can be set, the first one that is a setting can be set, and
the others behind it. -/
theorem setAll_cons_ok {d c : Descriptor} {member : String × Declaration.Value}
    {rest : List (String × Declaration.Value)} {s : Setting}
    (hkey : Setting.ofKey? member.1 = some s) (h : (d.setAll (member :: rest)).1 = .ok c) :
    ∃ d', d.set s member.2 = .ok d' ∧ (d'.setAll rest).1 = .ok c := by
  rw [setAll, hkey] at h
  dsimp only at h
  cases hset : d.set s member.2 with
  | error e =>
    rw [hset] at h
    cases h
  | ok d' =>
    rw [hset] at h
    exact ⟨d', rfl, h⟩

/-- Where a member can be set, the others are set behind it. -/
theorem setAll_cons {d d' : Descriptor} {member : String × Declaration.Value}
    {rest : List (String × Declaration.Value)} {s : Setting}
    (hkey : Setting.ofKey? member.1 = some s) (hset : d.set s member.2 = .ok d') :
    d.setAll (member :: rest) = d'.setAll rest := by
  rw [setAll, hkey]
  dsimp only
  rw [hset]

/-- Setting another setting leaves the paths alone. -/
theorem paths_of_set {d d' : Descriptor} {s : Setting} {p : PathSetting} {value : Declaration.Value}
    (h : d.set s value = .ok d') (hs : s ≠ .paths p) : d'.paths p = d.paths p := by
  unfold set at h
  split at h
  · split at h
    · obtain rfl := Except.ok.inj h
      exact paths_setText d _ _ p
    · cases h
  · rename_i q
    split at h
    · obtain rfl := Except.ok.inj h
      rw [paths_setPaths, if_neg]
      rintro rfl
      exact hs rfl
    · cases h
  · obtain rfl := Except.ok.inj h
    rfl

/-- Paths for which there is no member keep their value. -/
theorem paths_of_setAll {d c : Descriptor} {members : List (String × Declaration.Value)}
    {p : PathSetting} (h : (d.setAll members).1 = .ok c)
    (hp : ∀ member ∈ members, Setting.ofKey? member.1 ≠ some (.paths p)) :
    c.paths p = d.paths p := by
  induction members generalizing d with
  | nil =>
    obtain rfl := Except.ok.inj h
    rfl
  | cons member rest ih =>
    have hrest := fun other hother => hp other (List.mem_cons_of_mem member hother)
    cases hkey : Setting.ofKey? member.1 with
    | none =>
      rw [setAll, hkey] at h
      exact ih h hrest
    | some s =>
      obtain ⟨d', hset, hall⟩ := setAll_cons_ok hkey h
      rw [ih hall hrest]
      refine paths_of_set hset ?_
      rintro rfl
      exact hp member List.mem_cons_self hkey

end Descriptor

end ExprGate.Marker
