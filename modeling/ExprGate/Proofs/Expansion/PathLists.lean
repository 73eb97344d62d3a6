import ExprGate.Proofs.Expansion.Agreement

/-!
# Lists of paths in both readings

The expansion takes a list of paths in more forms than the generator does: it also takes a path
without quotes as the value of an argument, and it reduces a path in quotes to its segments where
the generator takes it as it is written. Both read the same list from an argument exactly if it
keeps to the forms in which a list is documented (`pathsOf?_iff`). So they read the same lists from
all arguments if each keeps to these forms (`TakesAll.setAll_eq`), and, as no list is given twice,
only then (`TakesAll.keepsToForms`).
-/

set_option autoImplicit false

namespace ExprGate.Expansion

open Declaration Grammar Source Token Marker

/-! ## Forms -/

/-- An element of a list that, if it is a path in quotes, is written like the path. -/
def IsPlainEntry (e : Expr) : Prop :=
  ∀ s, e.form = .literal (.string s) → ∀ p tokens, quotedPath? e s = some (p, tokens) → p.text = s

/-- The forms of an argument that is a list of paths: elements in delimiters, a list of elements as
the value, or a path in quotes as the value. -/
inductive IsDocumented : Meta → Prop where
  | list {p : Grammar.Path} {d : Delimiter} {tokens : List Tree}
    (h : ∀ es, parse exprList tokens = some es → ∀ e ∈ es, IsPlainEntry e) :
    IsDocumented (.list p d tokens)
  | array {p : Grammar.Path} {e : Expr} (hform : e.form = .array)
    (h : ∀ x ∈ e.elements, IsPlainEntry x) : IsDocumented (.value p e)
  | string {p : Grammar.Path} {e : Expr} {s : String} (hform : e.form = .literal (.string s))
    (h : IsPlainEntry e) : IsDocumented (.value p e)

/-! ## Elements -/

/-- Values are collected from what are all values. -/
theorem collect_ok {ε α : Type} {rs : List (Except ε α)} {values : List α}
    (h : collect rs = .ok values) : rs = values.map .ok := by
  unfold collect at h
  split at h
  · rename_i hempty
    obtain rfl := Except.ok.inj h
    clear h
    induction rs with
    | nil => rfl
    | cons r rs ih =>
      cases r with
      | error e => cases hempty
      | ok a => exact congrArg (Except.ok a :: ·) (ih hempty)
  · cases h

/-- The generator takes the path that the expansion takes from an element exactly if the element is
written like the path. -/
theorem elementText_eq_iff {argument text : String} {e : Expr}
    (h : entryPath argument e = .ok text) : elementText e = text ↔ IsPlainEntry e := by
  unfold entryPath at h
  unfold elementText IsPlainEntry
  split at h
  · rename_i p hform
    obtain rfl := Except.ok.inj h
    simp [hform]
  · rename_i s hform
    split at h
    · rename_i p tokens hquoted
      obtain rfl := Except.ok.inj h
      rw [hform]
      constructor
      · rintro rfl s heq p' tokens' hquoted'
        obtain rfl : p.text = s := by simpa using heq
        rw [hquoted] at hquoted'
        obtain ⟨rfl, -⟩ := Prod.mk.inj (Option.some.inj hquoted')
        rfl
      · intro hplain
        exact (hplain s rfl p tokens hquoted).symm
    · cases h
  · cases h

/-- The elements of a list are read as the paths that they give just if those in quotes are written
like their paths. -/
theorem map_elementText_eq_iff {argument : String} {es : List Expr} {texts : List String}
    (h : es.map (entryPath argument) = texts.map .ok) :
    es.map elementText = texts ↔ ∀ e ∈ es, IsPlainEntry e := by
  induction es generalizing texts with
  | nil =>
    obtain rfl : texts = [] := by simpa using h.symm
    simp
  | cons e es ih =>
    cases texts with
    | nil => cases h
    | cons text texts =>
      obtain ⟨hfirst, hrest⟩ := List.cons.inj h
      rw [List.map_cons, List.cons_eq_cons, elementText_eq_iff hfirst, ih hrest,
        List.forall_mem_cons]

/-- Both readings take the same list from delimiters exactly if the elements in quotes are written
like paths. -/
theorem pathsOf?_list_iff {argument : String} {p : Grammar.Path} {d : Delimiter}
    {tokens : List Tree} {value : List String}
    (h : pathsOf argument (.list p d tokens) = .ok value) :
    pathsOf? (argumentMember (.named (.list p d tokens))).2 = some value ↔
      IsDocumented (.list p d tokens) := by
  unfold pathsOf entriesOf at h
  unfold argumentMember listValue
  dsimp only at h ⊢
  cases hparse : parse exprList tokens with
  | none =>
    rw [hparse] at h
    cases h
  | some es =>
    rw [hparse] at h
    rw [pathsOf?, Option.some_inj, map_elementText_eq_iff (collect_ok h)]
    constructor
    · intro hplain
      refine .list ?_
      intro es' hes'
      obtain rfl := Option.some.inj (hparse.symm.trans hes')
      exact hplain
    · rintro ⟨hplain⟩
      exact hplain es hparse

/-- What gives a path is a path, or a string. -/
theorem form_of_entryPath {argument text : String} {e : Expr} (h : entryPath argument e = .ok text) :
    (∃ p, e.form = .path p) ∨ ∃ s, e.form = .literal (.string s) := by
  unfold entryPath at h
  split at h
  · rename_i p hform
    exact .inl ⟨p, hform⟩
  · rename_i s hform
    exact .inr ⟨s, hform⟩
  · cases h

/-- Both readings take the same list from a single element exactly if it is in quotes and written
like a path. -/
theorem pathsOf?_single_iff {argument text : String} {p : Grammar.Path} {e : Expr}
    (h : entryPath argument e = .ok text) :
    pathsOf? (expressionValue e) = some [text] ↔ IsDocumented (.value p e) := by
  unfold expressionValue
  obtain ⟨q, hform⟩ | ⟨s, hform⟩ := form_of_entryPath h
  · rw [hform]
    constructor
    · intro hnone
      cases hnone
    · rintro (_ | ⟨harray, -⟩ | ⟨hstring, -⟩)
      · rw [hform] at harray
        cases harray
      · rw [hform] at hstring
        cases hstring
  · have htext : elementText e = s := by
      unfold elementText
      rw [hform]
    have hiff := elementText_eq_iff h
    rw [htext] at hiff
    rw [hform]
    constructor
    · intro heq
      exact .string hform (hiff.1 (List.cons.inj (Option.some.inj heq)).1)
    · rintro (_ | ⟨harray, -⟩ | ⟨-, hplain⟩)
      · rw [hform] at harray
        cases harray
      · exact congrArg (fun s => some [s]) (hiff.2 hplain)

/-- Both readings take the same list from a value exactly if it is a list of elements or in quotes,
and what is in quotes is written like a path. -/
theorem pathsOf?_value_iff {argument : String} {p : Grammar.Path} {e : Expr} {value : List String}
    (h : pathsOf argument (.value p e) = .ok value) :
    pathsOf? (argumentMember (.named (.value p e))).2 = some value ↔
      IsDocumented (.value p e) := by
  change pathsOf? (expressionValue e) = some value ↔ _
  unfold pathsOf entriesOf at h
  dsimp only at h
  cases hform : e.form with
  | array =>
    rw [hform] at h
    unfold expressionValue
    rw [hform, pathsOf?, Option.some_inj, map_elementText_eq_iff (collect_ok h)]
    constructor
    · exact .array hform
    · rintro (_ | ⟨-, hplain⟩ | ⟨hstring, -⟩)
      · exact hplain
      · rw [hform] at hstring
        cases hstring
  | _ =>
    rw [hform] at h
    obtain ⟨text, rfl⟩ : ∃ text, value = [text] := by
      have hlength := congrArg List.length (collect_ok h)
      rw [List.length_map, List.length_map] at hlength
      exact List.length_eq_one_iff.1 hlength.symm
    exact pathsOf?_single_iff (List.cons.inj (collect_ok h)).1

/-- Both readings take the same list from an argument exactly if it is in a documented form. -/
theorem pathsOf?_iff {argument : String} {m : Meta} {value : List String}
    (h : pathsOf argument m = .ok value) :
    pathsOf? (argumentMember (.named m)).2 = some value ↔ IsDocumented m := by
  cases m with
  | path p => cases h
  | list p d tokens => exact pathsOf?_list_iff h
  | value p e => exact pathsOf?_value_iff h

/-! ## All arguments -/

/-- An argument that is a list of paths is in a documented form. -/
def KeepsToForms (arg : Argument) : Prop :=
  ∀ m p, arg = .named m → settingOf? arg = some (.paths p) → IsDocumented m

/-- The member of an argument that keeps to the documented forms changes the generator's descriptor
like the argument changes that of the expansion. -/
theorem Takes.set_eq {d d' : Descriptor} {arg : Argument} (h : Takes d arg d')
    (hforms : KeepsToForms arg) :
    ∃ s, settingOf? arg = some s ∧ d.set s (argumentMember arg).2 = .ok d' := by
  cases h with
  | text hkey hvalue =>
    refine ⟨_, hkey, ?_⟩
    rw [textOf_ok hvalue]
    rfl
  | @paths m p value hkey hvalue =>
    refine ⟨_, hkey, ?_⟩
    unfold Descriptor.set
    dsimp only
    rw [(pathsOf?_iff hvalue).2 (hforms m p rfl hkey)]
  | runtime hkey => exact ⟨_, hkey, rfl⟩

/-- If the generator's descriptor gets the paths of an argument that is a list of paths, the argument
keeps to the documented forms. -/
theorem Takes.keepsToForms {d d' e e' : Descriptor} {arg : Argument} {s : Setting}
    (h : Takes d arg d') (hkey : settingOf? arg = some s)
    (he : e.set s (argumentMember arg).2 = .ok e')
    (hpaths : ∀ p, s = .paths p → d'.paths p = e'.paths p) : KeepsToForms arg := by
  rintro m p rfl hp
  obtain rfl : s = .paths p := Option.some.inj (hkey.symm.trans hp)
  specialize hpaths p rfl
  cases h with
  | @text m t value htext _ => cases htext.symm.trans hp
  | @paths m q value hq hvalue =>
    obtain rfl : q = p := by simpa using hq.symm.trans hp
    refine (pathsOf?_iff hvalue).1 ?_
    unfold Descriptor.set at he
    dsimp only at he
    split at he
    · rename_i taken htaken
      obtain rfl := Except.ok.inj he
      rw [Descriptor.paths_setPaths, Descriptor.paths_setPaths, if_pos rfl, if_pos rfl] at hpaths
      rw [htaken, hpaths]
    · cases he
  | runtime hruntime => cases hruntime.symm.trans hp

/-- Arguments that keep to the documented forms give the generator the descriptor of the expansion,
and no member is unknown to it. -/
theorem TakesAll.setAll_eq {d d' : Descriptor} {args : List Argument} (h : TakesAll d args d')
    (hsingle : ∀ arg ∈ args, IsSingleNamed arg) (hforms : ∀ arg ∈ args, KeepsToForms arg) :
    d.setAll (args.map argumentMember) = (.ok d', []) := by
  induction h with
  | nil d => rfl
  | cons hfirst _ ih =>
    obtain ⟨s, hkey, hset⟩ :=
      hfirst.set_eq (hforms _ List.mem_cons_self)
    rw [← ofKey?_argumentMember (hsingle _ List.mem_cons_self)] at hkey
    rw [List.map_cons, Descriptor.setAll_cons hkey hset]
    exact ih (fun arg harg => hsingle arg (List.mem_cons_of_mem _ harg))
      fun arg harg => hforms arg (List.mem_cons_of_mem _ harg)

/-- If the generator can use the members of all arguments and has the lists of the expansion in the
end, the arguments keep to the documented forms. -/
theorem TakesAll.keepsToForms {d d' e c : Descriptor} {args : List Argument}
    (h : TakesAll d args d') (hsingle : ∀ arg ∈ args, IsSingleNamed arg)
    (hnodup : (args.filterMap settingOf?).Nodup)
    (he : (e.setAll (args.map argumentMember)).1 = .ok c) (hpaths : ∀ p, d'.paths p = c.paths p) :
    ∀ arg ∈ args, KeepsToForms arg := by
  induction h generalizing e with
  | nil d => exact fun _ harg => absurd harg List.not_mem_nil
  | @cons d d₁ d' arg args hfirst hrest ih =>
    obtain ⟨s, hs⟩ := hfirst.setting
    rw [List.filterMap_cons_some hs, List.nodup_cons] at hnodup
    have hmember := ofKey?_argumentMember (hsingle arg List.mem_cons_self)
    obtain ⟨e₁, hset, hall⟩ := Descriptor.setAll_cons_ok (hmember.trans hs) he
    have hsingles := fun other hother => hsingle other (List.mem_cons_of_mem arg hother)
    refine List.forall_mem_cons.2 ⟨?_, ih hsingles hnodup.2 hall hpaths⟩
    refine hfirst.keepsToForms hs hset ?_
    rintro p rfl
    -- no later argument is for these paths, so in the end they are what they are now
    rw [← hrest.paths_eq hnodup.1, hpaths p]
    refine Descriptor.paths_of_setAll hall ?_
    intro member hmem
    obtain ⟨other, hother, rfl⟩ := List.mem_map.1 hmem
    rw [ofKey?_argumentMember (hsingles other hother)]
    intro heq
    exact hnodup.1 (List.mem_filterMap.2 ⟨other, hother, heq⟩)

end ExprGate.Expansion
