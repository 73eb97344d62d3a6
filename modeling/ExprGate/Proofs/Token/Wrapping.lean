import ExprGate.Proofs.Token.Name

/-!
# Names with blanks and comments around them

A text is accepted as an identifier exactly if it is a name with text around it that reading skips
(`isIdentifier_iff`). Read forwards, the lexemes of the text say what is skipped and which name it
is; written backwards, the name is read again whatever is skipped around it. The text is the name
itself exactly if it has no character that something skipped starts with (`Wraps.eq_iff`).
-/

set_option autoImplicit false

namespace ExprGate.Token

open Text

/-- Reading skips blanks and comments in front of a text. -/
inductive Skips : List Char → List Char → Prop where
  | done (cs : List Char) : Skips cs cs
  | blank {c : Char} {cs rest : List Char} (h : isTokenBlank c = true) (more : Skips cs rest) :
    Skips (c :: cs) rest
  | comment {cs after rest : List Char} (h : afterComment? cs = some after)
    (more : Skips after rest) : Skips cs rest

/-- A text is a name with nothing else around it than what reading skips. -/
def Wraps (text name : String) : Prop :=
  ∃ after, Skips (dropByteOrderMark text.toList) (name.toList ++ after) ∧ Skips after []

/-! ## What is read -/

/-- A documentation comment is more than one lexeme. -/
theorem docAttribute_append_ne {inner : Bool} {text : List Char} {found : List Lexeme} {l : Lexeme} :
    (docAttribute inner text).map .tree ++ found ≠ [l] := by
  cases inner <;> simp [docAttribute, operator]

/-- What has no lexemes is skipped. -/
theorem skips_of_lexemes?_nil {fuel : Nat} {cs : List Char} (h : lexemes? fuel cs = some []) :
    Skips cs [] := by
  fun_induction lexemes? fuel cs with
  | case1 => exact .done []
  | case2 => cases h
  | case3 fuel c rest after hcomment ih => exact .comment hcomment (ih h)
  | case4 fuel c rest hcomment hblank ih => exact .blank hblank (ih h)
  | case5 fuel c rest hcomment hblank inner text after hdoc ih =>
    obtain ⟨found, -, heq⟩ := Option.map_eq_some_iff.1 h
    exact absurd (List.append_eq_nil_iff.1 heq).1 (by simp [docAttribute, operator])
  | case6 => cases h
  | case7 fuel c rest hcomment hblank hdoc l after hlexeme ih =>
    obtain ⟨found, -, heq⟩ := Option.map_eq_some_iff.1 h
    cases heq

/-- A text with one lexeme, an identifier, is that name with something around it that is skipped. -/
theorem exists_skips_of_lexemes? {fuel : Nat} {cs : List Char} {name : String}
    (h : lexemes? fuel cs = some [.tree (.ident name)]) (hfree : isPlainIdent name = true) :
    IsName name ∧ ∃ after, Skips cs (name.toList ++ after) ∧ Skips after [] := by
  fun_induction lexemes? fuel cs with
  | case1 => cases h
  | case2 => cases h
  | case3 fuel c rest after hcomment ih =>
    obtain ⟨hname, behind, hskips, hbehind⟩ := ih h
    exact ⟨hname, behind, .comment hcomment hskips, hbehind⟩
  | case4 fuel c rest hcomment hblank ih =>
    obtain ⟨hname, behind, hskips, hbehind⟩ := ih h
    exact ⟨hname, behind, .blank hblank hskips, hbehind⟩
  | case5 fuel c rest hcomment hblank inner text after hdoc ih =>
    obtain ⟨found, -, heq⟩ := Option.map_eq_some_iff.1 h
    exact absurd heq docAttribute_append_ne
  | case6 => cases h
  | case7 fuel c rest hcomment hblank hdoc l after hlexeme ih =>
    obtain ⟨found, hfound, heq⟩ := Option.map_eq_some_iff.1 h
    obtain ⟨rfl, rfl⟩ := List.cons.inj heq
    obtain ⟨hname, hsplit⟩ := isName_of_identifier? (identifier?_of_lexeme? hlexeme) hfree
    rw [hsplit]
    exact ⟨hname, after, .done _, skips_of_lexemes?_nil hfound⟩

/-! ## What is skipped -/

/-- What is behind a line is no longer than the text. -/
theorem length_takeLine_le (cs : List Char) : (takeLine cs).2.length ≤ cs.length := by
  fun_induction takeLine cs with
  | case1 => exact Nat.le_refl _
  | case2 => exact Nat.le_refl _
  | case3 => exact Nat.le_succ _
  | case4 c rest _ _ line after heq ih =>
    rw [heq] at ih
    exact Nat.le_succ_of_le ih

/-- What is behind a block comment is no longer than the text. -/
theorem length_takeBlock?_le {depth : Nat} {cs body after : List Char}
    (h : takeBlock? depth cs = some (body, after)) : after.length ≤ cs.length := by
  fun_induction takeBlock? depth cs generalizing body with
  | case1 => cases h
  | case2 depth rest ih =>
    obtain ⟨⟨inner, behind⟩, hinner, heq⟩ := Option.map_eq_some_iff.1 h
    cases heq
    exact Nat.le_succ_of_le (Nat.le_succ_of_le (ih hinner))
  | case3 rest =>
    cases h
    exact Nat.le_succ_of_le (Nat.le_succ _)
  | case4 depth rest ih =>
    obtain ⟨⟨inner, behind⟩, hinner, heq⟩ := Option.map_eq_some_iff.1 h
    cases heq
    exact Nat.le_succ_of_le (Nat.le_succ_of_le (ih hinner))
  | case5 depth c rest _ _ _ ih =>
    obtain ⟨⟨inner, behind⟩, hinner, heq⟩ := Option.map_eq_some_iff.1 h
    cases heq
    exact Nat.le_succ_of_le (ih hinner)

/-- A comment has characters. -/
theorem length_afterComment?_lt {cs after : List Char} (h : afterComment? cs = some after) :
    after.length < cs.length := by
  unfold afterComment? at h
  split at h
  · obtain ⟨-, hafter⟩ := Option.ite_none_left_eq_some.1 h
    obtain rfl := Option.some.inj hafter
    exact Nat.lt_succ_of_le (Nat.le_succ_of_le (length_takeLine_le _))
  · obtain ⟨-, hafter⟩ := Option.ite_none_left_eq_some.1 h
    obtain ⟨found, hfound, rfl⟩ := Option.map_eq_some_iff.1 hafter
    exact Nat.lt_succ_of_le (Nat.le_succ_of_le (length_takeBlock?_le hfound))
  · cases h

/-- More fuel does not change what is read. -/
theorem lexemes?_mono {fuel : Nat} {cs : List Char} {ls : List Lexeme}
    (h : lexemes? fuel cs = some ls) {more : Nat} (hle : fuel ≤ more) :
    lexemes? more cs = some ls := by
  fun_induction lexemes? fuel cs generalizing more ls with
  | case1 fuel => rw [lexemes?]; exact h
  | case2 => cases h
  | case3 fuel c rest after hcomment ih =>
    obtain ⟨more, rfl⟩ := Nat.exists_eq_succ_of_ne_zero (Nat.ne_zero_of_lt hle)
    rw [lexemes?, hcomment]
    exact ih h (Nat.le_of_succ_le_succ hle)
  | case4 fuel c rest hcomment hblank ih =>
    obtain ⟨more, rfl⟩ := Nat.exists_eq_succ_of_ne_zero (Nat.ne_zero_of_lt hle)
    rw [lexemes?, hcomment, hblank]
    exact ih h (Nat.le_of_succ_le_succ hle)
  | case5 fuel c rest hcomment hblank inner text after hdoc ih =>
    obtain ⟨more, rfl⟩ := Nat.exists_eq_succ_of_ne_zero (Nat.ne_zero_of_lt hle)
    obtain ⟨found, hfound, rfl⟩ := Option.map_eq_some_iff.1 h
    rw [lexemes?, hcomment, if_neg hblank, hdoc]
    dsimp only
    rw [ih hfound (Nat.le_of_succ_le_succ hle)]
    rfl
  | case6 => cases h
  | case7 fuel c rest hcomment hblank hdoc l after hlexeme ih =>
    obtain ⟨more, rfl⟩ := Nat.exists_eq_succ_of_ne_zero (Nat.ne_zero_of_lt hle)
    obtain ⟨found, hfound, rfl⟩ := Option.map_eq_some_iff.1 h
    rw [lexemes?, hcomment, if_neg hblank, hdoc, hlexeme]
    dsimp only
    rw [ih hfound (Nat.le_of_succ_le_succ hle)]
    rfl

/-- What is skipped takes as much fuel as it has characters. -/
theorem Skips.lexemes?_eq {cs rest : List Char} (h : Skips cs rest) :
    rest.length ≤ cs.length ∧ ∀ {fuel : Nat} {ls : List Lexeme}, lexemes? fuel rest = some ls →
      lexemes? (fuel + (cs.length - rest.length)) cs = some ls := by
  induction h with
  | done cs =>
    refine ⟨Nat.le_refl _, ?_⟩
    intro fuel ls hread
    exact lexemes?_mono hread (Nat.le_add_right _ _)
  | @blank c cs rest hblank more ih =>
    obtain ⟨hlength, ih⟩ := ih
    refine ⟨Nat.le_succ_of_le hlength, ?_⟩
    intro fuel ls hread
    have hslash : c ≠ '/' := by
      rintro rfl
      exact absurd hblank (by decide)
    rw [List.length_cons, Nat.succ_sub hlength, Nat.add_succ, lexemes?,
      afterComment?_eq_none hslash, hblank]
    exact ih hread
  | @comment cs after rest hcomment more ih =>
    obtain ⟨hlength, ih⟩ := ih
    have hshorter := length_afterComment?_lt hcomment
    refine ⟨by omega, ?_⟩
    intro fuel ls hread
    cases cs with
    | nil => cases hcomment
    | cons c behind =>
      rw [List.length_cons] at hshorter ⊢
      have hfuel : fuel + (behind.length + 1 - rest.length) =
          fuel + (behind.length - rest.length) + 1 := by omega
      rw [hfuel, lexemes?, hcomment]
      exact lexemes?_mono (ih hread) (by omega)

/-- Where reading skips everything, a separating character comes first. -/
theorem Skips.separates {cs : List Char} (h : Skips cs []) : ∀ c ∈ cs.head?, Separates c := by
  intro c hc
  obtain ⟨rest, rfl⟩ := List.head?_eq_some_iff.1 hc
  cases h with
  | blank hblank _ => exact .inr hblank
  | comment hcomment _ =>
    refine .inl (Decidable.byContradiction fun hslash => ?_)
    rw [afterComment?_eq_none hslash] at hcomment
    cases hcomment

/-! ## What is accepted -/

/-- A text is accepted as an identifier exactly if it is a name with nothing else around it than what
reading skips. -/
theorem isIdentifier_iff {text : String} :
    isIdentifier text = true ↔ ∃ name, IsName name ∧ Wraps text name := by
  unfold isIdentifier lex lexChars
  dsimp only
  constructor
  · intro h
    split at h
    case h_2 => cases h
    case h_1 name hlex =>
      obtain ⟨ls, hlexemes, hgather⟩ := Option.bind_eq_some_iff.1 hlex
      obtain rfl := eq_of_gather_eq_ident hgather
      obtain ⟨hname, after, hskips, hafter⟩ := exists_skips_of_lexemes? hlexemes h
      exact ⟨name, hname, after, hskips, hafter⟩
  · rintro ⟨name, hname, after, hskips, hafter⟩
    -- what is behind the name gives no lexeme, and what is in front of it none either
    have hbehind : lexemes? after.length after = some [] := by
      have hnothing : lexemes? 0 [] = some [] := by rw [lexemes?]
      have hread := hafter.lexemes?_eq.2 hnothing
      rwa [List.length_nil, Nat.sub_zero, Nat.zero_add] at hread
    have hlexeme := lexeme?_name hname hafter.separates
    have hnamed : lexemes? (after.length + 1) (name.toList ++ after) =
        some [.tree (.ident name)] := by
      obtain ⟨c, rest, hchars, hc⟩ := hname.exists_cons
      rw [hchars, List.cons_append] at hlexeme ⊢
      rw [lexemes?_cons (solid_of_isIdentStart hc), hlexeme]
      dsimp only
      rw [hbehind]
      rfl
    obtain ⟨hlength, hread⟩ := hskips.lexemes?_eq
    have hread := hread hnamed
    have hnonempty : name.toList.length ≠ 0 := by
      obtain ⟨c, rest, hchars, -⟩ := hname.exists_cons
      rw [hchars]
      exact Nat.succ_ne_zero _
    rw [List.length_append] at hlength hread
    have hfuel : after.length + 1 + ((dropByteOrderMark text.toList).length -
        (name.toList.length + after.length)) ≤ (dropByteOrderMark text.toList).length + 1 := by
      omega
    rw [lexemes?_mono hread hfuel]
    exact hname.isPlainIdent

/-! ## Texts that are names -/

/-- A text without anything that starts a blank or a comment. -/
def IsTight (text : String) : Prop :=
  ∀ c ∈ text.toList, ¬ Separates c ∧ c ≠ byteOrderMark

/-- A name is tight. -/
theorem IsName.isTight {name : String} (h : IsName name) : IsTight name := by
  have hword {word : String} (hword : IsWord word) : IsTight word := by
    intro c hc
    have hsolid := solid_of_isWord hword c hc
    exact ⟨hsolid.not_separates, hsolid.ne_mark⟩
  cases h with
  | plain word free => exact hword word
  | raw word spelled allowed eq =>
    intro c hc
    rw [eq, String.toList_append, List.mem_append] at hc
    obtain hc | hc := hc
    · have hsigns : "r#".toList.all
          (fun d => !(d == '/' || isTokenBlank d) && d != byteOrderMark) = true := by decide
      have hsign := List.all_eq_true.1 hsigns c hc
      simpa [Separates] using hsign
    · exact hword spelled c hc

/-- Nothing is skipped in front of a text without blanks and comments. -/
theorem Skips.eq_of_tight {cs rest : List Char} (h : Skips cs rest)
    (htight : ∀ c ∈ cs, ¬ Separates c) : cs = rest := by
  cases h with
  | done => rfl
  | blank hblank _ => exact absurd (.inr hblank) (htight _ List.mem_cons_self)
  | comment hcomment _ =>
    cases cs with
    | nil => cases hcomment
    | cons c behind =>
      have hslash : c ≠ '/' := fun heq => htight c List.mem_cons_self (.inl heq)
      rw [afterComment?_eq_none hslash] at hcomment
      cases hcomment

/-- A tight text starts with no byte order mark. -/
theorem IsTight.dropByteOrderMark_eq {text : String} (h : IsTight text) :
    dropByteOrderMark text.toList = text.toList := by
  cases hchars : text.toList with
  | nil => rfl
  | cons c rest =>
    have hne := (h c (by rw [hchars]; exact List.mem_cons_self)).2
    exact if_neg (by simpa using hne)

/-- A name is accepted with nothing around it. -/
theorem isIdentifier_of_isName {name : String} (h : IsName name) : isIdentifier name = true := by
  apply isIdentifier_iff.2
  refine ⟨name, h, [], ?_, .done []⟩
  rw [h.isTight.dropByteOrderMark_eq, List.append_nil]
  exact .done _

/-- A text around a name is the name exactly if nothing in it is skipped. -/
theorem Wraps.eq_iff {text name : String} (h : Wraps text name) (hname : IsName name) :
    text = name ↔ IsTight text := by
  constructor
  · rintro rfl
    exact hname.isTight
  · intro htight
    obtain ⟨after, hskips, hafter⟩ := h
    rw [htight.dropByteOrderMark_eq] at hskips
    have hsplit := hskips.eq_of_tight fun c hc => (htight c hc).1
    have hnil : after = [] := by
      refine hafter.eq_of_tight ?_
      intro c hc
      exact (htight c (by rw [hsplit]; exact List.mem_append_right _ hc)).1
    rw [hnil, List.append_nil] at hsplit
    exact String.toList_injective hsplit

end ExprGate.Token
