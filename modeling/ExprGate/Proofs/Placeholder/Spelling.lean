import ExprGate.Proofs.Placeholder.Delimiting

/-!
# What a successful expansion is made of

`Spells` says, on texts and not on their pieces, what a template comes to if no placeholder in it is
an error: characters stand for themselves, a placeholder for what its value or its fallback comes
to. Every successful strict expansion is of this kind (`spells_of_expand`).

In what a closed template without escapes comes to, `${` can only arise where a dollar sign and a
brace that stand apart are brought together. There are two ways to rule that out: no dollar sign
stands in front of a place where something may be put (`DollarsApart`), or no brace stands behind
one (`BracesApart`). Either makes the expansion verbatim (`Spells.isVerbatim`).
-/

set_option autoImplicit false

namespace ExprGate.Placeholder

open Text

/-- The text that a template comes to, if all its placeholders can be replaced. -/
inductive Spells (b : Bindings) : List Char → List Char → Prop where
  | nil : Spells b [] []
  | escape {rest out : List Char} (h : Spells b rest out) :
    Spells b ('\\' :: '$' :: '{' :: rest) ('$' :: '{' :: out)
  | unclosed {rest : List Char} (h : closingBrace? rest = none) :
    Spells b ('$' :: '{' :: rest) ('$' :: '{' :: rest)
  | value {rest body after value replaced out : List Char}
    (hbody : closingBrace? rest = some (body, after))
    (hvalue : b.value? (Placeholder.mk body).name = some value)
    (hreplaced : Spells b value replaced) (hafter : Spells b after out) :
    Spells b ('$' :: '{' :: rest) (replaced ++ out)
  | fallback {rest body after fallback replaced out : List Char}
    (hbody : closingBrace? rest = some (body, after))
    (hvalue : b.value? (Placeholder.mk body).name = none)
    (hfallback : (Placeholder.mk body).fallback? = some fallback)
    (hreplaced : Spells b fallback replaced) (hafter : Spells b after out) :
    Spells b ('$' :: '{' :: rest) (replaced ++ out)
  | char {c : Char} {rest out : List Char} (hopening : ∀ inner, c :: rest ≠ '$' :: '{' :: inner)
    (hescape : ∀ inner, c :: rest ≠ '\\' :: '$' :: '{' :: inner) (h : Spells b rest out) :
    Spells b (c :: rest) (c :: out)

/-! ## Successful expansions -/

/-- Only the empty template has no pieces. -/
theorem eq_nil_of_pieces {text : List Char} (h : pieces text = []) : text = [] := by
  rw [pieces.eq_def] at h
  split at h
  · rfl
  · cases h
  · split at h <;> cases h
  · cases h

/-- A text whose first piece is a literal starts with an escape, with a placeholder that is left
open, or with a character of neither. -/
theorem literal_of_pieces {text literal : List Char} {ps : List Piece}
    (h : pieces text = .literal literal :: ps) :
    (∃ rest, text = '\\' :: '$' :: '{' :: rest ∧ literal = ['$', '{'] ∧ ps = pieces rest) ∨
      (∃ rest, text = '$' :: '{' :: rest ∧ closingBrace? rest = none ∧ literal = text ∧ ps = []) ∨
      ∃ c rest, text = c :: rest ∧ (∀ inner, c :: rest ≠ '$' :: '{' :: inner) ∧
        (∀ inner, c :: rest ≠ '\\' :: '$' :: '{' :: inner) ∧ literal = [c] ∧ ps = pieces rest := by
  rw [pieces.eq_def] at h
  split at h
  · cases h
  · obtain ⟨hliteral, rfl⟩ := List.cons.inj h
    exact .inl ⟨_, rfl, (Piece.literal.inj hliteral).symm, rfl⟩
  · split at h
    · rename_i hnone
      obtain ⟨hliteral, rfl⟩ := List.cons.inj h
      exact .inr (.inl ⟨_, rfl, hnone, (Piece.literal.inj hliteral).symm, rfl⟩)
    · cases h
  · rename_i c rest hescape hopening
    obtain ⟨hliteral, rfl⟩ := List.cons.inj h
    refine .inr (.inr ⟨c, rest, rfl, ?_, ?_, (Piece.literal.inj hliteral).symm, rfl⟩)
    · intro inner heq
      obtain ⟨rfl, rfl⟩ := List.cons.inj heq
      exact hopening inner rfl rfl
    · intro inner heq
      obtain ⟨rfl, rfl⟩ := List.cons.inj heq
      exact hescape inner rfl rfl

/-- A text whose first piece is a placeholder starts with it. -/
theorem placeholder_of_pieces {text : List Char} {p : Placeholder} {ps : List Piece}
    (h : pieces text = .placeholder p :: ps) :
    ∃ rest after, text = '$' :: '{' :: rest ∧ closingBrace? rest = some (p.body, after) ∧
      ps = pieces after := by
  rw [pieces.eq_def] at h
  split at h
  · cases h
  · cases h
  · split at h
    · cases h
    · rename_i body after hsome
      obtain ⟨hplaceholder, rfl⟩ := List.cons.inj h
      obtain rfl := Piece.placeholder.inj hplaceholder
      exact ⟨_, after, rfl, hsome, rfl⟩
  · cases h

/-- A sequence of two steps succeeds with the second, behind the first. -/
theorem ok_of_bind {ε α β : Type} {x : Except ε α} {f : α → Except ε β} {result : β}
    (h : (x >>= f) = .ok result) : ∃ a, x = .ok a ∧ f a = .ok result := by
  cases x with
  | error e => cases h
  | ok a => exact ⟨a, rfl, h⟩

/-- What the pieces of a text strictly expand to is what the text comes to. -/
theorem spells_of_expandPieces {b : Bindings} {inProgress : List (List Char)} {ps : List Piece}
    {text out : List Char} (hpieces : pieces text = ps)
    (h : expandPieces b .strict inProgress ps = .ok out) : Spells b text out := by
  generalize hmode : Mode.strict = mode at h
  fun_induction expandPieces b mode inProgress ps generalizing text out with
  | case1 =>
    obtain rfl := Except.ok.inj h
    obtain rfl := eq_nil_of_pieces hpieces
    exact .nil
  | case2 inProgress literal ps ih =>
    obtain ⟨after, hafter, hout⟩ := ok_of_bind h
    obtain rfl := Except.ok.inj hout
    obtain ⟨rest, rfl, rfl, rfl⟩ | ⟨rest, rfl, hnone, rfl, rfl⟩ |
      ⟨c, rest, rfl, hopening, hescape, rfl, rfl⟩ := literal_of_pieces hpieces
    · exact .escape (ih rfl hafter)
    · rw [expandPieces] at hafter
      obtain rfl := Except.ok.inj hafter
      rw [List.append_nil]
      exact .unclosed hnone
    · exact .char hopening hescape (ih rfl hafter)
  | case3 => cases h
  | case4 inProgress p ps _ value hvalue _ ihvalue ihafter =>
    obtain ⟨replaced, hreplaced, hrest⟩ := ok_of_bind h
    obtain ⟨after, hafter, hout⟩ := ok_of_bind hrest
    obtain rfl := Except.ok.inj hout
    obtain ⟨rest, behind, rfl, hbody, rfl⟩ := placeholder_of_pieces hpieces
    exact .value hbody hvalue (ihvalue rfl hreplaced) (ihafter rfl hafter)
  | case5 inProgress p ps _ fallback hvalue hfallback _ _ _ ihfallback ihafter =>
    obtain ⟨replaced, hreplaced, hrest⟩ := ok_of_bind h
    obtain ⟨after, hafter, hout⟩ := ok_of_bind hrest
    obtain rfl := Except.ok.inj hout
    obtain ⟨rest, behind, rfl, hbody, rfl⟩ := placeholder_of_pieces hpieces
    exact .fallback hbody hvalue hfallback (ihfallback rfl hreplaced) (ihafter rfl hafter)
  | case6 => cases h
  | case7 _ _ _ _ _ _ hlenient => cases hmode.trans hlenient

/-- What a strict expansion gives is spelled by its template. -/
theorem spells_of_expand {b : Bindings} {inProgress : List (List Char)} {text out : List Char}
    (h : expand b .strict inProgress text = .ok out) : Spells b text out :=
  spells_of_expandPieces rfl h

/-! ## Dollar signs and braces that stand apart -/

/-- No dollar sign stands directly in front of a placeholder or at the end of a fallback. -/
structure DollarsApart (text : List Char) : Prop where
  opening : ¬ ['$', '$', '{'] <:+: text
  closing : ¬ ['$', '}'] <:+: text

/-- No brace stands directly behind a placeholder or at the start of a fallback. -/
structure BracesApart (text : List Char) : Prop where
  closing : ¬ ['}', '{'] <:+: text
  fallback : ¬ [':', '-', '{'] <:+: text

/-- In a part of a text, the dollar signs stand apart as they do in the text. -/
theorem DollarsApart.of_isInfix {text part : List Char} (h : DollarsApart text)
    (hpart : part <:+: text) : DollarsApart part :=
  ⟨fun ho => h.opening (ho.trans hpart), fun hc => h.closing (hc.trans hpart)⟩

/-- In a part of a text, the braces stand apart as they do in the text. -/
theorem BracesApart.of_isInfix {text part : List Char} (h : BracesApart text)
    (hpart : part <:+: text) : BracesApart part :=
  ⟨fun hc => h.closing (hc.trans hpart), fun hf => h.fallback (hf.trans hpart)⟩

/-- The values of the bindings have no dollar sign. -/
def Bindings.IsDollarFree (b : Bindings) : Prop :=
  ∀ name value, b.value? name = some value → '$' ∉ value

/-- No value of the bindings starts with a brace. -/
def Bindings.IsBraceFree (b : Bindings) : Prop :=
  ∀ name value, b.value? name = some value → value.head? ≠ some '{'

/-- The brace that closes a placeholder, with what is behind it, is an end of the text. -/
theorem closing_suffix {rest body after : List Char}
    (h : closingBrace? rest = some (body, after)) : '}' :: after <:+ '$' :: '{' :: rest := by
  rw [closingBrace?_eq_append h]
  exact ⟨'$' :: '{' :: body, rfl⟩

/-- What is behind a placeholder is an end of the text. -/
theorem after_suffix {rest body after : List Char} (h : closingBrace? rest = some (body, after)) :
    after <:+ '$' :: '{' :: rest :=
  (List.suffix_cons _ _).trans (closing_suffix h)

/-- In a text with a placeholder in front, `:-`, the fallback and the closing brace stand in this
order, with nothing between them. -/
theorem infix_fallback_closed {rest body after fallback : List Char}
    (h : closingBrace? rest = some (body, after))
    (hfallback : (Placeholder.mk body).fallback? = some fallback) :
    ':' :: '-' :: (fallback ++ ['}']) <:+: '$' :: '{' :: rest := by
  obtain ⟨name, rfl⟩ : ∃ name, body = name ++ ':' :: '-' :: fallback :=
    ⟨_, body_eq_append hfallback⟩
  rw [closingBrace?_eq_append h]
  exact ⟨'$' :: '{' :: name, after, by simp⟩

/-- The fallback of a placeholder is a part of the text. -/
theorem infix_fallback {rest body after fallback : List Char}
    (h : closingBrace? rest = some (body, after))
    (hfallback : (Placeholder.mk body).fallback? = some fallback) :
    fallback <:+: '$' :: '{' :: rest :=
  List.IsInfix.trans ⟨[':', '-'], ['}'], by simp⟩ (infix_fallback_closed h hfallback)

/-- Where the braces stand apart, none is the first character behind a placeholder. -/
theorem BracesApart.head?_after {rest body after : List Char}
    (h : BracesApart ('$' :: '{' :: rest)) (hbody : closingBrace? rest = some (body, after)) :
    after.head? ≠ some '{' := by
  intro hhead
  obtain ⟨tail, rfl⟩ := List.head?_eq_some_iff.1 hhead
  exact h.closing (List.IsInfix.trans ⟨[], tail, rfl⟩ (closing_suffix hbody).isInfix)

/-- Where the braces stand apart, none is the first character of a fallback. -/
theorem BracesApart.head?_fallback {rest body after fallback : List Char}
    (h : BracesApart ('$' :: '{' :: rest)) (hbody : closingBrace? rest = some (body, after))
    (hfallback : (Placeholder.mk body).fallback? = some fallback) : fallback.head? ≠ some '{' := by
  intro hhead
  obtain ⟨tail, rfl⟩ := List.head?_eq_some_iff.1 hhead
  exact h.fallback (List.IsInfix.trans ⟨[], tail ++ ['}'], rfl⟩
    (infix_fallback_closed hbody hfallback))

/-- Where the dollar signs stand apart, none is the last character of a fallback. -/
theorem DollarsApart.getLast?_fallback {rest body after fallback : List Char}
    (h : DollarsApart ('$' :: '{' :: rest)) (hbody : closingBrace? rest = some (body, after))
    (hfallback : (Placeholder.mk body).fallback? = some fallback) :
    fallback.getLast? ≠ some '$' := by
  intro hlast
  obtain ⟨start, rfl⟩ := List.getLast?_eq_some_iff.1 hlast
  exact h.closing (List.IsInfix.trans ⟨':' :: '-' :: start, [], by simp⟩
    (infix_fallback_closed hbody hfallback))

variable {b : Bindings} {text out : List Char}

/-- A text without dollar sign comes to itself. -/
theorem Spells.eq_of_not_mem (h : Spells b text out) (hfree : '$' ∉ text) : out = text := by
  induction h with
  | nil => rfl
  | escape => simp at hfree
  | unclosed => rfl
  | value => simp at hfree
  | fallback => simp at hfree
  | char _ _ _ ih => rw [ih (List.not_mem_of_not_mem_cons hfree)]

/-- What starts with no placeholder keeps its first character. -/
theorem Spells.head?_eq (h : Spells b text out) (hopening : ∀ inner, text ≠ '$' :: '{' :: inner)
    (hescape : '\\' ∉ text) : out.head? = text.head? := by
  cases h with
  | nil => rfl
  | escape => simp at hescape
  | unclosed => exact absurd rfl (hopening _)
  | value => exact absurd rfl (hopening _)
  | fallback => exact absurd rfl (hopening _)
  | char => rfl

/-- Where the braces stand apart, no brace comes to the front. -/
theorem Spells.head?_eq_brace (h : Spells b text out) (hfree : b.IsDollarFree)
    (hbraces : b.IsBraceFree) (hapart : BracesApart text) (hhead : out.head? = some '{') :
    text.head? = some '{' := by
  induction h with
  | nil => exact hhead
  | escape => simp at hhead
  | unclosed => simp at hhead
  | char => exact hhead
  | @value rest body after value replaced out hbody hvalue hreplaced _ _ ihafter =>
    obtain rfl := hreplaced.eq_of_not_mem (hfree _ _ hvalue)
    have hnone := hbraces _ _ hvalue
    cases replaced with
    | cons c replaced => exact absurd hhead hnone
    | nil =>
      exact absurd (ihafter (hapart.of_isInfix (after_suffix hbody).isInfix) hhead)
        (hapart.head?_after hbody)
  | @fallback rest body after fallback replaced out hbody _ hfallback _ _ ihfallback ihafter =>
    cases replaced with
    | cons c replaced =>
      exact absurd (ihfallback (hapart.of_isInfix (infix_fallback hbody hfallback)) hhead)
        (hapart.head?_fallback hbody hfallback)
    | nil =>
      exact absurd (ihafter (hapart.of_isInfix (after_suffix hbody).isInfix) hhead)
        (hapart.head?_after hbody)

/-- What comes to nothing is empty or starts with a placeholder. -/
theorem Spells.eq_nil_or_opening (h : Spells b text []) :
    text = [] ∨ ∃ inner, text = '$' :: '{' :: inner := by
  generalize hout : [] = out at h
  cases h with
  | nil => exact .inl rfl
  | escape => cases hout
  | unclosed => cases hout
  | value => exact .inr ⟨_, rfl⟩
  | fallback => exact .inr ⟨_, rfl⟩
  | char => cases hout

/-- A text that has an end has its last character. -/
theorem getLast?_of_suffix {α : Type} {ending text : List α} {a : α} (h : ending <:+ text)
    (hlast : ending.getLast? = some a) : text.getLast? = some a := by
  obtain ⟨start, rfl⟩ := h
  rw [List.getLast?_append, hlast]
  rfl

/-- Where the dollar signs stand apart, no dollar sign comes to the end. -/
theorem Spells.getLast?_eq_dollar (h : Spells b text out) (hfree : b.IsDollarFree)
    (hescape : '\\' ∉ text) (hapart : DollarsApart text) (hlast : out.getLast? = some '$') :
    text.getLast? = some '$' := by
  induction h with
  | nil => exact hlast
  | escape => simp at hescape
  | unclosed => exact hlast
  | @char c rest out _ _ hrest ih =>
    cases out with
    | nil =>
      obtain rfl : c = '$' := by simpa using hlast
      obtain rfl | ⟨inner, rfl⟩ := hrest.eq_nil_or_opening
      · rfl
      · exact absurd ⟨[], inner, rfl⟩ hapart.opening
    | cons d out =>
      rw [List.getLast?_cons_cons] at hlast
      exact getLast?_of_suffix (List.suffix_cons c rest)
        (ih (List.not_mem_of_not_mem_cons hescape)
          (hapart.of_isInfix (List.suffix_cons c rest).isInfix) hlast)
  | @value rest body after value replaced out hbody hvalue hreplaced _ _ ihafter =>
    obtain rfl := hreplaced.eq_of_not_mem (hfree _ _ hvalue)
    rw [List.getLast?_append, Option.or_eq_some_iff] at hlast
    obtain hlast | ⟨-, hlast⟩ := hlast
    · have hafter := after_suffix hbody
      exact getLast?_of_suffix hafter
        (ihafter (fun hmem => hescape (hafter.subset hmem)) (hapart.of_isInfix hafter.isInfix) hlast)
    · exact absurd (List.mem_of_getLast? hlast) (hfree _ _ hvalue)
  | @fallback rest body after fallback replaced out hbody _ hfallback _ _ ihfallback ihafter =>
    rw [List.getLast?_append, Option.or_eq_some_iff] at hlast
    obtain hlast | ⟨-, hlast⟩ := hlast
    · have hafter := after_suffix hbody
      exact getLast?_of_suffix hafter
        (ihafter (fun hmem => hescape (hafter.subset hmem)) (hapart.of_isInfix hafter.isInfix) hlast)
    · have hpart := infix_fallback hbody hfallback
      exact absurd
        (ihfallback (fun hmem => hescape (hpart.subset hmem)) (hapart.of_isInfix hpart) hlast)
        (hapart.getLast?_fallback hbody hfallback)

/-! ## Expansions without openings -/

/-- The search for a part says whether it is one. -/
theorem occursIn_iff {part text : List Char} : occursIn part text = true ↔ part <:+: text := by
  induction text with
  | nil => rw [occursIn, List.isEmpty_iff, List.infix_nil]
  | cons c rest ih =>
    rw [occursIn, Bool.or_eq_true, ih, List.isPrefixOf_iff_prefix, List.infix_cons_iff]

/-- A text is verbatim just if it has no opening. -/
theorem isVerbatim_iff : IsVerbatim text ↔ ¬ opening <:+: text := by
  rw [← occursIn_iff, Bool.not_eq_true, IsVerbatim]

/-- Verbatim texts make up a verbatim text, unless a dollar sign and a brace meet. -/
theorem IsVerbatim.append {left right : List Char} (hleft : IsVerbatim left)
    (hright : IsVerbatim right)
    (hseam : left.getLast? = some '$' → right.head? ≠ some '{') : IsVerbatim (left ++ right) := by
  rw [isVerbatim_iff] at hleft hright ⊢
  intro hopening
  obtain hopening | hopening | ⟨start, ending, hstart, hending, heq, ⟨before, hbefore⟩,
    ⟨behind, hbehind⟩⟩ := List.infix_append_iff_ne_nil.1 hopening
  · exact hleft hopening
  · exact hright hopening
  · -- both ends are there, so the dollar sign is on the left and the brace on the right
    obtain ⟨c, rfl⟩ : ∃ c, start = [c] := by
      match start, ending with
      | [], _ => exact absurd rfl hstart
      | [c], _ => exact ⟨c, rfl⟩
      | _ :: _ :: _, [] => exact absurd rfl hending
      | _ :: _ :: _, _ :: _ => simp [opening] at heq
    obtain ⟨rfl, rfl⟩ := List.cons.inj heq
    apply hseam
    · rw [← hbefore]
      simp
    · rw [← hbehind]
      rfl

/-- A closed template without escapes in which the dollar signs or the braces stand apart. -/
structure KeepsApart (b : Bindings) (text : List Char) : Prop where
  closed : IsClosed text
  unescaped : '\\' ∉ text
  apart : DollarsApart text ∨ BracesApart text ∧ b.IsBraceFree

/-- The closed parts of such a template are of the same kind. -/
theorem KeepsApart.of_isInfix {part : List Char} (h : KeepsApart b text) (hclosed : IsClosed part)
    (hpart : part <:+: text) : KeepsApart b part where
  closed := hclosed
  unescaped := fun hmem => h.unescaped (hpart.subset hmem)
  apart := h.apart.imp (·.of_isInfix hpart) (And.imp_left (·.of_isInfix hpart))

/-- A template that keeps dollar signs and braces apart comes to a verbatim text, if the values have
no dollar sign. -/
theorem Spells.isVerbatim (h : Spells b text out) (hfree : b.IsDollarFree)
    (hkeeps : KeepsApart b text) : IsVerbatim out := by
  induction h with
  | nil => exact rfl
  | escape => exact absurd List.mem_cons_self hkeeps.unescaped
  | unclosed hnone => exact absurd hnone hkeeps.closed.closingBrace?_ne_none
  | @char c rest out hopening _ hrest ih =>
    have htail := hkeeps.of_isInfix hkeeps.closed.tail (List.suffix_cons c rest).isInfix
    have hsingle : IsVerbatim [c] :=
      isVerbatim_iff.2 fun hopening => absurd hopening.length_le (by simp [opening])
    refine hsingle.append (ih htail) ?_
    intro hdollar hbrace
    obtain rfl : c = '$' := by simpa using hdollar
    have hhead : rest.head? = some '{' := by
      obtain hapart | ⟨hapart, hbraces⟩ := hkeeps.apart
      · rw [← hrest.head?_eq ?_ htail.unescaped]
        · exact hbrace
        · rintro inner rfl
          exact hapart.opening ⟨[], inner, rfl⟩
      · exact hrest.head?_eq_brace hfree hbraces
          (hapart.of_isInfix (List.suffix_cons _ rest).isInfix) hbrace
    obtain ⟨inner, rfl⟩ := List.head?_eq_some_iff.1 hhead
    exact hopening inner rfl
  | @value rest body after value replaced out hbody hvalue hreplaced _ _ ihafter =>
    obtain rfl := hreplaced.eq_of_not_mem (hfree _ _ hvalue)
    refine (IsVerbatim.of_not_mem (hfree _ _ hvalue)).append
      (ihafter (hkeeps.of_isInfix (hkeeps.closed.after hbody) (after_suffix hbody).isInfix)) ?_
    intro hdollar
    exact absurd (List.mem_of_getLast? hdollar) (hfree _ _ hvalue)
  | @fallback rest body after fallback replaced out hbody _ hfallback hreplaced hafter ihfallback
      ihafter =>
    have hin := hkeeps.of_isInfix (isClosed_fallback hbody hfallback) (infix_fallback hbody hfallback)
    have hbehind := hkeeps.of_isInfix (hkeeps.closed.after hbody) (after_suffix hbody).isInfix
    refine (ihfallback hin).append (ihafter hbehind) ?_
    intro hdollar hbrace
    obtain hapart | ⟨hapart, hbraces⟩ := hkeeps.apart
    · exact hapart.getLast?_fallback hbody hfallback
        (hreplaced.getLast?_eq_dollar hfree hin.unescaped
          (hapart.of_isInfix (infix_fallback hbody hfallback)) hdollar)
    · exact hapart.head?_after hbody
        (hafter.head?_eq_brace hfree hbraces (hapart.of_isInfix (after_suffix hbody).isInfix) hbrace)

end ExprGate.Placeholder
