import Mathlib.Data.List.TakeWhile
import Mathlib.Tactic.IntervalCases
import ExprGate.Proofs.Text.Words
import ExprGate.Token.Lexer

/-!
# Texts that are read as identifiers

Reading skips blanks and comments, so a text that is read as one identifier need not be that
identifier. It is if it holds no character that starts a comment, a blank or a mark
(`isWord_of_isIdentifier`): gathering loses no lexeme (`eq_of_gather_eq_ident`), so there is only
one, and it takes the whole text.
-/

set_option autoImplicit false

namespace ExprGate.Token

open Text

/-- A text is spelled as an identifier. -/
def IsWord (s : String) : Prop :=
  ∃ c rest, s.toList = c :: rest ∧ isIdentStart c = true ∧ ∀ d ∈ rest, isIdentContinue d = true

/-! ## Characters of identifiers -/

/-- Whether each range lies inside one of some others. Both lists are in increasing order, so ranges
that end too early for one range are too early for those behind it. -/
def rangesWithin : List (Nat × Nat) → List (Nat × Nat) → Bool
  | [], _ => true
  | (first, last) :: rest, ranges =>
    match ranges.dropWhile fun (_, b) => Nat.blt b last with
    | [] => false
    | (a, b) :: later => Nat.ble a first && rangesWithin rest ((a, b) :: later)

/-- Ranges that pass the check lie inside others. -/
theorem exists_of_rangesWithin {inner ranges : List (Nat × Nat)}
    (h : rangesWithin inner ranges = true) :
    ∀ r ∈ inner, ∃ range ∈ ranges, range.1 ≤ r.1 ∧ r.2 ≤ range.2 := by
  induction inner generalizing ranges with
  | nil => simp
  | cons r rest ih =>
    obtain ⟨first, last⟩ := r
    unfold rangesWithin at h
    have hsuffix := List.dropWhile_suffix (fun (r : Nat × Nat) => Nat.blt r.2 last) (l := ranges)
    split at h
    case h_1 => cases h
    case h_2 a b later hdrop =>
      rw [hdrop] at hsuffix
      obtain ⟨hfirst, hrest⟩ := Bool.and_eq_true_iff.1 h
      -- the range that is left in front does not end too early
      have hlast : Nat.blt b last = false := by
        have hhead := List.head?_dropWhile_not (fun (r : Nat × Nat) => Nat.blt r.2 last) ranges
        rw [hdrop] at hhead
        simpa using hhead
      intro r hr
      obtain rfl | hr := List.mem_cons.1 hr
      · refine ⟨(a, b), hsuffix.subset List.mem_cons_self, Nat.le_of_ble_eq_true hfirst, ?_⟩
        rw [← Bool.not_eq_true, Nat.blt_eq] at hlast
        exact Nat.not_lt.1 hlast
      · obtain ⟨range, hrange, hin⟩ := ih hrest r hr
        exact ⟨range, hsuffix.subset hrange, hin⟩

/-- A character that starts an identifier also continues one. -/
theorem isIdentContinue_of_isIdentStart {c : Char} (h : isIdentStart c = true) :
    isIdentContinue c = true := by
  unfold isIdentStart at h
  unfold isIdentContinue
  split at h
  · rename_i hascii
    rw [if_pos hascii]
    obtain halpha | hunderscore := Bool.or_eq_true_iff.1 h
    · simp [Char.isAlphanum, halpha]
    · simp [hunderscore]
  · rename_i hascii
    rw [if_neg hascii]
    obtain ⟨⟨first, last⟩, hrange, hin⟩ := List.any_eq_true.1 h
    have htables : rangesWithin startTable.ranges continueTable.ranges = true := by decide +kernel
    obtain ⟨⟨a, b⟩, hrange', hlow, hhigh⟩ := exists_of_rangesWithin htables _ hrange
    refine List.any_eq_true.2 ⟨(a, b), hrange', ?_⟩
    simp only [Bool.and_eq_true, decide_eq_true_eq] at hin hlow hhigh ⊢
    omega

/-- A text that is spelled as an identifier has characters of identifiers only. -/
theorem IsWord.all_isIdentContinue {s : String} (h : IsWord s) :
    s.toList.all isIdentContinue = true := by
  obtain ⟨c, rest, hchars, hstart, hrest⟩ := h
  rw [hchars]
  apply List.all_eq_true.2
  exact List.forall_mem_cons.2 ⟨isIdentContinue_of_isIdentStart hstart, hrest⟩

/-! ## Characters that are not skipped -/

/-- A character that reading neither skips nor takes for the beginning of a comment or of a raw
identifier. -/
structure Solid (c : Char) : Prop where
  ne_slash : c ≠ '/'
  ne_hash : c ≠ '#'
  ne_mark : c ≠ byteOrderMark
  not_blank : isTokenBlank c = false

/-- A character that is not reserved is solid. -/
theorem solid_of_isReserved {c : Char} (h : isReserved c = false) : Solid c := by
  constructor
  case ne_slash =>
    rintro rfl
    exact absurd h (by decide)
  case ne_hash =>
    rintro rfl
    exact absurd h (by decide)
  case ne_mark =>
    rintro rfl
    exact absurd h (by decide)
  case not_blank =>
    unfold isReserved at h
    rw [Bool.eq_false_iff, Ne, List.contains_iff_mem] at h
    rw [Bool.eq_false_iff]
    intro hblank
    refine h ?_
    unfold isTokenBlank isBlank at hblank
    generalize c.toNat = n at hblank
    have hlow (hrange : 9 ≤ n ∧ n ≤ 13) : n ∈ reservedCodes := by
      obtain ⟨hfirst, hlast⟩ := hrange
      interval_cases n <;> decide
    have hhigh (hrange : 0x2000 ≤ n ∧ n ≤ 0x200A) : n ∈ reservedCodes := by
      obtain ⟨hfirst, hlast⟩ := hrange
      interval_cases n <;> decide
    simp only [Bool.or_eq_true, Bool.and_eq_true, decide_eq_true_eq, beq_iff_eq, or_assoc] at hblank
    obtain h | rfl | rfl | rfl | rfl | h | rfl | rfl | rfl | rfl | rfl | rfl | rfl := hblank
    · exact hlow h
    case inr.inr.inr.inr.inr.inl => exact hhigh h
    all_goals decide

/-- A property that of the reserved characters at most the underscore has is one of solid
characters. -/
theorem solid_of_reserved {p : Char → Bool}
    (h : ∀ n ∈ reservedCodes, (p (Char.ofNat n) && Char.ofNat n != '_') = false) {c : Char}
    (hc : p c = true) : Solid c := by
  by_cases hunderscore : c = '_'
  · subst hunderscore
    exact ⟨by decide, by decide, by decide, by decide⟩
  · refine solid_of_isReserved ?_
    refine isReserved_eq_false (p := fun d => p d && d != '_') h ?_
    simp [hc, hunderscore]

/-- A character of an identifier is solid. -/
theorem solid_of_isIdentContinue {c : Char} (h : isIdentContinue c = true) : Solid c :=
  solid_of_reserved (by decide +kernel) h

/-! ## Gathering -/

/-- The trees before all groups that are still open. -/
def ground (outer : List (Delimiter × List Tree)) (done : List Tree) : List Tree :=
  (outer.getLast?.map Prod.snd).getD done

/-- Opening one more group leaves the trees in front of all groups. -/
theorem ground_cons (frame : Delimiter × List Tree) (outer : List (Delimiter × List Tree))
    (done : List Tree) : ground (frame :: outer) done = ground outer frame.2 := by
  unfold ground
  cases outer with
  | nil => rfl
  | cons next outer => rw [List.getLast?_cons_cons]; rfl

/-- The trees before all open groups stay; what is open becomes a group behind them, and no lexeme
is lost. -/
theorem gather_eq_ground (outer : List (Delimiter × List Tree)) (done : List Tree)
    {ls : List Lexeme} {ts : List Tree} (h : gather outer done ls = some ts) :
    ∃ more, ts = (ground outer done).reverse ++ more ∧
      (outer ≠ [] → ∃ d inner more', more = .group d inner :: more') ∧
      (ls ≠ [] → more ≠ []) := by
  induction ls generalizing outer done with
  | nil =>
    cases outer with
    | nil =>
      obtain rfl := Option.some.inj h
      exact ⟨[], (List.append_nil _).symm, fun hne => absurd rfl hne, fun hne => absurd rfl hne⟩
    | cons frame outer => cases h
  | cons l rest ih =>
    cases l with
    | tree t =>
      obtain ⟨more, hts, hgroup, -⟩ := ih _ _ h
      cases outer with
      | nil =>
        refine ⟨t :: more, ?_, fun hne => absurd rfl hne, fun _ => List.cons_ne_nil _ _⟩
        rw [hts]
        simp [ground]
      | cons frame outer =>
        obtain ⟨d, inner, more', rfl⟩ := hgroup (List.cons_ne_nil _ _)
        refine ⟨_, ?_, hgroup, fun _ => List.cons_ne_nil _ _⟩
        rw [hts, ground_cons, ground_cons]
    | opening d =>
      obtain ⟨more, hts, hgroup, -⟩ := ih _ _ h
      obtain ⟨d', inner, more', rfl⟩ := hgroup (List.cons_ne_nil _ _)
      exact ⟨_, hts.trans (by rw [ground_cons]), fun _ => ⟨_, _, _, rfl⟩,
        fun _ => List.cons_ne_nil _ _⟩
    | closing d =>
      cases outer with
      | nil => cases h
      | cons frame outer =>
        unfold gather at h
        dsimp only at h
        split at h
        · obtain ⟨more, hts, hgroup, -⟩ := ih _ _ h
          cases outer with
          | nil =>
            refine ⟨.group d done.reverse :: more, ?_, fun _ => ⟨_, _, _, rfl⟩,
              fun _ => List.cons_ne_nil _ _⟩
            rw [hts]
            simp [ground]
          | cons next outer =>
            obtain ⟨d', inner, more', rfl⟩ := hgroup (List.cons_ne_nil _ _)
            refine ⟨.group d' inner :: more', ?_, fun _ => ⟨_, _, _, rfl⟩,
              fun _ => List.cons_ne_nil _ _⟩
            rw [hts, ground_cons, ground_cons, ground_cons]
        · cases h

/-- Lexemes that are gathered into one identifier are that identifier. -/
theorem eq_of_gather_eq_ident {ls : List Lexeme} {name : String}
    (h : gather [] [] ls = some [.ident name]) : ls = [.tree (.ident name)] := by
  cases ls with
  | nil => cases h
  | cons l rest =>
    cases l with
    | tree t =>
      obtain ⟨more, hts, -, hmore⟩ := gather_eq_ground [] [t] h
      obtain ⟨rfl, rfl⟩ := List.cons.inj hts
      cases rest with
      | nil => rfl
      | cons l' rest => exact absurd rfl (hmore (List.cons_ne_nil _ _))
    | opening d =>
      obtain ⟨more, hts, hgroup, -⟩ := gather_eq_ground [(d, [])] [] h
      obtain ⟨d', inner, more', rfl⟩ := hgroup (List.cons_ne_nil _ _)
      cases hts
    | closing d => cases h

/-! ## Lexemes -/

/-- No comment starts without a slash. -/
theorem afterComment?_eq_none {c : Char} (h : c ≠ '/') (rest : List Char) :
    afterComment? (c :: rest) = none := by
  unfold afterComment?
  split
  · rename_i heq
    exact absurd (List.cons.inj heq).1 h
  · rename_i heq
    exact absurd (List.cons.inj heq).1 h
  · rfl

/-- No comment for documentation starts without a slash. -/
theorem docComment?_eq_none {c : Char} (h : c ≠ '/') (rest : List Char) :
    docComment? (c :: rest) = none := by
  unfold docComment?
  dsimp only
  split
  all_goals try exact absurd (List.cons.inj ‹_ = _›).1 h
  rfl

/-- A character that is not skipped starts a lexeme. -/
theorem lexemes?_cons {c : Char} (h : Solid c) (fuel : Nat) (rest : List Char) :
    lexemes? (fuel + 1) (c :: rest) =
      match lexeme? (c :: rest) with
      | none => none
      | some (l, after) => (lexemes? fuel after).map (l :: ·) := by
  rw [lexemes?, afterComment?_eq_none h.ne_slash, h.not_blank, docComment?_eq_none h.ne_slash]
  rfl

/-- There is no lexeme only where there is nothing to read. -/
theorem eq_nil_of_lexemes?_eq_nil {fuel : Nat} {cs : List Char} (hsolid : ∀ c ∈ cs, Solid c)
    (h : lexemes? fuel cs = some []) : cs = [] := by
  cases cs with
  | nil => rfl
  | cons c rest =>
    cases fuel with
    | zero => cases h
    | succ fuel =>
      rw [lexemes?_cons (hsolid c List.mem_cons_self)] at h
      split at h
      · cases h
      · obtain ⟨ls, -, hcons⟩ := Option.map_eq_some_iff.1 h
        cases hcons

/-- Punctuation is read as a character of it. -/
theorem exists_punct_of_punct? {cs rest : List Char} {t : Tree} (h : punct? cs = some (t, rest)) :
    ∃ c joint, t = .punct c joint := by
  unfold punct? at h
  split at h
  · cases h
  · split at h
    · cases h
    · dsimp only at h
      split at h
      · cases h
      · obtain ⟨rfl, -⟩ := Prod.mk.inj (Option.some.inj h)
        exact ⟨_, _, rfl⟩
  · obtain ⟨rfl, -⟩ := Prod.mk.inj (Option.some.inj h)
    exact ⟨_, _, rfl⟩

/-- A lexeme that is an identifier is read as one. -/
theorem identifier?_of_lexeme? {cs after : List Char} {name : String}
    (h : lexeme? cs = some (.tree (.ident name), after)) : identifier? cs = some (name, after) := by
  unfold lexeme? at h
  split at h
  case h_7 =>
    split at h
    · cases h
    · split at h
      · rename_i hpunct
        obtain ⟨c, joint, rfl⟩ := exists_punct_of_punct? hpunct
        cases h
      · obtain ⟨⟨name', after'⟩, hident, heq⟩ := Option.map_eq_some_iff.1 h
        cases heq
        exact hident
  all_goals cases h

/-- Without `#`, an identifier is what comes before the rest. -/
theorem afterIdent?_of_identifier? {cs after : List Char} {name : String} (hhash : '#' ∉ cs)
    (h : identifier? cs = some (name, after)) :
    afterIdent? cs = some after ∧ name = String.ofList (cs.take (cs.length - after.length)) := by
  unfold identifier? at h
  split at h
  · cases h
  · unfold identAny? at h
    split at h
    · exact absurd (by simp) hhash
    · obtain ⟨after', hafter, heq⟩ := Option.map_eq_some_iff.1 h
      cases heq
      exact ⟨hafter, rfl⟩

/-- A text of characters that are not skipped is read as an identifier only if it is spelled as one
and is no keyword. -/
theorem isWord_of_isIdentifier {s : String} (hsolid : ∀ c ∈ s.toList, Solid c)
    (h : isIdentifier s = true) : IsWord s ∧ isPlainIdent s = true := by
  unfold isIdentifier lex lexChars at h
  split at h
  case h_2 => cases h
  case h_1 name hlex =>
    cases hcs : s.toList with
    | nil =>
      rw [hcs] at hlex
      cases hlex
    | cons c rest =>
      rw [hcs] at hlex hsolid
      have hfirst := hsolid c List.mem_cons_self
      have hmark : dropByteOrderMark (c :: rest) = c :: rest :=
        if_neg (by simpa using hfirst.ne_mark)
      obtain ⟨ls, hlexemes, hgather⟩ := Option.bind_eq_some_iff.1 hlex
      obtain rfl := eq_of_gather_eq_ident hgather
      rw [hmark, lexemes?_cons hfirst] at hlexemes
      split at hlexemes
      · cases hlexemes
      · rename_i l after hlexeme
        obtain ⟨ls', hrest, hcons⟩ := Option.map_eq_some_iff.1 hlexemes
        obtain ⟨rfl, rfl⟩ := List.cons.inj hcons
        have hhash : '#' ∉ c :: rest := fun hmem => (hsolid '#' hmem).ne_hash rfl
        obtain ⟨hafter, rfl⟩ := afterIdent?_of_identifier? hhash (identifier?_of_lexeme? hlexeme)
        rw [afterIdent?] at hafter
        split at hafter
        case isFalse => cases hafter
        case isTrue hstart =>
          obtain rfl := Option.some.inj hafter
          -- the rest is read to its end, so nothing comes after the identifier
          have hnil : rest.dropWhile isIdentContinue = [] := by
            refine eq_nil_of_lexemes?_eq_nil ?_ hrest
            intro d hd
            exact hsolid d (List.mem_cons_of_mem _ ((List.dropWhile_suffix _).mem hd))
          rw [hnil, List.length_nil, Nat.sub_zero, List.take_length, ← hcs,
            String.ofList_toList] at h
          exact ⟨⟨c, rest, hcs, hstart, List.dropWhile_eq_nil_iff.1 hnil⟩, h⟩

end ExprGate.Token
