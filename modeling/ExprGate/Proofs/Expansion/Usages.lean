import Mathlib.Data.List.Basic
import ExprGate.Expansion.Usage
import ExprGate.Proofs.Grammar.Attribute
import ExprGate.Proofs.Source.Annotation
import ExprGate.Proofs.Text.QualifiedName

/-!
# Usages in both readings

The arguments of a container of usages are read twice as well: the expansion of a type has every
named path checked, and the generator reads an annotation for every usage. Both take the same
entries, in order, and leave out those for the runtime library (`expandUsages_usages`). But the
expansion goes no further than the entries, where the generator reads the arguments of each. So what
is expanded is read exactly if these arguments follow the grammar too.
-/

set_option autoImplicit false

namespace ExprGate.Expansion

open Declaration Grammar Source Token

/-! ## Reading the check back -/

/-- The parts of some trees that stand between angle brackets; `inside` has what follows an opening
one so far, newest first. -/
def angledParts (inside : Option (List Tree)) : List Tree → List (List Tree)
  | [] => []
  | .punct '<' _ :: rest => angledParts (some []) rest
  | .punct '>' _ :: rest => (inside.map List.reverse).toList ++ angledParts none rest
  | t :: rest => angledParts (inside.map (t :: ·)) rest

/-- Whether a tree is a block. -/
def isBlock : Tree → Bool
  | .group .brace _ => true
  | _ => false

/-- The trees behind the last block. -/
def behindBlocks (ts : List Tree) : List Tree :=
  (ts.reverse.takeWhile (!isBlock ·)).reverse

/-- The paths that an expanded declaration has checked. It ends with a block and a semicolon, and in
the block each check behind the function names its path in angle brackets. -/
def assertedPaths? (out : List Tree) : Option (List String) :=
  match out.dropLast.getLast? with
  | some (.group .brace body) =>
    some ((angledParts none (behindBlocks body)).map fun part => String.join (part.map Tree.text))
  | _ => none

/-- A tree that is no angle bracket belongs to the part that it stands in. -/
theorem angledParts_cons {t : Tree} (inside : Option (List Tree)) (rest : List Tree)
    (hopen : ∀ joint, t ≠ .punct '<' joint) (hclose : ∀ joint, t ≠ .punct '>' joint) :
    angledParts inside (t :: rest) = angledParts (inside.map (t :: ·)) rest := by
  rw [angledParts.eq_def]
  split
  · rename_i heq
    cases heq
  · rename_i heq
    exact absurd (List.cons.inj heq).1 (hopen _)
  · rename_i heq
    exact absurd (List.cons.inj heq).1 (hclose _)
  · rename_i heq
    obtain ⟨rfl, rfl⟩ := List.cons.inj heq
    rfl

/-- Trees without angle brackets up to a closing one are a part. -/
theorem angledParts_append {part : List Tree} (done rest : List Tree) (joint : Bool)
    (hpart : ∀ t ∈ part, ∀ joint, t ≠ .punct '<' joint ∧ t ≠ .punct '>' joint) :
    angledParts (some done) (part ++ .punct '>' joint :: rest) =
      (done.reverse ++ part) :: angledParts none rest := by
  induction part generalizing done with
  | nil => simp [angledParts]
  | cons t part ih =>
    rw [List.forall_mem_cons] at hpart
    rw [List.cons_append, angledParts_cons _ _ (fun joint => (hpart.1 joint).1)
      (fun joint => (hpart.1 joint).2), Option.map_some, ih _ hpart.2]
    simp

/-- A path is written with words and colons. -/
theorem mem_tokens {p : Grammar.Path} {t : Tree} (h : t ∈ p.tokens) :
    (∃ name, t = .ident name) ∨ ∃ joint, t = .punct ':' joint := by
  have hcolons : ∀ t ∈ operator "::", ∃ joint, t = .punct ':' joint := by
    intro t ht
    obtain rfl | rfl := List.mem_pair.1 (show t ∈ [.punct ':' true, .punct ':' false] from ht)
    · exact ⟨true, rfl⟩
    · exact ⟨false, rfl⟩
  unfold Grammar.Path.tokens at h
  obtain h | h := List.mem_append.1 h
  · split at h
    · exact .inr (hcolons t h)
    · cases h
  · obtain h | ⟨part, hpart, ht⟩ := Text.mem_intercalate h
    · exact .inr (hcolons t h)
    · obtain ⟨s, -, rfl⟩ := List.mem_map.1 hpart
      exact .inl ⟨s.name, List.mem_singleton.1 ht⟩

/-- The tokens of a path spell its text. -/
theorem join_tokens (p : Grammar.Path) : String.join (p.tokens.map Tree.text) = p.text := by
  have hcolons : String.join ((operator "::").map Tree.text) = "::" := by decide +kernel
  have hword (name : String) : String.join ([.ident name].map Tree.text) = name := by
    simp [Tree.text]
  have hsegments : String.join (((operator "::").intercalate
      (p.segments.map fun s => [.ident s.name])).map Tree.text) =
        "::".intercalate (p.segments.map Segment.name) := by
    generalize p.segments = segments
    induction segments with
    | nil => rfl
    | cons s rest ih =>
      cases rest with
      | nil =>
        rw [List.map_singleton, List.map_singleton, List.intercalate_singleton,
          String.intercalate_singleton]
        exact hword s.name
      | cons next rest =>
        simp only [List.map_cons (l := rest), List.map_cons (l := next :: rest)] at ih ⊢
        rw [List.intercalate_cons_cons, String.intercalate_cons_cons, ← ih, List.map_append,
          List.map_append, String.join_append, String.join_append, hcolons, hword]
  unfold Grammar.Path.tokens Grammar.Path.text
  dsimp only
  rw [List.map_append, String.join_append, hsegments]
  split
  · rw [hcolons]
  · exact String.empty_append

/-- A check has the path of its marker in angle brackets. -/
theorem markerCheck_append (p : Grammar.Path) (rest : List Tree) :
    markerCheck p ++ rest =
      [.ident "assert_marker", .punct ':' true, .punct ':' false, .punct '<' false] ++
        (p.tokens ++ .punct '>' false :: ([.group .paren [], .punct ';' false] ++ rest)) := by
  simp [markerCheck, operator]

/-- The path of each check is found in it. -/
theorem angledParts_markerCheck (markers : List Grammar.Path) :
    angledParts none (markers.flatMap markerCheck) = markers.map Grammar.Path.tokens := by
  induction markers with
  | nil => rfl
  | cons p markers ih =>
    have hfree : ∀ t ∈ p.tokens, ∀ joint, t ≠ .punct '<' joint ∧ t ≠ .punct '>' joint := by
      intro t ht joint
      obtain ⟨name, rfl⟩ | ⟨joint, rfl⟩ := mem_tokens ht
      · exact ⟨nofun, nofun⟩
      · constructor <;> intro heq <;> cases heq
    rw [List.flatMap_cons, markerCheck_append]
    change angledParts (some []) (p.tokens ++ .punct '>' false :: _) = _
    rw [angledParts_append _ _ _ hfree]
    change _ :: angledParts none (markers.flatMap markerCheck) = _
    rw [ih]
    rfl

/-- There is no block in a check. -/
theorem isBlock_of_mem_markerCheck {p : Grammar.Path} {t : Tree} (h : t ∈ markerCheck p) :
    isBlock t = false := by
  rw [← List.append_nil (markerCheck p), markerCheck_append] at h
  simp only [List.append_nil, List.mem_append, List.mem_cons, List.not_mem_nil, or_false] at h
  obtain (rfl | rfl | rfl | rfl) | h | rfl | rfl | rfl := h
  case inr.inl =>
    obtain ⟨name, rfl⟩ | ⟨joint, rfl⟩ := mem_tokens h <;> rfl
  all_goals rfl

/-- Behind a block, trees that are none are left over. -/
theorem behindBlocks_append (before : List Tree) (inner : List Tree) {after : List Tree}
    (hafter : ∀ t ∈ after, isBlock t = false) :
    behindBlocks (before ++ [.group .brace inner] ++ after) = after := by
  have hreverse : ∀ t ∈ after.reverse, (!isBlock t) = true := by
    intro t ht
    rw [hafter t (List.mem_reverse.1 ht)]
    rfl
  unfold behindBlocks
  rw [List.reverse_append, List.reverse_append, List.takeWhile_append_of_pos hreverse,
    List.reverse_singleton, List.singleton_append, List.takeWhile_cons_of_neg (by simp [isBlock]),
    List.append_nil, List.reverse_reverse]

/-- The paths of a check are found behind any declaration. -/
theorem assertedPaths?_tokens (item : List Tree) (c : Check) :
    assertedPaths? (item ++ c.tokens) = some (c.markers.map Grammar.Path.text) := by
  have hchecks : ∀ t ∈ c.markers.flatMap markerCheck, isBlock t = false := by
    intro t ht
    obtain ⟨p, -, ht⟩ := List.mem_flatMap.1 ht
    exact isBlock_of_mem_markerCheck ht
  obtain ⟨before, function, htokens⟩ : ∃ before function, item ++ c.tokens =
      before ++ [.group .brace (function ++ [.group .brace []] ++ c.markers.flatMap markerCheck)] ++
        [.punct ';' false] := by
    have hend : operator ";" = [.punct ';' false] := rfl
    refine ⟨item ++ ([.ident "const", .ident "_"] ++ operator ":" ++ [.ident "fn", .group .paren []] ++
      operator "=" ++ operator "||"), [.ident "fn", .ident "assert_marker"] ++ operator "<" ++
        (.ident "M" :: operator ":" ++ c.runtime ++ operator "::" ++ [.ident "Marker"]) ++
        operator ">" ++ [.group .paren []], ?_⟩
    unfold Check.tokens
    rw [hend]
    simp only [List.append_assoc, List.cons_append, List.nil_append]
  unfold assertedPaths?
  rw [htokens, List.dropLast_concat, List.getLast?_concat]
  dsimp only
  rw [behindBlocks_append _ _ hchecks, angledParts_markerCheck, List.map_map]
  exact congrArg some (List.map_congr_left fun p _ => join_tokens p)

/-! ## The entries that are taken -/

/-- An entry adds its path to the check if it is a usage. -/
theorem Check.markers_add {c c' : Check} {m : Meta} (h : c.add m = .ok c') :
    c'.markers = c.markers ++ (usageEntries [m]).map Meta.name := by
  unfold Check.add at h
  unfold usageEntries
  cases hruntime : isRuntimeEntry m with
  | true =>
    rw [hruntime, if_pos rfl] at h
    rw [List.filter_cons_of_neg (by simp [hruntime]), List.filter_nil, List.map_nil, List.append_nil]
    cases hpath : runtimeOf m with
    | error e =>
      rw [hpath] at h
      cases h
    | ok runtime =>
      rw [hpath] at h
      rw [← Except.ok.inj h]
  | false =>
    rw [hruntime, if_neg Bool.false_ne_true] at h
    rw [List.filter_cons_of_pos (by simp [hruntime]), ← Except.ok.inj h]
    rfl

/-- Checking entries adds the names of the usages among them. -/
theorem Check.markers_foldlM {c c' : Check} {entries : List Meta}
    (h : entries.foldlM Check.add c = .ok c') :
    c'.markers = c.markers ++ (usageEntries entries).map Meta.name := by
  induction entries generalizing c with
  | nil =>
    obtain rfl := Except.ok.inj h
    exact (List.append_nil _).symm
  | cons m entries ih =>
    rw [List.foldlM_cons] at h
    cases hadd : c.add m with
    | error e =>
      rw [hadd] at h
      cases h
    | ok first =>
      rw [hadd] at h
      have hsplit : usageEntries (m :: entries) = usageEntries [m] ++ usageEntries entries :=
        List.filter_append [m] entries
      rw [ih h, Check.markers_add hadd, hsplit, List.map_append, List.append_assoc]

/-- The check has the names of the usages, in order. -/
theorem markers_of_ofArguments {args : List Tree} {c : Check} (h : Check.ofArguments args = .ok c) :
    ∃ entries, parse metaList args = some entries ∧
      c.markers.map Grammar.Path.text = usageNames entries := by
  unfold Check.ofArguments at h
  cases hparse : parse metaList args with
  | none =>
    rw [hparse] at h
    cases h
  | some entries =>
    rw [hparse] at h
    refine ⟨entries, rfl, ?_⟩
    rw [Check.markers_foldlM h, List.nil_append, List.map_map]
    rfl

/-! ## Main result -/

/-- What is checked behind a type and what is read as its annotations agree: the names that are
checked are those of the usages among the entries, without entries for the runtime library, and if
annotations are read, they have these names. None are read exactly if a usage has arguments that do
not follow the grammar. -/
structure ReadAlike (entries : List Meta) (asserted : Option (List String))
    (read : Option (List Annotation)) : Prop where
  asserted : asserted = some (usageNames entries)
  noRuntime : Marker.runtimeKey ∉ usageNames entries
  names : ∀ as, read = some as → as.map Annotation.name = usageNames entries
  unread : read = none ↔
    ∃ p d tokens, .list p d tokens ∈ usageEntries entries ∧ parse argumentList tokens = none

/-- Usages are not named like the entry for the runtime library. -/
theorem runtimeKey_not_mem_usageNames {args : List Tree} {entries : List Meta}
    (h : parse metaList args = some entries) : Marker.runtimeKey ∉ usageNames entries := by
  intro hmem
  obtain ⟨m, hm, htext⟩ := List.mem_map.1 hmem
  obtain ⟨hentry, husage⟩ := List.mem_filter.1 hm
  have hruntime : isRuntimeEntry m = true :=
    (Path.isWord_iff (isPlain_of_parse_metaList h m hentry) (by decide) (by decide)).2 htext
  rw [hruntime] at husage
  cases husage

/-- For every attribute that holds usages, and every type that they are expanded in front of: the
entries are read alike. -/
theorem expandUsages_usages {p : Grammar.Path} (hp : isMark p = true) (d : Delimiter)
    {args item out : List Tree} (hitem : declaresType item = true)
    (hout : expandUsages args item = .ok out) :
    ∃ entries, parse metaList args = some entries ∧
      ReadAlike entries (assertedPaths? out) (annotations? [.list p d args]) := by
  unfold expandUsages at hout
  cases hcheck : Check.ofArguments args with
  | error e =>
    rw [hcheck] at hout
    cases hout
  | ok check =>
    rw [hcheck] at hout
    obtain rfl : item ++ check.tokens = out := by simpa [Except.map, hitem] using hout
    obtain ⟨entries, hentries, hmarkers⟩ := markers_of_ofArguments hcheck
    exact ⟨entries, hentries,
      { asserted := by rw [assertedPaths?_tokens, hmarkers]
        noRuntime := runtimeKey_not_mem_usageNames hentries
        names := fun _ => map_name_of_annotations?_mark hp hentries
        unread := annotations?_mark_eq_none_iff hp hentries }⟩

/-- The name of the container as it is written without a path in front. -/
def markPath : Grammar.Path :=
  ⟨false, [⟨"mark", .none⟩]⟩

/-- A type for usages to stand in front of. -/
def ordersStruct : List Tree :=
  [.ident "pub", .ident "struct", .ident "Orders"] ++ operator ";"

/-- An entry for the runtime library and two usages. -/
def ordersUsages : List Tree :=
  .ident "crate" :: operator "=" ++ [.literal "\"::jel_runtime\""] ++ operator "," ++
    .ident "Evaluable" :: operator "=" ++ [.literal "\"true\""] ++ operator "," ++
    .ident "auth" :: operator "::" ++ [.ident "SecuredBy", .group .paren [.literal "\"true\""]]

/-- An entry for the runtime library and two usages are expanded, and what is checked are the names
of the usages, which are read as annotations. -/
theorem expandUsages_usages_orders :
    ∃ out as, expandUsages ordersUsages ordersStruct = .ok out ∧
      annotations? [.list markPath .paren ordersUsages] = some as ∧
      as.map Annotation.name = ["Evaluable", "auth::SecuredBy"] ∧
      assertedPaths? out = some ["Evaluable", "auth::SecuredBy"] := by
  obtain ⟨as, has, hnames⟩ : ∃ as, annotations? [.list markPath .paren ordersUsages] = some as ∧
      as.map Annotation.name = ["Evaluable", "auth::SecuredBy"] :=
    Option.map_eq_some_iff.1 (by decide +kernel)
  have haccepted : (expandUsages ordersUsages ordersStruct).isOk = true := by decide +kernel
  cases hout : expandUsages ordersUsages ordersStruct with
  | error e =>
    rw [hout] at haccepted
    cases haccepted
  | ok out =>
    obtain ⟨entries, -, halike⟩ :=
      expandUsages_usages (p := markPath) (by decide) .paren (by decide +kernel) hout
    refine ⟨out, as, rfl, has, hnames, ?_⟩
    rw [halike.asserted, ← halike.names as has, hnames]

/-- A usage whose argument is a sum. -/
def ruleUsages : List Tree :=
  [.ident "Rule", .group .paren ([.literal "1"] ++ operator "+" ++ [.literal "1"])]

/-- The expansion has the path of the usage checked, and no annotations are read. -/
theorem expandUsages_unread :
    (expandUsages ruleUsages ordersStruct).toOption.bind assertedPaths? = some ["Rule"] ∧
      (annotations? [.list markPath .paren ruleUsages]).isNone = true := by
  decide +kernel

end ExprGate.Expansion
