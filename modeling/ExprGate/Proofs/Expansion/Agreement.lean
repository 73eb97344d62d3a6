import ExprGate.Proofs.Expansion.Emitted
import ExprGate.Proofs.Expansion.MarkerType
import ExprGate.Proofs.Marker.Descriptor
import ExprGate.Source.Annotation

/-!
# Two readings of a marker's arguments

The arguments in front of a marker type are read twice: by the expansion, as typed values of which
each is given once, and by the generator, as members of an annotation that are set one after
another. Each argument that both readings accept gives both the same texts (`Takes.set_texts`), so
what is written out of the marker type has the texts that the generator goes by, whatever the
arguments are (`emittedText?_eq`).
-/

set_option autoImplicit false

namespace ExprGate.Expansion

open Declaration Grammar Source Token Marker

/-! ## Names -/

/-- An argument that has a name has a single word for it. -/
def IsSingleNamed (arg : Argument) : Prop :=
  ∀ m, arg = .named m → m.name.word?.isSome

/-- All named arguments among some tokens have single words for names. -/
def HasSingleNames (tokens : List Tree) : Prop :=
  ∀ args, parse argumentList tokens = some args → ∀ arg ∈ args, IsSingleNamed arg

/-- The member of a named argument has its name. -/
theorem argumentMember_key (m : Meta) : (argumentMember (.named m)).1 = m.name.text := by
  cases m <;> rfl

/-- Both readings take an argument for the same setting. -/
theorem ofKey?_argumentMember {arg : Argument} (h : IsSingleNamed arg) :
    Setting.ofKey? (argumentMember arg).1 = settingOf? arg := by
  cases arg with
  | literal l => rfl
  | named m =>
    obtain ⟨name, hname⟩ := Option.isSome_iff_exists.1 (h m rfl)
    unfold Path.word? at hname
    split at hname
    · rename_i hpath
      rw [argumentMember_key]
      unfold settingOf? settingName
      dsimp only
      rw [hpath]
      rfl
    · cases hname

/-! ## Texts -/

/-- A text is taken from an argument whose value is a string. -/
theorem textOf_ok {argument value : String} {m : Meta} (h : textOf argument m = .ok value) :
    (argumentMember (.named m)).2 = .text value := by
  unfold textOf at h
  split at h
  · cases h
  · cases h
  · rename_i p e
    split at h
    · rename_i s hform
      obtain rfl := Except.ok.inj h
      unfold argumentMember expressionValue
      dsimp only
      rw [hform]
      rfl
    · cases h

/-- Descriptors that agree in their texts. -/
def SameTexts (d e : Descriptor) : Prop :=
  ∀ s, d.text s = e.text s

/-- An argument changes the texts that the expansion reads as it changes those that the generator
reads. -/
theorem Takes.set_texts {d d' e c : Descriptor} {arg : Argument} {rest : List (String × Value)}
    (h : Takes d arg d') (hsingle : IsSingleNamed arg) (htexts : SameTexts d e)
    (he : (e.setAll (argumentMember arg :: rest)).1 = .ok c) :
    ∃ e', SameTexts d' e' ∧ (e'.setAll rest).1 = .ok c := by
  cases h with
  | @text m t value hsetting hvalue =>
    rw [← ofKey?_argumentMember hsingle] at hsetting
    obtain ⟨e', hset, hrest⟩ := Descriptor.setAll_cons_ok hsetting he
    rw [textOf_ok hvalue] at hset
    obtain rfl := Except.ok.inj hset
    refine ⟨_, ?_, hrest⟩
    intro s
    rw [Descriptor.text_setText, Descriptor.text_setText, htexts s]
  | @paths m p value hsetting hvalue =>
    rw [← ofKey?_argumentMember hsingle] at hsetting
    obtain ⟨e', hset, hrest⟩ := Descriptor.setAll_cons_ok hsetting he
    refine ⟨e', ?_, hrest⟩
    intro s
    rw [Descriptor.text_setPaths, htexts s]
    unfold Descriptor.set at hset
    dsimp only at hset
    split at hset
    · obtain rfl := Except.ok.inj hset
      rw [Descriptor.text_setPaths]
    · cases hset
  | @runtime m hsetting =>
    rw [← ofKey?_argumentMember hsingle] at hsetting
    obtain ⟨e', hset, hrest⟩ := Descriptor.setAll_cons_ok hsetting he
    obtain rfl := Except.ok.inj hset
    exact ⟨_, htexts, hrest⟩

/-- Arguments that both readings accept give both the same texts. -/
theorem TakesAll.setAll_texts {d d' e c : Descriptor} {args : List Argument}
    (h : TakesAll d args d') (hsingle : ∀ arg ∈ args, IsSingleNamed arg)
    (htexts : SameTexts d e) (he : (e.setAll (args.map argumentMember)).1 = .ok c) :
    SameTexts d' c := by
  induction h generalizing e with
  | nil d =>
    obtain rfl := Except.ok.inj he
    exact htexts
  | cons hfirst _ ih =>
    obtain ⟨e', htexts', hrest⟩ := hfirst.set_texts (hsingle _ List.mem_cons_self) htexts he
    exact ih (fun arg harg => hsingle arg (List.mem_cons_of_mem _ harg)) htexts' hrest

/-! ## The annotation of the attribute -/

/-- A path that names the annotation of markers. -/
def IsMetaPath (p : Grammar.Path) : Prop :=
  p.segments.getLast?.map Segment.name = some metaName

/-- The annotation of markers is neither documentation nor a container of usages. -/
theorem annotationsOf?_meta {p : Grammar.Path} {delimiter : Delimiter} {tokens : List Tree}
    {args : List Argument} (hpath : IsMetaPath p) (hargs : parse argumentList tokens = some args) :
    annotationsOf? (.list p delimiter tokens) = some [⟨p.text, args.map argumentMember⟩] := by
  have hdoc : p.isWord "doc" = false := by
    unfold Path.isWord Path.word?
    split
    · rename_i name
      obtain rfl : name = metaName := Option.some.inj hpath
      rfl
    · rfl
  have hmark : isMark p = false := by
    unfold isMark
    unfold IsMetaPath at hpath
    obtain ⟨s, hlast, hs⟩ := Option.map_eq_some_iff.1 hpath
    rw [hlast, Option.any_some, hs]
    rfl
  unfold annotationsOf? annotation? members?
  simp only [Meta.name, hdoc, hmark, hargs]
  rfl

/-- The attribute of a marker is read as one annotation, with the members of its arguments. -/
theorem annotations?_meta {p : Grammar.Path} {delimiter : Delimiter} {tokens : List Tree}
    {args : List Argument} (hpath : IsMetaPath p) (hargs : parse argumentList tokens = some args) :
    annotations? [.list p delimiter tokens] = some [⟨p.text, args.map argumentMember⟩] := by
  unfold annotations?
  rw [List.mapM_cons, annotationsOf?_meta hpath hargs]
  rfl

/-- Where the expansion accepts the arguments of a marker type and the generator can use the
annotation that it reads from the same attribute, the descriptor that is written out has the
generator's texts, and its patterns give the generator's names. -/
theorem emittedText?_eq {args item out : List Tree} {p : Grammar.Path} {delimiter : Delimiter}
    {a : Annotation} {c : Descriptor} (hsingle : HasSingleNames args) (hpath : IsMetaPath p)
    (hout : expandMarkerType args item = .ok out)
    (ha : annotations? [.list p delimiter args] = some [a])
    (hc : (Descriptor.ofAnnotation a).1 = .ok c) :
    (∀ s, emittedText? out s = some (c.text s)) ∧
      ∃ n, emittedNaming? out = some n ∧ ∀ className method,
        n.evaluatorName className method = c.naming.evaluatorName className method := by
  obtain ⟨m, hm, rfl⟩ := tokens_of_expandMarkerType hout
  obtain ⟨as, has, htakes, -⟩ := (MarkerType.accepted_of_ofTokens hm).takesAll
  rw [annotations?_meta hpath has] at ha
  obtain rfl := (List.cons.inj (Option.some.inj ha)).1
  have htexts : SameTexts m.descriptor c :=
    htakes.setAll_texts (hsingle as has) (fun _ => rfl) hc
  refine ⟨?_, m.descriptor.naming, emittedNaming?_tokens m, ?_⟩
  · intro s
    rw [emittedText?_tokens, htexts s]
  · intro className method
    rw [Descriptor.naming_eq htexts]

/-- Arguments that set a text and a list of paths. -/
def securedByArguments : List Tree :=
  .ident "context_variable_name" :: operator "=" ++ [.literal "\"jwt\""] ++ operator "," ++
    [.ident "imports", .group .paren (.ident "auth" :: operator "::" ++ [.ident "Claims"])]

/-- A structure with the field for the expression. -/
def securedByStruct : List Tree :=
  [.ident "pub", .ident "struct", .ident "SecuredBy",
    .group .brace (.ident "value" :: operator ":" ++ [.ident "String"])]

/-- What the arguments configure. -/
def securedByDescriptor : Descriptor :=
  { contextVariable := "jwt", imports := ["auth::Claims"] }

/-- The example's arguments have single words for names. -/
theorem hasSingleNames_securedBy : HasSingleNames securedByArguments := by
  intro args hargs arg harg m heq
  obtain ⟨first, second, hparse, hfirst, hsecond⟩ : ∃ first second,
      parse argumentList securedByArguments = some [.named first, .named second] ∧
        first.name.word?.isSome ∧ second.name.word?.isSome := ⟨_, _, rfl, rfl, rfl⟩
  obtain rfl := Option.some.inj (hparse.symm.trans hargs)
  obtain rfl | harg := List.mem_cons.1 harg
  · obtain rfl := Argument.named.inj heq
    exact hfirst
  · obtain rfl := List.mem_singleton.1 harg
    obtain rfl := Argument.named.inj heq
    exact hsecond

/-- The structure is accepted with arguments that leave the standard patterns and the standard field
alone. -/
theorem expandMarkerType_securedByStruct {tokens : List Tree} {a : Arguments}
    (ha : Arguments.ofTokens tokens = .ok a) (hmember : a.descriptor.expressionMember = "value")
    (hnaming : a.descriptor.naming = .standard) :
    ∃ out, expandMarkerType tokens securedByStruct = .ok out := by
  obtain ⟨body, declaration, hbody, hfields⟩ : ∃ body declaration,
      parse structDeclaration securedByStruct = some (body, declaration) ∧
        body.fields = ["value"] := ⟨_, _, rfl, rfl⟩
  have hfield : body.fields.contains a.descriptor.expressionMember = true := by
    rw [hfields, hmember]
    decide
  unfold expandMarkerType
  rw [MarkerType.ofTokens_of_standard ha hbody hfield hnaming]
  exact ⟨_, rfl⟩

/-- So it is accepted with these arguments. -/
theorem expandMarkerType_securedByArguments :
    ∃ out, expandMarkerType securedByArguments securedByStruct = .ok out := by
  obtain ⟨a, ha, hmember, hnaming⟩ : ∃ a, Arguments.ofTokens securedByArguments = .ok a ∧
      a.descriptor.expressionMember = "value" ∧ a.descriptor.naming = .standard :=
    ⟨_, rfl, rfl, rfl⟩
  exact expandMarkerType_securedByStruct ha hmember hnaming

/-- The name of the annotation as it is written without a path in front. -/
def metaPath : Grammar.Path :=
  ⟨false, [⟨metaName, .none⟩]⟩

/-- In the descriptor that is written out for the structure, the context has the configured name. -/
theorem emittedText?_securedBy :
    ∃ out, expandMarkerType securedByArguments securedByStruct = .ok out ∧
      emittedText? out .contextVariable = some "jwt" ∧
        emittedText? out .expressionMember = some "value" := by
  obtain ⟨out, hout⟩ := expandMarkerType_securedByArguments
  have hpath : IsMetaPath metaPath := rfl
  obtain ⟨a, ha, hc⟩ : ∃ a, annotations? [.list metaPath .paren securedByArguments] = some [a] ∧
      (Descriptor.ofAnnotation a).1 = .ok securedByDescriptor := ⟨_, rfl, rfl⟩
  obtain ⟨htexts, -⟩ := emittedText?_eq hasSingleNames_securedBy hpath hout ha hc
  exact ⟨out, hout, htexts .contextVariable, htexts .expressionMember⟩

end ExprGate.Expansion
