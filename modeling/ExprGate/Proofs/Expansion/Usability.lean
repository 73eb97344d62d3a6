import ExprGate.Proofs.Expansion.PathLists
import ExprGate.Proofs.Marker.Discovery
import ExprGate.Proofs.Text.QualifiedName

/-!
# Markers that the expansion accepts and the generator can use

A marker type that the expansion accepts and a declaration uses is found by the generator, with the
lists of paths that are written out and without an error about it, exactly if its arguments keep to
the forms in which lists of paths are documented (`usable_iff`).
-/

set_option autoImplicit false

namespace ExprGate.Expansion

open Declaration Grammar Source Token Marker

/-! ## The annotation among the others -/

/-- The path of the annotation of markers is its name, with more in front at most. -/
theorem text_of_isMetaPath {p : Grammar.Path} (h : IsMetaPath p) :
    p.text = metaName ∨ ∃ before, p.text = before ++ Text.separator ++ metaName := by
  obtain ⟨s, hlast, hs⟩ := Option.map_eq_some_iff.1 h
  obtain ⟨init, hsegments⟩ := List.getLast?_eq_some_iff.1 hlast
  have hjoined : "::".intercalate (p.segments.map Segment.name) =
      Text.joinSegments (init.map Segment.name ++ [metaName]) := by
    rw [hsegments, List.map_append, List.map_singleton, hs]
    rfl
  unfold Path.text
  rw [hjoined]
  by_cases hinit : init.map Segment.name = []
  · rw [hinit]
    split
    · exact .inr ⟨"", rfl⟩
    · exact .inl rfl
  · rw [Text.joinSegments_concat hinit]
    split
    · refine .inr ⟨"::" ++ Text.joinSegments (init.map Segment.name), ?_⟩
      rw [String.append_assoc, String.append_assoc, String.append_assoc]
    · exact .inr ⟨_, rfl⟩

/-- An annotation by such a path makes a type a marker. -/
theorem isMeta_of_isMetaPath {p : Grammar.Path} (h : IsMetaPath p)
    (values : List (String × Value)) : isMeta ⟨p.text, values⟩ = true := by
  have hcolon : ':' ∉ metaName.toList := by decide
  unfold isMeta Annotation.simpleName
  rw [beq_iff_eq]
  obtain htext | ⟨before, htext⟩ := text_of_isMetaPath h
  · rw [htext]
    exact Text.simpleName_of_not_mem hcolon
  · rw [htext]
    exact Text.simpleName_append before hcolon

/-- The annotations of attributes are those of the first ones and those of the others. -/
theorem annotations?_append {first : List Meta} (others : List Meta) {as bs : List Annotation}
    (h : annotations? (first ++ others) = some bs) (hfirst : annotations? first = some as) :
    ∃ rest, annotations? others = some rest ∧ bs = as ++ rest := by
  unfold annotations? at h hfirst ⊢
  obtain ⟨found, hfound, rfl⟩ := Option.map_eq_some_iff.1 h
  obtain ⟨foundFirst, hfoundFirst, rfl⟩ := Option.map_eq_some_iff.1 hfirst
  rw [List.mapM_append, hfoundFirst] at hfound
  change ((others.mapM annotationsOf?).bind fun rest => some (foundFirst ++ rest)) = _ at hfound
  obtain ⟨rest, hrest, heq⟩ := Option.bind_eq_some_iff.1 hfound
  obtain rfl := Option.some.inj heq
  exact ⟨rest.flatten, by rw [hrest, Option.map_some], List.flatten_append⟩

/-- A type that is declared by a structure with an attribute of the annotation of markers, the first
of its kind. -/
structure Declares (item tokens : List Tree) (t : TypeDecl) : Prop where
  kind : t.kind = .struct
  members : ∀ body declaration, parse structDeclaration item = some (body, declaration) →
    t.members = body.fields
  annotations : ∃ before p delimiter after others, IsMetaPath p ∧
    annotations? before = some others ∧ (∀ a ∈ others, isMeta a = false) ∧
      annotations? (before ++ .list p delimiter tokens :: after) = some t.annotations

/-- The annotation that makes the type a marker has the members of the arguments. -/
theorem Declares.find? {item tokens : List Tree} {t : TypeDecl} {args : List Argument}
    (h : Declares item tokens t) (hargs : parse argumentList tokens = some args) :
    ∃ name, t.annotations.find? isMeta = some ⟨name, args.map argumentMember⟩ := by
  obtain ⟨before, p, delimiter, after, others, hpath, hbefore, hothers, hall⟩ := h.annotations
  obtain ⟨rest, hrest, heq⟩ := annotations?_append _ hall hbefore
  obtain ⟨behind, -, rfl⟩ := annotations?_append after hrest (annotations?_meta hpath hargs)
  refine ⟨p.text, ?_⟩
  have hnone : others.find? isMeta = none :=
    List.find?_eq_none.2 fun a ha => by rw [hothers a ha]; exact Bool.false_ne_true
  rw [heq, List.find?_append, hnone, Option.none_or]
  exact List.find?_cons_of_pos (isMeta_of_isMetaPath hpath _)

/-! ## Examining the marker -/

variable {c : Catalog} {t : TypeDecl} {a : Annotation} {d : Descriptor}

/-- A marker whose settings can be set and that has the field for the expression is found, without
reports. -/
theorem examine_eq (hget : c.get? t.name = some t) (ha : t.annotations.find? isMeta = some a)
    (hkind : t.kind = .struct) (hset : Descriptor.ofAnnotation a = (.ok d, []))
    (hmember : t.hasMember d.expressionMember = true) :
    examine c t.name = (some ⟨t.name, d⟩, []) := by
  have hconfigure : configure t a = (.ok d, []) := by
    unfold configure
    rw [hkind, hset]
    simp [hmember]
  unfold examine
  simp only [hget, ha, hconfigure]
  rfl

/-- A marker that is found has the settings of its annotation. -/
theorem ofAnnotation_of_examine {marker : ExprGate.Marker} {name : String}
    (hget : c.get? name = some t) (ha : t.annotations.find? isMeta = some a)
    (h : (examine c name).1 = some marker) :
    (Descriptor.ofAnnotation a).1 = .ok marker.descriptor := by
  obtain ⟨d, hconfigure, hexamine⟩ | ⟨e, -, hexamine⟩ := examine_cases hget ha
  · rw [hexamine] at h
    rw [← Option.some.inj h]
    exact (of_configure_eq_ok hconfigure).2.2
  · rw [hexamine] at h
    cases h

/-! ## Usable markers -/

/-- The generator finds a marker with the lists of paths that are written out, and reports no error
about it. -/
structure Usable (c : Catalog) (name : String) (out : List Tree) : Prop where
  found : ∃ marker ∈ (discover c).1, marker.name = name ∧
    ∀ p, emittedPaths? out p = some (marker.descriptor.paths p)
  noError : ∀ report ∈ (discover c).2, report.element = name → report.isError = false

/-- A marker that is found without reports is discovered, and no report is about it. -/
theorem usable_of_examine {name : String} {marker : ExprGate.Marker} {out : List Tree}
    (hused : name ∈ used c) (h : examine c name = (some marker, []))
    (hpaths : ∀ p, emittedPaths? out p = some (marker.descriptor.paths p)) : Usable c name out := by
  have hresult : examine c name ∈ (used c).map (examine c) := List.mem_map.2 ⟨name, hused, rfl⟩
  refine ⟨⟨marker, List.mem_filterMap.2 ⟨_, hresult, by rw [h]⟩, ?_, hpaths⟩, ?_⟩
  · exact name_of_examine (by rw [h])
  · rintro report hreport rfl
    obtain ⟨result, hresult, hmem⟩ := List.mem_flatMap.1 hreport
    obtain ⟨other, -, rfl⟩ := List.mem_map.1 hresult
    rw [element_of_mem_examine hmem] at h
    rw [h] at hmem
    cases hmem

/-- A marker type that the expansion accepts, that is declared once and that a declaration uses, is
usable for the generator exactly if its arguments keep to the documented forms of lists of paths. -/
theorem usable_iff {item tokens out : List Tree} (hsingle : HasSingleNames tokens)
    (hout : expandMarkerType tokens item = .ok out) (hdeclares : Declares item tokens t)
    (hget : c.get? t.name = some t) (hused : t.name ∈ used c) :
    Usable c t.name out ↔
      ∀ args, parse argumentList tokens = some args → ∀ arg ∈ args, KeepsToForms arg := by
  obtain ⟨m, hm, rfl⟩ := tokens_of_expandMarkerType hout
  have haccepted := MarkerType.accepted_of_ofTokens hm
  obtain ⟨args, hargs, htakes, hnodup⟩ := haccepted.takesAll
  obtain ⟨name, ha⟩ := hdeclares.find? hargs
  constructor
  · rintro ⟨⟨marker, hmarker, hname, hpaths⟩, -⟩ args' hargs'
    obtain rfl := Option.some.inj (hargs.symm.trans hargs')
    obtain ⟨result, hresult, hexamine⟩ := List.mem_filterMap.1 hmarker
    obtain ⟨other, -, rfl⟩ := List.mem_map.1 hresult
    obtain rfl : t.name = other := hname.symm.trans (name_of_examine hexamine)
    refine htakes.keepsToForms (hsingle args hargs) hnodup
      (ofAnnotation_of_examine hget ha hexamine) ?_
    intro p
    exact Option.some.inj ((emittedPaths?_tokens m p).symm.trans (hpaths p))
  · intro hforms
    have hset := htakes.setAll_eq (hsingle args hargs) (hforms args hargs)
    have hmember : t.hasMember m.descriptor.expressionMember = true := by
      unfold TypeDecl.hasMember
      rw [hdeclares.members _ _ haccepted.declaration]
      exact haccepted.contains
    exact usable_of_examine hused (examine_eq hget ha hdeclares.kind hset hmember)
      (emittedPaths?_tokens m)

/-- The marker type of a crate, with the members of its annotation. -/
def securedByType (values : List (String × Value)) : TypeDecl :=
  { name := "app::SecuredBy", annotations := [⟨metaName, values⟩], members := ["value"] }

/-- A type that uses the marker. -/
def ordersType : TypeDecl :=
  { name := "app::Orders", annotations := [⟨"SecuredBy", [("value", .text "true")]⟩] }

/-- The declarations of the crate. -/
def securedByCatalog (values : List (String × Value)) : Catalog :=
  .ofTypes [securedByType values, ordersType]

/-- The marker of the crate is in use. -/
theorem mem_used_securedBy (values : List (String × Value)) :
    (securedByType values).name ∈ used (securedByCatalog values) := by
  have htype : ordersType ∈ (securedByCatalog values).types :=
    List.mem_cons_of_mem _ List.mem_cons_self
  have hsite : (⟨none, "app", ordersType.annotations⟩ : Site) ∈ sites ordersType :=
    List.mem_cons_self
  have hresolve : (securedByCatalog values).resolve? "app" "SecuredBy" =
      some (securedByType values) := rfl
  have hpath : IsMetaPath metaPath := rfl
  have hmarker : isMarker (securedByType values) = true :=
    List.any_eq_true.2 ⟨_, List.mem_cons_self, isMeta_of_isMetaPath hpath values⟩
  exact mem_used htype hsite List.mem_cons_self hresolve hmarker

/-- The structure declares the marker type if the members are those of the arguments. -/
theorem declares_securedBy {tokens : List Tree} {args : List Argument}
    (hargs : parse argumentList tokens = some args) :
    Declares securedByStruct tokens (securedByType (args.map argumentMember)) := by
  have hpath : IsMetaPath metaPath := rfl
  refine ⟨rfl, ?_, [], metaPath, .paren, [], [], hpath, rfl, nofun, ?_⟩
  · intro body declaration hbody
    have hfields : (parse structDeclaration securedByStruct).map (fun parsed => parsed.1.fields) =
        some ["value"] := rfl
    rw [hbody] at hfields
    exact (Option.some.inj hfields).symm
  · exact annotations?_meta hpath hargs

/-- The marker type is usable with a list of paths in delimiters. -/
theorem usable_securedBy :
    ∃ out args, expandMarkerType securedByArguments securedByStruct = .ok out ∧
      parse argumentList securedByArguments = some args ∧
        Usable (securedByCatalog (args.map argumentMember)) "app::SecuredBy" out := by
  obtain ⟨out, hout⟩ := expandMarkerType_securedByArguments
  obtain ⟨first, p, d, inner, e, q, hargs, hfirst, hinner, hform⟩ : ∃ first p d inner e q,
      parse argumentList securedByArguments = some [first, .named (.list p d inner)] ∧
        settingOf? first = some (.text .contextVariable) ∧
          parse exprList inner = some [e] ∧ e.form = .path q :=
    ⟨_, _, _, _, _, _, rfl, rfl, rfl, rfl⟩
  refine ⟨out, _, hout, hargs, ?_⟩
  refine (usable_iff hasSingleNames_securedBy hout (declares_securedBy hargs) rfl
    (mem_used_securedBy _)).2 ?_
  intro args hargs' arg harg m paths heq hpaths
  obtain rfl := Option.some.inj (hargs.symm.trans hargs')
  obtain rfl | harg := List.mem_cons.1 harg
  · rw [hfirst] at hpaths
    cases hpaths
  · obtain rfl := List.mem_singleton.1 harg
    obtain rfl := Argument.named.inj heq
    refine .list ?_
    intro es hes x hx
    obtain rfl := Option.some.inj (hinner.symm.trans hes)
    obtain rfl := List.mem_singleton.1 hx
    -- the only element is a path without quotes
    intro text htext
    rw [hform] at htext
    cases htext

/-- Arguments that give a path without quotes as the value. -/
def unquotedArguments : List Tree :=
  .ident "imports" :: operator "=" ++ (.ident "auth" :: operator "::" ++ [.ident "Claims"])

/-- The expansion accepts a path without quotes as the value, and the generator reports an error and
finds no marker. -/
theorem not_usable_unquoted :
    ∃ out args, expandMarkerType unquotedArguments securedByStruct = .ok out ∧
      parse argumentList unquotedArguments = some args ∧
        Declares securedByStruct unquotedArguments (securedByType (args.map argumentMember)) ∧
          "app::SecuredBy" ∈ used (securedByCatalog (args.map argumentMember)) ∧
            discover (securedByCatalog (args.map argumentMember)) =
              ([], [⟨.error, "app::SecuredBy",
                "`meta_jel` member `imports` must be a list of paths"⟩]) ∧
                ¬ Usable (securedByCatalog (args.map argumentMember)) "app::SecuredBy" out := by
  obtain ⟨a, ha, hmember, hnaming⟩ : ∃ a, Arguments.ofTokens unquotedArguments = .ok a ∧
      a.descriptor.expressionMember = "value" ∧ a.descriptor.naming = .standard :=
    ⟨_, rfl, rfl, rfl⟩
  obtain ⟨out, hout⟩ := expandMarkerType_securedByStruct ha hmember hnaming
  obtain ⟨args, hargs, hmembers⟩ : ∃ args, parse argumentList unquotedArguments = some args ∧
      args.map argumentMember = [("imports", .raw "auth :: Claims")] := ⟨_, rfl, rfl⟩
  have hdiscover : discover (securedByCatalog (args.map argumentMember)) =
      ([], [⟨.error, "app::SecuredBy",
        "`meta_jel` member `imports` must be a list of paths"⟩]) := by
    rw [hmembers]
    rfl
  refine ⟨out, args, hout, hargs, declares_securedBy hargs, mem_used_securedBy _, hdiscover, ?_⟩
  rintro ⟨⟨marker, hmarker, -⟩, -⟩
  rw [hdiscover] at hmarker
  cases hmarker

end ExprGate.Expansion
