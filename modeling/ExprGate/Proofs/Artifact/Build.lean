import ExprGate.Artifact.Build
import ExprGate.Proofs.Files.Path
import ExprGate.Proofs.Text.QualifiedName
import ExprGate.Proofs.Text.Words
import ExprGate.Proofs.Token.Identifier

/-!
# What an artifact takes over

`BuiltFrom` lists what a built artifact has from its marker and its element. Its package is divided
into identifiers, so package and type name can be read off its segments, off the path of its type
(`BuiltFrom.typePath_eq`) and, where the segments are plain names, off the components of its file
(`BuiltFrom.file_same_iff`).
-/

set_option autoImplicit false

namespace ExprGate.Artifact

open Text Files

/-! ## The name of the type -/

/-- The parts of a name are pending characters, or letters and digits. -/
theorem mem_of_mem_namePartsFrom {pending cs part : List Char} {c : Char}
    (hpart : part ∈ namePartsFrom pending cs) (hc : c ∈ part) :
    c ∈ pending ∨ isAlphanumeric c = true := by
  fun_induction namePartsFrom pending cs with
  | case1 pending =>
    obtain rfl := List.mem_singleton.1 hpart
    exact .inl (List.mem_reverse.1 hc)
  | case2 pending d rest hd ih =>
    obtain hc | hc := ih hpart
    · obtain rfl | hc := List.mem_cons.1 hc
      · exact .inr hd
      · exact .inl hc
    · exact .inr hc
  | case3 pending d rest _ ih =>
    obtain rfl | hpart := List.mem_cons.1 hpart
    · exact .inl (List.mem_reverse.1 hc)
    · obtain hc | hc := ih hpart
      · cases hc
      · exact .inr hc

/-- Letters and digits are not reserved. -/
theorem isReserved_of_isAlphanumeric {c : Char} (h : isAlphanumeric c = true) :
    isReserved c = false :=
  isReserved_eq_false (p := isAlphanumeric) (by decide +kernel) h

/-- The name of a type has no reserved character. -/
theorem unreserved_of_typeName? {className ident : String} (h : typeName? className = some ident) :
    Unreserved ident.toList := by
  unfold typeName? at h
  dsimp only at h
  split at h
  · obtain rfl := Option.some.inj h
    rw [String.toList_ofList]
    intro d hd
    obtain ⟨part, hpart, hd⟩ := List.mem_flatMap.1 hd
    refine Unreserved.pascalCase ?_ d hd
    intro c hc
    obtain hnil | halphanumeric := mem_of_mem_namePartsFrom (List.mem_filter.1 hpart).1 hc
    · cases hnil
    · exact isReserved_of_isAlphanumeric halphanumeric
  · cases h

/-- The name of a type has no slash. -/
theorem slash_not_mem_of_typeName? {className ident : String}
    (h : typeName? className = some ident) : '/' ∉ ident.toList := by
  intro hslash
  exact absurd (unreserved_of_typeName? h '/' hslash) (by decide)

/-! ## The package -/

/-- A package without bad segment is empty, or has identifiers for segments. -/
theorem isIdentifier_of_badSegment? {package : String} (h : badSegment? package = none)
    (hne : package ≠ "") : ∀ segment ∈ segments package, Token.isIdentifier segment = true := by
  unfold badSegment? at h
  split at h
  · rename_i hempty
    exact absurd (String.isEmpty_iff.1 hempty) hne
  · intro segment hsegment
    have hfound := List.find?_eq_none.1 h segment hsegment
    simpa using hfound

/-- The empty text is no identifier. -/
theorem isIdentifier_empty : Token.isIdentifier "" = false := by
  rfl

/-- The package of an artifact is empty, or its segments are those that count. -/
theorem packageSegments_cases {a : Artifact} (h : badSegment? a.package = none) :
    a.package = "" ∧ a.packageSegments = [] ∨
      a.package ≠ "" ∧ a.packageSegments = segments a.package := by
  unfold packageSegments
  by_cases hempty : a.package = ""
  · rw [hempty]
    exact .inl ⟨rfl, rfl⟩
  · refine .inr ⟨hempty, List.filter_eq_self.2 ?_⟩
    intro segment hsegment
    have hident := isIdentifier_of_badSegment? h hempty segment hsegment
    have hne : segment ≠ "" := by
      rintro rfl
      rw [isIdentifier_empty] at hident
      cases hident
    simpa using hne

/-- The segments make up the package. -/
theorem joinSegments_packageSegments {a : Artifact} (h : badSegment? a.package = none) :
    joinSegments a.packageSegments = a.package := by
  obtain ⟨hpackage, hsegments⟩ | ⟨-, hsegments⟩ := packageSegments_cases h
  · rw [hpackage, hsegments]
    rfl
  · rw [hsegments, joinSegments_segments]

/-- No segment that counts is empty. -/
theorem ne_empty_of_mem_packageSegments {a : Artifact} {segment : String}
    (h : segment ∈ a.packageSegments) : segment ≠ "" := by
  have hnonempty := (List.mem_filter.1 h).2
  rintro rfl
  cases hnonempty

/-! ## The file -/

/-- The segments of the package are written with the characters of identifiers only. -/
def HasPlainPackage (a : Artifact) : Prop :=
  ∀ segment ∈ a.packageSegments, segment.toList.all isIdentContinue = true

/-- A text of characters of identifiers is a plain name. -/
theorem isPlain_of_isIdentContinue {name : String} (hne : name ≠ "")
    (h : name.toList.all isIdentContinue = true) : IsPlain name := by
  have hchar := List.all_eq_true.1 h
  refine ⟨?_, hne, ?_, ?_⟩
  · intro hslash
    exact absurd (hchar '/' hslash) (by decide)
  · rintro rfl
    exact absurd (hchar '.' (by decide)) (by decide)
  · rintro rfl
    exact absurd (hchar '.' (by decide)) (by decide)

/-! ## Building -/

/-- An artifact takes over the expression of its element and the name that the patterns of its
marker give; the name has a usable package and type name. -/
structure BuiltFrom (m : Marker) (e : Element) (a : Artifact) : Prop where
  element : a.element = e.name
  marker : a.marker = m.name
  named : m.descriptor.naming.evaluatorName e.className e.methodName? = .ok a.qualifiedName
  placed : placeOf a.qualifiedName = .ok (a.package, a.className, a.ident)
  body : ∃ expression, expressionOf e.usage m.descriptor.expressionMember = .ok expression ∧
    a.body = terminate expression

/-- So it is with every artifact that is built. -/
theorem builtFrom_of_build {runtime : String} {m : Marker} {e : Element} {a : Artifact}
    (h : build runtime m e = .ok a) : BuiltFrom m e a := by
  unfold build at h
  cases hexpression : expressionOf e.usage m.descriptor.expressionMember with
  | error err =>
    simp only [hexpression, bind, Except.bind] at h
    cases h
  | ok expression =>
    cases hname : m.descriptor.naming.evaluatorName e.className e.methodName? with
    | error err =>
      simp only [hexpression, hname, bind, Except.bind, Except.mapError] at h
      cases h
    | ok qualifiedName =>
      cases hplace : placeOf qualifiedName with
      | error err =>
        simp only [hexpression, hname, hplace, bind, Except.bind, Except.mapError] at h
        cases h
      | ok place =>
        obtain ⟨package, className, ident⟩ := place
        simp only [hexpression, hname, hplace, bind, Except.bind, Except.mapError, pure,
          Except.pure] at h
        obtain rfl := Except.ok.inj h
        exact ⟨rfl, rfl, hname, hplace, expression, hexpression, rfl⟩

/-- The artifact of an element with an expression, under a name that has a place. -/
def artifactOf (runtime : String) (m : Marker) (e : Element)
    (expression qualifiedName package className ident : String) : Artifact :=
  let contextType := TypeRef.ofText m.descriptor.contextType
  let returnType := TypeRef.ofText m.descriptor.returnType
  { element := e.name
    marker := m.name
    qualifiedName, package, className, ident
    contextVariable := m.descriptor.contextVariable
    contextType, returnType
    body := terminate expression
    customMethods := m.descriptor.customMethods
    markers := stamps m.descriptor.evaluatorMarkers
    imports := importsOf runtime contextType returnType
      (m.descriptor.imports ++ m.descriptor.evaluatorMarkers) }

/-- It is built if the expression, the name and the place are there. -/
theorem build_eq_ok (runtime : String) {m : Marker} {e : Element}
    {expression qualifiedName package className ident : String}
    (hexpression : expressionOf e.usage m.descriptor.expressionMember = .ok expression)
    (hname : m.descriptor.naming.evaluatorName e.className e.methodName? = .ok qualifiedName)
    (hplace : placeOf qualifiedName = .ok (package, className, ident)) :
    build runtime m e =
      .ok (artifactOf runtime m e expression qualifiedName package className ident) := by
  unfold build
  simp only [hexpression, hname, hplace, bind, Except.bind, Except.mapError]
  rfl

/-- A missing expression is no error of naming. -/
theorem expressionOf_ne_noName {usage : Declaration.Annotation} {member : String}
    {err : NamingError} : expressionOf usage member ≠ .error (.noName err) := by
  unfold expressionOf
  split
  · simp
  · split <;> simp

/-- An unusable name is no error of naming. -/
theorem placeOf_ne_noName {qualifiedName : String} {err : NamingError} :
    placeOf qualifiedName ≠ .error (.noName err) := by
  unfold placeOf
  dsimp only
  split
  · simp
  · split <;> simp

/-- Building reports an error of naming only if the patterns give no name. -/
theorem build_noName {runtime : String} {m : Marker} {e : Element} {err : NamingError}
    (h : build runtime m e = .error (.noName err)) :
    m.descriptor.naming.evaluatorName e.className e.methodName? = .error err := by
  unfold build at h
  cases hexpression : expressionOf e.usage m.descriptor.expressionMember with
  | error cause =>
    simp only [hexpression, bind, Except.bind] at h
    obtain rfl := Except.error.inj h
    exact absurd hexpression expressionOf_ne_noName
  | ok expression =>
    cases hname : m.descriptor.naming.evaluatorName e.className e.methodName? with
    | error cause =>
      simp only [hexpression, hname, bind, Except.bind, Except.mapError] at h
      cases h
      rfl
    | ok qualifiedName =>
      cases hplace : placeOf qualifiedName with
      | error cause =>
        simp only [hexpression, hname, hplace, bind, Except.bind, Except.mapError] at h
        obtain rfl := Except.error.inj h
        exact absurd hplace placeOf_ne_noName
      | ok place =>
        simp only [hexpression, hname, hplace, bind, Except.bind, Except.mapError] at h
        cases h

/-- The parts of a usable name. -/
theorem placeOf_ok {qualifiedName package className ident : String}
    (h : placeOf qualifiedName = .ok (package, className, ident)) :
    splitQualified qualifiedName = (package, className) ∧ badSegment? package = none ∧
      typeName? className = some ident := by
  unfold placeOf at h
  rcases hsplit : splitQualified qualifiedName with ⟨package', className'⟩
  simp only [hsplit] at h
  cases hbad : badSegment? package' with
  | some segment =>
    simp only [hbad] at h
    cases h
  | none =>
    cases hname : typeName? className' with
    | none =>
      simp only [hbad, hname] at h
      cases h
    | some ident' =>
      simp only [hbad, hname] at h
      cases h
      exact ⟨rfl, hbad, hname⟩

namespace BuiltFrom

variable {m m' : Marker} {e e' : Element} {a b : Artifact}

/-- The segments of the package are identifiers. -/
theorem badSegment?_eq_none (h : BuiltFrom m e a) : badSegment? a.package = none :=
  (placeOf_ok h.placed).2.1

/-- The type name has no reserved characters. -/
theorem unreserved (h : BuiltFrom m e a) : Unreserved a.ident.toList :=
  unreserved_of_typeName? (placeOf_ok h.placed).2.2

/-- The type name is an identifier with nothing around it, and no keyword. -/
theorem spelled (h : BuiltFrom m e a) :
    Token.IsWord a.ident ∧ Token.isPlainIdent a.ident = true := by
  have hname := (placeOf_ok h.placed).2.2
  have hidentifier : Token.isIdentifier a.ident = true := by
    unfold typeName? at hname
    dsimp only at hname
    split at hname
    · rename_i hidentifier
      exact Option.some.inj hname ▸ hidentifier
    · cases hname
  apply Token.isWord_of_isIdentifier ?_ hidentifier
  intro c hc
  exact Token.solid_of_isReserved (h.unreserved c hc)

/-- Artifacts whose packages have the same segments have the same package. -/
theorem package_eq (ha : BuiltFrom m e a) (hb : BuiltFrom m' e' b)
    (h : a.packageSegments = b.packageSegments) : a.package = b.package := by
  rw [← joinSegments_packageSegments ha.badSegment?_eq_none, h,
    joinSegments_packageSegments hb.badSegment?_eq_none]

/-- The names in the path of the file are plain. -/
theorem isPlain_fileNames (h : BuiltFrom m e a) (hplain : a.HasPlainPackage) :
    ∀ name ∈ a.packageSegments ++ [a.ident ++ ".rs"], IsPlain name := by
  intro name hname
  obtain hname | hname := List.mem_append.1 hname
  · exact isPlain_of_isIdentContinue (ne_empty_of_mem_packageSegments hname) (hplain name hname)
  · obtain rfl := List.mem_singleton.1 hname
    exact isPlain_fileName (slash_not_mem_of_typeName? (placeOf_ok h.placed).2.2)

/-- Artifacts have the same file exactly if they have the same package and the same type name. -/
theorem file_same_iff (ha : BuiltFrom m e a) (hb : BuiltFrom m' e' b) (hplain : a.HasPlainPackage)
    (hplain' : b.HasPlainPackage) :
    a.file.same b.file = true ↔ a.package = b.package ∧ a.ident = b.ident := by
  refine (Path.same_ofNames (ha.isPlain_fileNames hplain) (hb.isPlain_fileNames hplain')).trans ?_
  constructor
  · intro heq
    obtain ⟨hsegments, hnames⟩ := List.append_inj' heq rfl
    have hident : a.ident.toList ++ ".rs".toList = b.ident.toList ++ ".rs".toList := by
      rw [← String.toList_append, ← String.toList_append, (List.cons.inj hnames).1]
    exact ⟨ha.package_eq hb hsegments,
      String.toList_injective (List.append_cancel_right hident)⟩
  · rintro ⟨hpackage, hident⟩
    unfold packageSegments
    rw [hpackage, hident]

end BuiltFrom

end ExprGate.Artifact
