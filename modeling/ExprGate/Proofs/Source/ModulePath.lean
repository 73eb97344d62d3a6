import ExprGate.Proofs.Files.Parts
import ExprGate.Proofs.Token.Wrapping
import ExprGate.Source.ModulePath

/-!
# Files and modules

The segments of a module are read off the path of its file. `IsFileOf` says the other way round
where the file of a module is: beside the directory of the module, or as `mod.rs` in it, and at the
top for the crate itself. Reading finds a module exactly for the files of it
(`moduleSegments?_eq_some`), however their paths are spelled, and a module has no two files other
than these pairs (`IsFileOf.eq_or_isPair`).
-/

set_option autoImplicit false

namespace ExprGate.Source

open Files Token

/-- The file of a module, by the names that lead to it from the root of the crate. -/
inductive IsFileOf : List String → List String → Prop where
  | lib : IsFileOf [] ["lib.rs"]
  | main : IsFileOf [] ["main.rs"]
  /-- The file is called like the module. Files below `bin` belong to other crates, and two names at
  the top to the crate itself. -/
  | beside {directories : List String} {stem : String} (outside : directories.head? ≠ some "bin")
    (own : directories = [] → stem ≠ "lib" ∧ stem ≠ "main") :
    IsFileOf (directories ++ [stem]) (directories ++ [stem ++ ".rs"])
  /-- The file is in the directory of the module. -/
  | inside {segs : List String} (below : segs ≠ []) (outside : segs.head? ≠ some "bin") :
    IsFileOf segs (segs ++ ["mod.rs"])

/-- Two files that one module can have. -/
inductive IsPair : List String → List String → Prop where
  | crate : IsPair ["lib.rs"] ["main.rs"]
  | module (directories : List String) (stem : String) :
    IsPair (directories ++ [stem ++ ".rs"]) (directories ++ [stem, "mod.rs"])

/-- A path leads from a root through names, and through `.` at most besides. -/
def LeadsThrough (root : List Component) (names : List String) (file : Path) : Prop :=
  ∃ rest, file.components = root ++ rest ∧ rest.filter (· ≠ .current) = names.map .name

/-! ## Names below the root -/

/-- What is below some components are the components behind them. -/
theorem below?_eq_some {root cs rest : List Component} :
    below? root cs = some rest ↔ cs = root ++ rest := by
  induction root generalizing cs with
  | nil => simp [below?, eq_comm]
  | cons r root ih =>
    cases cs with
    | nil => simp [below?]
    | cons c cs =>
      by_cases hrc : r = c
      · simp [below?, hrc, ih]
      · simp [below?, hrc, eq_comm]

/-- Components without the current directory are all names, if they give names. -/
theorem componentNames?_eq_some {cs : List Component} {names : List String} :
    componentNames? cs = some names ↔ cs.filter (· ≠ .current) = names.map .name := by
  induction cs generalizing names with
  | nil => simp [componentNames?, eq_comm]
  | cons c cs ih =>
    cases c with
    | root => cases names <;> simp [componentNames?]
    | current => simpa [componentNames?] using ih
    | parent => cases names <;> simp [componentNames?]
    | name s =>
      cases names with
      | nil => simp [componentNames?]
      | cons name names => simp [componentNames?, ih, and_comm]

/-- A text without an ending is what stands in front of it. -/
theorem dropEnding?_eq_some {ending text stem : String} :
    dropEnding? ending text = some stem ↔ text = stem ++ ending := by
  unfold dropEnding?
  dsimp only
  constructor
  · intro h
    split at h
    · rename_i hending
      obtain ⟨front, hfront⟩ := List.isPrefixOf_iff_prefix.1 hending
      obtain rfl := Option.some.inj h
      refine String.toList_injective ?_
      rw [← hfront, String.toList_append, String.toList_ofList, List.drop_left, ← List.reverse_inj,
        List.reverse_append, List.reverse_reverse, hfront]
    · cases h
  · rintro rfl
    have hreverse : (stem ++ ending).toList.reverse =
        ending.toList.reverse ++ stem.toList.reverse := by
      simp
    rw [hreverse, if_pos (List.isPrefixOf_iff_prefix.2 (List.prefix_append _ _)), List.drop_left,
      List.reverse_reverse, String.ofList_toList]

/-! ## Where the file of a module is -/

/-- A file that is called like a module is the file of it. -/
theorem fileSegments_beside {directories : List String} {stem : String}
    (own : directories = [] → stem ≠ "lib" ∧ stem ≠ "main") (hmod : stem ≠ "mod") :
    fileSegments directories stem = directories ++ [stem] := by
  unfold fileSegments
  cases directories with
  | nil => simp [own rfl]
  | cons first rest => simp [hmod]

/-- The segments of a file are those of a module that it is a file of. -/
theorem isFileOf_fileSegments {directories : List String} (stem : String)
    (outside : directories.head? ≠ some "bin") :
    IsFileOf (fileSegments directories stem) (directories ++ [stem ++ ".rs"]) := by
  cases directories with
  | nil =>
    by_cases hlib : stem = "lib"
    · subst hlib
      exact .lib
    by_cases hmain : stem = "main"
    · subst hmain
      exact .main
    have hsegments : fileSegments [] stem = [] ++ [stem] := by simp [fileSegments, hlib, hmain]
    rw [hsegments]
    exact .beside outside fun _ => ⟨hlib, hmain⟩
  | cons first rest =>
    by_cases hmod : stem = "mod"
    · subst hmod
      exact .inside (List.cons_ne_nil first rest) outside
    · rw [fileSegments_beside (fun hnil => absurd hnil (List.cons_ne_nil first rest)) hmod]
      exact .beside outside fun hnil => absurd hnil (List.cons_ne_nil first rest)

/-- The segments are read off the directories and what is in front of the ending. -/
theorem segmentsOfNames?_concat {directories : List String} (stem : String)
    (outside : directories.head? ≠ some "bin") :
    segmentsOfNames? (directories ++ [stem ++ ".rs"]) =
      if (fileSegments directories stem).all isIdentifier then some (fileSegments directories stem)
      else none := by
  unfold segmentsOfNames?
  simp [dropEnding?_eq_some.2 rfl, outside]

/-- Segments are read off a file exactly if they are identifiers and it is a file of that module. -/
theorem segmentsOfNames?_eq_some {names segs : List String} :
    segmentsOfNames? names = some segs ↔
      (∀ s ∈ segs, isIdentifier s = true) ∧ IsFileOf segs names := by
  constructor
  · intro h
    obtain ⟨last, hlast, hread⟩ := Option.bind_eq_some_iff.1 h
    obtain ⟨stem, hstem, hread⟩ := Option.bind_eq_some_iff.1 hread
    obtain rfl := dropEnding?_eq_some.1 hstem
    obtain ⟨directories, rfl⟩ := List.getLast?_eq_some_iff.1 hlast
    have outside : directories.head? ≠ some "bin" := by
      intro hbin
      simp [hbin] at hread
    rw [segmentsOfNames?_concat stem outside] at h
    split at h
    · rename_i hidentifiers
      obtain rfl := Option.some.inj h
      exact ⟨List.all_eq_true.1 hidentifiers, isFileOf_fileSegments stem outside⟩
    · cases h
  · rintro ⟨hidentifiers, hfile⟩
    have hread (directories : List String) (stem : String)
        (outside : directories.head? ≠ some "bin") (hsegs : fileSegments directories stem = segs) :
        segmentsOfNames? (directories ++ [stem ++ ".rs"]) = some segs := by
      rw [segmentsOfNames?_concat stem outside, hsegs]
      exact if_pos (List.all_eq_true.2 hidentifiers)
    cases hfile with
    | lib => exact hread [] "lib" (by simp) rfl
    | main => exact hread [] "main" (by simp) rfl
    | @beside directories stem outside own =>
      refine hread directories stem outside (fileSegments_beside own ?_)
      rintro rfl
      have hmod := hidentifiers "mod" (by simp)
      exact absurd hmod (by decide)
    | inside below outside => exact hread segs "mod" outside (by simp [fileSegments, below])

/-- A file has the module of which it is a file below the root, if the segments are identifiers. -/
theorem moduleSegments?_eq_some {root : List Component} {file : Path} {segs : List String} :
    moduleSegments? root file = some segs ↔
      (∀ s ∈ segs, isIdentifier s = true) ∧
        ∃ names, IsFileOf segs names ∧ LeadsThrough root names file := by
  constructor
  · intro h
    obtain ⟨rest, hrest, h⟩ := Option.bind_eq_some_iff.1 h
    obtain ⟨names, hnames, hsegs⟩ := Option.bind_eq_some_iff.1 h
    obtain ⟨hidentifiers, hfile⟩ := segmentsOfNames?_eq_some.1 hsegs
    exact ⟨hidentifiers, names, hfile, rest, below?_eq_some.1 hrest,
      componentNames?_eq_some.1 hnames⟩
  · rintro ⟨hidentifiers, names, hfile, rest, hrest, hnames⟩
    unfold moduleSegments?
    rw [below?_eq_some.2 hrest]
    simp only [Option.bind_eq_bind, Option.bind_some, componentNames?_eq_some.2 hnames]
    exact segmentsOfNames?_eq_some.2 ⟨hidentifiers, hfile⟩

/-! ## Files of one module -/

/-- The file of the crate is called `lib.rs` or `main.rs`. -/
theorem IsFileOf.of_nil {names : List String} (h : IsFileOf [] names) :
    names = ["lib.rs"] ∨ names = ["main.rs"] := by
  generalize hsegs : ([] : List String) = segs at h
  cases h with
  | lib => exact .inl rfl
  | main => exact .inr rfl
  | beside => simp at hsegs
  | inside below => exact absurd hsegs.symm below

/-- The file of a module is called like it, or is in its directory. -/
theorem IsFileOf.of_concat {directories names : List String} {stem : String}
    (h : IsFileOf (directories ++ [stem]) names) :
    names = directories ++ [stem ++ ".rs"] ∨ names = directories ++ [stem, "mod.rs"] := by
  generalize hsegs : directories ++ [stem] = segs at h
  cases h with
  | lib => simp at hsegs
  | main => simp at hsegs
  | beside =>
    obtain ⟨rfl, hlast⟩ := List.append_inj' hsegs rfl
    rw [List.singleton_inj.1 hlast]
    exact .inl rfl
  | inside =>
    right
    rw [← hsegs, List.append_assoc]
    rfl

/-- Two files of a module are one file, or the two that a module can have. -/
theorem IsFileOf.eq_or_isPair {segs names names' : List String} (h : IsFileOf segs names)
    (h' : IsFileOf segs names') :
    names = names' ∨ IsPair names names' ∨ IsPair names' names := by
  obtain rfl | ⟨directories, stem, rfl⟩ := List.eq_nil_or_concat segs
  · obtain rfl | rfl := h.of_nil <;> obtain rfl | rfl := h'.of_nil
    · exact .inl rfl
    · exact .inr (.inl .crate)
    · exact .inr (.inr .crate)
    · exact .inl rfl
  · rw [List.concat_eq_append] at h h'
    obtain rfl | rfl := h.of_concat <;> obtain rfl | rfl := h'.of_concat
    · exact .inl rfl
    · exact .inr (.inl (.module directories stem))
    · exact .inr (.inr (.module directories stem))
    · exact .inl rfl

/-! ## Main result -/

/-- A name has no slash, and is none of the names for a directory itself or the one above. -/
theorem isPlain_of_isName {name : String} (h : IsName name) : IsPlain name := by
  obtain ⟨c, rest, hchars, hc⟩ := h.exists_cons
  refine ⟨?_, ?_, ?_, ?_⟩
  · intro hslash
    exact (h.isTight '/' hslash).1 (.inl rfl)
  · rintro rfl
    cases hchars
  · rintro rfl
    obtain ⟨rfl, -⟩ := List.cons.inj hchars
    exact absurd hc (by decide)
  · rintro rfl
    obtain ⟨rfl, -⟩ := List.cons.inj hchars
    exact absurd hc (by decide)

/-- The names of the file of a module are plain if its segments are names. -/
theorem IsFileOf.isPlain {segs names : List String} (h : IsFileOf segs names)
    (hsegs : ∀ s ∈ segs, IsName s) : ∀ name ∈ names, IsPlain name := by
  have hfile {stem : String} (hstem : IsName stem) : IsPlain (stem ++ ".rs") :=
    isPlain_fileName fun hslash => (hstem.isTight '/' hslash).1 (.inl rfl)
  cases h with
  | lib => simpa using isPlain_fileName (show '/' ∉ "lib".toList by decide)
  | main => simpa using isPlain_fileName (show '/' ∉ "main".toList by decide)
  | beside outside own =>
    intro name hname
    obtain hname | hname := List.mem_append.1 hname
    · exact isPlain_of_isName (hsegs name (List.mem_append_left _ hname))
    · rw [List.mem_singleton.1 hname]
      exact hfile (hsegs _ (by simp))
  | inside below outside =>
    intro name hname
    obtain hname | hname := List.mem_append.1 hname
    · exact isPlain_of_isName (hsegs name hname)
    · rw [List.mem_singleton.1 hname]
      exact isPlain_fileName (show '/' ∉ "mod".toList by decide)

/-- A path below a root leads through its names. -/
theorem leadsThrough_join (root : Path) {names : List String} (h : ∀ name ∈ names, IsPlain name) :
    LeadsThrough root.components names (root.join (Path.ofNames names)) := by
  refine ⟨names.map .name, Path.components_join_ofNames root h, ?_⟩
  apply List.filter_eq_self.2
  intro c hc
  obtain ⟨name, -, rfl⟩ := List.mem_map.1 hc
  rfl

/-- Files and modules correspond. A file of a module whose segments are names is read as that
module; what is read as a module is a file of it, and two files of one module are the two that it can
have. -/
theorem moduleSegments?_layout (root : Path) :
    (∀ segs names, (∀ s ∈ segs, IsName s) → IsFileOf segs names →
      moduleSegments? root.components (root.join (Path.ofNames names)) = some segs) ∧
    (∀ file segs, moduleSegments? root.components file = some segs →
      ∃ names, IsFileOf segs names ∧ LeadsThrough root.components names file) ∧
    ∀ file file' segs, moduleSegments? root.components file = some segs →
      moduleSegments? root.components file' = some segs →
      ∃ names names', LeadsThrough root.components names file ∧
        LeadsThrough root.components names' file' ∧
        (names = names' ∨ IsPair names names' ∨ IsPair names' names) := by
  refine ⟨?_, ?_, ?_⟩
  · intro segs names hsegs hfile
    apply moduleSegments?_eq_some.2
    refine ⟨fun s hs => isIdentifier_of_isName (hsegs s hs), names, hfile, ?_⟩
    exact leadsThrough_join root (hfile.isPlain hsegs)
  · intro file segs h
    exact (moduleSegments?_eq_some.1 h).2
  · intro file file' segs h h'
    obtain ⟨-, names, hfile, hleads⟩ := moduleSegments?_eq_some.1 h
    obtain ⟨-, names', hfile', hleads'⟩ := moduleSegments?_eq_some.1 h'
    exact ⟨names, names', hleads, hleads', hfile.eq_or_isPair hfile'⟩

/-- Both files that a module of two segments can have are those of this module. -/
theorem moduleSegments?_layout_admin :
    (∀ s ∈ ["api", "admin"], IsName s) ∧
      IsFileOf ["api", "admin"] ["api", "admin.rs"] ∧
      IsFileOf ["api", "admin"] ["api", "admin", "mod.rs"] ∧
      moduleSegments? [.name "src"] ⟨"src/api/admin.rs"⟩ = some ["api", "admin"] ∧
      moduleSegments? [.name "src"] ⟨"src/api/admin/mod.rs"⟩ = some ["api", "admin"] ∧
      ∃ names names', LeadsThrough [.name "src"] names ⟨"src/api/admin.rs"⟩ ∧
        LeadsThrough [.name "src"] names' ⟨"src/api/admin/mod.rs"⟩ ∧
        (names = names' ∨ IsPair names names' ∨ IsPair names' names) := by
  have hnames : ∀ s ∈ ["api", "admin"], IsName s := by
    simp only [List.forall_mem_cons]
    refine ⟨?_, ?_, by simp⟩
    · have hword : IsWord "api" :=
        ⟨'a', ['p', 'i'], by decide, by decide, List.all_eq_true.1 (by decide)⟩
      exact .plain hword (by decide)
    · have hword : IsWord "admin" :=
        ⟨'a', ['d', 'm', 'i', 'n'], by decide, by decide, List.all_eq_true.1 (by decide)⟩
      exact .plain hword (by decide)
  have hbeside : IsFileOf ["api", "admin"] ["api", "admin.rs"] :=
    @IsFileOf.beside ["api"] "admin" (by decide) (by simp)
  have hinside : IsFileOf ["api", "admin"] ["api", "admin", "mod.rs"] :=
    .inside (by decide) (by decide)
  obtain ⟨hread, -, hshared⟩ := moduleSegments?_layout ⟨"src"⟩
  have hfile := hread _ _ hnames hbeside
  have hfile' := hread _ _ hnames hinside
  exact ⟨hnames, hbeside, hinside, hfile, hfile', hshared _ _ _ hfile hfile'⟩

end ExprGate.Source
