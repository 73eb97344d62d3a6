import ExprGate.Proofs.Declaration.Anchoring
import ExprGate.Proofs.Source.Imports

/-!
# What imported names stand for

A name that is imported for a path with an anchor stands for what the path stands for, and so do the paths
that start with the name, unless the module declares something of this spelling itself
(`resolveName?_of_follow?`).

A path with a separator in front is no such target. It is looked for as it is written, with the separator,
and no declared name is written like that (`resolveImport?_absolute`). So imports of this form stand for
nothing: the paths of a module mean the same without them (`resolveName?_of_sameRelative`), and trees of
imports with a separator in front add no others.
-/

set_option autoImplicit false

namespace ExprGate.Declaration

open Text

/-! ## The first segment of a path -/

/-- A path is one segment, or its first segment ends where it is divided. -/
theorem splitFirst_cases (path : String) :
    (splitFirst path = (path, none) ∧ segments path = [path]) ∨
      ∃ first rest, splitFirst path = (first, some rest) ∧ segments path = first :: segments rest := by
  unfold splitFirst segments
  cases hsplit : splitFirstSeparator? path.toList with
  | none =>
    refine .inl ⟨rfl, ?_⟩
    rw [segmentsFrom_of_splitFirst_none hsplit]
    simp
  | some parts =>
    obtain ⟨before, after⟩ := parts
    refine .inr ⟨_, _, rfl, ?_⟩
    rw [segmentsFrom_of_splitFirst_some hsplit, String.toList_ofList]
    rfl

/-- A path of one segment has nothing behind it. -/
theorem splitFirst_of_one {path : String} (h : segments path = [path]) :
    splitFirst path = (path, none) := by
  obtain ⟨hsplit, -⟩ | ⟨first, rest, -, hpath⟩ := splitFirst_cases path
  · exact hsplit
  · rw [h] at hpath
    exact absurd (List.cons.inj hpath).2.symm (segments_ne_nil rest)

/-- A path of more segments is divided behind its first one. -/
theorem splitFirst_of_cons {path first rest : String}
    (h : segments path = first :: segments rest) : splitFirst path = (first, some rest) := by
  obtain ⟨-, hpath⟩ | ⟨front, behind, hsplit, hpath⟩ := splitFirst_cases path
  · rw [h] at hpath
    exact absurd (List.cons.inj hpath).2 (segments_ne_nil rest)
  · obtain ⟨rfl, hrest⟩ := List.cons.inj (h.symm.trans hpath)
    rw [hsplit, segments_injective hrest]

/-! ## Imports of anchored paths -/

/-- A path with an anchor in front is not empty. -/
theorem StartsWithAnchor.ne_empty {path : String} (h : StartsWithAnchor path) : path ≠ "" := by
  rintro rfl
  obtain ⟨first, hfirst, behind, hpath⟩ := h
  obtain ⟨rfl, -⟩ := List.cons.inj hpath
  exact absurd hfirst (by decide)

/-- A path with an anchor in front keeps it when more is put behind it. -/
theorem StartsWithAnchor.append {path : String} (h : StartsWithAnchor path) (rest : String) :
    StartsWithAnchor (path ++ separator ++ rest) := by
  obtain ⟨first, hfirst, behind, hpath⟩ := h
  have hcolons : ∀ anchor ∈ anchors, ':' ∉ anchor.toList := by decide
  have hcolon := hcolons first hfirst
  refine ⟨first, hfirst, ?_⟩
  obtain ⟨-, hone⟩ | ⟨front, tail, -, hcons⟩ := splitFirst_cases path
  · obtain ⟨rfl, -⟩ := List.cons.inj (hone.symm.trans hpath)
    exact ⟨_, segments_append hcolon rest⟩
  · -- the path is the anchor with a tail behind it, and this tail gets longer
    obtain ⟨rfl, -⟩ := List.cons.inj (hcons.symm.trans hpath)
    obtain rfl : path = front ++ separator ++ tail :=
      segments_injective (hcons.trans (segments_append hcolon tail).symm)
    refine ⟨segments (tail ++ separator ++ rest), ?_⟩
    rw [← segments_append hcolon]
    simp only [String.append_assoc]

namespace Catalog

variable {c : Catalog}

/-- In a module a name is imported for a path. -/
def Imports (c : Catalog) (module name target : String) : Prop :=
  ∃ s, c.scopes.lookup module = some s ∧ s.target? name = some target

/-- A path whose first segment is an anchor has a name, which an import of it stands for. -/
theorem resolveImport?_of_startsWithAnchor {module path name : String} (h : StartsWithAnchor path)
    (hname : c.resolveName? module path = some name) : c.resolveImport? module path = some name := by
  obtain ⟨own, hanchored⟩ := h.exists_anchored? module
  rw [c.resolveName?_of_anchored? hanchored] at hname
  unfold declared? at hname
  split at hname
  · rename_i hdeclares
    unfold resolveImport?
    rw [hanchored, Option.toList_some, List.singleton_append, List.find?_cons_of_pos hdeclares]
    exact hname
  · cases hname

/-- A path that is none of the module's own means what its imports lead to. -/
theorem resolveName?_of_follow? {module path target name : String} {s : Scope}
    (habsolute : absolute? path = none) (hanchored : anchored? module path = none)
    (hown : c.declares (qualify module path) = false) (hs : c.scopes.lookup module = some s)
    (hfollow : s.follow? path = some target) (htarget : c.resolveImport? module target = some name) :
    c.resolveName? module path = some name := by
  have hdeclared : c.declared? (qualify module path) = none := by
    unfold declared?
    rw [hown, if_neg Bool.false_ne_true]
  have himported : c.resolveImported? module path = some name := by
    unfold resolveImported?
    rw [hs]
    dsimp only
    rw [hfollow, Option.toList_some, List.singleton_append, List.findSome?_cons, htarget]
  unfold resolveName?
  rw [habsolute, hanchored, hdeclared, himported]
  rfl

/-! ## Imports of paths with a separator in front -/

/-- No declared name has an empty segment. -/
def HasNoEmptySegment (c : Catalog) : Prop :=
  ∀ name, c.declares name = true → "" ∉ segments name

/-- Two separators in a row have an empty segment between them. -/
theorem nil_mem_segmentsFrom (pending cs rest : List Char) :
    [] ∈ segmentsFrom pending (cs ++ ':' :: ':' :: ':' :: ':' :: rest) := by
  fun_induction segmentsFrom pending cs with
  | case1 pending => simp [segmentsFrom]
  | case2 pending tail ih => exact List.mem_cons_of_mem _ ih
  | case3 pending c tail hseparator ih =>
    by_cases htail : c = ':' ∧ tail = []
    · -- the last colon makes a separator with the next one
      obtain ⟨rfl, rfl⟩ := htail
      simp [segmentsFrom]
    · rw [List.cons_append, segmentsFrom]
      · exact ih
      · rintro after rfl hafter
        cases tail with
        | nil => exact htail ⟨rfl, rfl⟩
        | cons d tail =>
          obtain ⟨rfl, -⟩ := List.cons.inj hafter
          exact hseparator tail rfl rfl

/-- An import of a path with a separator in front stands for nothing. -/
theorem resolveImport?_absolute (h : c.HasNoEmptySegment) (module path : String) :
    c.resolveImport? module (separator ++ path) = none := by
  have habove : c.declares (separator ++ path) = false := by
    refine Bool.eq_false_iff.2 fun hdeclares => h _ hdeclares ?_
    rw [segments_separator_append]
    exact List.mem_cons_self
  have hbelow : c.declares (qualify module (separator ++ path)) = false := by
    unfold qualify
    split
    · exact habove
    · refine Bool.eq_false_iff.2 fun hdeclares => h _ hdeclares ?_
      have hempty := nil_mem_segmentsFrom [] module.toList path.toList
      refine List.mem_map.2 ⟨[], ?_, rfl⟩
      simpa [separator] using hempty
  have hanchored := anchored?_eq_none (segments_separator_append path) (by decide) module
  unfold resolveImport?
  rw [hanchored]
  simp [habove, hbelow]

/-- A path without a separator in front. -/
def isRelative (path : String) : Bool :=
  (absolute? path).isNone

/-- A path with a separator in front is not relative. -/
theorem isRelative_separator_append (path : String) : isRelative (separator ++ path) = false := by
  unfold isRelative
  rw [absolute?_eq_some_iff.2 rfl]
  rfl

/-- A path that is not relative is a separator and a name behind it. -/
theorem exists_of_not_isRelative {path : String} (h : isRelative path = false) :
    ∃ name, path = separator ++ name := by
  obtain ⟨name, hname⟩ := Option.ne_none_iff_exists'.1 (mt Option.isNone_iff_eq_none.2 (by
    rw [← isRelative, h]
    exact Bool.false_ne_true))
  exact ⟨name, absolute?_eq_some_iff.1 hname⟩

/-- Scopes with the same imports, apart from those of paths with a separator in front. -/
structure SameRelative (s s' : Scope) : Prop where
  targets : ∀ name, (s.target? name).filter isRelative = (s'.target? name).filter isRelative
  globs : s.globs.filter isRelative = s'.globs.filter isRelative

/-- Behind a path with a separator in front there is another one. -/
theorem qualify_separator_append (path rest : String) :
    qualify (separator ++ path) rest = separator ++ (path ++ separator ++ rest) := by
  unfold qualify
  rw [if_neg (by simp [separator]), String.append_assoc, String.append_assoc, String.append_assoc]

/-- A name that is imported for no other path than one with a separator in front leads nowhere. -/
theorem follow?_bind_eq_none (h : c.HasNoEmptySegment) (module : String) {path : String} {s : Scope}
    (hnone : (s.target? (splitFirst path).1).filter isRelative = none) :
    (s.follow? path).bind (c.resolveImport? module) = none := by
  unfold Scope.follow?
  cases htarget : s.target? (splitFirst path).1 with
  | none => simp [htarget]
  | some target =>
    have hrelative : isRelative target = false := by
      simpa [htarget, Option.filter_eq_none_iff] using hnone
    obtain ⟨name, rfl⟩ := exists_of_not_isRelative hrelative
    simp only [htarget, Option.map_some, Option.bind_some]
    split
    · rw [qualify_separator_append, resolveImport?_absolute h]
    · rw [resolveImport?_absolute h]

/-- Imported names lead to the same in scopes that have the same relative imports. -/
theorem SameRelative.follow?_bind_eq (h : c.HasNoEmptySegment) {s s' : Scope} (hs : SameRelative s s')
    (module path : String) :
    (s.follow? path).bind (c.resolveImport? module) =
      (s'.follow? path).bind (c.resolveImport? module) := by
  have htargets := hs.targets (splitFirst path).1
  cases hfilter : (s.target? (splitFirst path).1).filter isRelative with
  | none =>
    rw [follow?_bind_eq_none h module hfilter,
      follow?_bind_eq_none h module (htargets.symm.trans hfilter)]
  | some target =>
    have htarget := (Option.filter_eq_some_iff.1 hfilter).1
    have htarget' := (Option.filter_eq_some_iff.1 (htargets.symm.trans hfilter)).1
    unfold Scope.follow?
    simp only [htarget, htarget']

/-- Of the globs only the relative ones count. -/
theorem findSome?_globs (h : c.HasNoEmptySegment) (module path : String) (globs : List String) :
    (globs.map (qualify · path)).findSome? (c.resolveImport? module) =
      ((globs.filter isRelative).map (qualify · path)).findSome? (c.resolveImport? module) := by
  induction globs with
  | nil => rfl
  | cons glob rest ih =>
    by_cases hrelative : isRelative glob = true
    · rw [List.filter_cons_of_pos hrelative, List.map_cons, List.map_cons, List.findSome?_cons,
        List.findSome?_cons, ih]
    · obtain ⟨name, rfl⟩ := exists_of_not_isRelative (Bool.eq_false_iff.2 hrelative)
      rw [List.filter_cons_of_neg hrelative, List.map_cons, List.findSome?_cons,
        qualify_separator_append, resolveImport?_absolute h]
      exact ih

/-- The search for an answer at one place at most is an answer there. -/
theorem findSome?_toList {α β : Type} (f : α → Option β) (x : Option α) :
    x.toList.findSome? f = x.bind f := by
  cases x with
  | none => rfl
  | some a => rw [Option.toList_some, List.findSome?_singleton, Option.bind_some]

/-- Scopes with the same relative imports resolve a path alike, if no declared name has an empty
segment. -/
theorem SameRelative.findSome?_eq (h : c.HasNoEmptySegment) {s s' : Scope} (hs : SameRelative s s')
    (module path : String) :
    ((s.follow? path).toList ++ s.globs.map (qualify · path)).findSome? (c.resolveImport? module) =
      ((s'.follow? path).toList ++ s'.globs.map (qualify · path)).findSome?
        (c.resolveImport? module) := by
  rw [List.findSome?_append, List.findSome?_append, findSome?_toList, findSome?_toList,
    hs.follow?_bind_eq h, findSome?_globs h module path s.globs, hs.globs,
    ← findSome?_globs h module path s'.globs]

/-- Imports of paths with a separator in front make no difference. -/
theorem resolveName?_of_sameRelative (h : c.HasNoEmptySegment) {module : String} {s s' : Scope}
    (hlookup : c.scopes.lookup module = some s) (hs : SameRelative s s') (other path : String) :
    c.resolveName? other path = (c.setScope module s').resolveName? other path := by
  have himported : c.resolveImported? other path = (c.setScope module s').resolveImported? other path := by
    unfold resolveImported? setScope
    dsimp only
    by_cases hother : other = module
    · subst hother
      rw [hlookup, List.lookup_cons, beq_self_eq_true]
      exact hs.findSome?_eq h other path
    · rw [List.lookup_cons, beq_false_of_ne hother, lookup_filter_of_ne hother]
      rfl
  unfold resolveName?
  rw [himported]
  rfl

/-- A scope in which a name is not imported. -/
def dropAlias (s : Scope) (name : String) : Scope :=
  { s with aliases := s.aliases.filter (·.1 != name) }

/-- A scope without an import that is not relative has the same relative imports. -/
theorem sameRelative_dropAlias {s : Scope} {name path : String}
    (h : s.target? name = some (separator ++ path)) : SameRelative s (dropAlias s name) := by
  refine ⟨fun other => ?_, rfl⟩
  by_cases hother : other = name
  · subst hother
    have hdropped : (dropAlias s other).target? other = none := by
      unfold dropAlias Scope.target?
      rw [List.lookup_eq_none_iff]
      intro entry hentry
      have hkey : (entry.1 != other) = true := (List.mem_filter.1 hentry).2
      rwa [bne_comm] at hkey
    rw [h, hdropped, Option.filter_some, isRelative_separator_append]
    rfl
  · unfold dropAlias Scope.target?
    rw [lookup_filter_of_ne hother]

/-- Adding an import of a path with a separator in front makes no difference, unless its name is
imported for another path. -/
theorem SameRelative.addImport {s s' : Scope} (hs : SameRelative s s') {i : Source.Import}
    (hpath : ∀ name path, i = .named name path → isRelative path = false ∧ s'.target? name = none)
    (hglob : ∀ path, i = .glob path → isRelative path = false) : SameRelative (s.addImport i) s' := by
  cases i with
  | named name path =>
    obtain ⟨hpath, hnew⟩ := hpath name path rfl
    refine ⟨fun other => ?_, hs.globs⟩
    rw [Scope.addImport, Scope.target?_addAlias]
    split
    · rename_i hother
      rw [hother, hnew, Option.filter_some, hpath]
      rfl
    · exact hs.targets other
  | glob path =>
    refine ⟨hs.targets, ?_⟩
    rw [Scope.addImport, Scope.addGlob, List.filter_append, hs.globs,
      List.filter_cons_of_neg (by rw [hglob path rfl]; exact Bool.false_ne_true), List.filter_nil,
      List.append_nil]

end Catalog

end ExprGate.Declaration

namespace ExprGate.Source

open Declaration Declaration.Catalog Grammar Text

/-! ## Trees of imports with a separator in front -/

/-- The path of an import. -/
def Import.path : Import → String
  | .named _ path => path
  | .glob path => path

/-- The path of an absolute import is not relative. -/
theorem isRelative_importPath (segments : List String) :
    isRelative (importPath true segments) = false :=
  isRelative_separator_append _

mutual

/-- All imports of a tree with a separator in front are of paths with a separator in front. -/
theorem isRelative_of_mem_treeImports (above : List String) {i : Import} : (tree : UseTree) →
    i ∈ treeImports true above tree → isRelative i.path = false
  | .path first tree, h => by
    rw [treeImports] at h
    exact isRelative_of_mem_treeImports (above ++ [first]) tree h
  | .name name, h => by
    rw [treeImports] at h
    split at h
    · obtain ⟨last, -, rfl⟩ := Option.map_eq_some_iff.1 (Option.mem_toList.1 h)
      exact isRelative_importPath _
    · obtain rfl := List.mem_singleton.1 h
      exact isRelative_importPath _
  | .rename name shown, h => by
    rw [treeImports] at h
    split at h
    · cases h
    · obtain rfl := List.mem_singleton.1 h
      exact isRelative_importPath _
  | .glob, h => by
    rw [treeImports] at h
    obtain rfl := List.mem_singleton.1 h
    exact isRelative_importPath _
  | .group trees, h => by
    rw [treeImports] at h
    exact isRelative_of_mem_treesImports above trees h

/-- No path of an absolute tree of imports is relative. -/
theorem isRelative_of_mem_treesImports (above : List String) {i : Import} :
    (trees : List UseTree) → i ∈ treesImports true above trees → isRelative i.path = false
  | [], h => by
    rw [treesImports] at h
    cases h
  | tree :: rest, h => by
    rw [treesImports] at h
    obtain h | h := List.mem_append.1 h
    · exact isRelative_of_mem_treeImports above tree h
    · exact isRelative_of_mem_treesImports above rest h

end

/-- A tree with a separator in front adds no imports that make a difference, if its names are new. -/
theorem sameRelative_addTree {s : Scope} {tree : UseTree}
    (hnew : ∀ name path, .named name path ∈ treeImports true [] tree → s.target? name = none) :
    SameRelative (addTree true [] s tree) s := by
  rw [addTree_eq]
  refine List.foldlRecOn (motive := fun s' => SameRelative s' s) _ _ ⟨fun _ => rfl, rfl⟩ ?_
  intro s' hs i hi
  have hpath := isRelative_of_mem_treeImports [] tree hi
  refine hs.addImport ?_ ?_
  · rintro name path rfl
    exact ⟨hpath, hnew name path hi⟩
  · rintro path rfl
    exact hpath

/-! ## Main results -/

/-- Imported names stand for what their paths stand for, if these have an anchor in front. Imports of
paths with a separator in front make no difference. -/
structure FollowsImports (c : Catalog) : Prop where
  /-- An imported name, where the module declares no such name itself. -/
  name : ∀ module name target result, c.Imports module name target → StartsWithAnchor target →
    segments name = [name] → name ∉ anchors → c.declares (qualify module name) = false →
    c.resolveName? module target = some result → c.resolveName? module name = some result
  /-- A path that starts with an imported name, where the module declares no such path itself. -/
  below : ∀ module name target rest result, c.Imports module name target → StartsWithAnchor target →
    name ≠ "" → segments (name ++ separator ++ rest) = name :: segments rest → name ∉ anchors →
    c.declares (qualify module (name ++ separator ++ rest)) = false →
    c.resolveName? module (target ++ separator ++ rest) = some result →
    c.resolveName? module (name ++ separator ++ rest) = some result
  /-- A name that is imported for a path with a separator in front means what it means without this
  import, and so do all paths in all modules. -/
  absolute : c.HasNoEmptySegment → ∀ module s name target, c.scopes.lookup module = some s →
    s.target? name = some (separator ++ target) → ∀ other path,
    c.resolveName? other path = (c.setScope module (dropAlias s name)).resolveName? other path
  /-- All paths mean what they mean without a tree of imports that has a separator in front, if its
  names are not imported otherwise. -/
  tree : c.HasNoEmptySegment → ∀ module s tree,
    c.scopes.lookup module = some (addTree true [] s tree) →
    (∀ name path, .named name path ∈ treeImports true [] tree → s.target? name = none) →
    ∀ other path, c.resolveName? other path = (c.setScope module s).resolveName? other path

/-- In every catalog, imported names stand for what their paths stand for, if these have an anchor in
front. -/
theorem resolveName?_followsImports (c : Catalog) : FollowsImports c := by
  refine ⟨?name, ?below, ?absolute, ?tree⟩
  case name =>
    rintro module name target result ⟨s, hs, htarget⟩ hstarts hone hname hown hresult
    have habsolute : absolute? name = none := by
      cases hsome : absolute? name with
      | none => rfl
      | some behind =>
        rw [absolute?_eq_some_iff.1 hsome, segments_separator_append] at hone
        exact absurd (List.cons.inj hone).2 (segments_ne_nil behind)
    have hfollow : s.follow? name = some target := by
      unfold Scope.follow?
      rw [splitFirst_of_one hone]
      exact congrArg (Option.map _) htarget
    exact resolveName?_of_follow? habsolute (anchored?_eq_none hone hname module) hown hs hfollow
      (resolveImport?_of_startsWithAnchor hstarts hresult)
  case below =>
    rintro module name target rest result ⟨s, hs, htarget⟩ hstarts hne hfirst hname hown hresult
    have hqualify : qualify target rest = target ++ separator ++ rest := by
      unfold qualify
      rw [if_neg (by simpa using hstarts.ne_empty)]
    have hfollow : s.follow? (name ++ separator ++ rest) = some (target ++ separator ++ rest) := by
      unfold Scope.follow?
      rw [splitFirst_of_cons hfirst, ← hqualify]
      exact congrArg (Option.map _) htarget
    exact resolveName?_of_follow? (absolute?_eq_none hfirst hne) (anchored?_eq_none hfirst hname module)
      hown hs hfollow (resolveImport?_of_startsWithAnchor (hstarts.append rest) hresult)
  case absolute =>
    intro h module s name target hs htarget other path
    exact resolveName?_of_sameRelative h hs (sameRelative_dropAlias htarget) other path
  case tree =>
    intro h module s tree hs hnew other path
    exact resolveName?_of_sameRelative h hs (sameRelative_addTree hnew) other path

example : ((Catalog.ofTypes [{ name := "app::auth::Claims" }, { name := "app::api::Claims" }]).setScope
    "app::api" { aliases := [("guards", "crate::auth")] }).resolveName? "app::api" "guards::Claims" =
      some "app::auth::Claims" := by
  decide +kernel

/-- A file that imports a type by its path with a separator in front. -/
def guardFile : ModuleFile where
  segments := []
  text := "pub mod auth \x7b pub struct SecuredBy; \x7d\nuse ::app::auth::SecuredBy as Guard;\n"

/-- The name that is imported for a path with a separator in front stands for nothing, and the path
itself stands for a type. -/
theorem finish_missesAbsoluteImport :
    ∃ c, Collection.readFiles { crate := "app" } [guardFile] = .ok c ∧
      c.finish.1.Imports "app" "Guard" "::app::auth::SecuredBy" ∧
      c.finish.1.declares (qualify "app" "Guard") = false ∧
      c.finish.1.resolveName? "app" "::app::auth::SecuredBy" = some "app::auth::SecuredBy" ∧
      c.finish.1.resolveName? "app" "Guard" = none := by
  have hread : (Collection.readFiles { crate := "app" } [guardFile]).map (·.finish.1) =
      .ok { Catalog.ofTypes [{ name := "app::auth::SecuredBy" }] with
        scopes := [("app", { aliases := [("Guard", "::app::auth::SecuredBy")] })] } := by
    decide +kernel
  obtain ⟨c, hread, hfinish⟩ := Collection.exists_ok_of_map hread
  refine ⟨c, hread, ?_⟩
  rw [hfinish]
  exact ⟨⟨_, rfl, rfl⟩, by decide +kernel, by decide +kernel, by decide +kernel⟩

end ExprGate.Source
