import ExprGate.Declaration.Resolution
import ExprGate.Proofs.Text.QualifiedName

/-!
# Anchored paths

A path that starts with `crate`, `self` or `super`, or with a separator, is anchored: the module in which
it is written and the path alone make up one name (`exists_name_of_isAnchored`), which the path stands for
if it is declared. Imports and other declarations play no part.

Going up by as many `super` as there are segments below a module leads back to this module
(`climb_replicate`). So a declared name is found from every module below the one that its path starts in,
from every module of its crate, and from its own (`resolveName?_anchorsExactly`).
-/

set_option autoImplicit false

namespace ExprGate.Declaration

open Text

/-! ## Going up -/

/-- Without `super` in front, the base stays and all segments follow. -/
theorem climb_of_head?_ne {rest : List String} (h : rest.head? ≠ some "super") (base : List String) :
    climb base rest = (base, rest) := by
  unfold climb
  split
  · exact absurd rfl h
  · rfl

/-- With `super` in front, the last segment of the base goes, unless it is the only one. -/
theorem climb_super (segment parent : String) (above rest : List String) :
    climb (segment :: parent :: above) ("super" :: rest) = climb (parent :: above) rest := by
  rw [climb]

/-- As many `super` as there are segments below a base lead to the base. -/
theorem climb_replicate {base rest : List String} (hbase : base ≠ [])
    (hrest : rest.head? ≠ some "super") (below : List String) :
    climb (below ++ base) (List.replicate below.length "super" ++ rest) = (base, rest) := by
  induction below with
  | nil => exact climb_of_head?_ne hrest base
  | cons segment below ih =>
    obtain ⟨parent, above, hparent⟩ := List.exists_cons_of_ne_nil
      (List.append_ne_nil_of_right_ne_nil below hbase)
    rw [List.length_cons, List.replicate_succ, List.cons_append, List.cons_append, hparent,
      climb_super, ← hparent]
    exact ih

/-! ## Paths with a separator in front -/

/-- A path is absolute if it is a separator and a name behind it. -/
theorem absolute?_eq_some_iff {path name : String} :
    absolute? path = some name ↔ path = separator ++ name := by
  unfold absolute?
  constructor
  · intro h
    split at h
    · rename_i rest hpath
      obtain rfl := Option.some.inj h
      refine String.toList_injective ?_
      rw [hpath, String.toList_append, String.toList_ofList]
      rfl
    · cases h
  · rintro rfl
    rw [String.toList_append]
    change some (String.ofList name.toList) = some name
    rw [String.ofList_toList]

/-- A separator in front makes the first segment empty. -/
theorem segments_separator_append (name : String) :
    segments (separator ++ name) = "" :: segments name := by
  have hempty : segments ("" ++ separator ++ name) = "" :: segments name :=
    segments_append (by simp) name
  rwa [String.empty_append] at hempty

/-- A path whose first segment is not empty is not absolute. -/
theorem absolute?_eq_none {path first : String} {rest : List String}
    (h : segments path = first :: rest) (hfirst : first ≠ "") : absolute? path = none := by
  cases habsolute : absolute? path with
  | none => rfl
  | some name =>
    rw [absolute?_eq_some_iff.1 habsolute, segments_separator_append] at h
    exact absurd (List.cons.inj h).1.symm hfirst

/-! ## Paths with an anchor in front -/

/-- The segments that anchor a path at the module where it is written. -/
def anchors : List String :=
  ["crate", "self", "super"]

/-- The base that the segments of a path start from in a module, and the segments that follow. -/
inductive StartsFrom (module : String) : List String → List String → List String → Prop where
  | crate (rest : List String) :
    StartsFrom module ("crate" :: rest) ((segments module).take 1) rest
  | self (rest : List String) : StartsFrom module ("self" :: rest) (segments module) rest
  | super (rest : List String) :
    StartsFrom module ("super" :: rest) (segments module) ("super" :: rest)

/-- The name of an anchored path is what is left of the base, with the rest of the path behind it. -/
theorem anchored?_eq_some_iff {module path name : String} :
    anchored? module path = some name ↔
      ∃ start rest, StartsFrom module (segments path) start rest ∧
        joinSegments ((climb start.reverse rest).1.reverse ++ (climb start.reverse rest).2) = name := by
  unfold anchored?
  dsimp only
  constructor
  · intro h
    split at h
    · rename_i rest hpath
      exact ⟨_, rest, by rw [hpath]; exact .crate rest, Option.some.inj h⟩
    · rename_i rest hpath
      exact ⟨_, rest, by rw [hpath]; exact .self rest, Option.some.inj h⟩
    · rename_i rest hpath
      exact ⟨_, "super" :: rest, by rw [hpath]; exact .super rest, Option.some.inj h⟩
    · cases h
  · rintro ⟨start, rest, hstart, rfl⟩
    generalize segments path = parts at hstart
    cases hstart with
    | crate => rfl
    | self => rfl
    | super => rfl

/-- From a base to which a path climbs back the path means what is below the base. -/
theorem anchored?_of_climb {module path : String} {start rest base above : List String}
    (hstart : StartsFrom module (segments path) start rest)
    (hclimb : climb start.reverse rest = (base.reverse, above)) :
    anchored? module path = some (joinSegments (base ++ above)) := by
  refine anchored?_eq_some_iff.2 ⟨start, rest, hstart, ?_⟩
  rw [hclimb, List.reverse_reverse]

/-- A path with an anchor in front. -/
def StartsWithAnchor (path : String) : Prop :=
  ∃ first ∈ anchors, ∃ behind, segments path = first :: behind

/-- A path that starts with an anchor, or with a separator. -/
def IsAnchored (path : String) : Prop :=
  StartsWithAnchor path ∨ ∃ name, path = separator ++ name

/-- A path with an anchor in front has a name in every module. -/
theorem StartsWithAnchor.exists_anchored? {path : String} (h : StartsWithAnchor path)
    (module : String) : ∃ name, anchored? module path = some name := by
  obtain ⟨first, hfirst, behind, hpath⟩ := h
  have hstart : ∃ start rest, StartsFrom module (segments path) start rest := by
    rw [hpath]
    simp only [anchors, List.mem_cons, List.not_mem_nil, or_false] at hfirst
    obtain rfl | rfl | rfl := hfirst
    · exact ⟨_, _, .crate behind⟩
    · exact ⟨_, _, .self behind⟩
    · exact ⟨_, _, .super behind⟩
  obtain ⟨start, rest, hstart⟩ := hstart
  exact ⟨_, anchored?_eq_some_iff.2 ⟨start, rest, hstart, rfl⟩⟩

/-- A path that is resolved by its anchor starts with one. -/
theorem startsWithAnchor_of_anchored? {module path name : String}
    (h : anchored? module path = some name) : StartsWithAnchor path := by
  obtain ⟨start, rest, hstart, -⟩ := anchored?_eq_some_iff.1 h
  unfold StartsWithAnchor
  generalize segments path = parts at hstart ⊢
  cases hstart with
  | crate rest => exact ⟨_, by simp [anchors], rest, rfl⟩
  | self rest => exact ⟨_, by simp [anchors], rest, rfl⟩
  | super rest => exact ⟨_, by simp [anchors], rest, rfl⟩

/-- A path that does not start with an anchor is not resolved by one. -/
theorem anchored?_eq_none {path first : String} {rest : List String}
    (h : segments path = first :: rest) (hfirst : first ∉ anchors) (module : String) :
    anchored? module path = none := by
  cases hanchored : anchored? module path with
  | none => rfl
  | some name =>
    obtain ⟨other, hother, behind, hpath⟩ := startsWithAnchor_of_anchored? hanchored
    rw [h] at hpath
    exact absurd ((List.cons.inj hpath).1 ▸ hother) hfirst

/-- A path with an anchor in front has no separator in front. -/
theorem StartsWithAnchor.absolute?_eq_none {path : String} (h : StartsWithAnchor path) :
    absolute? path = none := by
  obtain ⟨first, hfirst, behind, hpath⟩ := h
  refine Declaration.absolute?_eq_none hpath ?_
  rintro rfl
  exact absurd hfirst (by decide)

/-! ## What anchored paths stand for -/

namespace Catalog

variable (c : Catalog)

/-- A path with a separator in front stands for the name behind it. -/
theorem resolveName?_absolute (module name : String) :
    c.resolveName? module (separator ++ name) = c.declared? name := by
  unfold resolveName?
  rw [absolute?_eq_some_iff.2 rfl]

/-- A path with an anchor in front stands for the name that it has by the anchor. -/
theorem resolveName?_of_anchored? {module path name : String}
    (h : anchored? module path = some name) : c.resolveName? module path = c.declared? name := by
  unfold resolveName?
  rw [(startsWithAnchor_of_anchored? h).absolute?_eq_none, h]

/-- An anchored path has one name in all catalogs. -/
theorem exists_name_of_isAnchored {path : String} (h : IsAnchored path) (module : String) :
    ∃ name, ∀ c : Catalog, c.resolveName? module path = c.declared? name := by
  obtain h | ⟨name, rfl⟩ := h
  · obtain ⟨name, hname⟩ := h.exists_anchored? module
    exact ⟨name, fun c => c.resolveName?_of_anchored? hname⟩
  · exact ⟨name, fun c => c.resolveName?_absolute module name⟩

/-! ## Spellings of a declared name -/

/-- A path with `super` in front a number of times. -/
def ascend : Nat → String → String
  | 0, path => path
  | k + 1, path => "super" ++ separator ++ ascend k path

/-- The segments of an ascending path are a number of `super` in front of those of the path. -/
theorem segments_ascend (k : Nat) (path : String) :
    segments (ascend k path) = List.replicate k "super" ++ segments path := by
  induction k with
  | zero => rfl
  | succ k ih =>
    rw [ascend, segments_append (by decide), ih]
    rfl

/-- No segment of a path is an anchor or empty. -/
def IsPlainPath (path : String) : Prop :=
  ∀ segment ∈ segments path, segment ∉ anchors ∧ segment ≠ ""

/-- A plain name is declared, and it is that of a path below a module. -/
structure DeclaresBelow (c : Catalog) (name module path : String) : Prop where
  declared : c.declares name = true
  plain : IsPlainPath name
  parts : segments name = segments module ++ segments path

variable {c}

/-- The path to a declared name does not start with `super`. -/
theorem DeclaresBelow.head?_ne {name module path : String} (h : c.DeclaresBelow name module path) :
    (segments path).head? ≠ some "super" := by
  intro hhead
  have hmem : "super" ∈ segments name := by
    rw [h.parts]
    exact List.mem_append_right _ (List.mem_of_mem_head? hhead)
  exact (h.plain "super" hmem).1 (by decide)

/-- The segments of the module and of the path below it make up the declared name. -/
theorem DeclaresBelow.declared?_eq {name module path : String} (h : c.DeclaresBelow name module path) :
    c.declared? (joinSegments (segments module ++ segments path)) = some name := by
  rw [← h.parts, joinSegments_segments]
  exact if_pos h.declared

/-- A path that leads from a module back to the base of a declared name stands for this name. -/
theorem DeclaresBelow.resolveName?_of_climb {name base path module written : String}
    {start rest : List String} (h : c.DeclaresBelow name base path)
    (hstart : StartsFrom module (segments written) start rest)
    (hclimb : climb start.reverse rest = ((segments base).reverse, segments path)) :
    c.resolveName? module written = some name := by
  rw [c.resolveName?_of_anchored? (anchored?_of_climb hstart hclimb), h.declared?_eq]

/-- Back to a base by as many `super` as there are segments below it. -/
theorem DeclaresBelow.climb_eq {name base path : String} (h : c.DeclaresBelow name base path)
    (below : List String) :
    climb (segments base ++ below).reverse (List.replicate below.length "super" ++ segments path) =
      ((segments base).reverse, segments path) := by
  have hbase : (segments base).reverse ≠ [] := by simpa using segments_ne_nil base
  rw [List.reverse_append, ← List.length_reverse]
  exact climb_replicate hbase h.head?_ne below.reverse

/-- Anchored paths stand for exactly what they spell. -/
structure AnchorsExactly (c : Catalog) : Prop where
  /-- From a module further down, with one `super` for each of its segments below the base. -/
  super : ∀ name base path, c.DeclaresBelow name base path → ∀ module below, below ≠ [] →
    segments module = segments base ++ below →
    c.resolveName? module (ascend below.length path) = some name
  /-- With `self` in front of that, also from the base itself. -/
  self : ∀ name base path, c.DeclaresBelow name base path → ∀ module below,
    segments module = segments base ++ below →
    c.resolveName? module ("self" ++ separator ++ ascend below.length path) = some name
  /-- With a separator in front, from everywhere. -/
  absolute : ∀ name, c.declares name = true → ∀ module,
    c.resolveName? module (separator ++ name) = some name
  /-- With `crate` in place of the first segment, from the modules that have this first segment. -/
  crate : ∀ name base path, c.DeclaresBelow name base path → segments base = [base] →
    ∀ module, (segments module).head? = some base →
      c.resolveName? module ("crate" ++ separator ++ path) = some name
  /-- By `self` and the simple name, from the type's own module. The simple name is the last segment,
  unless that one starts with a colon. -/
  own : ∀ name base path, c.DeclaresBelow name base path → simpleName name ≠ "super" →
    c.resolveName? (splitQualified name).1 ("self" ++ separator ++ simpleName name) = some name
  /-- An anchored path has one name in all catalogs, and it stands for this name where the name is
  declared and for nothing elsewhere. -/
  hygienic : ∀ path, IsAnchored path → ∀ module, ∃ name, ∀ other : Catalog,
    other.resolveName? module path = if other.declares name then some name else none

/-- In every catalog, anchored paths stand for exactly what they spell. -/
theorem resolveName?_anchorsExactly (c : Catalog) : c.AnchorsExactly := by
  refine ⟨?super, ?self, ?absolute, ?crate, ?own, ?hygienic⟩
  case super =>
    intro name base path h module below hbelow hmodule
    obtain ⟨k, hk⟩ : ∃ k, below.length = k + 1 :=
      Nat.exists_eq_succ_of_ne_zero (mt List.length_eq_zero_iff.1 hbelow)
    have hsegments := segments_ascend below.length path
    have hclimb := h.climb_eq below
    rw [← hmodule] at hclimb
    rw [hk, List.replicate_succ, List.cons_append] at hsegments hclimb
    rw [hk]
    exact h.resolveName?_of_climb (by rw [hsegments]; exact .super _) hclimb
  case self =>
    intro name base path h module below hmodule
    have hclimb := h.climb_eq below
    rw [← hmodule] at hclimb
    have hsegments : segments ("self" ++ separator ++ ascend below.length path) =
        "self" :: segments (ascend below.length path) := segments_append (by decide) _
    rw [segments_ascend] at hsegments
    exact h.resolveName?_of_climb (by rw [hsegments]; exact .self _) hclimb
  case absolute =>
    intro name hdeclared module
    rw [resolveName?_absolute]
    exact if_pos hdeclared
  case crate =>
    intro name base path h hbase module hmodule
    have hsegments : segments ("crate" ++ separator ++ path) = "crate" :: segments path :=
      segments_append (by decide) path
    have hstart : (segments module).take 1 = segments base := by
      rw [List.take_one, hmodule, hbase]
      rfl
    refine h.resolveName?_of_climb (by rw [hsegments]; exact .crate _) ?_
    rw [hstart]
    exact climb_of_head?_ne h.head?_ne _
  case own =>
    intro name base path h hsimple
    have hseveral : (segments name).length ≠ 1 := by
      have hbase := List.length_pos_iff.2 (segments_ne_nil base)
      have hpath := List.length_pos_iff.2 (segments_ne_nil path)
      rw [h.parts, List.length_append]
      omega
    obtain ⟨hname, hlast⟩ := splitQualified_eq hseveral
    have hstart : StartsFrom (splitQualified name).1
        (segments ("self" ++ separator ++ simpleName name)) (segments (splitQualified name).1)
        (segments (simpleName name)) := by
      rw [segments_append (by decide)]
      exact .self _
    have hclimb : climb (segments (splitQualified name).1).reverse (segments (simpleName name)) =
        ((segments (splitQualified name).1).reverse, segments (simpleName name)) := by
      refine climb_of_head?_ne ?_ _
      rw [hlast]
      exact fun heq => hsimple (Option.some.inj heq)
    rw [c.resolveName?_of_anchored? (anchored?_of_climb hstart hclimb), hlast,
      joinSegments_concat (segments_ne_nil _), joinSegments_segments, ← hname]
    exact if_pos h.declared
  case hygienic =>
    intro path hpath module
    exact exists_name_of_isAnchored hpath module

example : (ofTypes [⟨"app::api::Orders", .struct, [], [], []⟩]).resolveName? "app::api::v1::admin"
    (ascend 2 "Orders") = some "app::api::Orders" := by
  cbv

end Catalog

end ExprGate.Declaration
