import ExprGate.Proofs.Source.Imports

/-!
# The leaves of a tree of imports

A tree of imports stands for its leaves, each with the segments on the way to it from the root
(`leaves`). What a leaf introduces depends on these segments only, not on the groups around it, and
the imports of a tree are those of its leaves from left to right (`treeImports_eq`). Flattening adds
them one after another, whatever it has found before, and is back at the end where it was at the
beginning (`flattenTree_leaves`).
-/

set_option autoImplicit false

namespace ExprGate.Source

open Declaration Grammar

/-! ## Leaves -/

/-- What a tree of imports ends with. -/
inductive Leaf where
  | name (name : String)
  | rename (name newName : String)
  | glob
deriving DecidableEq, Repr

namespace Leaf

/-- The segments of the path that a leaf stands for, behind those in front of it. A leaf `self` is
the path in front. -/
def segments (above : List String) : Leaf → List String
  | .name own => if own = "self" then above else above ++ [own]
  | .rename own _ => if own = "self" then above else above ++ [own]
  | .glob => above

/-- The path that a leaf stands for. -/
def path (absolute : Bool) (above : List String) (leaf : Leaf) : String :=
  (if absolute then "::" else "") ++ "::".intercalate (leaf.segments above)

/-- What a leaf introduces below some segments. A name is introduced under its own name, `self` under
that of the last segment in front, a renamed leaf under its new name if that is not `_`. -/
def import? (absolute : Bool) (above : List String) (leaf : Leaf) : Option Import :=
  match leaf with
  | .name own =>
    if own = "self" then above.getLast?.map fun last => .named last (leaf.path absolute above)
    else some (.named own (leaf.path absolute above))
  | .rename _ newName =>
    if newName = "_" then none else some (.named newName (leaf.path absolute above))
  | .glob => some (.glob (leaf.path absolute above))

/-- The path of a leaf is that of its segments. -/
theorem path_eq (absolute : Bool) (above : List String) (leaf : Leaf) :
    leaf.path absolute above = importPath absolute (leaf.segments above) := by
  unfold path importPath
  cases absolute with
  | false => exact String.empty_append
  | true => rfl

end Leaf

mutual

/-- The leaves of a tree from left to right, with the segments on the way to each. -/
def leaves : UseTree → List (List String × Leaf)
  | .path first tree => (leaves tree).map fun (below, leaf) => (first :: below, leaf)
  | .name name => [([], .name name)]
  | .rename name newName => [([], .rename name newName)]
  | .glob => [([], .glob)]
  | .group trees => leavesOf trees

/-- The leaves of trees from left to right, with the segments on the way to each. -/
def leavesOf : List UseTree → List (List String × Leaf)
  | [] => []
  | tree :: rest => leaves tree ++ leavesOf rest

end

/-- What some leaves introduce below some segments. -/
def leafImports (absolute : Bool) (above : List String) (found : List (List String × Leaf)) :
    List Import :=
  found.filterMap fun (below, leaf) => leaf.import? absolute (above ++ below)

/-- What leaves introduce is what the first ones introduce and then the others. -/
theorem leafImports_append (absolute : Bool) (above : List String)
    (first second : List (List String × Leaf)) :
    leafImports absolute above (first ++ second) =
      leafImports absolute above first ++ leafImports absolute above second :=
  List.filterMap_append

/-- Leaves behind a segment introduce what they introduce below it. -/
theorem leafImports_below (absolute : Bool) (above : List String) (first : String)
    (found : List (List String × Leaf)) :
    leafImports absolute above (found.map fun (below, leaf) => (first :: below, leaf)) =
      leafImports absolute (above ++ [first]) found := by
  unfold leafImports
  rw [List.filterMap_map]
  refine List.filterMap_congr ?_
  rintro ⟨below, leaf⟩ -
  have happend : above ++ first :: below = above ++ [first] ++ below := List.append_cons ..
  exact congrArg (leaf.import? absolute) happend

/-- A single leaf at the root introduces its import. -/
theorem leafImports_singleton (absolute : Bool) (above : List String) (leaf : Leaf) :
    leafImports absolute above [([], leaf)] = (leaf.import? absolute above).toList := by
  unfold leafImports
  rw [List.filterMap_cons]
  dsimp only
  rw [List.append_nil]
  cases leaf.import? absolute above <;> rfl

mutual

/-- The imports of a tree are those of its leaves. -/
theorem treeImports_eq (absolute : Bool) (above : List String) : (tree : UseTree) →
    treeImports absolute above tree = leafImports absolute above (leaves tree)
  | .path first tree => by
    rw [treeImports, leaves, leafImports_below]
    exact treeImports_eq absolute (above ++ [first]) tree
  | .name name => by
    rw [treeImports, leaves, leafImports_singleton, Leaf.import?, Leaf.path_eq, Leaf.segments]
    by_cases hself : name = "self"
    · simp [hself]
    · simp [hself]
  | .rename name newName => by
    rw [treeImports, leaves, leafImports_singleton, Leaf.import?, Leaf.path_eq, Leaf.segments]
    by_cases hunnamed : newName = "_"
    · simp [hunnamed]
    · simp [hunnamed]
  | .glob => by
    rw [treeImports, leaves, leafImports_singleton, Leaf.import?, Leaf.path_eq, Leaf.segments]
    rfl
  | .group trees => by
    rw [treeImports, leaves]
    exact treesImports_eq absolute above trees

/-- What trees introduce is what their leaves introduce, from left to right. -/
theorem treesImports_eq (absolute : Bool) (above : List String) : (trees : List UseTree) →
    treesImports absolute above trees = leafImports absolute above (leavesOf trees)
  | [] => by
    rw [treesImports, leavesOf]
    rfl
  | tree :: rest => by
    rw [treesImports, leavesOf, leafImports_append, treeImports_eq absolute above tree,
      treesImports_eq absolute above rest]

end

/-! ## Adding imports one after another -/

/-- The path for which an import introduces a name. -/
def Import.target? (name : String) : Import → Option String
  | .named other path => if name = other then some path else none
  | .glob _ => none

/-- The path below which an import introduces everything. -/
def Import.glob? : Import → Option String
  | .named _ _ => none
  | .glob path => some path

/-- A name stands for the path of its last import, or else for what it stood for before. -/
theorem target?_foldl_addImport (s : Scope) (is : List Import) (name : String) :
    (is.foldl Scope.addImport s).target? name =
      (is.reverse.findSome? (Import.target? name)).or (s.target? name) := by
  induction is using List.reverseRecOn with
  | nil => rfl
  | append_singleton is i ih =>
    rw [List.foldl_concat, List.reverse_concat, List.findSome?_cons]
    cases i with
    | named other path =>
      rw [Scope.addImport, Scope.target?_addAlias, Import.target?]
      split
      · rfl
      · exact ih
    | glob path => exact ih

/-- Paths below which everything is imported are kept in order. -/
theorem globs_foldl_addImport (s : Scope) (is : List Import) :
    (is.foldl Scope.addImport s).globs = s.globs ++ is.filterMap Import.glob? := by
  induction is generalizing s with
  | nil => exact (List.append_nil _).symm
  | cons i is ih =>
    rw [List.foldl_cons, ih]
    cases i with
    | named other path => rfl
    | glob path => exact List.append_assoc _ _ _

/-! ## Main result -/

/-- What flattening a tree does: every leaf adds what it introduces, from left to right. -/
structure AddsLeaves (absolute : Bool) (f : Flattening) (tree : UseTree) (g : Flattening) : Prop where
  /-- The segments in front are the same as before. -/
  above : g.above = f.above
  /-- The imports of the leaves are added to the others one after another. -/
  scope : g.scope = (leafImports absolute f.above (leaves tree)).foldl Scope.addImport f.scope
  /-- A name stands for the path of the last leaf that introduces it. If there is none, it stands
  for what it stood for before. -/
  target : ∀ name, g.scope.target? name =
    ((leafImports absolute f.above (leaves tree)).reverse.findSome? (Import.target? name)).or
      (f.scope.target? name)
  /-- The path of each `*` comes behind those known before. -/
  globs : g.scope.globs =
    f.scope.globs ++ (leafImports absolute f.above (leaves tree)).filterMap Import.glob?

/-- Flattening any tree, from anywhere and whatever is imported already, adds what the leaves of the
tree introduce, and comes back to where it was. -/
theorem flattenTree_leaves (absolute : Bool) (f : Flattening) (tree : UseTree) :
    AddsLeaves absolute f tree (flattenTree absolute f tree) := by
  have hflat : flattenTree absolute f tree =
      ⟨f.above, (leafImports absolute f.above (leaves tree)).foldl Scope.addImport f.scope⟩ := by
    rw [flattenTree_eq, treeImports_eq]
  rw [hflat]
  constructor
  case above => rfl
  case scope => rfl
  case target => exact target?_foldl_addImport f.scope _
  case globs => exact globs_foldl_addImport f.scope _

/-- In nested groups every leaf has the segments of its own way from the root. -/
example : leafImports true [] (leaves (.path "app" (.group [.path "auth" (.group [.name "self",
      .rename "Claims" "Token", .rename "Guard" "_"]), .name "orders", .path "api" .glob]))) =
    [.named "auth" "::app::auth", .named "Token" "::app::auth::Claims",
      .named "orders" "::app::orders", .glob "::app::api"] := by
  decide +kernel

end ExprGate.Source
