import Mathlib.Data.List.Infix
import ExprGate.Proofs.Artifact.Index

/-!
# The module tree of some entries

Every included file stands in one block of the tree, the module at the end of its package.
`Module.listing` goes through all blocks; over entries at different places it has each entry once and
nothing else (`listing_ofEntries_perm`). A block is there exactly if an entry is in it or below it
(`isSome_block?_ofEntries`), and its tables are in order (`inOrder_ofEntries`), so no type name and no
module occurs twice in them. The order in which entries are put in does not matter, for the tree and
for the text of the index (`ofEntries_eq_of_perm`, `index_eq_of_perm`).
-/

set_option autoImplicit false

namespace ExprGate.Artifact

open Text Files

/-! ## Blocks -/

/-- The files included in a module, by the names of their types. -/
def Module.inclusions : Module → List (String × Inclusion)
  | .mk inclusions _ => inclusions

/-- The modules inside a module, by their names. -/
def Module.children : Module → List (String × Module)
  | .mk _ children => children

/-- The module at the end of a package. -/
def Module.block? : List String → Module → Option Module
  | [], tree => some tree
  | segment :: package, .mk _ children =>
    (children.lookup segment).bind (Module.block? package)

/-- A file goes into the module of the first segment of its package, which begins if it was not
there. -/
theorem Module.insert_cons (ident : String) (i : Inclusion) (segment : String)
    (package : List String) (inclusions : List (String × Inclusion))
    (children : List (String × Module)) :
    (Module.mk inclusions children).insert ident i (segment :: package) =
      .mk inclusions (insertEntry segment
        (((children.lookup segment).getD .empty).insert ident i package) children) :=
  rfl

/-- In an empty module no module is at the end of a package that has segments. -/
theorem Module.isSome_block?_empty {package : List String} :
    (Module.empty.block? package).isSome = true ↔ package = [] := by
  cases package with
  | nil => simp [block?]
  | cons segment package => simp [block?, Module.empty]

/-- What is included at a place is in the block of the package. -/
theorem Module.inclusion?_eq_bind_block? (ident : String) (package : List String) (tree : Module) :
    tree.inclusion? ident package =
      (tree.block? package).bind fun block => block.inclusions.lookup ident := by
  induction package generalizing tree with
  | nil =>
    obtain ⟨inclusions, children⟩ := tree
    rfl
  | cons segment package ih =>
    obtain ⟨inclusions, children⟩ := tree
    unfold inclusion? block?
    cases children.lookup segment with
    | none => rfl
    | some child => exact ih child

/-- A longer package leads through the block of a shorter one. -/
theorem Module.block?_append (package rest : List String) (tree : Module) :
    tree.block? (package ++ rest) = (tree.block? package).bind (Module.block? rest) := by
  induction package generalizing tree with
  | nil => rfl
  | cons segment package ih =>
    obtain ⟨inclusions, children⟩ := tree
    rw [List.cons_append, block?, block?]
    cases children.lookup segment with
    | none => rfl
    | some child => exact ih child

/-- At the end of one segment is the module inside of this name. -/
theorem Module.block?_singleton (segment : String) (tree : Module) :
    tree.block? [segment] = tree.children.lookup segment := by
  obtain ⟨inclusions, children⟩ := tree
  exact Option.bind_fun_some _

/-- Including a file opens the blocks on the way to it. -/
theorem Module.isSome_block?_insert {ident : String} {i : Inclusion} {package path : List String}
    {tree : Module} :
    ((tree.insert ident i package).block? path).isSome = true ↔
      path <+: package ∨ (tree.block? path).isSome = true := by
  induction package generalizing tree path with
  | nil =>
    obtain ⟨inclusions, children⟩ := tree
    cases path with
    | nil => simp [block?]
    | cons segment path =>
      unfold Module.insert block?
      simp
  | cons segment package ih =>
    obtain ⟨inclusions, children⟩ := tree
    cases path with
    | nil => simp [block?]
    | cons other path =>
      unfold Module.insert block?
      by_cases hsegment : other = segment
      · subst hsegment
        rw [lookup_insertEntry_self, Option.bind_some, ih, List.cons_prefix_cons]
        cases hchild : children.lookup other with
        | none =>
          -- a new module has no block but itself
          rw [Option.getD_none, isSome_block?_empty]
          constructor
          · rintro (hway | rfl)
            · exact .inl ⟨rfl, hway⟩
            · exact .inl ⟨rfl, List.nil_prefix⟩
          · rintro (⟨-, hway⟩ | hnone)
            · exact .inl hway
            · cases hnone
        | some child => simp
      · rw [lookup_insertEntry_of_ne _ _ hsegment, List.cons_prefix_cons]
        simp [hsegment]

/-- There is a block exactly where the package of an entry leads through, and at the top. -/
theorem isSome_block?_ofEntries {entries : List Entry} {path : List String} :
    ((Module.ofEntries entries).block? path).isSome = true ↔
      path = [] ∨ ∃ e ∈ entries, path <+: e.artifact.packageSegments := by
  unfold Module.ofEntries
  induction entries using List.reverseRecOn with
  | nil =>
    rw [List.foldl_nil, Module.isSome_block?_empty]
    simp
  | append_singleton entries e ih =>
    rw [List.foldl_concat, Module.isSome_block?_insert, ih]
    simp only [List.mem_append, List.mem_singleton, or_and_right, exists_or, exists_eq_left]
    exact or_comm.trans or_assoc

/-! ## Invariants of all blocks -/

/-- A property of a module and of all modules inside, at any depth. -/
inductive Module.Every (P : Module → Prop) : Module → Prop where
  | intro {tree : Module} (hown : P tree)
    (hbelow : ∀ entry ∈ tree.children, Module.Every P entry.2) : Module.Every P tree

variable {P : Module → Prop}

/-- In an empty module every module is the module itself. -/
theorem Module.Every.empty (hempty : P .empty) : Module.empty.Every P :=
  .intro hempty nofun

/-- A property of every module is one of the outermost. -/
theorem Module.Every.own {tree : Module} (h : tree.Every P) : P tree := by
  obtain ⟨hown, -⟩ := h
  exact hown

/-- A property of every module is one of every module at the end of a package. -/
theorem Module.Every.block? {tree block : Module} (h : tree.Every P) {package : List String}
    (hblock : tree.block? package = some block) : block.Every P := by
  induction package generalizing tree with
  | nil => exact Option.some.inj hblock ▸ h
  | cons segment package ih =>
    obtain ⟨inclusions, children⟩ := tree
    obtain ⟨-, hbelow⟩ := h
    obtain ⟨child, hchild, hrest⟩ := Option.bind_eq_some_iff.1 hblock
    exact ih (hbelow _ (mem_of_lookup hchild)) hrest

/-- A module inside has the property, also one that is not there yet. -/
theorem Module.Every.child {tree : Module} (h : tree.Every P) (hempty : P .empty)
    (segment : String) : ((tree.children.lookup segment).getD .empty).Every P := by
  obtain ⟨-, hbelow⟩ := h
  cases hchild : tree.children.lookup segment with
  | none => exact .empty hempty
  | some child => exact hbelow _ (mem_of_lookup hchild)

/-- A property that each module on the way to a place keeps when a file is included there. -/
structure KeptAt (P : Module → Prop) (package : List String) (ident : String) (i : Inclusion) :
    Prop where
  empty : P .empty
  inclusion : ∀ tree, P tree → P (.mk (insertEntry ident i tree.inclusions) tree.children)
  child : ∀ tree, ∀ segment ∈ package, ∀ child, P tree →
    P (.mk tree.inclusions (insertEntry segment child tree.children))

/-- Including a file keeps a property of every module that the modules on the way keep. -/
theorem Module.Every.insert {tree : Module} (h : tree.Every P) {ident : String} {i : Inclusion}
    {package : List String} (hkept : KeptAt P package ident i) :
    (tree.insert ident i package).Every P := by
  induction package generalizing tree with
  | nil =>
    obtain ⟨hown, hbelow⟩ := h
    obtain ⟨inclusions, children⟩ := tree
    exact .intro (hkept.inclusion _ hown) hbelow
  | cons segment package ih =>
    have hchild := ih (h.child hkept.empty segment)
      ⟨hkept.empty, hkept.inclusion, fun t s hs => hkept.child t s (List.mem_cons_of_mem _ hs)⟩
    obtain ⟨hown, hbelow⟩ := h
    obtain ⟨inclusions, children⟩ := tree
    refine .intro (hkept.child _ segment List.mem_cons_self _ hown) ?_
    intro entry hentry
    obtain rfl | hentry := mem_insertEntry hentry
    · exact hchild
    · exact hbelow entry hentry

/-- A property that is kept at the place of each entry is one of all blocks. -/
theorem every_ofEntries {entries : List Entry} (hempty : P .empty)
    (hkept : ∀ e ∈ entries, KeptAt P e.artifact.packageSegments e.artifact.ident e.inclusion) :
    (Module.ofEntries entries).Every P := by
  unfold Module.ofEntries
  induction entries using List.reverseRecOn with
  | nil => exact .empty hempty
  | append_singleton entries e ih =>
    rw [List.foldl_concat]
    exact (ih fun x hx => hkept x (List.mem_append_left _ hx)).insert (hkept e (by simp))

/-- The tables of a module are in order. -/
structure Module.InOrder (block : Module) : Prop where
  inclusions : SortedKeys block.inclusions
  children : SortedKeys block.children

/-- The tables of an empty module are in order. -/
theorem Module.inOrder_empty : Module.empty.InOrder :=
  ⟨.nil, .nil⟩

/-- In the module tree over entries all tables are in order. -/
theorem inOrder_ofEntries (entries : List Entry) :
    (Module.ofEntries entries).Every Module.InOrder := by
  refine every_ofEntries Module.inOrder_empty ?_
  intro e _
  constructor
  case empty => exact Module.inOrder_empty
  case inclusion =>
    intro tree h
    exact ⟨h.inclusions.insertEntry _ _, h.children⟩
  case child =>
    intro tree segment _ child h
    exact ⟨h.inclusions, h.children.insertEntry _ _⟩

/-! ## Entries in a block -/

/-- The files included in a block are those of the entries in its package. -/
theorem mem_inclusions_ofEntries {entries : List Entry}
    (hplaces : (entries.map Entry.place).Nodup) {package : List String} {block : Module}
    (hblock : (Module.ofEntries entries).block? package = some block) {ident : String}
    {i : Inclusion} :
    (ident, i) ∈ block.inclusions ↔
      ∃ e ∈ entries, e.place = (package, ident) ∧ e.inclusion = i := by
  have hkeys := ((inOrder_ofEntries entries).block? hblock).own.inclusions.nodup
  have hread := Module.inclusion?_eq_bind_block? ident package (Module.ofEntries entries)
  rw [hblock, Option.bind_some] at hread
  constructor
  · intro hmem
    rw [lookup_of_mem hkeys hmem] at hread
    by_contra hnone
    have hplace : ∀ e ∈ entries, e.place ≠ (package, ident) := by
      intro e he hplace
      obtain ⟨rfl, rfl⟩ := Prod.mk.inj hplace
      rw [inclusion?_ofEntries hplaces he] at hread
      exact hnone ⟨e, he, rfl, Option.some.inj hread⟩
    have hempty := (Module.inclusion?_foldl_of_ne .empty hplace).trans
      (Module.inclusion?_empty ident package)
    cases hread.symm.trans hempty
  · rintro ⟨e, he, hplace, rfl⟩
    obtain ⟨rfl, rfl⟩ := Prod.mk.inj hplace
    rw [inclusion?_ofEntries hplaces he] at hread
    exact mem_of_lookup hread.symm

/-- The modules inside a block are those through which the package of an entry leads. -/
theorem mem_children_ofEntries {entries : List Entry} {package : List String} {block : Module}
    (hblock : (Module.ofEntries entries).block? package = some block) {name : String} :
    name ∈ block.children.map Prod.fst ↔
      ∃ e ∈ entries, package ++ [name] <+: e.artifact.packageSegments := by
  have hsome : ((Module.ofEntries entries).block? (package ++ [name])).isSome = true ↔ _ :=
    isSome_block?_ofEntries
  rw [Module.block?_append, hblock, Option.bind_some, Module.block?_singleton, isSome_lookup]
    at hsome
  rw [hsome]
  simp

/-! ## All inclusions -/

mutual

/-- Everything that is included in a module and below it, with its package and the name of its
type. The package of the module itself is given. -/
def Module.listing (package : List String) :
    Module → List ((List String × String) × Inclusion)
  | .mk inclusions children =>
    (inclusions.map fun (ident, i) => ((package, ident), i)) ++ childListing package children

/-- Everything that is included in the modules inside a module. -/
def childListing (package : List String) :
    List (String × Module) → List ((List String × String) × Inclusion)
  | [] => []
  | (name, child) :: rest => child.listing (package ++ [name]) ++ childListing package rest

end

/-- What is listed of the modules inside is the list of each, below its name. -/
theorem childListing_eq_flatMap (package : List String) (children : List (String × Module)) :
    childListing package children =
      children.flatMap fun (name, child) => child.listing (package ++ [name]) := by
  induction children with
  | nil => rfl
  | cons entry rest ih => rw [childListing, ih, List.flatMap_cons]

/-- A file at a new place is included beside the others. -/
theorem Module.listing_insert_perm {tree : Module} (h : tree.Every InOrder) (ident : String)
    (i : Inclusion) {package : List String} (hnew : tree.inclusion? ident package = none)
    (above : List String) :
    ((tree.insert ident i package).listing above).Perm
      (((above ++ package, ident), i) :: tree.listing above) := by
  induction package generalizing tree above with
  | nil =>
    obtain ⟨inclusions, children⟩ := tree
    rw [List.append_nil]
    exact ((insertEntry_perm_cons i hnew).map _).append_right _
  | cons segment package ih =>
    obtain ⟨inclusions, children⟩ := tree
    have hchildren : SortedKeys children := h.own.children
    have hchild : ((children.lookup segment).getD .empty).Every InOrder :=
      h.child inOrder_empty segment
    have hrest : ((children.lookup segment).getD .empty).inclusion? ident package = none :=
      (inclusion?_getD _ _ _).trans hnew
    have hperm := ih hchild hrest (above ++ [segment])
    rw [List.append_assoc, List.singleton_append] at hperm
    rw [Module.insert_cons, listing, listing]
    refine .trans ?_ List.perm_middle
    refine .append_left _ ?_
    simp only [childListing_eq_flatMap]
    cases hlookup : children.lookup segment with
    | none =>
      rw [hlookup] at hperm
      exact ((insertEntry_perm_cons _ hlookup).flatMap_right _).trans (hperm.append_right _)
    | some child =>
      -- the child stays between the same others, so the new file can be moved to the front
      rw [hlookup] at hperm
      obtain ⟨before, after, hsplit, hinsert⟩ := hchildren.exists_replaced hlookup
        (((some child).getD .empty).insert ident i package)
      rw [hinsert, hsplit, List.flatMap_append, List.flatMap_append, List.flatMap_cons,
        List.flatMap_cons]
      exact (((hperm.append_right _).append_left _).trans List.perm_middle)

/-- Over entries at different places, the tree includes each entry once, at its place, and nothing
else. -/
theorem listing_ofEntries_perm {entries : List Entry} (hplaces : (entries.map Entry.place).Nodup) :
    ((Module.ofEntries entries).listing []).Perm
      (entries.map fun e => (e.place, e.inclusion)) := by
  unfold Module.ofEntries
  induction entries using List.reverseRecOn with
  | nil => exact .refl _
  | append_singleton entries e ih =>
    rw [List.map_append, List.nodup_append] at hplaces
    obtain ⟨hrest, -, hne⟩ := hplaces
    have hnew : (Module.ofEntries entries).inclusion? e.artifact.ident
        e.artifact.packageSegments = none := by
      refine (Module.inclusion?_foldl_of_ne .empty ?_).trans (Module.inclusion?_empty _ _)
      intro x hx
      exact hne _ (List.mem_map_of_mem hx) _ (by simp [Entry.place])
    rw [List.foldl_concat, List.map_append]
    refine (Module.listing_insert_perm (inOrder_ofEntries entries) _ _ hnew []).trans ?_
    exact ((ih hrest).cons _).trans (List.perm_append_singleton _ _).symm

/-! ## The order of entries -/

/-- Files at different places can be included in any order. -/
theorem Module.insert_comm {ident ident' : String} (i i' : Inclusion)
    {package package' : List String} (tree : Module)
    (hne : (package, ident) ≠ (package', ident')) :
    (tree.insert ident' i' package').insert ident i package =
      (tree.insert ident i package).insert ident' i' package' := by
  induction package generalizing tree package' with
  | nil =>
    obtain ⟨inclusions, children⟩ := tree
    cases package' with
    | nil =>
      have hident : ident ≠ ident' := by
        rintro rfl
        exact hne rfl
      exact congrArg (Module.mk · children) (insertEntry_comm hident i i' inclusions)
    | cons segment' package' => rfl
  | cons segment package ih =>
    obtain ⟨inclusions, children⟩ := tree
    cases package' with
    | nil => rfl
    | cons segment' package' =>
      simp only [insert_cons]
      by_cases hsegment : segment = segment'
      · -- both go into the same module, where their places are different
        subst hsegment
        have hrest : (package, ident) ≠ (package', ident') := by
          intro heq
          cases heq
          exact hne rfl
        simp only [lookup_insertEntry_self, insertEntry_insertEntry_self, Option.getD_some,
          ih _ hrest]
      · simp only [lookup_insertEntry_of_ne _ _ hsegment,
          lookup_insertEntry_of_ne _ _ (Ne.symm hsegment), insertEntry_comm hsegment]

/-- The tree of entries at different places does not depend on their order. -/
theorem ofEntries_eq_of_perm {entries entries' : List Entry} (h : entries.Perm entries')
    (hplaces : (entries.map Entry.place).Nodup) :
    Module.ofEntries entries = Module.ofEntries entries' := by
  unfold Module.ofEntries
  refine h.foldl_eq' ?_ _
  intro x hx y hy tree
  by_cases hxy : x = y
  · rw [hxy]
  · refine Module.insert_comm _ _ tree ?_
    intro hplace
    exact hxy (List.inj_on_of_nodup_map hplaces hy hx hplace).symm

/-- Nor does the index. -/
theorem index_eq_of_perm {entries entries' : List Entry} (h : entries.Perm entries')
    (hplaces : (entries.map Entry.place).Nodup) (runtime : String) :
    index entries runtime = index entries' runtime := by
  unfold index
  rw [ofEntries_eq_of_perm h hplaces, registrations_eq_of_perm h]

end ExprGate.Artifact
