import ExprGate.Proofs.Artifact.IndexLine
import ExprGate.Proofs.Artifact.ModuleTree
import ExprGate.Proofs.Text.SnakeCase

/-!
# Reading the index

`readIndex` reads the text of an index line by line and keeps account of the modules that are open.
It refuses a text in which modules are not closed in turn, a private module that does not include one
file and is not followed by the export of one of its types, and everything that is no item of an
index. What it finds are the included files with their packages and types, and the registrations.

The index over entries at different places is read back as these entries, each once, and nothing
else (`readIndex_index`). For the module tree this follows its own recursion: whatever is open, the
lines of a module are read as what the module lists, and leave open what was open before
(`reads_lines`).
-/

set_option autoImplicit false

namespace ExprGate.Artifact

open Text Files

/-! ## The reader -/

/-- An included file: the package in which it is, the private module around it, and the type that is
exported from it. -/
structure Included where
  package : List String
  module : String
  ident : String
  file : String
deriving DecidableEq, Repr

/-- What an index holds. -/
structure Contents where
  included : List Included := []
  /-- The paths of the types that are registered, and their names. -/
  registered : List (List String × String) := []
deriving DecidableEq, Repr

/-- What is expected next. -/
inductive Phase where
  /-- An item of a package. -/
  | items
  /-- The file in a private module. -/
  | file (module : String)
  /-- The end of a private module that includes a file. -/
  | closing (module file : String)
  /-- The export of a type from a private module that includes a file. -/
  | export (module file : String)
  /-- A registration. -/
  | registrations
  /-- Nothing. -/
  | finished
deriving DecidableEq, Repr

/-- How far an index is read. -/
structure Scan where
  phase : Phase := .items
  /-- The public modules that are open, outermost first. -/
  package : List String := []
  contents : Contents := {}
deriving DecidableEq, Repr

/-- Adds an included file. -/
def Contents.include (c : Contents) (x : Included) : Contents :=
  { c with included := c.included ++ [x] }

/-- Adds a registration. -/
def Contents.register (c : Contents) (path : List String) (name : String) : Contents :=
  { c with registered := c.registered ++ [(path, name)] }

/-- Takes in the meaning of a line, if it is expected. -/
def Scan.step (s : Scan) (line : Line) : Option Scan :=
  match s.phase, line with
  | .items, .nothing => some s
  | .items, .opening true name => some { s with package := s.package ++ [name] }
  | .items, .closing =>
    if s.package.isEmpty then none else some { s with package := s.package.dropLast }
  | .items, .opening false name => some { s with phase := .file name }
  | .file module, .inclusion file => some { s with phase := .closing module file }
  | .closing module file, .closing => some { s with phase := .export module file }
  | .export module file, .exported origin ident =>
    if origin = module then
      some { s with
        phase := .items
        contents := s.contents.include ⟨s.package, module, ident, file⟩ }
    else none
  | .items, .registrar => if s.package.isEmpty then some { s with phase := .registrations } else none
  | .registrations, .unused => some s
  | .registrations, .registration path name =>
    some { s with contents := s.contents.register path name }
  | .registrations, .closing => some { s with phase := .finished }
  | .finished, .nothing => some s
  | _, _ => none

/-- Reads a line, if it has a meaning and that is expected. -/
def Scan.readLine (s : Scan) (cs : List Char) : Option Scan :=
  (Line.ofChars? cs).bind s.step

/-- What the text of an index holds, if it is one. -/
def readIndex (text : String) : Option Contents := do
  let s ← (text.toList.splitOn '\n').foldlM Scan.readLine {}
  if s.phase = .finished then some s.contents else none

/-! ## Lines that are read -/

/-- Lines without line breaks inside that lead from one state to another. -/
structure Reads (s : Scan) (ls : List String) (s' : Scan) : Prop where
  unbroken : ∀ l ∈ ls, '\n' ∉ l.toList
  read : (ls.map String.toList).foldlM Scan.readLine s = some s'

/-- No lines leave the state as it is. -/
theorem Reads.nil (s : Scan) : Reads s [] s :=
  ⟨by simp, rfl⟩

/-- Lines are read one part after another. -/
theorem Reads.append {s s' s'' : Scan} {ls ls' : List String} (h : Reads s ls s')
    (h' : Reads s' ls' s'') : Reads s (ls ++ ls') s'' := by
  constructor
  case unbroken =>
    intro l hl
    exact (List.mem_append.1 hl).elim (h.unbroken l) (h'.unbroken l)
  case read =>
    rw [List.map_append, List.foldlM_append, h.read]
    exact h'.read

/-- A line leads to the state that its meaning leads to. -/
theorem Reads.single {s s' : Scan} {l : String} {line : Line} (hbreak : '\n' ∉ l.toList)
    (hline : Line.ofChars? l.toList = some line) (hstep : s.step line = some s') :
    Reads s [l] s' := by
  constructor
  case unbroken =>
    intro l' hl'
    obtain rfl := List.mem_singleton.1 hl'
    exact hbreak
  case read =>
    have hread : s.readLine l.toList = some s' := by
      unfold Scan.readLine
      rw [hline]
      exact hstep
    simp [hread]

/-- A line is read, and then the others. -/
theorem Reads.cons {s s' s'' : Scan} {l : String} {ls : List String} (h : Reads s [l] s')
    (h' : Reads s' ls s'') : Reads s (l :: ls) s'' :=
  h.append h'

/-! ## Characters that end a name -/

/-- What no identifier contains is not in a text of characters of identifiers. -/
theorem not_mem_of_all {c : Char} (hc : isIdentContinue c = false) {cs : List Char}
    (h : cs.all isIdentContinue = true) : c ∉ cs := by
  intro hmem
  rw [List.all_eq_true.1 h c hmem] at hc
  cases hc

/-- A number in hexadecimal digits stands on one line. -/
theorem not_mem_hexDigits (n : Nat) : '\n' ∉ hexDigits n := by
  unfold hexDigits
  induction n using Nat.strongRecOn with
  | ind n ih =>
    have hdigit : ∀ d < 16, '\n' ≠ Nat.digitChar d := by decide
    by_cases hsmall : n < 16
    · rw [Nat.toDigits_of_lt_base hsmall, List.mem_singleton]
      exact hdigit n hsmall
    · rw [Nat.toDigits_of_base_le (by omega) (by omega), List.mem_append, List.mem_singleton, not_or]
      exact ⟨ih (n / 16) (by omega), hdigit _ (Nat.mod_lt _ (by omega))⟩

/-- A string literal stands on one line. -/
theorem not_mem_quoted (s : String) : '\n' ∉ (quoted s).toList := by
  have hchar (c : Char) : '\n' ∉ quoteChar c := by
    unfold quoteChar
    by_cases hline : c = '\n'
    · subst hline
      decide
    · repeat' split
      all_goals simp [not_mem_hexDigits, Ne.symm hline]
  unfold quoted
  rw [String.toList_ofList]
  simp [hchar]

/-- Indentation stays on one line. -/
theorem not_mem_indent (depth : Nat) : '\n' ∉ (indent depth).toList := by
  unfold indent
  rw [String.toList_ofList]
  simp

/-! ## Modules -/

/-- Names that fill their places in the lines of a module, and do not end them. -/
structure Module.Plain (block : Module) : Prop where
  idents : ∀ x ∈ block.inclusions, ':' ∉ x.1.toList ∧ '\n' ∉ x.1.toList
  modules : ∀ x ∈ block.inclusions, '\n' ∉ x.2.module.toList
  children : ∀ x ∈ block.children, '\n' ∉ x.1.toList

/-- What is read for a listed inclusion. -/
def includedOf : (List String × String) × Inclusion → Included
  | ((package, ident), i) => ⟨package, i.module, ident, i.file.text⟩

/-- The state after some inclusions have been read. -/
def Scan.adding (s : Scan) (l : List ((List String × String) × Inclusion)) : Scan :=
  { s with contents := { s.contents with included := s.contents.included ++ l.map includedOf } }

/-- Adding no inclusions leaves the state as it is. -/
theorem Scan.adding_nil (s : Scan) : s.adding [] = s := by
  unfold adding
  rw [List.map_nil, List.append_nil]

/-- Adding inclusions together is adding some and then the others. -/
theorem Scan.adding_append (s : Scan) (l l' : List ((List String × String) × Inclusion)) :
    s.adding (l ++ l') = (s.adding l).adding l' := by
  unfold adding
  rw [List.map_append, List.append_assoc]

/-- The lines of an inclusion are read as the inclusion, in the package that is open. -/
theorem reads_inclusion {s : Scan} (hitems : s.phase = .items) (depth : Nat) {ident : String}
    {i : Inclusion} (hident : ':' ∉ ident.toList ∧ '\n' ∉ ident.toList)
    (hmodule : '\n' ∉ i.module.toList) :
    Reads s (i.lines depth ident) (s.adding [((s.package, ident), i)]) := by
  obtain ⟨phase, package, contents⟩ := s
  obtain rfl : phase = .items := hitems
  have hindent := not_mem_indent depth
  have hdeeper := not_mem_indent (depth + 1)
  have hfile := not_mem_quoted i.file.text
  unfold Inclusion.lines
  refine .cons (.single ?_ (ofChars?_opening depth i.module) rfl) ?_
  · simp [hindent, hmodule]
  refine .cons (.single ?_ (ofChars?_inclusion (depth + 1) i.file.text) rfl) ?_
  · simp [hdeeper, hfile]
  refine .cons (.single ?_ (ofChars?_closing depth) rfl) ?_
  · simp [hindent]
  refine .cons (.single ?_ (ofChars?_exported depth i.module hident.1) (if_pos rfl)) ?_
  · simp [hindent, hmodule, hident.2]
  exact .single (by simp) ofChars?_empty rfl

/-- The lines of the inclusions of a module are read as these inclusions, in their order. -/
theorem reads_inclusions {s : Scan} (hitems : s.phase = .items) (depth : Nat)
    {inclusions : List (String × Inclusion)}
    (hidents : ∀ x ∈ inclusions, ':' ∉ x.1.toList ∧ '\n' ∉ x.1.toList)
    (hmodules : ∀ x ∈ inclusions, '\n' ∉ x.2.module.toList) :
    Reads s (inclusions.flatMap fun (ident, i) => i.lines depth ident)
      (s.adding (inclusions.map fun (ident, i) => ((s.package, ident), i))) := by
  induction inclusions generalizing s with
  | nil =>
    rw [List.map_nil, Scan.adding_nil]
    exact .nil s
  | cons x rest ih =>
    obtain ⟨ident, i⟩ := x
    rw [List.forall_mem_cons] at hidents hmodules
    rw [List.flatMap_cons, List.map_cons, ← List.singleton_append, Scan.adding_append]
    exact (reads_inclusion hitems depth hidents.1 hmodules.1).append
      (ih (s := s.adding _) hitems hidents.2 hmodules.2)

/-- A module inside is read between its first and its last line. -/
theorem reads_child {s : Scan} (hitems : s.phase = .items) (depth : Nat) {name : String}
    (hname : '\n' ∉ name.toList) {ls : List String} {l : List ((List String × String) × Inclusion)}
    (h : Reads { s with package := s.package ++ [name] } ls
      (Scan.adding { s with package := s.package ++ [name] } l)) :
    Reads s ([indent depth ++ "pub mod " ++ name ++ " \x7b"] ++ ls ++ [indent depth ++ "\x7d", ""])
      (s.adding l) := by
  obtain ⟨phase, package, contents⟩ := s
  obtain rfl : phase = .items := hitems
  have hindent := not_mem_indent depth
  refine .append (.append (.single ?_ (ofChars?_openingPublic depth name) rfl) h) ?_
  · simp [hindent, hname]
  refine .cons (.single ?_ (ofChars?_closing depth) (if_neg ?_)) (.single (by simp) ofChars?_empty ?_)
  · simp [hindent]
  · simp [Scan.adding]
  · simp [Scan.adding, Scan.step]

mutual

/-- The lines of a module are read as what the module lists, whatever is open around it. -/
theorem reads_lines (depth : Nat) (s : Scan) (hitems : s.phase = .items) :
    (tree : Module) → tree.Every Module.Plain →
      Reads s (tree.lines depth) (s.adding (tree.listing s.package))
  | .mk inclusions children, h => by
    have hplain := h.own
    have hbelow : ∀ x ∈ children, x.2.Every Module.Plain := by
      obtain ⟨-, hbelow⟩ := h
      exact hbelow
    rw [Module.lines, Module.listing, Scan.adding_append]
    -- the inclusions leave the package open, so the children are read inside it
    exact (reads_inclusions hitems depth hplain.idents hplain.modules).append
      (reads_childLines depth (s.adding _) hitems children hplain.children hbelow)

/-- The lines of the modules inside a module are read as what they list, one after another. -/
theorem reads_childLines (depth : Nat) (s : Scan) (hitems : s.phase = .items) :
    (children : List (String × Module)) → (∀ x ∈ children, '\n' ∉ x.1.toList) →
      (∀ x ∈ children, x.2.Every Module.Plain) →
        Reads s (childLines depth children) (s.adding (childListing s.package children))
  | [], _, _ => by
    rw [childLines, childListing, Scan.adding_nil]
    exact .nil s
  | (name, child) :: rest, hnames, hbelow => by
    rw [List.forall_mem_cons] at hnames hbelow
    rw [childLines, childListing, Scan.adding_append]
    have hchild := reads_lines (depth + 1) { s with package := s.package ++ [name] } hitems child
      hbelow.1
    exact (reads_child hitems depth hnames.1 hchild).append
      (reads_childLines depth (s.adding _) hitems rest hnames.2 hbelow.2)

end

/-! ## Registrations -/

/-- The lines of registrations are read as these registrations, in their order. -/
theorem reads_registrations {s : Scan} (hphase : s.phase = .registrations)
    {l : List (List String × String)}
    (hpaths : ∀ x ∈ l, x.1 ≠ [] ∧ ∀ segment ∈ x.1, segment.toList.all isIdentContinue = true) :
    Reads s (l.map fun (path, name) => registrationLine name (joinSegments path))
      { s with contents := { s.contents with registered := s.contents.registered ++ l } } := by
  induction l generalizing s with
  | nil =>
    rw [List.append_nil]
    exact .nil s
  | cons x rest ih =>
    obtain ⟨path, name⟩ := x
    obtain ⟨phase, package, contents⟩ := s
    obtain rfl : phase = .registrations := hphase
    rw [List.forall_mem_cons] at hpaths
    obtain ⟨⟨hne, hchars⟩, hrest⟩ := hpaths
    have hbreak : '\n' ∉ (registrationLine name (joinSegments path)).toList := by
      have hpath : '\n' ∉ (joinSegments path).toList := by
        intro hmem
        obtain hcolon | ⟨segment, hsegment, hc⟩ := mem_joinSegments hmem
        · cases hcolon
        · exact not_mem_of_all (by decide) (hchars segment hsegment) hc
      unfold registrationLine
      simp [hpath, not_mem_quoted]
    rw [List.map_cons]
    refine .cons (.single hbreak (ofChars?_registration hne name
      (fun segment hsegment => not_mem_of_all (by decide) (hchars segment hsegment))
      (fun segment hsegment => not_mem_of_all (by decide) (hchars segment hsegment))) rfl) ?_
    have hmore := ih (s := ⟨.registrations, package, contents.register path name⟩) rfl hrest
    unfold Contents.register at hmore
    dsimp only at hmore
    rw [List.append_assoc, List.singleton_append] at hmore
    exact hmore

/-! ## The index -/

/-- What an entry is read as. -/
def Entry.included (e : Entry) : Included :=
  ⟨e.artifact.packageSegments, e.artifact.moduleName, e.artifact.ident, e.file.text⟩

/-- The path of the type of an entry, and its name. -/
def Entry.registered (e : Entry) : List String × String :=
  (e.artifact.packageSegments ++ [e.artifact.ident], e.artifact.qualifiedName)

/-- The lines of a text that ends with its last line. -/
theorem splitOn_lines {ls : List String} (h : ∀ l ∈ ls, '\n' ∉ l.toList) :
    (lines ls).toList.splitOn '\n' = ls.map String.toList ++ [[]] := by
  have hjoin : (lines ls).toList = ['\n'].intercalate (ls.map String.toList ++ [[]]) := by
    induction ls with
    | nil => rfl
    | cons l rest ih =>
      have hcons : (lines (l :: rest)).toList = l.toList ++ ['\n'] ++ (lines rest).toList := by
        unfold lines
        simp [String.join_cons]
      rw [hcons, ih fun x hx => h x (List.mem_cons_of_mem _ hx), List.map_cons, List.cons_append,
        List.intercalate_cons_of_ne_nil (by simp)]
  rw [hjoin]
  refine List.splitOn_intercalate '\n' ?_ (by simp)
  intro part hpart
  obtain hpart | hpart := List.mem_append.1 hpart
  · obtain ⟨l, hl, rfl⟩ := List.mem_map.1 hpart
    exact h l hl
  · obtain rfl := List.mem_singleton.1 hpart
    simp

/-- In the module tree over entries with plain packages all names are plain. -/
theorem plain_ofEntries {entries : List Entry}
    (hpackages : ∀ e ∈ entries, e.artifact.HasPlainPackage)
    (hidents : ∀ e ∈ entries, e.artifact.ident.toList.all isIdentContinue = true) :
    (Module.ofEntries entries).Every Module.Plain := by
  have hempty : Module.empty.Plain := ⟨nofun, nofun, nofun⟩
  refine every_ofEntries hempty ?_
  intro e he
  have hident := hidents e he
  have hmodule : e.artifact.moduleName.toList.all isIdentContinue = true :=
    List.all_eq_true.2 fun d hd =>
      isIdentContinue_of_mem_snakeName (List.all_eq_true.1 hident) hd
  constructor
  case empty => exact hempty
  case inclusion =>
    intro tree h
    refine ⟨?_, ?_, h.children⟩
    · intro x hx
      obtain rfl | hx := mem_insertEntry hx
      · exact ⟨not_mem_of_all (by decide) hident, not_mem_of_all (by decide) hident⟩
      · exact h.idents x hx
    · intro x hx
      obtain rfl | hx := mem_insertEntry hx
      · exact not_mem_of_all (by decide) hmodule
      · exact h.modules x hx
  case child =>
    intro tree segment hsegment child h
    refine ⟨h.idents, h.modules, ?_⟩
    intro x hx
    obtain rfl | hx := mem_insertEntry hx
    · exact not_mem_of_all (by decide) (hpackages e he segment hsegment)
    · exact h.children x hx

/-- With their paths in segments, the registrations are those of the entries, up to the order. -/
theorem registrations_segments {entries : List Entry}
    (hpackages : ∀ e ∈ entries, e.artifact.HasPlainPackage)
    (hidents : ∀ e ∈ entries, e.artifact.ident.toList.all isIdentContinue = true) :
    ((registrations entries).map fun (name, typePath) => (segments typePath, name)).Perm
      (entries.map Entry.registered) := by
  have hregistered : (entries.map fun e => (e.artifact.qualifiedName, e.artifact.typePath)).map
      (fun (name, typePath) => (segments typePath, name)) = entries.map Entry.registered := by
    rw [List.map_map]
    refine List.map_congr_left ?_
    intro e he
    have hcolon : ∀ segment ∈ e.artifact.packageSegments ++ [e.artifact.ident],
        ':' ∉ segment.toList := by
      intro segment hsegment
      have hchars := List.forall_mem_append.2
        ⟨hpackages e he, List.forall_mem_singleton.2 (hidents e he)⟩
      exact not_mem_of_all (by decide) (hchars segment hsegment)
    exact Prod.ext (segments_joinSegments (by simp) hcolon) rfl
  rw [← hregistered]
  exact (registrations_perm entries).map _

/-- The index over plain entries is read as what its tree lists and what it registers. -/
theorem readIndex_eq {entries : List Entry} {runtime : String}
    (hpackages : ∀ e ∈ entries, e.artifact.HasPlainPackage)
    (hidents : ∀ e ∈ entries, e.artifact.ident.toList.all isIdentContinue = true)
    (hruntime : '\n' ∉ runtime.toList) :
    readIndex (index entries runtime) = some
      ⟨((Module.ofEntries entries).listing []).map includedOf,
        (registrations entries).map fun (name, typePath) => (segments typePath, name)⟩ := by
  have htree := reads_lines 0 {} rfl _ (plain_ofEntries hpackages hidents)
  generalize hincluded : Scan.adding {} ((Module.ofEntries entries).listing []) = s at htree
  have hpaths : ∀ x ∈ (registrations entries).map fun (name, typePath) => (segments typePath, name),
      x.1 ≠ [] ∧ ∀ segment ∈ x.1, segment.toList.all isIdentContinue = true := by
    intro x hx
    obtain ⟨e, he, rfl⟩ :=
      List.mem_map.1 ((registrations_segments hpackages hidents).mem_iff.1 hx)
    exact ⟨by simp [Entry.registered], List.forall_mem_append.2
      ⟨hpackages e he, List.forall_mem_singleton.2 (hidents e he)⟩⟩
  have hregistered := reads_registrations (s := { s with phase := .registrations }) rfl hpaths
  simp only [List.map_map, Function.comp_def, joinSegments_segments] at hregistered
  have hunused : Reads { s with phase := .registrations }
      (if (registrations entries).isEmpty then ["    let _ = registry;"] else [])
      { s with phase := .registrations } := by
    split
    · exact .single (by decide) rfl rfl
    · exact .nil _
  have hstart : Reads {} [generatedMark ++ ". Do not edit.", ""] {} :=
    .cons (.single (by decide) rfl rfl) (.single (by decide) rfl rfl)
  have hregistrar : Reads s ["/// Register every generated evaluator under its qualified name.",
      "pub fn register(registry: &mut " ++ runtime ++ "::EvaluatorRegistry) \x7b"]
      { s with phase := .registrations } := by
    subst hincluded
    exact .cons (.single (by decide) rfl rfl)
      (.single (by simp [hruntime]) (ofChars?_registrar runtime) rfl)
  -- the text is these lines one after another, and the end of the function behind them
  have hall := ((((hstart.append htree).append hregistrar).append hunused).append
    hregistered).append (.single (l := "\x7d") (by decide) rfl rfl)
  unfold readIndex index
  dsimp only
  rw [splitOn_lines hall.unbroken, List.foldlM_append, hall.read]
  subst hincluded
  rfl

/-- An index is complete over some entries: it includes the file of each, next to the export of its
type inside the modules of its package, and registers this type under its name, once, and it holds
nothing else. -/
structure Complete (entries : List Entry) (contents : Contents) : Prop where
  included : contents.included.Perm (entries.map Entry.included)
  registered : contents.registered.Perm (entries.map Entry.registered)
  /-- One file is included in the package of an entry with the type of the entry. -/
  includedOnce : ∀ e ∈ entries, (contents.included.filter fun x =>
    x.package == e.artifact.packageSegments && x.ident == e.artifact.ident) = [e.included]
  /-- One type is registered under the name of an entry. -/
  registeredOnce : ∀ e ∈ entries, (contents.registered.filter fun (_, name) =>
    name == e.artifact.qualifiedName) = [e.registered]
  /-- The paths that are registered name types that are exported. -/
  linked : ∀ x ∈ contents.registered, ∃ y ∈ contents.included, x.1 = y.package ++ [y.ident]

/-- What is read from the index over plain entries with different names and places is complete. -/
theorem complete_listing {entries : List Entry}
    (hnames : (entries.map fun e => e.artifact.qualifiedName).Nodup)
    (hplaces : (entries.map Entry.place).Nodup)
    (hpackages : ∀ e ∈ entries, e.artifact.HasPlainPackage)
    (hidents : ∀ e ∈ entries, e.artifact.ident.toList.all isIdentContinue = true) :
    Complete entries ⟨((Module.ofEntries entries).listing []).map includedOf,
      (registrations entries).map fun (name, typePath) => (segments typePath, name)⟩ := by
  have hincluded : (((Module.ofEntries entries).listing []).map includedOf).Perm
      (entries.map Entry.included) := by
    have hlisting := (listing_ofEntries_perm hplaces).map includedOf
    rwa [List.map_map] at hlisting
  have hregistered := registrations_segments hpackages hidents
  constructor
  case included => exact hincluded
  case registered => exact hregistered
  case includedOnce =>
    intro e he
    refine List.perm_singleton.1 ((hincluded.filter _).trans ?_)
    have honce := filter_key_eq_singleton hplaces he
    exact .of_eq (List.filter_map.trans (congrArg (List.map Entry.included) honce))
  case registeredOnce =>
    intro e he
    refine List.perm_singleton.1 ((hregistered.filter _).trans ?_)
    have honce := filter_key_eq_singleton hnames he
    exact .of_eq (List.filter_map.trans (congrArg (List.map Entry.registered) honce))
  case linked =>
    intro x hx
    obtain ⟨e, he, rfl⟩ := List.mem_map.1 (hregistered.mem_iff.1 hx)
    exact ⟨e.included, hincluded.mem_iff.2 (List.mem_map_of_mem he), rfl⟩

/-- Over entries with different names and different places, with plain packages and plain type names,
the index is read back, and it is complete. -/
theorem readIndex_index (entries : List Entry) (runtime : String)
    (hnames : (entries.map fun e => e.artifact.qualifiedName).Nodup)
    (hplaces : (entries.map fun e => (e.artifact.package, e.artifact.ident)).Nodup)
    (hpackages : ∀ e ∈ entries, badSegment? e.artifact.package = none ∧ e.artifact.HasPlainPackage)
    (hidents : ∀ e ∈ entries, e.artifact.ident.toList.all isIdentContinue = true)
    (hruntime : '\n' ∉ runtime.toList) :
    ∃ contents, readIndex (index entries runtime) = some contents ∧ Complete entries contents := by
  have hplain : ∀ e ∈ entries, e.artifact.HasPlainPackage := fun e he => (hpackages e he).2
  -- segments make up the package, so entries at one place of the tree have one package
  have hnodup : (entries.map Entry.place).Nodup := by
    refine List.pairwise_map.2 ((List.pairwise_map.1 hplaces).imp_of_mem ?_)
    intro x y hx hy hne heq
    obtain ⟨hsegments, hident⟩ := Prod.mk.inj heq
    have hpackage : x.artifact.package = y.artifact.package := by
      rw [← joinSegments_packageSegments (hpackages x hx).1,
        ← joinSegments_packageSegments (hpackages y hy).1, hsegments]
    exact hne (Prod.ext hpackage hident)
  have hread := readIndex_eq hplain hidents hruntime
  exact ⟨_, hread, complete_listing hnames hnodup hplain hidents⟩

/-- An entry for a type of a package. -/
def entryIn (package ident : String) : Entry :=
  let a : Artifact :=
    { element := qualify package ident
      marker := "app::Access"
      qualifiedName := qualify package ident
      package
      className := ident
      ident
      contextVariable := "context"
      contextType := .dynamic
      returnType := .dynamic
      body := "true"
      customMethods := ""
      markers := []
      imports := [] }
  ⟨a, a.file⟩

/-- Entries without package, in a package and in a package inside it make up a complete index. -/
theorem readIndex_index_nested :
    let entries := [entryIn "" "Root", entryIn "app::orders" "Row", entryIn "app" "Orders"]
    ∃ contents, readIndex (index entries "::jel") = some contents ∧ Complete entries contents ∧
      ⟨["app", "orders"], "row", "Row", "app/orders/Row.rs"⟩ ∈ contents.included := by
  intro entries
  have hpackages : ∀ e ∈ entries, badSegment? e.artifact.package = none ∧
      e.artifact.HasPlainPackage := by
    unfold HasPlainPackage
    decide
  obtain ⟨contents, hread, hcomplete⟩ := readIndex_index entries "::jel" (by decide) (by decide)
    hpackages (by decide) (by decide)
  exact ⟨contents, hread, hcomplete, hcomplete.included.mem_iff.2 (by decide)⟩

end ExprGate.Artifact
