import Mathlib.Data.List.Basic
import ExprGate.Artifact.Index
import ExprGate.Proofs.Text.QualifiedName
import ExprGate.Proofs.Token.Literal

/-!
# Lines of the index

`Line.ofChars?` says what a line of an index means. It knows the forms that an index is made of and
refuses everything else; string literals mean the text that they denote. Each line that is written
for an index is read back as what it was written for, provided that names have no colon, where the
form divides a path, and no `>`, where it ends.
-/

set_option autoImplicit false

namespace ExprGate.Artifact

open Text Files

/-! ## The forms of lines -/

/-- What a line of an index means. -/
inductive Line where
  /-- Nothing: the line is blank or holds a comment. -/
  | nothing
  /-- A module begins. -/
  | opening (isPublic : Bool) (name : String)
  /-- A module or a function ends. -/
  | closing
  /-- A file is included. -/
  | inclusion (file : String)
  /-- A type of a module is exported. -/
  | exported (module ident : String)
  /-- The function that registers evaluators begins. -/
  | registrar
  /-- The registry is not used. -/
  | unused
  /-- A type, given by its path, is registered under a name. -/
  | registration (path : List String) (name : String)
deriving DecidableEq, Repr

/-- What is between the given beginning and the given end of a text. -/
def between? (front back : String) (cs : List Char) : Option (List Char) :=
  if front.toList.isPrefixOf cs then
    let rest := cs.drop front.toList.length
    if back.toList.isSuffixOf rest then some (rest.take (rest.length - back.toList.length)) else none
  else none

/-- The text that a string literal denotes, if there is nothing else. -/
def literal? (cs : List Char) : Option String :=
  match Token.string? cs with
  | some (value, []) => some (String.ofList value)
  | _ => none

/-- A form of lines: a fixed beginning, a fixed end, and the meaning of what is between. -/
structure LineForm where
  front : String
  back : String
  read : List Char → Option Line

/-- The line at which a module begins, with its name. -/
def openingForm (isPublic : Bool) : LineForm where
  front := if isPublic then "pub mod " else "mod "
  back := " \x7b"
  read name := some (.opening isPublic (String.ofList name))

/-- The line of an inclusion, with the file. -/
def inclusionForm : LineForm where
  front := "include!("
  back := ");"
  read file := (literal? file).map .inclusion

/-- The line of an export, with the module and the type. -/
def exportForm : LineForm where
  front := "pub use self::"
  back := ";"
  read path := (splitLastSeparator? path).map fun (module, ident) =>
    .exported (String.ofList module) (String.ofList ident)

/-- The line at which the registering function begins. -/
def registrarForm : LineForm where
  front := "pub fn register(registry: &mut "
  back := "::EvaluatorRegistry) \x7b"
  read _ := some .registrar

/-- The path of a registration ends with `>`, and the name stands in parentheses behind it. -/
def registrationForm : LineForm where
  front := "registry.register::<self::"
  back := ");"
  read cs :=
    match cs.dropWhile (· != '>') with
    | '>' :: '(' :: name =>
      (literal? name).map (.registration (segments (String.ofList (cs.takeWhile (· != '>')))))
    | _ => none

/-- The forms of lines that are not fixed. -/
def lineForms : List LineForm :=
  [openingForm false, openingForm true, inclusionForm, exportForm, registrarForm, registrationForm]

/-- What a line means, blanks in front aside. -/
def Line.ofChars? (cs : List Char) : Option Line :=
  let cs := cs.dropWhile (· == ' ')
  if cs.isEmpty || ['/', '/'].isPrefixOf cs then some .nothing
  else if cs = ['}'] then some .closing
  else if cs = "let _ = registry;".toList then some .unused
  else lineForms.findSome? fun form => (between? form.front form.back cs).bind form.read

/-! ## Parts of lines -/

/-- What is put between a beginning and an end is found there. -/
theorem between?_append (front back : String) (cs : List Char) :
    between? front back (front.toList ++ cs ++ back.toList) = some cs := by
  have hfront : front.toList.isPrefixOf (front.toList ++ cs ++ back.toList) = true := by
    rw [List.isPrefixOf_iff_prefix, List.append_assoc]
    exact List.prefix_append _ _
  have hrest : (front.toList ++ cs ++ back.toList).drop front.toList.length = cs ++ back.toList := by
    rw [List.append_assoc, List.drop_left]
  have hback : back.toList.isSuffixOf (cs ++ back.toList) = true := by
    rw [List.isSuffixOf_iff_suffix]
    exact List.suffix_append _ _
  unfold between?
  rw [if_pos hfront, hrest]
  dsimp only
  rw [if_pos hback, List.length_append, Nat.add_sub_cancel, List.take_left]

/-- A quoted text denotes the text. -/
theorem literal?_quoted (s : String) : literal? (quoted s).toList = some s := by
  unfold literal? quoted
  rw [String.toList_ofList, (Token.spelled_quoteChar s.toList).string?]
  exact congrArg some String.ofList_toList

/-- Without its blanks in front, an indented line is the line without its own. -/
theorem dropWhile_indent (depth : Nat) (cs : List Char) :
    ((indent depth).toList ++ cs).dropWhile (· == ' ') = cs.dropWhile (· == ' ') := by
  unfold indent
  rw [String.toList_ofList]
  induction 4 * depth with
  | zero => rfl
  | succ n ih => exact ih

/-! ## Written lines -/

/-- Two beginnings of which neither goes on as the other. -/
def Apart (front front' : String) : Prop :=
  front.toList.isPrefixOf front'.toList = false ∧ front'.toList.isPrefixOf front.toList = false

instance (front front' : String) : Decidable (Apart front front') :=
  inferInstanceAs (Decidable (_ ∧ _))

/-- What begins in another way is not between the given ends. -/
theorem between?_of_apart {front front' : String} (h : Apart front front') (back : String)
    (cs : List Char) : between? front back (front'.toList ++ cs) = none := by
  have hnot : ¬ front.toList.isPrefixOf (front'.toList ++ cs) = true := by
    rw [List.isPrefixOf_iff_prefix]
    intro hfront
    obtain hle | hle := List.prefix_or_prefix_of_prefix hfront (List.prefix_append _ _)
    · rw [← List.isPrefixOf_iff_prefix, h.1] at hle
      cases hle
    · rw [← List.isPrefixOf_iff_prefix, h.2] at hle
      cases hle
  exact if_neg hnot

/-- No form of lines begins as another one does. -/
theorem lineForms_apart : (lineForms.map LineForm.front).Pairwise Apart := by
  decide

/-- No form begins as one of the other lines does. -/
theorem front_lineForms : ∀ form ∈ lineForms, ∃ c more, form.front.toList = c :: more ∧
    c ≠ ' ' ∧ c ≠ '/' ∧ c ≠ '}' ∧ c ≠ 'l' := by
  simp only [lineForms, List.forall_mem_cons]
  refine ⟨?_, ?_, ?_, ?_, ?_, ?_, by simp⟩
  all_goals exact ⟨_, _, rfl, by decide⟩

/-- A line of a form is read by the form. -/
theorem ofChars?_of_mem (form : LineForm) (hform : form ∈ lineForms) (depth : Nat) {text : String}
    {line : Line} (hread : form.read text.toList = some line) :
    Line.ofChars? (indent depth ++ form.front ++ text ++ form.back).toList = some line := by
  -- the forms in front of this one do not apply, since they begin in other ways
  have hall : (lineForms.findSome? fun other => (between? other.front other.back
      (form.front.toList ++ text.toList ++ form.back.toList)).bind other.read) = some line := by
    obtain ⟨before, after, hsplit⟩ := List.append_of_mem hform
    have hapart := List.pairwise_map.1 lineForms_apart
    rw [hsplit, List.pairwise_append] at hapart
    refine List.findSome?_eq_some_iff.2 ⟨before, form, after, hsplit, ?_, ?_⟩
    · rw [between?_append, Option.bind_some, hread]
    · intro other hother
      rw [List.append_assoc,
        between?_of_apart (hapart.2.2 other hother form List.mem_cons_self)]
      rfl
  obtain ⟨c, more, hfront, hblank, hslash, hbrace, hletter⟩ := front_lineForms form hform
  rw [hfront, List.cons_append, List.cons_append] at hall
  rw [← hall, String.toList_append, String.toList_append, String.toList_append, hfront,
    List.append_assoc, List.append_assoc, List.cons_append, ← List.append_assoc]
  generalize more ++ text.toList ++ form.back.toList = rest
  have hdrop : (c :: rest).dropWhile (· == ' ') = c :: rest := by simp [hblank]
  have hcomment : ['/', '/'].isPrefixOf (c :: rest) = false := by
    simp [List.isPrefixOf, Ne.symm hslash]
  have hclosing : c :: rest ≠ ['}'] := by
    intro heq
    exact hbrace (List.cons.inj heq).1
  have hunused : c :: rest ≠ "let _ = registry;".toList := by
    intro heq
    exact hletter (List.cons.inj heq).1
  unfold Line.ofChars?
  rw [dropWhile_indent, hdrop]
  simp only [List.isEmpty_cons, hcomment, Bool.or_self, Bool.false_eq_true, if_false, hclosing,
    hunused]

/-- An empty line means nothing. -/
theorem ofChars?_empty : Line.ofChars? "".toList = some .nothing := by
  rfl

/-- A line with a closing brace ends a module, however deep. -/
theorem ofChars?_closing (depth : Nat) :
    Line.ofChars? (indent depth ++ "\x7d").toList = some .closing := by
  have hdrop := dropWhile_indent depth "\x7d".toList
  rw [String.toList_append]
  unfold Line.ofChars?
  rw [hdrop]
  rfl

/-- The first line of a private module is read back with its name. -/
theorem ofChars?_opening (depth : Nat) (name : String) :
    Line.ofChars? (indent depth ++ "mod " ++ name ++ " \x7b").toList =
      some (.opening false name) := by
  have hread : (openingForm false).read name.toList = some (.opening false name) :=
    congrArg (fun name => some (Line.opening false name)) String.ofList_toList
  exact ofChars?_of_mem (openingForm false) (by simp [lineForms]) depth hread

/-- The first line of a public module is read back with its name. -/
theorem ofChars?_openingPublic (depth : Nat) (name : String) :
    Line.ofChars? (indent depth ++ "pub mod " ++ name ++ " \x7b").toList =
      some (.opening true name) := by
  have hread : (openingForm true).read name.toList = some (.opening true name) :=
    congrArg (fun name => some (Line.opening true name)) String.ofList_toList
  exact ofChars?_of_mem (openingForm true) (by simp [lineForms]) depth hread

/-- The line of an inclusion is read back with its file. -/
theorem ofChars?_inclusion (depth : Nat) (file : String) :
    Line.ofChars? (indent depth ++ "include!(" ++ quoted file ++ ");").toList =
      some (.inclusion file) := by
  have hread : inclusionForm.read (quoted file).toList = some (.inclusion file) :=
    congrArg (·.map Line.inclusion) (literal?_quoted file)
  exact ofChars?_of_mem inclusionForm (by simp [lineForms]) depth hread

/-- The line of an export is read back with the module and the type. -/
theorem ofChars?_exported (depth : Nat) (module : String) {ident : String}
    (hcolon : ':' ∉ ident.toList) :
    Line.ofChars? (indent depth ++ "pub use self::" ++ module ++ "::" ++ ident ++ ";").toList =
      some (.exported module ident) := by
  have hread : exportForm.read (module ++ ("::" ++ ident)).toList =
      some (.exported module ident) := by
    have hlast := splitLastSeparator?_append module.toList hcolon
    unfold exportForm
    dsimp only
    rw [String.toList_append, String.toList_append,
      show "::".toList ++ ident.toList = ':' :: ':' :: ident.toList from rfl, hlast,
      Option.map_some]
    dsimp only
    rw [String.ofList_toList, String.ofList_toList]
  have hline := ofChars?_of_mem exportForm (by simp [lineForms]) depth hread
  rwa [← String.append_assoc, ← String.append_assoc] at hline

/-- The line where the registering function begins is read as that. -/
theorem ofChars?_registrar (runtime : String) :
    Line.ofChars? ("pub fn register(registry: &mut " ++ runtime ++
      "::EvaluatorRegistry) \x7b").toList = some .registrar := by
  have hread : registrarForm.read runtime.toList = some .registrar := rfl
  have hline := ofChars?_of_mem registrarForm (by simp [lineForms]) 0 hread
  rwa [show indent 0 = "" from rfl, String.empty_append] at hline

/-- The line of a registration is read back with the path and the name. -/
theorem ofChars?_registration {path : List String} (hne : path ≠ []) (name : String)
    (hcolon : ∀ segment ∈ path, ':' ∉ segment.toList)
    (hangle : ∀ segment ∈ path, '>' ∉ segment.toList) :
    Line.ofChars? (registrationLine name (joinSegments path)).toList =
      some (.registration path name) := by
  have hread : registrationForm.read (joinSegments path ++ (">(" ++ quoted name)).toList =
      some (.registration path name) := by
    have hpath : ∀ c ∈ (joinSegments path).toList, (c != '>') = true := by
      intro c hc
      rw [bne_iff_ne]
      rintro rfl
      obtain hc | ⟨segment, hsegment, hc⟩ := mem_joinSegments hc
      · cases hc
      · exact hangle segment hsegment hc
    have hrest : ">(".toList ++ (quoted name).toList = '>' :: '(' :: (quoted name).toList := rfl
    unfold registrationForm
    dsimp only
    rw [String.toList_append, String.toList_append, hrest, List.takeWhile_append_of_pos hpath,
      List.dropWhile_append_of_pos hpath]
    simp only [List.takeWhile_cons, List.dropWhile_cons, bne_self_eq_false, Bool.false_eq_true,
      if_false, List.append_nil, literal?_quoted, Option.map_some, String.ofList_toList,
      segments_joinSegments hne hcolon]
  have hline := ofChars?_of_mem registrationForm (by simp [lineForms]) 1 hread
  rwa [← String.append_assoc, ← String.append_assoc] at hline

end ExprGate.Artifact
