import ExprGate.Proofs.Placeholder.Evaluation
import ExprGate.Proofs.Placeholder.Recursion

/-!
# Cycles

An expansion fails exactly where a call that it leads to stops (`expand_eq_error_iff`): at a
placeholder whose name is in progress, or in the strict mode at one with neither value nor fallback.
The names in progress of a call are a chain of references from the template to the call
(`Reaches.refers`), so a cyclic error names a cycle of references. If the references only go down in
some order of the names, there is none.
-/

set_option autoImplicit false

namespace ExprGate.Placeholder

namespace Lookup

variable {l : Lookup} {mode : Mode}

/-! ## Where an expansion fails -/

/-- A call stops with an error, at a placeholder that its scan comes to. -/
inductive Stops (l : Lookup) (mode : Mode) (call : Call) : Cause → Prop where
  | cyclic {p : Placeholder} (hreads : l.Reads mode call p) (hname : p.name ∈ call.inProgress) :
    Stops l mode call (.cyclic (call.inProgress ++ [p.name]))
  | undefined {p : Placeholder} (hreads : l.Reads mode call p) (hname : p.name ∉ call.inProgress)
    (htext : l.text? p = none) (hmode : mode = .strict) :
    Stops l mode call (.undefined p.name)

/-- A call that leads to one that stops. -/
def FailsWith (l : Lookup) (mode : Mode) (call : Call) (cause : Cause) : Prop :=
  ∃ inner, l.Reaches mode call inner ∧ l.Stops mode inner cause

/-- What a text fails with, a text fails with that reads the same and more. -/
theorem FailsWith.of_reads {inProgress : List (List Char)} {rest text : List Char} {cause : Cause}
    (hreads : ∀ p, l.Reads mode ⟨inProgress, rest⟩ p → l.Reads mode ⟨inProgress, text⟩ p)
    (h : l.FailsWith mode ⟨inProgress, rest⟩ cause) : l.FailsWith mode ⟨inProgress, text⟩ cause := by
  obtain ⟨inner, hreaches, hstops⟩ := h
  obtain heq | ⟨next, henters, hrest⟩ := Relation.ReflTransGen.cases_head hreaches
  · subst heq
    refine ⟨⟨inProgress, text⟩, .refl, ?_⟩
    cases hstops with
    | cyclic hread hname => exact .cyclic (hreads _ hread) hname
    | undefined hread hname htext hmode => exact .undefined (hreads _ hread) hname htext hmode
  · refine ⟨inner, .head ?_ hrest, hstops⟩
    cases henters with
    | intro hread hname htext => exact .intro (hreads _ hread) hname htext

/-- What a text reads, another text reads that meets the same openings. -/
theorem Reads.imp {inProgress : List (List Char)} {rest text : List Char} {p : Placeholder}
    (h : l.Reads mode ⟨inProgress, rest⟩ p)
    (himp : ∀ inner, l.Meets mode inProgress rest inner → l.Meets mode inProgress text inner) :
    l.Reads mode ⟨inProgress, text⟩ p := by
  obtain ⟨inner, after, hmeets, hbody⟩ := h
  exact ⟨inner, after, himp inner hmeets, hbody⟩

/-- A placeholder in front of a text is read. -/
theorem reads_here {inProgress : List (List Char)} {rest after : List Char} {p : Placeholder}
    (hbody : closingBrace? rest = some (p.body, after)) :
    l.Reads mode ⟨inProgress, '$' :: '{' :: rest⟩ p :=
  ⟨rest, after, .here rest, hbody⟩

/-- An outcome that is an error with text in front of it is that error without the text. -/
theorem eq_error_of_map {text : List Char} {cause : Cause} {result : Except Cause (List Char)}
    (h : .error cause = result.map (text ++ ·)) : .error cause = result := by
  cases result with
  | error cause' => exact h
  | ok out => cases h

/-- A failed expansion leads to a call that stops with its error. -/
theorem Expands.failsWith {inProgress : List (List Char)} {text : List Char} {cause : Cause}
    (h : l.Expands mode inProgress text (.error cause)) :
    l.FailsWith mode ⟨inProgress, text⟩ cause := by
  generalize hresult : Except.error cause = result at h
  induction h with
  | nil => cases hresult
  | escape _ ih =>
    exact (ih (eq_error_of_map hresult)).of_reads fun p h => h.imp fun _ hmeets => hmeets.escape
  | char hopening hescape _ ih =>
    exact (ih (eq_error_of_map hresult)).of_reads
      fun p h => h.imp fun _ hmeets => .char hopening hescape hmeets
  | unclosed => cases hresult
  | cyclic hbody hname =>
    obtain rfl := Except.error.inj hresult
    exact ⟨_, .refl, .cyclic (reads_here hbody) hname⟩
  | undefined hbody hname htext hmode =>
    obtain rfl := Except.error.inj hresult
    exact ⟨_, .refl, .undefined (reads_here hbody) hname htext hmode⟩
  | kept hbody hname htext hmode _ ih =>
    obtain rfl := hmode
    have hreplaced := replacement_lenient hname htext
    exact (ih (eq_error_of_map hresult)).of_reads
      fun p h => h.imp fun _ hmeets => .behind hbody hreplaced hmeets
  | failed hbody hname htext _ ih =>
    obtain ⟨inner, hreaches, hstops⟩ := ih hresult
    exact ⟨inner, .head (.intro (reads_here hbody) hname htext) hreaches, hstops⟩
  | replaced hbody hname htext hout _ _ ihafter =>
    have hreplaced := (replacement_of_text hname htext).trans hout.expand_eq
    exact (ihafter (eq_error_of_map hresult)).of_reads
      fun p h => h.imp fun _ hmeets => .behind hbody hreplaced hmeets

/-- A placeholder that cannot be replaced is the end of the expansion that comes to it. -/
theorem Meets.expand_eq_error {inProgress : List (List Char)} {text rest after : List Char}
    {p : Placeholder} {cause : Cause} (h : l.Meets mode inProgress text rest)
    (hbody : closingBrace? rest = some (p.body, after))
    (hcause : l.replacement mode inProgress p = some (.error cause)) :
    l.expand mode inProgress text = some (.error cause) := by
  induction h with
  | here rest => rw [expand_placeholder hbody, hcause, Outcome.error_append]
  | escape _ ih => rw [expand_escape, ih hbody, Outcome.ok_append_error]
  | char hopening hescape _ ih =>
    rw [expand_char hopening hescape, ih hbody, Outcome.ok_append_error]
  | behind hbefore hreplaced _ ih =>
    rw [expand_placeholder hbefore, hreplaced, ih hbody, Outcome.ok_append_error]

/-- A call fails with the error of a placeholder that it reads. -/
theorem Reads.expand_eq_error {call : Call} {p : Placeholder} {cause : Cause}
    (h : l.Reads mode call p) (hcause : l.replacement mode call.inProgress p = some (.error cause)) :
    l.expand mode call.inProgress call.text = some (.error cause) := by
  obtain ⟨rest, after, hmeets, hbody⟩ := h
  exact hmeets.expand_eq_error hbody hcause

/-- A call fails with the error of a call that it leads to. -/
theorem FailsWith.expand_eq {call : Call} {cause : Cause} (h : l.FailsWith mode call cause) :
    l.expand mode call.inProgress call.text = some (.error cause) := by
  obtain ⟨inner, hreaches, hstops⟩ := h
  induction hreaches using Relation.ReflTransGen.head_induction_on with
  | refl =>
    cases hstops with
    | cyclic hreads hname => exact hreads.expand_eq_error (replacement_of_mem hname)
    | undefined hreads hname htext hmode =>
      obtain rfl := hmode
      exact hreads.expand_eq_error (replacement_strict hname htext)
  | head henters _ ih =>
    cases henters with
    | intro hreads hname htext =>
      exact hreads.expand_eq_error ((replacement_of_text hname htext).trans ih)

/-- An expansion fails exactly if it leads to a call that stops. -/
theorem expand_eq_error_iff {inProgress : List (List Char)} {text : List Char} {cause : Cause} :
    l.expand mode inProgress text = some (.error cause) ↔
      l.FailsWith mode ⟨inProgress, text⟩ cause :=
  ⟨fun h => (expand_eq_some_iff.1 h).failsWith, FailsWith.expand_eq⟩

/-- A template fails as the call for it does. -/
theorem replace_eq_error_iff {template : String} {failure : Failure} :
    l.replace mode template = some (.error failure) ↔
      failure.template = template ∧ l.FailsWith mode ⟨[], template.toList⟩ failure.cause := by
  rw [← expand_eq_error_iff, replace]
  obtain ⟨source, cause⟩ := failure
  cases l.expand mode [] template.toList with
  | none => simp
  | some result =>
    cases result with
    | ok text => simp
    | error cause' => simp [eq_comm]

/-! ## Chains of references -/

/-- A chain of names: the first is that of a placeholder in the text of a call, each other one that
of a placeholder in the text that takes the place of the one before. -/
inductive Refers (l : Lookup) (mode : Mode) : Call → List (List Char) → Prop where
  | last {call : Call} {p : Placeholder} (hreads : l.Reads mode call p) :
    Refers l mode call [p.name]
  | next {call : Call} {p : Placeholder} {text : List Char} {names : List (List Char)}
    (hreads : l.Reads mode call p) (htext : l.text? p = some text)
    (h : Refers l mode ⟨call.inProgress ++ [p.name], text⟩ names) :
    Refers l mode call (p.name :: names)

/-- The names that come into progress between two calls are a chain of references. -/
theorem Reaches.refers {call inner : Call} {p : Placeholder} (h : l.Reaches mode call inner)
    (hreads : l.Reads mode inner p) :
    ∃ names, inner.inProgress = call.inProgress ++ names ∧
      l.Refers mode call (names ++ [p.name]) := by
  induction h using Relation.ReflTransGen.head_induction_on with
  | refl => exact ⟨[], by simp, .last hreads⟩
  | head henters _ ih =>
    obtain ⟨names, hnames, hrefers⟩ := ih
    cases henters with
    | @intro q text hread hname htext =>
      refine ⟨q.name :: names, ?_, .next hread htext hrefers⟩
      rw [hnames, List.append_assoc, List.singleton_append]

/-- The placeholders in the text that takes the place of a name have names of lower rank, wherever
a call leads. -/
def RanksDown {α : Type} [Preorder α] (l : Lookup) (mode : Mode) (start : Call)
    (rank : List Char → α) : Prop :=
  ∀ call p text, l.Reaches mode start call → l.Reads mode call p → p.name ∉ call.inProgress →
    l.text? p = some text → ∀ q, l.Reads mode ⟨call.inProgress ++ [p.name], text⟩ q →
    rank q.name < rank p.name

/-- If the names rank down, what a call reads is below all names in progress. -/
theorem RanksDown.rank_lt {α : Type} [Preorder α] {rank : List Char → α} {text : List Char}
    {call : Call} (h : l.RanksDown mode ⟨[], text⟩ rank) (hreaches : l.Reaches mode ⟨[], text⟩ call)
    {q : Placeholder} (hreads : l.Reads mode call q) {name : List Char}
    (hname : name ∈ call.inProgress) : rank q.name < rank name := by
  induction hreaches generalizing q name with
  | refl => cases hname
  | @tail outer call hbefore henters ih =>
    cases henters with
    | @intro p text hread hfree htext =>
      have hlower := h outer p text hbefore hread hfree htext q hreads
      obtain hname | hname := List.mem_append.1 hname
      · exact hlower.trans (ih hread hname)
      · obtain rfl := List.mem_singleton.1 hname
        exact hlower

/-! ## Cyclic errors -/

/-- Cyclic errors of a template are cycles of references, and all of them. -/
structure ReportsCycles (l : Lookup) (mode : Mode) (template : String) : Prop where
  /-- A chain is reported exactly if a call comes to a placeholder whose name is in progress. -/
  reported : ∀ chain, l.replace mode template = some (.error ⟨template, .cyclic chain⟩) ↔
    ∃ call p, l.Reaches mode ⟨[], template.toList⟩ call ∧ l.Reads mode call p ∧
      p.name ∈ call.inProgress ∧ chain = call.inProgress ++ [p.name]
  /-- The chain follows the references, from the template to a name that it has come through, and
  to no other name twice. -/
  genuine : ∀ failure chain, l.replace mode template = some (.error failure) →
    failure.cause = .cyclic chain →
    ∃ names name, chain = names ++ [name] ∧ names ≠ [] ∧ names.Nodup ∧ name ∈ names ∧
      l.Refers mode ⟨[], template.toList⟩ chain
  /-- Where the references go down in some order, no chain is reported. -/
  ranked : ∀ {α : Type} [Preorder α] (rank : List Char → α),
    l.RanksDown mode ⟨[], template.toList⟩ rank →
    ∀ failure chain, l.replace mode template = some (.error failure) →
      failure.cause ≠ .cyclic chain

/-- A template has a cyclic error just if its expansion leads to a call that reads a name in
progress; the chain is the names in progress of this call and that name. -/
theorem replace_cyclic_iff {template : String} {chain : List (List Char)} :
    l.replace mode template = some (.error ⟨template, .cyclic chain⟩) ↔
      ∃ call p, l.Reaches mode ⟨[], template.toList⟩ call ∧ l.Reads mode call p ∧
        p.name ∈ call.inProgress ∧ chain = call.inProgress ++ [p.name] := by
  rw [replace_eq_error_iff]
  constructor
  · rintro ⟨-, call, hreaches, hstops⟩
    cases hstops with
    | @cyclic p hreads hname => exact ⟨call, p, hreaches, hreads, hname, rfl⟩
  · rintro ⟨call, p, hreaches, hreads, hname, rfl⟩
    exact ⟨rfl, call, hreaches, .cyclic hreads hname⟩

/-- Under every lookup, cyclic errors are the cycles of references. -/
theorem replace_reportsCycles (l : Lookup) (mode : Mode) (template : String) :
    l.ReportsCycles mode template := by
  have hcall {failure : Failure} {chain : List (List Char)}
      (hfailure : l.replace mode template = some (.error failure))
      (hcause : failure.cause = .cyclic chain) :
      ∃ call p, l.Reaches mode ⟨[], template.toList⟩ call ∧ l.Reads mode call p ∧
        p.name ∈ call.inProgress ∧ chain = call.inProgress ++ [p.name] := by
    have htemplate := (replace_eq_error_iff.1 hfailure).1
    obtain ⟨source, cause⟩ := failure
    obtain rfl : source = template := htemplate
    obtain rfl : cause = .cyclic chain := hcause
    exact replace_cyclic_iff.1 hfailure
  refine ⟨fun chain => replace_cyclic_iff, ?genuine, ?ranked⟩
  case genuine =>
    intro failure chain hfailure hcause
    obtain ⟨call, p, hreaches, hreads, hname, rfl⟩ := hcall hfailure hcause
    obtain ⟨names, hnames, hrefers⟩ := hreaches.refers hreads
    obtain rfl : call.inProgress = names := by simpa using hnames
    have hdistinct := hreaches.nodup List.nodup_nil
    exact ⟨call.inProgress, p.name, rfl, List.ne_nil_of_mem hname, hdistinct, hname, hrefers⟩
  case ranked =>
    intro α _ rank hrank failure chain hfailure hcause
    obtain ⟨call, p, hreaches, hreads, hname, -⟩ := hcall hfailure hcause
    have hbelow := hrank.rank_lt hreaches hreads hname
    exact lt_irrefl _ hbelow

example : (Bindings.ofList [("a", "$\x7bb\x7d"), ("b", "$\x7ba\x7d")]).lookup.replace .lenient
    "$\x7ba\x7d" = some (.error ⟨"$\x7ba\x7d", .cyclic ["a".toList, "b".toList, "a".toList]⟩) := by
  cbv

-- a name may come up twice side by side
example : (Bindings.ofList [("a", "1")]).lookup.replace .strict "$\x7ba\x7d-$\x7ba\x7d" =
    some (.ok "1-1") := by
  cbv

end Lookup

end ExprGate.Placeholder
