import Mathlib.Data.List.Basic
import ExprGate.Source.Annotation

/-!
# What containers of usages are read into

A container of usages is read entry by entry: there are as many annotations as usages among its
entries, and each has the name of its entry (`map_name_of_annotations?_mark`). It is not well formed
exactly if its entries are not a list of the grammar, or the arguments of one of them are none
(`annotations?_mark_eq_none_iff`).
-/

set_option autoImplicit false

namespace ExprGate.Source

open Declaration Grammar Token

/-! ## Results one by one -/

/-- A list has no image just if one of its elements has none. -/
theorem mapM_eq_none_iff {α β : Type} {f : α → Option β} {l : List α} :
    l.mapM f = none ↔ ∃ x ∈ l, f x = none := by
  induction l with
  | nil => simp
  | cons x rest ih =>
    rw [List.mapM_cons]
    cases hx : f x with
    | none => simp [hx]
    | some y =>
      have hrest : (rest.mapM f >>= fun ys => some (y :: ys)) = none ↔ rest.mapM f = none := by
        cases rest.mapM f <;> simp
      simpa [hx] using hrest.trans ih

/-- What all results have from what they are results of. -/
theorem map_eq_of_mapM {α β γ : Type} {f : α → Option β} {g : β → γ} {k : α → γ}
    (hf : ∀ a b, f a = some b → g b = k a) {l : List α} {bs : List β} (h : l.mapM f = some bs) :
    bs.map g = l.map k := by
  induction l generalizing bs with
  | nil =>
    obtain rfl := Option.some.inj h
    rfl
  | cons a l ih =>
    rw [List.mapM_cons] at h
    obtain ⟨b, hb, h⟩ := Option.bind_eq_some_iff.1 h
    obtain ⟨rest, hrest, h⟩ := Option.bind_eq_some_iff.1 h
    obtain rfl := Option.some.inj h
    rw [List.map_cons, List.map_cons, hf a b hb, ih hrest]

/-! ## Usages -/

/-- The names of the usages among the entries of a container. -/
def usageNames (entries : List Meta) : List String :=
  (usageEntries entries).map (·.name.text)

/-- The annotation of an entry has its name. -/
theorem name_of_annotation? {m : Meta} {a : Annotation} (h : annotation? m = some a) :
    a.name = m.name.text := by
  cases m with
  | path p =>
    obtain rfl := Option.some.inj h
    rfl
  | value p e =>
    obtain rfl := Option.some.inj h
    rfl
  | list p d tokens =>
    obtain ⟨members, -, rfl⟩ := Option.map_eq_some_iff.1 h
    rfl

/-- An entry gives no annotation exactly if it has arguments that do not follow the grammar. -/
theorem annotation?_eq_none_iff {m : Meta} :
    annotation? m = none ↔ ∃ p d tokens, m = .list p d tokens ∧ parse argumentList tokens = none := by
  cases m with
  | path p => simp [annotation?]
  | value p e => simp [annotation?]
  | list p d tokens => simp [annotation?, members?]

/-- A container of usages is read as such. -/
theorem annotations?_mark {p : Grammar.Path} (hp : isMark p = true) (d : Delimiter)
    (args : List Tree) :
    annotations? [.list p d args] =
      (parse metaList args).bind fun entries => (usageEntries entries).mapM annotation? := by
  have hdoc : p.isWord "doc" = false := by
    unfold Path.isWord Path.word?
    split
    · rename_i name
      obtain rfl : name = "mark" := by simpa [isMark] using hp
      rfl
    · rfl
  have hof : annotationsOf? (.list p d args) =
      (parse metaList args).bind fun entries => (usageEntries entries).mapM annotation? := by
    unfold annotationsOf?
    simp only [Meta.name, hdoc, hp]
    rfl
  unfold annotations?
  rw [List.mapM_cons, hof]
  cases (parse metaList args).bind fun entries => (usageEntries entries).mapM annotation? with
  | none => rfl
  | some as => simp

/-- The annotations of a container have the names of its usages, in order. -/
theorem map_name_of_annotations?_mark {p : Grammar.Path} (hp : isMark p = true) {d : Delimiter}
    {args : List Tree} {entries : List Meta} (hentries : parse metaList args = some entries)
    {as : List Annotation} (h : annotations? [.list p d args] = some as) :
    as.map Annotation.name = usageNames entries := by
  rw [annotations?_mark hp, hentries] at h
  exact map_eq_of_mapM (fun _ _ => name_of_annotation?) h

/-- A container with entries is not read exactly if a usage among them has arguments that do not
follow the grammar. -/
theorem annotations?_mark_eq_none_iff {p : Grammar.Path} (hp : isMark p = true) {d : Delimiter}
    {args : List Tree} {entries : List Meta} (hentries : parse metaList args = some entries) :
    annotations? [.list p d args] = none ↔
      ∃ q e tokens, .list q e tokens ∈ usageEntries entries ∧ parse argumentList tokens = none := by
  rw [annotations?_mark hp, hentries, Option.bind_some, mapM_eq_none_iff]
  constructor
  · rintro ⟨m, hm, hnone⟩
    obtain ⟨q, e, tokens, rfl, hargs⟩ := annotation?_eq_none_iff.1 hnone
    exact ⟨q, e, tokens, hm, hargs⟩
  · rintro ⟨q, e, tokens, hm, hargs⟩
    exact ⟨_, hm, annotation?_eq_none_iff.2 ⟨q, e, tokens, rfl, hargs⟩⟩

end ExprGate.Source
