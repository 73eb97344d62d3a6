import ExprGate.Proofs.Artifact.IndexReading

/-!
# The index over generated artifacts

Generated artifacts have different names, different places and type names that are identifiers
(`nodup_names_generate`, `nodup_place_of_sublist`, `BuiltFrom.spelled`). So an index over some of them
is read back and complete as soon as their packages are plain (`readIndex_generated`), and it leads
from the name of each artifact to its file (`Complete.leadsTo`).
-/

set_option autoImplicit false

namespace ExprGate.Artifact

open Declaration Text Files

/-- An index, as it is read, leads from the name of an artifact to the artifact's file: the name is
registered once, for the artifact's type, and in the place of this type one file is included. -/
structure LeadsTo (contents : Contents) (a : Artifact) (file : Path) : Prop where
  registered : (contents.registered.filter fun (_, name) => name == a.qualifiedName) =
    [(a.packageSegments ++ [a.ident], a.qualifiedName)]
  included : (contents.included.filter fun x =>
      x.package == a.packageSegments && x.ident == a.ident) =
    [⟨a.packageSegments, a.moduleName, a.ident, file.text⟩]

/-- A complete index leads to the file of every entry. -/
theorem Complete.leadsTo {entries : List Entry} {contents : Contents}
    (h : Complete entries contents) {e : Entry} (he : e ∈ entries) :
    LeadsTo contents e.artifact e.file :=
  ⟨h.registeredOnce e he, h.includedOnce e he⟩

/-- The names that a complete index registers are those of the artifacts. -/
theorem Complete.mem_names {entries : List Entry} {contents : Contents}
    (h : Complete entries contents) {name : String} :
    name ∈ contents.registered.map Prod.snd ↔ ∃ e ∈ entries, e.artifact.qualifiedName = name := by
  rw [(h.registered.map Prod.snd).mem_iff, List.map_map]
  exact List.mem_map

/-- The index over generated artifacts with plain packages is read back, and it is complete. -/
theorem readIndex_generated {c : Catalog} {markers : List Marker} {runtime : String}
    {entries : List Entry}
    (hentries : (entries.map Entry.artifact).Sublist (generate c markers runtime).1)
    (hplain : ∀ a ∈ entries.map Entry.artifact, a.HasPlainPackage)
    (hruntime : '\n' ∉ runtime.toList) :
    ∃ contents, readIndex (index entries runtime) = some contents ∧ Complete entries contents := by
  have hpackages : ∀ e ∈ entries, e.artifact.HasPlainPackage :=
    fun e he => hplain _ (List.mem_map_of_mem he)
  have hnames : (entries.map fun e => e.artifact.qualifiedName).Nodup := by
    have hsublist := hentries.map Artifact.qualifiedName
    rw [List.map_map] at hsublist
    exact (nodup_names_generate c markers runtime).sublist hsublist
  have hidents : ∀ e ∈ entries, e.artifact.ident.toList.all isIdentContinue = true := by
    intro e he
    obtain ⟨m, x, hbuilt⟩ := exists_builtFrom (hentries.mem (List.mem_map_of_mem he))
    exact hbuilt.spelled.1.all_isIdentContinue
  have hread := readIndex_eq hpackages hidents hruntime
  exact ⟨_, hread, complete_listing hnames (nodup_place_of_sublist hentries) hpackages hidents⟩

end ExprGate.Artifact
