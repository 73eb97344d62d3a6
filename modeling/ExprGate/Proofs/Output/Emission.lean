import ExprGate.Output.Run
import ExprGate.Proofs.Artifact.Generation
import ExprGate.Proofs.Artifact.Index
import ExprGate.Proofs.Naming

/-!
# What a run emits

A run emits the evaluators of the markers that it discovers (`run_eq_emit`), one after another
(`writeAll_cons`). The index lists the artifacts that are written, whatever the sink
(`entries_emit`); if no write fails these are all that are generated
(`artifacts_writeAll_of_allWritten`), and what is registered are their names
(`mem_registered_emit`).

The catalog `ordersCatalog` is the smallest one that gives an evaluator: a marker and a type that
uses it.
-/

set_option autoImplicit false

namespace ExprGate.Output

open Declaration Marker Artifact Files Text

variable {σ : Type}

/-- A run emits the evaluators of the markers in use, and reports what it found before. -/
theorem run_eq_emit (sink : Sink σ) (c : Catalog) (o : Options) (s : σ) :
    run sink c o s =
      ((emit sink c o (discover c).1 s).1,
        (discover c).2 ++ (emit sink c o (discover c).1 s).2.1,
        (emit sink c o (discover c).1 s).2.2) :=
  rfl

/-- The first artifact is written, or an error names its element; then the others are written. -/
theorem writeAll_cons (sink : Sink σ) (a : Artifact) (rest : List Artifact) (s : σ) :
    ∃ s', (∃ file, writeAll sink (a :: rest) s =
        (⟨a, file⟩ :: (writeAll sink rest s').1, (writeAll sink rest s').2)) ∨
      ∃ message, writeAll sink (a :: rest) s =
        ((writeAll sink rest s').1, ⟨.error, a.element, message⟩ :: (writeAll sink rest s').2.1,
          (writeAll sink rest s').2.2) := by
  rcases hwrite : sink.write a.file a.source s with ⟨result, s'⟩
  refine ⟨s', ?_⟩
  rw [writeAll, hwrite]
  cases result with
  | ok file => exact .inl ⟨file, rfl⟩
  | error reason => exact .inr ⟨_, rfl⟩

/-- No write of an artifact fails. -/
def AllWritten (sink : Sink σ) (artifacts : List Artifact) (s : σ) : Prop :=
  (writeAll sink artifacts s).2.1 = []

/-- If no write fails, all artifacts have entries. -/
theorem artifacts_writeAll_of_allWritten {sink : Sink σ} {artifacts : List Artifact} {s : σ}
    (h : AllWritten sink artifacts s) :
    (writeAll sink artifacts s).1.map Entry.artifact = artifacts := by
  induction artifacts generalizing s with
  | nil => rfl
  | cons a rest ih =>
    unfold AllWritten at h
    obtain ⟨s', ⟨file, hcons⟩ | ⟨message, hcons⟩⟩ := writeAll_cons sink a rest s
    · rw [hcons] at h ⊢
      rw [List.map_cons, ih h]
    · rw [hcons] at h
      cases h

/-- The index lists what is written. -/
theorem entries_emit (sink : Sink σ) (c : Catalog) (o : Options) (markers : List Marker) (s : σ) :
    (emit sink c o markers s).1.entries =
      (writeAll sink (generate c markers o.runtime).1 s).1 := by
  unfold Output.entries emit
  simp only [List.zipWith_map_left, List.zipWith_map_right, List.zipWith_self]
  exact List.map_id _

/-- If no write fails, the registered names are those of the artifacts. -/
theorem mem_registered_emit {sink : Sink σ} {c : Catalog} {o : Options} {markers : List Marker}
    {s : σ} (h : AllWritten sink (generate c markers o.runtime).1 s) {name : String} :
    name ∈ (registrations (emit sink c o markers s).1.entries).map Prod.fst ↔
      ∃ a ∈ (generate c markers o.runtime).1, a.qualifiedName = name := by
  rw [mem_registered_iff, entries_emit]
  constructor
  · rintro ⟨e, he, hname⟩
    refine ⟨e.artifact, ?_, hname⟩
    rw [← artifacts_writeAll_of_allWritten h]
    exact List.mem_map.2 ⟨e, he, rfl⟩
  · rintro ⟨a, ha, hname⟩
    rw [← artifacts_writeAll_of_allWritten h] at ha
    obtain ⟨e, he, rfl⟩ := List.mem_map.1 ha
    exact ⟨e, he, hname⟩

/-! ## A catalog with one evaluator -/

/-- A marker, and a type that uses it. -/
def ordersCatalog : Catalog :=
  .ofTypes
    [{ name := "app::Access", annotations := [⟨"meta_jel", []⟩], members := ["value"] },
     { name := "app::Orders", annotations := [⟨"Access", [("value", .text "context.admin ")]⟩] }]

/-- The usual options. -/
def ordersOptions : Options :=
  ⟨"::jel", "evaluators.rs"⟩

/-- The marker, with the standard settings. -/
def accessMarker : Marker :=
  ⟨"app::Access", {}⟩

/-- The type, as it uses the marker. -/
def ordersElement : Element :=
  ⟨"app::Orders", none, ⟨"Access", [("value", .text "context.admin ")]⟩, 1⟩

/-- The evaluator of the type. -/
def ordersArtifact : Artifact where
  element := "app::Orders"
  marker := "app::Access"
  qualifiedName := "app::Orders$SimpleJelEvaluator"
  package := "app"
  className := "Orders$SimpleJelEvaluator"
  ident := "OrdersSimpleJelEvaluator"
  contextVariable := "context"
  contextType := .dynamic
  returnType := .dynamic
  body := "context.admin;"
  customMethods := ""
  markers := []
  imports := ["::jel::Dynamic", "::jel::Evaluator"]

/-- The evaluator is built from the marker and the type. -/
theorem build_orders :
    build ordersOptions.runtime accessMarker ordersElement = .ok ordersArtifact := by
  have hname : accessMarker.descriptor.naming.evaluatorName ordersElement.className
      ordersElement.methodName? = .ok "app::Orders$SimpleJelEvaluator" :=
    Naming.evaluatorName_standard ⟨by decide, fun _ h => by cases h⟩
  unfold build
  simp only [hname]
  rfl

/-- It is the only one. -/
theorem generate_orders :
    (generate ordersCatalog [accessMarker] ordersOptions.runtime).1 = [ordersArtifact] := by
  have helements : elements ordersCatalog accessMarker.name = [ordersElement] := by decide
  unfold generate
  simp only [List.foldl_cons, List.foldl_nil, Generated.addMarker, helements, Generated.step,
    build_orders]
  rfl

end ExprGate.Output
