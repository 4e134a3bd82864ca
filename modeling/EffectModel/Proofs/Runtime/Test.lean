import EffectModel.Proofs.Annotation
import EffectModel.Proofs.Cause
import EffectModel.Proofs.Lookup
import EffectModel.Proofs.Outcome
import EffectModel.Runtime.Test

/-! When a test runtime can be given, and which production runtime it asks for. Main statement: a test
root names a production root where its one annotation refers to it, and all else is a matter of the
configuration of the test root. -/
namespace EffectModel

variable {settings : Settings} {snapshot : Snapshot} {testRoot declaration : Declaration}
variable {note : Annotation} {kind : String} {id : DeclId} {fault : Fault}

theorem Declaration.singleAnnotation_eq_some_iff :
    declaration.singleAnnotation kind = .ok (some note) ↔ declaration.annotationsOf kind = [note] := by
  unfold singleAnnotation
  split <;> simp_all

theorem Declaration.mem_annotations_of_single
    (single : declaration.singleAnnotation kind = .ok (some note)) :
    note ∈ declaration.annotations := by
  have listed : note ∈ declaration.annotationsOf kind := by
    rw [singleAnnotation_eq_some_iff.mp single]
    exact List.mem_singleton_self note
  exact List.mem_of_mem_filter listed

theorem Declaration.fault_of_singleAnnotation
    (repeated : declaration.singleAnnotation kind = .error fault) :
    (Cause.repeatedAnnotation kind).blame declaration.id = fault := by
  unfold singleAnnotation at repeated
  split at repeated
  · cases repeated
  · cases repeated
  · exact Except.error.inj repeated

namespace TestRuntime

variable {find find' : DeclId → Option Runtime} {testRuntime : TestRuntime}

theorem productionOf_eq_ok_iff : productionOf settings snapshot testRoot = .ok id ↔
    ∃ note, testRoot.singleAnnotation settings.vocabulary.testRuntimeKind = .ok (some note) ∧
      ∃ found, destination settings snapshot note = some found ∧ found.id = id := by
  simp only [productionOf, bind_eq_ok_iff, orFault_eq_ok_iff, destination,
    Option.bind_eq_some_iff, pure, Except.pure, Except.ok.injEq]
  constructor
  · rintro ⟨_, single, note, rfl, use, usable, found, resolved, same⟩
    exact ⟨note, single, found, ⟨use, usable, resolved⟩, same⟩
  · rintro ⟨note, single, found, ⟨use, usable, resolved⟩, same⟩
    exact ⟨_, single, note, rfl, use, usable, found, resolved, same⟩

variable (settings snapshot) in
/-- A test root names a production root by one annotation, which refers to a type that is understood
and held. -/
def Names (testRoot production : Declaration) : Prop :=
  ∃ note use, testRoot.annotationsOf settings.vocabulary.testRuntimeKind = [note] ∧
    note.Refers settings.vocabulary.targetKey use ∧ use.isError = false ∧
    snapshot.resolve use = some production

theorem productionOf_eq_ok_iff_names : productionOf settings snapshot testRoot = .ok id ↔
    ∃ production, Names settings snapshot testRoot production ∧ production.id = id := by
  simp only [productionOf_eq_ok_iff, Declaration.singleAnnotation_eq_some_iff, destination,
    Option.bind_eq_some_iff, Annotation.usableReference_eq_some_iff]
  constructor
  · rintro ⟨note, single, production, ⟨use, ⟨refers, understood⟩, resolved⟩, same⟩
    exact ⟨production, ⟨note, use, single, refers, understood, resolved⟩, same⟩
  · rintro ⟨production, ⟨note, use, single, refers, understood, resolved⟩, same⟩
    exact ⟨note, single, production, ⟨use, ⟨refers, understood⟩, resolved⟩, same⟩

theorem isMisconfigured_of_productionOf
    (failed : productionOf settings snapshot testRoot = .error fault) :
    fault.IsMisconfigured testRoot.id := by
  rcases bind_eq_error_iff.mp failed with repeated | ⟨found, _, failed⟩
  · exact ⟨_, rfl, Declaration.fault_of_singleAnnotation repeated⟩
  rcases bind_eq_error_iff.mp failed with missing | ⟨note, _, failed⟩
  · exact ⟨_, rfl, (orFault_eq_error_iff.mp missing).2⟩
  rcases bind_eq_error_iff.mp failed with unusable | ⟨use, _, failed⟩
  · exact ⟨_, rfl, (orFault_eq_error_iff.mp unusable).2⟩
  rcases bind_eq_error_iff.mp failed with unresolved | ⟨production, _, impossible⟩
  · exact ⟨_, rfl, (orFault_eq_error_iff.mp unresolved).2⟩
  · cases impossible

theorem isMarked_of_productionOf (named : productionOf settings snapshot testRoot = .ok id) :
    isMarked settings testRoot = true := by
  obtain ⟨note, single, _⟩ := productionOf_eq_ok_iff.mp named
  have listed : note ∈ testRoot.annotationsOf settings.vocabulary.testRuntimeKind := by
    rw [Declaration.singleAnnotation_eq_some_iff.mp single]
    exact List.mem_singleton_self note
  exact List.any_eq_true.mpr ⟨note, List.mem_filter.mp listed⟩

theorem double_eq_ok_iff : double settings snapshot find testRoot = .ok testRuntime ↔
    ∃ id production, productionOf settings snapshot testRoot = .ok id ∧
      find id = some production ∧ ⟨testRoot.id, testRoot.name, testRoot.scope, testRoot.access,
        production.declaration, production.capabilities⟩ = testRuntime := by
  simp only [double, bind_eq_ok_iff, orFault_eq_ok_iff, Except.ok.injEq]
  constructor
  · rintro ⟨id, named, production, found, same⟩
    exact ⟨id, production, named, found, same⟩
  · rintro ⟨id, production, named, found, same⟩
    exact ⟨id, named, production, found, same⟩

theorem double_eq_error_iff : double settings snapshot find testRoot = .error fault ↔
    productionOf settings snapshot testRoot = .error fault ∨
      ∃ id, productionOf settings snapshot testRoot = .ok id ∧ find id = none ∧
        (Cause.unresolvedProduction id).blame testRoot.id = fault := by
  simp [double, bind_eq_error_iff]

/-- A test root that is not doubled is to blame for it, and its configuration is at fault. -/
theorem fault_of_double (failed : double settings snapshot find testRoot = .error fault) :
    fault.kind = .configuration ∧ fault.declaration = testRoot.id := by
  have misconfigured : fault.IsMisconfigured testRoot.id := by
    rcases double_eq_error_iff.mp failed with unnamed | ⟨_, _, _, same⟩
    · exact isMisconfigured_of_productionOf unnamed
    · exact ⟨_, rfl, same⟩
  exact ⟨misconfigured.kind_eq, misconfigured.isOwn.declaration_eq⟩

theorem declaration_of_double
    (success : double settings snapshot find testRoot = .ok testRuntime) :
    testRuntime.declaration = testRoot.id := by
  obtain ⟨_, _, _, _, rfl⟩ := double_eq_ok_iff.mp success
  rfl

theorem double_congr
    (same : ∀ id, productionOf settings snapshot testRoot = .ok id → find id = find' id) :
    double settings snapshot find testRoot = double settings snapshot find' testRoot := by
  unfold double
  cases named : productionOf settings snapshot testRoot with
  | error fault => rfl
  | ok id =>
    simp only [bind, Except.bind]
    rw [same id named]

end TestRuntime

end EffectModel
