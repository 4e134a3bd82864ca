import EffectModel.Form.Output
import EffectModel.Proofs.Form.Declaration

namespace EffectModel

open Json

theorem Strategy.restores : Restores ofJson toJson :=
  restores_asChoice fun strategy => by cases strategy <;> rfl

theorem Produced.restores : Restores ofJson toJson := by
  intro levels produced other
  cases levels with
  | zero => cases produced <;> simp [ofJson, toJson, depth, asTagged]
  | succ levels =>
    cases produced with
    | unit =>
      rw [toJson, ofJson, asTagged_bare (by decide) (by decide)]
      simp [depth]
    | value use =>
      rw [toJson, ofJson, asTagged_content (by decide) (by decide)]
      simp [TypeUse.restores.map, depth]
    | optional use =>
      rw [toJson, ofJson, asTagged_content (by decide) (by decide)]
      simp [TypeUse.restores.map, depth]

theorem Classification.restores : Restores ofJson toJson :=
  restores_asRecord (by decide) fun ⟨strategy, produced⟩ => ⟨_, rfl, rfl, fun levels other => by
    simp [Strategy.restores.bind, Produced.restores.bind, and_assoc]⟩

theorem EffectParameter.restores : Restores ofJson toJson :=
  restores_asRecord (by decide) fun ⟨name, written, type, default⟩ =>
    ⟨_, rfl, rfl, fun levels other => by
      simp [restores_asText.bind, TypeUse.restores.bind, restores_optionalText.bind, and_assoc]⟩

theorem Effect.restores : Restores ofJson toJson :=
  restores_asRecord (by decide)
    fun ⟨name, source, strategy, produced, producedText, resultText, parameters⟩ =>
      ⟨_, rfl, rfl, fun levels other => by
        simp [restores_asText.bind, Strategy.restores.bind, Produced.restores.bind,
          (restores_asList EffectParameter.restores).bind, and_assoc]⟩

theorem RecordCollection.restores : Restores ofJson toJson :=
  restores_asRecord (by decide) fun ⟨property, element⟩ => ⟨_, rfl, rfl, fun levels other => by
    simp [restores_asText.bind, TypeUse.restores.bind, and_assoc]⟩

theorem Identifiers.restores : Restores ofJson toJson :=
  restores_asRecord (by decide) fun ⟨interface, property, parameter⟩ =>
    ⟨_, rfl, rfl, fun levels other => by simp [restores_asText.bind, and_assoc]⟩

theorem EffectModule.restores : Restores ofJson toJson :=
  restores_asRecord (by decide)
    fun ⟨name, container, containerName, containerScope, containerAccess, targetType, target,
        identifiers, effects, instrumented, isPersistenceContext, recordCollections⟩ =>
      ⟨_, rfl, rfl, fun levels other => by
        simp [restores_asText.bind, DeclId.restores.bind, Access.restores.bind,
          TypeUse.restores.bind, Identifiers.restores.bind, (restores_asList Effect.restores).bind,
          restores_asBool.bind, (restores_asList RecordCollection.restores).bind, and_assoc]⟩

theorem FaultKind.restores : Restores ofJson toJson :=
  restores_asChoice fun kind => by cases kind <;> rfl

namespace Fault

/-- The parts of a fault, under the key that tells its kind. -/
def partsToJson (fault : Fault) : Json :=
  .record [("declaration", fault.declaration.toJson), ("message", .text fault.message)]

theorem ofParts_eq_some_iff {fault other : Fault} {levels : Nat} :
    ofParts fault.kind levels fault.partsToJson = some other ↔
      fault.partsToJson.depth ≤ levels ∧ fault = other := by
  obtain ⟨kind, declaration, message⟩ := fault
  have distinct : ["declaration", "message"].Nodup := by decide
  refine asRecord_record ?_ distinct fun fewer _ other => ?_
  · rfl
  · simp [DeclId.restores.bind, restores_asText.bind, and_assoc]

theorem lookup_key (kind : FaultKind) : FaultKind.table.lookup kind.key = some kind := by
  cases kind <;> rfl

theorem restores : Restores ofJson toJson := by
  intro levels fault other
  cases levels with
  | zero => simp [ofJson, toJson, depth]
  | succ levels =>
    have parts : ofParts fault.kind levels fault.partsToJson = some other ↔
        fault.partsToJson.depth ≤ levels ∧ fault = other := ofParts_eq_some_iff
    simpa [ofJson, toJson, lookup_key, depth, fieldsDepth, partsToJson] using parts

end Fault

theorem Capability.restores : Restores ofJson toJson :=
  restores_asRecord (by decide) fun ⟨interface, property, parameter, dependency⟩ =>
    ⟨_, rfl, rfl, fun levels other => by
      simp [restores_asText.bind, TypeUse.restores.bind, and_assoc]⟩

theorem Runtime.restores : Restores ofJson toJson :=
  restores_asRecord (by decide) fun ⟨declaration, name, scope, access, capabilities⟩ =>
    ⟨_, rfl, rfl, fun levels other => by
      simp [DeclId.restores.bind, restores_asText.bind, Access.restores.bind,
        (restores_asList Capability.restores).bind, and_assoc]⟩

theorem TestRuntime.restores : Restores ofJson toJson :=
  restores_asRecord (by decide) fun ⟨declaration, name, scope, access, production, capabilities⟩ =>
    ⟨_, rfl, rfl, fun levels other => by
      simp [DeclId.restores.bind, restores_asText.bind, Access.restores.bind,
        (restores_asList Capability.restores).bind, and_assoc]⟩

theorem Stage.restores : Restores ofJson toJson :=
  restores_asChoice fun stage => by cases stage <;> rfl

theorem Failure.restores : Restores ofJson toJson :=
  restores_asRecord (by decide) fun ⟨declaration, stage, fault⟩ =>
    ⟨_, rfl, rfl, fun levels other => by
      simp [DeclId.restores.bind, Stage.restores.bind, Fault.restores.bind, and_assoc]⟩

theorem Output.restores : Restores ofJson toJson :=
  restores_asRecord (by decide) fun ⟨modules, runtimes, testRuntimes, failures⟩ =>
    ⟨_, rfl, rfl, fun levels other => by
      simp [(restores_asList EffectModule.restores).bind, (restores_asList Runtime.restores).bind,
        (restores_asList TestRuntime.restores).bind, (restores_asList Failure.restores).bind,
        and_assoc]⟩

end EffectModel
