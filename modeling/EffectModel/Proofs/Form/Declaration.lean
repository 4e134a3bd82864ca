import EffectModel.Form.Declaration
import EffectModel.Proofs.Json.Reading

/-! The forms of declarations and of all they hold are read back. A type use may hold type uses and
an annotation value may hold values, so that theirs are read back by induction on the levels. -/
namespace EffectModel

open Json

theorem DeclId.restores : Restores ofJson toJson := fun _ _ _ => restores_asText.map DeclId.mk

theorem TypeKind.restores : Restores ofJson toJson :=
  restores_asChoice fun kind => by cases kind <;> rfl

theorem restores_optionalText : Restores (asOption asText) (ofOption .text) :=
  restores_asOption restores_asText nofun

theorem restores_optionalId : Restores (asOption DeclId.ofJson) (ofOption DeclId.toJson) :=
  restores_asOption DeclId.restores nofun

namespace TypeUse

theorem allToJson_eq_map (uses : List TypeUse) : allToJson uses = uses.map toJson := by
  induction uses with
  | nil => rfl
  | cons use uses ih => rw [allToJson, ih, List.map_cons]

/-- A type use is a record, one field of which is a list of type uses. -/
theorem ofJson_eq : ofJson =
    asRecord fields fun levels => ofSlots (asList ofJson levels) levels := by
  funext levels json
  match levels with
  | 0 => rfl
  | 1 => rw [ofJson, asRecord, asRecord, asList_zero]
  | levels + 2 => rw [ofJson, asRecord, asRecord, asList_fixed]

theorem restores : Restores ofJson toJson := by
  intro levels
  induction levels using Nat.strongRecOn with
  | ind levels ih =>
    rintro ⟨name, scope, kind, args, arity, nullable, declaration⟩ _
    rw [toJson, ofJson_eq, allToJson_eq_map]
    have distinct : fields.Nodup := by decide
    refine asRecord_record ?_ distinct fun fewer less other => ?_
    · rfl
    have listed : ∀ others, asList ofJson fewer (.list (args.map toJson)) = some others ↔
        (Json.list (args.map toJson)).depth ≤ fewer ∧ args = others := fun _ =>
      asList_map_form fun fewest less' use _ => ih fewest (Nat.lt_trans less' less) use
    simp [ofSlots, restores_asText.bind, bind_eq_some_of_fits listed,
      restores_asUInt64.bind, restores_asBool.bind, restores_optionalId.bind, TypeKind.restores.bind,
      and_assoc]

end TypeUse

namespace AnnotationValue

theorem allToJson_eq_map (items : List AnnotationValue) : allToJson items = items.map toJson := by
  induction items with
  | nil => rfl
  | cons item items ih => rw [allToJson, ih, List.map_cons]

/-- A value is tagged with its kind, and may be a list of values. -/
theorem ofJson_eq : ofJson =
    asTagged "kind" "value" kinds fun levels => ofParts (asList ofJson levels) levels := by
  funext levels
  match levels with
  | 0 => exact asTagged_zero.symm
  | 1 =>
    refine asTagged_congr ?_
    rw [asList_zero]
  | levels + 2 =>
    refine asTagged_congr ?_
    rw [asList_fixed]

theorem restores : Restores ofJson toJson := by
  intro levels
  induction levels using Nat.strongRecOn with
  | ind levels ih =>
    intro value other
    rw [ofJson_eq]
    cases levels with
    | zero => cases value <;> simp [toJson, depth, asTagged]
    | succ levels =>
      cases value with
      | text value =>
        rw [toJson, asTagged_content (by decide) (by decide)]
        simp [ofParts, restores_asText.map, depth]
      | bool value =>
        rw [toJson, asTagged_content (by decide) (by decide)]
        simp [ofParts, restores_asBool.map, depth]
      | int value =>
        rw [toJson, asTagged_content (by decide) (by decide)]
        simp [ofParts, restores_asInt64.map, depth]
      | type use =>
        rw [toJson, asTagged_content (by decide) (by decide)]
        simp [ofParts, TypeUse.restores.map, depth]
      | list items =>
        rw [toJson, asTagged_content (by decide) (by decide), allToJson_eq_map]
        have listed : ∀ others, asList ofJson levels (.list (items.map toJson)) = some others ↔
            (Json.list (items.map toJson)).depth ≤ levels ∧ items = others := fun _ =>
          asList_map_form fun fewer less item _ => ih fewer (Nat.lt_succ_of_lt less) item
        simp [ofParts, Option.map_eq_some_iff, listed, depth, and_assoc]
      | null =>
        rw [toJson, asTagged_bare (by decide) (by decide)]
        simp [ofParts, depth]

end AnnotationValue

theorem Parameter.restores : Restores ofJson toJson :=
  restores_asRecord (by decide) fun ⟨name, type, default⟩ => ⟨_, rfl, rfl, fun levels other => by
    simp [restores_asText.bind, TypeUse.restores.bind, restores_optionalText.bind, and_assoc]⟩

theorem NamedArgument.restores : Restores ofJson toJson :=
  restores_asRecord (by decide) fun ⟨name, value⟩ => ⟨_, rfl, rfl, fun levels other => by
    simp [restores_asText.bind, AnnotationValue.restores.bind, and_assoc]⟩

theorem Annotation.restores : Restores ofJson toJson :=
  restores_asRecord (by decide) fun ⟨kind, typeArgs, args, named⟩ =>
    ⟨_, rfl, rfl, fun levels other => by
      simp [restores_asText.bind, (restores_asList TypeUse.restores).bind,
        (restores_asList AnnotationValue.restores).bind,
        (restores_asList NamedArgument.restores).bind, and_assoc]⟩

theorem DeclKind.restores : Restores ofJson toJson :=
  restores_asChoice fun kind => by cases kind <;> rfl

theorem Access.restores : Restores ofJson toJson :=
  restores_asChoice fun access => by cases access <;> rfl

theorem Method.restores : Restores ofJson toJson :=
  restores_asRecord (by decide) fun ⟨name, returnType, parameters, isStatic, access⟩ =>
    ⟨_, rfl, rfl, fun levels other => by
      simp [restores_asText.bind, TypeUse.restores.bind, (restores_asList Parameter.restores).bind,
        restores_asBool.bind, Access.restores.bind, and_assoc]⟩

theorem Property.restores : Restores ofJson toJson :=
  restores_asRecord (by decide) fun ⟨name, type, readable, isStatic⟩ =>
    ⟨_, rfl, rfl, fun levels other => by
      simp [restores_asText.bind, TypeUse.restores.bind, restores_asBool.bind, and_assoc]⟩

theorem Declaration.restores : Restores ofJson toJson :=
  restores_asRecord (by decide)
    fun ⟨id, name, scope, kind, access, annotations, methods, properties, baseTypes⟩ =>
      ⟨_, rfl, rfl, fun levels other => by
        simp [DeclId.restores.bind, restores_asText.bind, DeclKind.restores.bind,
          Access.restores.bind, (restores_asList Annotation.restores).bind,
          (restores_asList Method.restores).bind, (restores_asList Property.restores).bind,
          (restores_asList TypeUse.restores).bind, and_assoc]⟩

theorem Snapshot.restores_document : Restores readDocument documentOf :=
  restores_asRecord (by decide) fun declarations => ⟨_, rfl, rfl, fun levels other => by
    simp [restores_asList Declaration.restores levels declarations other]⟩

end EffectModel
