import EffectModel.Form.Output
import EffectModel.Proofs.Json.Exact

/-! The forms of declarations and of outputs are made of texts, truth values and whole numbers alone. -/
namespace EffectModel

open Json

section Declarations

@[simp] theorem DeclId.isExact_toJson (id : DeclId) : id.toJson.IsExact := .text id.text

@[simp] theorem TypeKind.isExact_toJson (kind : TypeKind) : kind.toJson.IsExact := .text kind.name

mutual

@[simp] theorem TypeUse.isExact_toJson : ∀ use : TypeUse, use.toJson.IsExact
  | ⟨name, scope, kind, args, arity, nullable, declaration⟩ => by
    simpa [TypeUse.toJson] using TypeUse.isExact_allToJson args

theorem TypeUse.isExact_allToJson : ∀ (uses : List TypeUse), ∀ json ∈ TypeUse.allToJson uses,
    json.IsExact
  | [] => by simp [TypeUse.allToJson]
  | use :: uses => by
    simpa [TypeUse.allToJson, TypeUse.isExact_toJson use] using TypeUse.isExact_allToJson uses

end

mutual

@[simp] theorem AnnotationValue.isExact_toJson : ∀ value : AnnotationValue, value.toJson.IsExact
  | .text _ | .bool _ | .int _ | .type _ | .null => by simp [AnnotationValue.toJson]
  | .list items => by
    simpa [AnnotationValue.toJson] using AnnotationValue.isExact_allToJson items

theorem AnnotationValue.isExact_allToJson : ∀ (items : List AnnotationValue),
    ∀ json ∈ AnnotationValue.allToJson items, json.IsExact
  | [] => by simp [AnnotationValue.allToJson]
  | item :: items => by
    simpa [AnnotationValue.allToJson, AnnotationValue.isExact_toJson item] using
      AnnotationValue.isExact_allToJson items

end

@[simp] theorem NamedArgument.isExact_toJson (argument : NamedArgument) :
    argument.toJson.IsExact := by simp [toJson]

@[simp] theorem Annotation.isExact_toJson (note : Annotation) : note.toJson.IsExact := by
  simp [toJson]

@[simp] theorem DeclKind.isExact_toJson (kind : DeclKind) : kind.toJson.IsExact := .text kind.name

@[simp] theorem Access.isExact_toJson (access : Access) : access.toJson.IsExact := .text access.name

@[simp] theorem Parameter.isExact_toJson (parameter : Parameter) : parameter.toJson.IsExact := by
  simp [toJson]

@[simp] theorem Method.isExact_toJson (method : Method) : method.toJson.IsExact := by
  simp [toJson]

@[simp] theorem Property.isExact_toJson (property : Property) : property.toJson.IsExact := by
  simp [toJson]

@[simp] theorem Declaration.isExact_toJson (declaration : Declaration) :
    declaration.toJson.IsExact := by simp [toJson]

theorem Snapshot.isExact_documentOf (declarations : List Declaration) :
    (documentOf declarations).IsExact := by simp [documentOf]

end Declarations

section Outputs

@[simp] theorem Strategy.isExact_toJson (strategy : Strategy) : strategy.toJson.IsExact :=
  .text strategy.name

@[simp] theorem Produced.isExact_toJson (produced : Produced) : produced.toJson.IsExact := by
  cases produced <;> simp [toJson]

@[simp] theorem EffectParameter.isExact_toJson (parameter : EffectParameter) :
    parameter.toJson.IsExact := by simp [toJson]

@[simp] theorem Effect.isExact_toJson (effect : Effect) : effect.toJson.IsExact := by
  simp [toJson]

@[simp] theorem RecordCollection.isExact_toJson (collection : RecordCollection) :
    collection.toJson.IsExact := by simp [toJson]

@[simp] theorem Identifiers.isExact_toJson (identifiers : Identifiers) :
    identifiers.toJson.IsExact := by simp [toJson]

@[simp] theorem EffectModule.isExact_toJson (effectModule : EffectModule) :
    effectModule.toJson.IsExact := by simp [toJson]

@[simp] theorem Fault.isExact_toJson (fault : Fault) : fault.toJson.IsExact := by simp [toJson]

@[simp] theorem Capability.isExact_toJson (capability : Capability) :
    capability.toJson.IsExact := by simp [toJson]

@[simp] theorem Runtime.isExact_toJson (runtime : Runtime) : runtime.toJson.IsExact := by
  simp [toJson]

@[simp] theorem TestRuntime.isExact_toJson (testRuntime : TestRuntime) :
    testRuntime.toJson.IsExact := by simp [toJson]

@[simp] theorem Failure.isExact_toJson (failure : Failure) : failure.toJson.IsExact := by
  simp [toJson, Stage.toJson]

theorem Output.isExact_toJson (output : Output) : output.toJson.IsExact := by simp [toJson]

end Outputs

end EffectModel
