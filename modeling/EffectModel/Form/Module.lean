import EffectModel.Form.Declaration
import EffectModel.Module.Basic

namespace EffectModel

open Json

def Strategy.toJson (strategy : Strategy) : Json := .text strategy.name

def Strategy.ofJson : Reading Strategy :=
  asChoice (all.map (fun strategy => (strategy.name, strategy)))

namespace Produced

def toJson : Produced → Json
  | unit => .record [("shape", .text "unit")]
  | value use => .record [("shape", .text "value"), ("type", use.toJson)]
  | optional use => .record [("shape", .text "optional"), ("type", use.toJson)]

/-- The tags of the shapes. -/
def shapes : List String := ["unit", "value", "optional"]

def ofJson : Reading Produced := asTagged "shape" "type" shapes fun levels shape content =>
  match shape, content with
  | "unit", none => some unit
  | "unit", some .null => some unit
  | "value", some use => (TypeUse.ofJson levels use).map value
  | "optional", some use => (TypeUse.ofJson levels use).map optional
  | _, _ => none

end Produced

namespace Classification

def toJson (classification : Classification) : Json :=
  .record [
    ("strategy", classification.strategy.toJson), ("produced", classification.produced.toJson)]

def ofJson : Reading Classification := asRecord ["strategy", "produced"] fun levels slots =>
  match slots with
  | [strategy, produced] => do
      some
        { strategy := ← strategy.required (Strategy.ofJson levels)
          produced := ← produced.required (Produced.ofJson levels) }
  | _ => none

end Classification

namespace EffectParameter

def toJson (parameter : EffectParameter) : Json :=
  .record [
    ("name", .text parameter.name), ("ty", .text parameter.written),
    ("type_ref", parameter.type.toJson), ("default", ofOption .text parameter.default)]

def ofJson : Reading EffectParameter :=
  asRecord ["name", "ty", "type_ref", "default"] fun levels slots =>
    match slots with
    | [name, written, type, default] => do
        some
          { name := ← name.required (asText levels)
            written := ← written.required (asText levels)
            type := ← type.required (TypeUse.ofJson levels)
            default := ← default.optional (asOption asText levels) }
    | _ => none

end EffectParameter

namespace Effect

def toJson (effect : Effect) : Json :=
  .record [
    ("effect_name", .text effect.name), ("source_name", .text effect.source),
    ("strategy", effect.strategy.toJson), ("produced", effect.produced.toJson),
    ("produced_type", .text effect.producedText), ("result_type", .text effect.resultText),
    ("parameters", .list (effect.parameters.map EffectParameter.toJson))]

def fields : List String :=
  ["effect_name", "source_name", "strategy", "produced", "produced_type", "result_type",
    "parameters"]

def ofJson : Reading Effect := asRecord fields fun levels slots =>
  match slots with
  | [name, source, strategy, produced, producedText, resultText, parameters] => do
      some
        { name := ← name.required (asText levels)
          source := ← source.required (asText levels)
          strategy := ← strategy.required (Strategy.ofJson levels)
          produced := ← produced.required (Produced.ofJson levels)
          producedText := ← producedText.required (asText levels)
          resultText := ← resultText.required (asText levels)
          parameters := ← parameters.required (asList EffectParameter.ofJson levels) }
  | _ => none

end Effect

namespace RecordCollection

def toJson (collection : RecordCollection) : Json :=
  .record [
    ("property_name", .text collection.property),
    ("element_type", collection.element.toJson)]

def ofJson : Reading RecordCollection :=
  asRecord ["property_name", "element_type"] fun levels slots =>
    match slots with
    | [property, element] => do
        some ⟨← property.required (asText levels), ← element.required (TypeUse.ofJson levels)⟩
    | _ => none

end RecordCollection

namespace Identifiers

def toJson (identifiers : Identifiers) : Json :=
  .record [
    ("interface_name", .text identifiers.interface), ("property_name", .text identifiers.property),
    ("parameter_name", .text identifiers.parameter)]

def ofJson : Reading Identifiers :=
  asRecord ["interface_name", "property_name", "parameter_name"] fun levels slots =>
    match slots with
    | [interface, property, parameter] => do
        some
          { interface := ← interface.required (asText levels)
            property := ← property.required (asText levels)
            parameter := ← parameter.required (asText levels) }
    | _ => none

end Identifiers

namespace EffectModule

def toJson (effectModule : EffectModule) : Json :=
  .record [
    ("name", .text effectModule.name), ("container", effectModule.container.toJson),
    ("container_name", .text effectModule.containerName),
    ("container_namespace", .text effectModule.containerScope),
    ("container_accessibility", effectModule.containerAccess.toJson),
    ("target_type", effectModule.targetType.toJson), ("target", effectModule.target.toJson),
    ("identifiers", effectModule.identifiers.toJson),
    ("methods", .list (effectModule.effects.map Effect.toJson)),
    ("instrumented", .bool effectModule.instrumented),
    ("is_persistence_context", .bool effectModule.isPersistenceContext),
    ("record_collections", .list (effectModule.recordCollections.map RecordCollection.toJson))]

def fields : List String :=
  ["name", "container", "container_name", "container_namespace", "container_accessibility",
    "target_type", "target", "identifiers", "methods", "instrumented", "is_persistence_context",
    "record_collections"]

def ofJson : Reading EffectModule := asRecord fields fun levels slots =>
  match slots with
  | [name, container, containerName, containerScope, containerAccess, targetType, target,
      identifiers, effects, instrumented, isPersistenceContext, recordCollections] => do
      some
        { name := ← name.required (asText levels)
          container := ← container.required (DeclId.ofJson levels)
          containerName := ← containerName.required (asText levels)
          containerScope := ← containerScope.required (asText levels)
          containerAccess := ← containerAccess.required (Access.ofJson levels)
          targetType := ← targetType.required (TypeUse.ofJson levels)
          target := ← target.required (DeclId.ofJson levels)
          identifiers := ← identifiers.required (Identifiers.ofJson levels)
          effects := ← effects.required (asList Effect.ofJson levels)
          instrumented := ← instrumented.required (asBool levels)
          isPersistenceContext := ← isPersistenceContext.required (asBool levels)
          recordCollections :=
            ← recordCollections.required (asList RecordCollection.ofJson levels) }
  | _ => none

end EffectModule

end EffectModel
