import EffectModel.Json.Record
import EffectModel.Settings.Basic

namespace EffectModel

open Json

namespace Vocabulary

def toJson (names : Vocabulary) : Json :=
  .record [
    ("module", .text names.moduleKind), ("runtime", .text names.runtimeKind),
    ("uses", .text names.usesKind), ("test_runtime", .text names.testRuntimeKind),
    ("name_key", .text names.nameKey), ("instrumented_key", .text names.instrumentedKey),
    ("include_key", .text names.includeKey), ("exclude_key", .text names.excludeKey),
    ("target_key", .text names.targetKey)]

def fields : List String :=
  ["module", "runtime", "uses", "test_runtime", "name_key", "instrumented_key", "include_key",
    "exclude_key", "target_key"]

def ofJson : Reading Vocabulary := asRecord fields fun levels slots =>
  let default : Vocabulary := {}
  match slots with
  | [moduleKind, runtimeKind, usesKind, testRuntimeKind, nameKey, instrumentedKey, includeKey,
      excludeKey, targetKey] => do
      some
        { moduleKind := ← moduleKind.withDefault default.moduleKind (asText levels)
          runtimeKind := ← runtimeKind.withDefault default.runtimeKind (asText levels)
          usesKind := ← usesKind.withDefault default.usesKind (asText levels)
          testRuntimeKind := ← testRuntimeKind.withDefault default.testRuntimeKind (asText levels)
          nameKey := ← nameKey.withDefault default.nameKey (asText levels)
          instrumentedKey := ← instrumentedKey.withDefault default.instrumentedKey (asText levels)
          includeKey := ← includeKey.withDefault default.includeKey (asText levels)
          excludeKey := ← excludeKey.withDefault default.excludeKey (asText levels)
          targetKey := ← targetKey.withDefault default.targetKey (asText levels) }
  | _ => none

end Vocabulary

namespace LiftingRules

def toJson (rules : LiftingRules) : Json :=
  .record [
    ("async_wrappers", .list (rules.asyncWrappers.map .text)),
    ("nullable_wrappers", .list (rules.nullableWrappers.map .text)),
    ("void_names", .list (rules.voidNames.map .text)),
    ("unit_type", .text rules.unitType), ("option_type", .text rules.optionType)]

def fields : List String :=
  ["async_wrappers", "nullable_wrappers", "void_names", "unit_type", "option_type"]

def ofJson : Reading LiftingRules := asRecord fields fun levels slots =>
  let default : LiftingRules := {}
  match slots with
  | [asyncWrappers, nullableWrappers, voidNames, unitType, optionType] => do
      some
        { asyncWrappers := ← asyncWrappers.withDefault default.asyncWrappers (asList asText levels)
          nullableWrappers :=
            ← nullableWrappers.withDefault default.nullableWrappers (asList asText levels)
          voidNames := ← voidNames.withDefault default.voidNames (asList asText levels)
          unitType := ← unitType.withDefault default.unitType (asText levels)
          optionType := ← optionType.withDefault default.optionType (asText levels) }
  | _ => none

end LiftingRules

namespace NamingRules

def toJson (rules : NamingRules) : Json :=
  .record [
    ("interface_prefix", .text (String.singleton rules.interfacePrefix)),
    ("capability_prefix", .text rules.capabilityPrefix),
    ("strip_async_suffix", .bool rules.stripAsyncSuffix)]

def fields : List String := ["interface_prefix", "capability_prefix", "strip_async_suffix"]

def ofJson : Reading NamingRules := asRecord fields fun levels slots =>
  let default : NamingRules := {}
  match slots with
  | [interfacePrefix, capabilityPrefix, stripAsyncSuffix] => do
      some
        { interfacePrefix := ← interfacePrefix.withDefault default.interfacePrefix (asChar levels)
          capabilityPrefix :=
            ← capabilityPrefix.withDefault default.capabilityPrefix (asText levels)
          stripAsyncSuffix :=
            ← stripAsyncSuffix.withDefault default.stripAsyncSuffix (asBool levels) }
  | _ => none

end NamingRules

namespace PersistenceRules

def toJson (rules : PersistenceRules) : Json :=
  .record [
    ("context_types", .list (rules.contextTypes.map .text)),
    ("collection_types", .list (rules.collectionTypes.map .text)),
    ("ancestor_depth_limit", .int rules.ancestorDepthLimit.toNat)]

def fields : List String := ["context_types", "collection_types", "ancestor_depth_limit"]

def ofJson : Reading PersistenceRules := asRecord fields fun levels slots =>
  let default : PersistenceRules := {}
  match slots with
  | [contextTypes, collectionTypes, ancestorDepthLimit] => do
      some
        { contextTypes := ← contextTypes.withDefault default.contextTypes (asList asText levels)
          collectionTypes :=
            ← collectionTypes.withDefault default.collectionTypes (asList asText levels)
          ancestorDepthLimit :=
            ← ancestorDepthLimit.withDefault default.ancestorDepthLimit (asUInt64 levels) }
  | _ => none

end PersistenceRules

namespace Settings

def toJson (settings : Settings) : Json :=
  .record [
    ("version", .int settings.version.toNat), ("annotations", settings.vocabulary.toJson),
    ("lifting", settings.lifting.toJson), ("naming", settings.naming.toJson),
    ("persistence", settings.persistence.toJson), ("parallel", .bool settings.parallel)]

def fields : List String :=
  ["version", "annotations", "lifting", "naming", "persistence", "parallel"]

def ofJson : Reading Settings := asRecord fields fun levels slots =>
  match slots with
  | [version, vocabulary, lifting, naming, persistence, parallel] => do
      some
        { version := ← version.withDefault 1 (asUInt32 levels)
          vocabulary := ← vocabulary.withDefault {} (Vocabulary.ofJson levels)
          lifting := ← lifting.withDefault {} (LiftingRules.ofJson levels)
          naming := ← naming.withDefault {} (NamingRules.ofJson levels)
          persistence := ← persistence.withDefault {} (PersistenceRules.ofJson levels)
          parallel := ← parallel.withDefault true (asBool levels) }
  | _ => none

end Settings

end EffectModel
