import EffectModel.Form.Settings
import EffectModel.Yaml.Library

namespace EffectModel

open Yaml

variable (library : Library)

namespace Vocabulary

def entries (names : Vocabulary) : List Entry :=
  [⟨"module", .text names.moduleKind⟩, ⟨"runtime", .text names.runtimeKind⟩,
    ⟨"uses", .text names.usesKind⟩, ⟨"test_runtime", .text names.testRuntimeKind⟩,
    ⟨"name_key", .text names.nameKey⟩, ⟨"instrumented_key", .text names.instrumentedKey⟩,
    ⟨"include_key", .text names.includeKey⟩, ⟨"exclude_key", .text names.excludeKey⟩,
    ⟨"target_key", .text names.targetKey⟩]

def ofYaml (node : library.Node) : Option Vocabulary := do
  let given ← library.fieldsOf fields node
  let default : Vocabulary := {}
  some
    { moduleKind := ← field given "module" default.moduleKind library.asText
      runtimeKind := ← field given "runtime" default.runtimeKind library.asText
      usesKind := ← field given "uses" default.usesKind library.asText
      testRuntimeKind := ← field given "test_runtime" default.testRuntimeKind library.asText
      nameKey := ← field given "name_key" default.nameKey library.asText
      instrumentedKey := ← field given "instrumented_key" default.instrumentedKey library.asText
      includeKey := ← field given "include_key" default.includeKey library.asText
      excludeKey := ← field given "exclude_key" default.excludeKey library.asText
      targetKey := ← field given "target_key" default.targetKey library.asText }

end Vocabulary

namespace LiftingRules

def entries (rules : LiftingRules) : List Entry :=
  [⟨"async_wrappers", .texts rules.asyncWrappers⟩,
    ⟨"nullable_wrappers", .texts rules.nullableWrappers⟩, ⟨"void_names", .texts rules.voidNames⟩,
    ⟨"unit_type", .text rules.unitType⟩, ⟨"option_type", .text rules.optionType⟩]

def ofYaml (node : library.Node) : Option LiftingRules := do
  let given ← library.fieldsOf fields node
  let default : LiftingRules := {}
  some
    { asyncWrappers := ← field given "async_wrappers" default.asyncWrappers library.asTexts
      nullableWrappers :=
        ← field given "nullable_wrappers" default.nullableWrappers library.asTexts
      voidNames := ← field given "void_names" default.voidNames library.asTexts
      unitType := ← field given "unit_type" default.unitType library.asText
      optionType := ← field given "option_type" default.optionType library.asText }

end LiftingRules

namespace NamingRules

def entries (rules : NamingRules) : List Entry :=
  [⟨"interface_prefix", .char rules.interfacePrefix⟩,
    ⟨"capability_prefix", .text rules.capabilityPrefix⟩,
    ⟨"strip_async_suffix", .word (.bool rules.stripAsyncSuffix)⟩]

def ofYaml (node : library.Node) : Option NamingRules := do
  let given ← library.fieldsOf fields node
  let default : NamingRules := {}
  some
    { interfacePrefix := ← field given "interface_prefix" default.interfacePrefix library.asChar
      capabilityPrefix := ← field given "capability_prefix" default.capabilityPrefix library.asText
      stripAsyncSuffix :=
        ← field given "strip_async_suffix" default.stripAsyncSuffix library.asBool }

end NamingRules

namespace PersistenceRules

def entries (rules : PersistenceRules) : List Entry :=
  [⟨"context_types", .texts rules.contextTypes⟩,
    ⟨"collection_types", .texts rules.collectionTypes⟩,
    ⟨"ancestor_depth_limit", .word (.number rules.ancestorDepthLimit.toNat)⟩]

def ofYaml (node : library.Node) : Option PersistenceRules := do
  let given ← library.fieldsOf fields node
  let default : PersistenceRules := {}
  some
    { contextTypes := ← field given "context_types" default.contextTypes library.asTexts
      collectionTypes := ← field given "collection_types" default.collectionTypes library.asTexts
      ancestorDepthLimit :=
        ← field given "ancestor_depth_limit" default.ancestorDepthLimit library.asUInt64 }

end PersistenceRules

namespace Settings

def parts (settings : Settings) : List Part :=
  [.field ⟨"version", .word (.number settings.version.toNat)⟩,
    .block "annotations" settings.vocabulary.entries, .block "lifting" settings.lifting.entries,
    .block "naming" settings.naming.entries, .block "persistence" settings.persistence.entries,
    .field ⟨"parallel", .word (.bool settings.parallel)⟩]

def toYaml (settings : Settings) : String := library.write settings.parts

/-- Every field may be left out and then has its default. -/
def ofYaml (node : library.Node) : Option Settings := do
  let given ← library.fieldsOf fields node
  some
    { version := ← field given "version" 1 library.asUInt32
      vocabulary := ← field given "annotations" {} (Vocabulary.ofYaml library)
      lifting := ← field given "lifting" {} (LiftingRules.ofYaml library)
      naming := ← field given "naming" {} (NamingRules.ofYaml library)
      persistence := ← field given "persistence" {} (PersistenceRules.ofYaml library)
      parallel := ← field given "parallel" true library.asBool }

inductive LoadError where
  /-- There is no such file, or it holds no text. -/
  | unreadable
  | notJson
  | notYaml
  | rejected (error : SettingsError)
  deriving DecidableEq, Repr

def accept (settings : Settings) : Except LoadError ValidSettings :=
  match settings.validate with
  | .ok valid => .ok valid
  | .error error => .error (.rejected error)

def loadJson (parse : String → Option Json) (text : String) : Except LoadError ValidSettings :=
  match (parse text).bind (ofJson Json.textLevels) with
  | some settings => settings.accept
  | none => .error .notJson

def loadYaml (text : String) : Except LoadError ValidSettings :=
  match (library.parse text).bind (ofYaml library) with
  | some settings => settings.accept
  | none => .error .notYaml

/-- Loads the settings that a file holds, if there is one. -/
def loadYamlFile (file : Option ByteArray) : Except LoadError ValidSettings :=
  match file.bind String.fromUTF8? with
  | some text => loadYaml library text
  | none => .error .unreadable

end Settings

end EffectModel
