import EffectModel.Proofs.Yaml.Reliable
import EffectModel.Settings.Document
import Mathlib.Data.List.Nodup

namespace EffectModel

open Yaml

theorem Settings.isNamed_parts (settings : Settings) :
    ∀ part ∈ settings.parts, part.isNamed = true := by
  simp only [parts, List.forall_mem_cons, Part.isNamed, Vocabulary.entries, LiftingRules.entries,
    NamingRules.entries, PersistenceRules.entries, List.all_cons, List.all_nil, List.isEmpty_cons]
  decide

section Reading

variable {library : Library} {image : library.Image} (reliable : library.IsReliable image)
variable (root : library.Node)

theorem Yaml.Library.fieldsOf_eq {given : List (String × library.Node)} {node : library.Node}
    (names : List String) (fields : library.fields node = some given)
    (distinct : (given.map Prod.fst).Nodup) : library.fieldsOf names node = some given := by
  have once : (names.any fun name => 1 < given.countP (fun field => field.1 == name)) = false := by
    rw [List.any_eq_false]
    intro name _
    have count := List.nodup_iff_count_le_one.mp distinct name
    rw [List.count, List.countP_map] at count
    simpa [Function.comp_def] using count
  simp only [fieldsOf, fields, once, Bool.not_false, guard_true, Option.bind_eq_bind,
    Option.bind_some, Option.pure_def]

include reliable

theorem fieldsOf_block (names : List String) (entries : List Entry)
    (distinct : (entries.map Entry.name).Nodup) :
    library.fieldsOf names (image.block root entries) = some (entries.map (image.entry root)) := by
  refine Library.fieldsOf_eq names (reliable.block root entries) ?_
  rw [List.map_map]
  exact distinct

theorem asChar_value (c : Char) : library.asChar (image.value root (.char c)) = some c := by
  simp [Library.asChar, reliable.char]

theorem asUInt32_value (value : UInt32) :
    library.asUInt32 (image.value root (.word (.number value.toNat))) = some value := by
  have read := reliable.number root _ _ (Nat.le_sub_one_of_lt value.toNat_lt_size)
  rw [Library.asUInt32, read, Option.map_some, UInt32.ofNat_toNat]

theorem asUInt64_value (value : UInt64) :
    library.asUInt64 (image.value root (.word (.number value.toNat))) = some value := by
  have read := reliable.number root _ _ (Nat.le_sub_one_of_lt value.toNat_lt_size)
  rw [Library.asUInt64, read, Option.map_some, UInt64.ofNat_toNat]

theorem asTexts_value (texts : List String) :
    library.asTexts (image.value root (.texts texts)) = some texts := by
  have items := mapM_map_of_some (reliable.text root) texts
  rw [List.map_id'] at items
  rwa [Library.asTexts, reliable.texts]

theorem Vocabulary.ofYaml_block (names : Vocabulary) :
    Vocabulary.ofYaml library (image.block root names.entries) = some names := by
  let given := names.entries.map (image.entry root)
  have block : library.fieldsOf fields (image.block root names.entries) = some given :=
    fieldsOf_block reliable root _ _ (show Vocabulary.fields.Nodup by decide)
  have moduleKind (default : String) : field given "module" default library.asText =
      some names.moduleKind := reliable.text root _
  have runtimeKind (default : String) : field given "runtime" default library.asText =
      some names.runtimeKind := reliable.text root _
  have usesKind (default : String) : field given "uses" default library.asText =
      some names.usesKind := reliable.text root _
  have testRuntimeKind (default : String) : field given "test_runtime" default library.asText =
      some names.testRuntimeKind := reliable.text root _
  have nameKey (default : String) : field given "name_key" default library.asText =
      some names.nameKey := reliable.text root _
  have instrumentedKey (default : String) : field given "instrumented_key" default library.asText =
      some names.instrumentedKey := reliable.text root _
  have includeKey (default : String) : field given "include_key" default library.asText =
      some names.includeKey := reliable.text root _
  have excludeKey (default : String) : field given "exclude_key" default library.asText =
      some names.excludeKey := reliable.text root _
  have targetKey (default : String) : field given "target_key" default library.asText =
      some names.targetKey := reliable.text root _
  rw [ofYaml, block]
  simp only [Option.bind_eq_bind, Option.bind_some, moduleKind, runtimeKind, usesKind,
    testRuntimeKind, nameKey, instrumentedKey, includeKey, excludeKey, targetKey]

theorem LiftingRules.ofYaml_block (rules : LiftingRules) :
    LiftingRules.ofYaml library (image.block root rules.entries) = some rules := by
  let given := rules.entries.map (image.entry root)
  have block : library.fieldsOf fields (image.block root rules.entries) = some given :=
    fieldsOf_block reliable root _ _ (show LiftingRules.fields.Nodup by decide)
  have asyncWrappers (default : List String) : field given "async_wrappers" default
      library.asTexts = some rules.asyncWrappers := asTexts_value reliable root _
  have nullableWrappers (default : List String) : field given "nullable_wrappers" default
      library.asTexts = some rules.nullableWrappers := asTexts_value reliable root _
  have voidNames (default : List String) : field given "void_names" default library.asTexts =
      some rules.voidNames := asTexts_value reliable root _
  have unitType (default : String) : field given "unit_type" default library.asText =
      some rules.unitType := reliable.text root _
  have optionType (default : String) : field given "option_type" default library.asText =
      some rules.optionType := reliable.text root _
  rw [ofYaml, block]
  simp only [Option.bind_eq_bind, Option.bind_some, asyncWrappers, nullableWrappers, voidNames,
    unitType, optionType]

theorem NamingRules.ofYaml_block (rules : NamingRules) :
    NamingRules.ofYaml library (image.block root rules.entries) = some rules := by
  let given := rules.entries.map (image.entry root)
  have block : library.fieldsOf fields (image.block root rules.entries) = some given :=
    fieldsOf_block reliable root _ _ (show NamingRules.fields.Nodup by decide)
  have interfacePrefix (default : Char) : field given "interface_prefix" default library.asChar =
      some rules.interfacePrefix := asChar_value reliable root _
  have capabilityPrefix (default : String) : field given "capability_prefix" default
      library.asText = some rules.capabilityPrefix := reliable.text root _
  have stripAsyncSuffix (default : Bool) : field given "strip_async_suffix" default
      library.asBool = some rules.stripAsyncSuffix := reliable.bool root _
  rw [ofYaml, block]
  simp only [Option.bind_eq_bind, Option.bind_some, interfacePrefix, capabilityPrefix,
    stripAsyncSuffix]

theorem PersistenceRules.ofYaml_block (rules : PersistenceRules) :
    PersistenceRules.ofYaml library (image.block root rules.entries) = some rules := by
  let given := rules.entries.map (image.entry root)
  have block : library.fieldsOf fields (image.block root rules.entries) = some given :=
    fieldsOf_block reliable root _ _ (show PersistenceRules.fields.Nodup by decide)
  have contextTypes (default : List String) : field given "context_types" default
      library.asTexts = some rules.contextTypes := asTexts_value reliable root _
  have collectionTypes (default : List String) : field given "collection_types" default
      library.asTexts = some rules.collectionTypes := asTexts_value reliable root _
  have ancestorDepthLimit (default : UInt64) : field given "ancestor_depth_limit" default
      library.asUInt64 = some rules.ancestorDepthLimit := asUInt64_value reliable root _
  rw [ofYaml, block]
  simp only [Option.bind_eq_bind, Option.bind_some, contextTypes, collectionTypes,
    ancestorDepthLimit]

/-- The parts of settings make the settings up again. -/
theorem Settings.ofYaml_parts {node : library.Node} (settings : Settings)
    (block : library.fields node = some (settings.parts.map (image.part root))) :
    Settings.ofYaml library node = some settings := by
  let given := settings.parts.map (image.part root)
  have block : library.fields node = some given := block
  have distinct : (given.map Prod.fst).Nodup := show Settings.fields.Nodup by decide
  have version (default : UInt32) : field given "version" default library.asUInt32 =
      some settings.version := asUInt32_value reliable root _
  have vocabulary (default : Vocabulary) : field given "annotations" default
      (Vocabulary.ofYaml library) = some settings.vocabulary :=
    settings.vocabulary.ofYaml_block reliable root
  have lifting (default : LiftingRules) : field given "lifting" default
      (LiftingRules.ofYaml library) = some settings.lifting :=
    settings.lifting.ofYaml_block reliable root
  have naming (default : NamingRules) : field given "naming" default (NamingRules.ofYaml library) =
      some settings.naming := settings.naming.ofYaml_block reliable root
  have persistence (default : PersistenceRules) : field given "persistence" default
      (PersistenceRules.ofYaml library) = some settings.persistence :=
    settings.persistence.ofYaml_block reliable root
  have parallel (default : Bool) : field given "parallel" default library.asBool =
      some settings.parallel := reliable.bool root _
  rw [ofYaml, Library.fieldsOf_eq fields block distinct]
  simp only [Option.bind_eq_bind, Option.bind_some, version, vocabulary, lifting, naming,
    persistence, parallel]

end Reading

namespace Settings

variable {library : Library} {image : library.Image}

/-- All settings are read as they were written, the ones that are not accepted among them. -/
theorem parse_toYaml (reliable : library.IsReliable image) (settings : Settings) :
    (library.parse (settings.toYaml library)).bind (ofYaml library) = some settings := by
  have nonempty : settings.parts ≠ [] := List.cons_ne_nil _ _
  obtain ⟨root, parsed, parts⟩ := reliable.document _ nonempty settings.isNamed_parts
  rw [toYaml, parsed, Option.bind_some]
  exact settings.ofYaml_parts reliable root parts

theorem accept_settings (valid : ValidSettings) : valid.settings.accept = .ok valid := by
  have checked := valid.checked
  have validated : valid.settings.validate = .ok valid := by
    unfold validate
    split
    next => rfl
    next fault faulty => simp [checked] at faulty
  rw [accept, validated]

/-- Checked settings that are saved are loaded again as they were, and pass the checks again, whatever
characters their names and the entries of their lists are made of. -/
theorem loadYaml_toYaml (reliable : library.IsReliable image) (valid : ValidSettings) :
    loadYaml library (valid.settings.toYaml library) = .ok valid := by
  rw [loadYaml, parse_toYaml reliable]
  exact accept_settings valid

end Settings

namespace Sample

/-- Settings with texts that are easily taken for something else: for nothing, for a number, for a
comment, for a list, for a text of several lines, or for an end of the document. -/
def easilyMistaken : Settings where
  vocabulary :=
    { moduleKind := "null"
      runtimeKind := "~ # 1"
      usesKind := "- uses"
      testRuntimeKind := " 'it''s' \"quoted\"\t"
      nameKey := "true"
      includeKey := "first\n\n second\r\n"
      excludeKey := "---" }
  lifting := { nullableWrappers := [], voidNames := ["0x1F", "...", "a\u2028b"], unitType := "1e3" }
  naming := { interfacePrefix := 'ß', stripAsyncSuffix := false }
  persistence := { contextTypes := ["*a", "&a", "\x00"], ancestorDepthLimit := 64 }

end Sample

theorem Settings.loadYaml_toYaml_easilyMistaken :
    Yaml.library.IsReliable Yaml.image ∧ Sample.easilyMistaken.check = .ok () ∧
      (loadYaml Yaml.library (Sample.easilyMistaken.toYaml Yaml.library)).map ValidSettings.settings =
        .ok Sample.easilyMistaken := by
  have checked : Sample.easilyMistaken.check = .ok () := by decide +kernel
  refine ⟨isReliable_library, checked, ?_⟩
  rw [loadYaml_toYaml isReliable_library ⟨Sample.easilyMistaken, checked⟩]
  rfl

end EffectModel
