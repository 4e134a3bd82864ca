import EffectModel.Proofs.Form.Abridged
import EffectModel.Settings.Document

namespace EffectModel

open Json Form

variable {levels : Nat}

section Settings

theorem Vocabulary.withstands : Withstands (.object .vocabulary) ofJson toJson levels :=
  withstands_asRecord rfl
    fun ⟨moduleKind, runtimeKind, usesKind, testRuntimeKind, nameKey, instrumentedKey, includeKey,
        excludeKey, targetKey⟩ =>
      ⟨_, rfl, rfl, fun fewer _ place fills => by
        obtain ⟨moduleKind', runtimeKind', usesKind', testRuntimeKind', nameKey', instrumentedKey',
          includeKey', excludeKey', targetKey', _⟩ := fills
        simp [fields, withDefault_leaf restores_asText _ moduleKind',
          withDefault_leaf restores_asText _ runtimeKind',
          withDefault_leaf restores_asText _ usesKind',
          withDefault_leaf restores_asText _ testRuntimeKind',
          withDefault_leaf restores_asText _ nameKey',
          withDefault_leaf restores_asText _ instrumentedKey',
          withDefault_leaf restores_asText _ includeKey',
          withDefault_leaf restores_asText _ excludeKey',
          withDefault_leaf restores_asText _ targetKey']⟩

theorem withDefault_texts {name : String} {values : List String} {place : Slot}
    (default : List String)
    (fills : Fills levels ⟨name, [.list .leaf], some (.list (default.map .text))⟩
      (.list (values.map .text)) place) :
    place.withDefault default (asList asText levels) = some values :=
  withDefault_list restores_asText (fun _ _ => withstands_leaf restores_asText) default fills

theorem LiftingRules.withstands : Withstands (.object .lifting) ofJson toJson levels :=
  withstands_asRecord rfl
    fun ⟨asyncWrappers, nullableWrappers, voidNames, unitType, optionType⟩ =>
      ⟨_, rfl, rfl, fun fewer _ place fills => by
        obtain ⟨asyncWrappers', nullableWrappers', voidNames', unitType', optionType', _⟩ := fills
        simp [fields, withDefault_texts ["Task", "ValueTask"] asyncWrappers',
          withDefault_texts ["Nullable"] nullableWrappers',
          withDefault_texts ["void", "Void"] voidNames',
          withDefault_leaf restores_asText _ unitType',
          withDefault_leaf restores_asText _ optionType']⟩

theorem NamingRules.withstands : Withstands (.object .naming) ofJson toJson levels :=
  withstands_asRecord rfl fun ⟨interfacePrefix, capabilityPrefix, stripAsyncSuffix⟩ =>
    ⟨_, rfl, rfl, fun fewer _ place fills => by
      obtain ⟨interfacePrefix', capabilityPrefix', stripAsyncSuffix', _⟩ := fills
      simp [fields, withDefault_leaf restores_asChar 'I' interfacePrefix',
        withDefault_leaf restores_asText _ capabilityPrefix',
        withDefault_leaf restores_asBool _ stripAsyncSuffix']⟩

theorem PersistenceRules.withstands : Withstands (.object .persistence) ofJson toJson levels :=
  withstands_asRecord rfl fun ⟨contextTypes, collectionTypes, ancestorDepthLimit⟩ =>
    ⟨_, rfl, rfl, fun fewer _ place fills => by
      obtain ⟨contextTypes', collectionTypes', ancestorDepthLimit', _⟩ := fills
      simp [fields, withDefault_texts ["DbContext"] contextTypes',
        withDefault_texts ["DbSet"] collectionTypes',
        withDefault_leaf restores_asUInt64 16 ancestorDepthLimit']⟩

theorem Settings.withstands : Withstands (.object .settings) ofJson toJson levels :=
  withstands_asRecord rfl fun ⟨version, vocabulary, lifting, naming, persistence, parallel⟩ =>
    ⟨_, rfl, rfl, fun fewer _ place fills => by
      obtain ⟨version', vocabulary', lifting', naming', persistence', parallel', _⟩ := fills
      simp [fields, withDefault_leaf restores_asUInt32 1 version',
        withDefault_part Vocabulary.restores Vocabulary.withstands {} vocabulary',
        withDefault_part LiftingRules.restores LiftingRules.withstands {} lifting',
        withDefault_part NamingRules.restores NamingRules.withstands {} naming',
        withDefault_part PersistenceRules.restores PersistenceRules.withstands {} persistence',
        withDefault_leaf restores_asBool true parallel']⟩

end Settings

/-- Fields left out for their defaults, the order of fields and fields of other names make no
difference at any depth, neither to a form nor to a text that is parsed as one. -/
theorem edited_forms_are_read :
    (∀ levels, Withstands (.object .declaration) Declaration.ofJson Declaration.toJson levels ∧
      Withstands (.object .document) Snapshot.readDocument Snapshot.documentOf levels ∧
      Withstands (.object .settings) Settings.ofJson Settings.toJson levels) ∧
    ∀ (parse : String → Option Json) text json, parse text = some json →
      json.isHoldable textLevels = true →
        (∀ snapshot : Snapshot,
          Edited (.object .document) (Snapshot.documentOf snapshot.declarations) json →
            Snapshot.load parse text = .ok snapshot) ∧
        ∀ settings : Settings, Edited (.object .settings) settings.toJson json →
          Settings.loadJson parse text = settings.accept := by
  refine ⟨fun levels => ⟨Declaration.withstands, Snapshot.withstands_document, Settings.withstands⟩,
    fun parse text json parsed held => ⟨fun snapshot edited => ?_, fun settings edited => ?_⟩⟩
  · have read := Snapshot.withstands_document snapshot.declarations json edited held
    simp only [Snapshot.load, parsed, Option.bind_some, read, Snapshot.ofDeclarations,
      Snapshot.ofList_declarations]
  · have read := Settings.withstands settings json edited held
    simp only [Settings.loadJson, parsed, Option.bind_some, read]

namespace Sample

/-- A class with an annotation whose argument is a list of types. -/
def stopwatch : Declaration :=
  { Declaration.ofId ⟨"Stopwatch"⟩ with
    annotations := [
      { Annotation.bare "EffectsModule" with
        args := [.list [.type (.named "IClock" .interfaceType)]] }] }

def stopwatches : Snapshot where
  declarations := [stopwatch]
  distinct := by decide +kernel

/-- The document of the class with all of its defaults left out, every object from its last field to
its first, and fields that nothing reads. -/
def stopwatchesEdited : Json :=
  .record [
    ("origin", .record [("line", .null), ("declarations", .text "Stopwatch")]),
    ("declarations", .list [
      .record [
        ("annotations", .list [
          .record [
            ("args", .list [
              .record [
                ("note", .list [.bool true, .record []]),
                ("value", .list [
                  .record [
                    ("value", .record [("kind", .text "interface"), ("name", .text "IClock")]),
                    ("kind", .text "type")]]),
                ("kind", .text "array")]]),
            ("kind", .text "EffectsModule")]]),
        ("kind", .text "class"), ("name", .text "Stopwatch"), ("id", .text "Stopwatch")]])]

theorem mem_fields {model : Model} {field : Field} (i : Nat)
    (listed : model.fields[i]? = some field) : field ∈ model.fields := List.mem_of_getElem? listed

theorem edited_reverse {model : Model} {forms kept others : List (String × Json)}
    (edited : EditedFields model forms kept) (foreign : ∀ field ∈ others, field.1 ∉ model.names) :
    Edited (.object model) (.record forms) (.record (kept ++ others).reverse) :=
  .object edited foreign (List.reverse_perm _)

theorem edited_stopwatches :
    Edited (.object .document) (Snapshot.documentOf stopwatches.declarations) stopwatchesEdited := by
  have use : EditedFields .typeUse _ [("name", .text "IClock"), ("kind", .text "interface")] :=
    .kept (mem_fields 0 rfl) (.head _) (.leaf rfl) <| .omitted (mem_fields 1 rfl) <|
    .kept (mem_fields 2 rfl) (.head _) (.leaf rfl) <| .omitted (mem_fields 3 rfl) <|
    .omitted (mem_fields 4 rfl) <| .omitted (mem_fields 5 rfl) <| .omitted (mem_fields 6 rfl) .nil
  have type : EditedFields .annotationValue _ [("kind", .text "type"), ("value", _)] :=
    .kept (mem_fields 0 rfl) (.head _) (.leaf rfl) <|
    .kept (mem_fields 1 rfl) (.tail _ (.head _)) (edited_reverse use (List.forall_mem_nil _)) .nil
  have array : EditedFields .annotationValue _ [("kind", .text "array"), ("value", _)] :=
    .kept (mem_fields 0 rfl) (.head _) (.leaf rfl) <|
    .kept (mem_fields 1 rfl) (.tail _ (.tail _ (.head _)))
      (.list (.cons (edited_reverse type (List.forall_mem_nil _)) .nil)) .nil
  have aside : ∀ field ∈ [("note", Json.list [.bool true, .record []])],
      field.1 ∉ Model.annotationValue.names := by decide
  have note : EditedFields .note _ [("kind", .text "EffectsModule"), ("args", _)] :=
    .kept (mem_fields 0 rfl) (.head _) (.leaf rfl) <| .omitted (mem_fields 1 rfl) <|
    .kept (mem_fields 2 rfl) (.head _) (.list (.cons (edited_reverse array aside) .nil)) <|
    .omitted (mem_fields 3 rfl) .nil
  have declaration : EditedFields .declaration _ [("id", .text "Stopwatch"),
      ("name", .text "Stopwatch"), ("kind", .text "class"), ("annotations", _)] :=
    .kept (mem_fields 0 rfl) (.head _) (.leaf rfl) <|
    .kept (mem_fields 1 rfl) (.head _) (.leaf rfl) <| .omitted (mem_fields 2 rfl) <|
    .kept (mem_fields 3 rfl) (.head _) (.leaf rfl) <| .omitted (mem_fields 4 rfl) <|
    .kept (mem_fields 5 rfl) (.head _)
      (.list (.cons (edited_reverse note (List.forall_mem_nil _)) .nil)) <|
    .omitted (mem_fields 6 rfl) <| .omitted (mem_fields 7 rfl) <| .omitted (mem_fields 8 rfl) .nil
  have document : EditedFields .document _ [("declarations", _)] :=
    .kept (mem_fields 0 rfl) (.head _)
      (.list (.cons (edited_reverse declaration (List.forall_mem_nil _)) .nil)) .nil
  have aside' : ∀ field ∈ [("origin", Json.record [("line", .null),
      ("declarations", .text "Stopwatch")])], field.1 ∉ Model.document.names := by decide
  exact edited_reverse document aside'

/-- Settings of which only one differs from its default. -/
def sequential : Settings := { parallel := false }

def sequentialEdited : Json :=
  .record [
    ("parallel", .bool false), ("naming", .record [("case", .text "camel")])]

theorem edited_sequential : Edited (.object .settings) sequential.toJson sequentialEdited := by
  have naming : EditedFields .naming _ [] :=
    .omitted (mem_fields 0 rfl) <| .omitted (mem_fields 1 rfl) <| .omitted (mem_fields 2 rfl) .nil
  have aside : ∀ field ∈ [("case", Json.text "camel")], field.1 ∉ Model.naming.names := by decide
  have settings : EditedFields .settings _ [("naming", _), ("parallel", .bool false)] :=
    .omitted (mem_fields 0 rfl) <| .omitted (mem_fields 1 rfl) <| .omitted (mem_fields 2 rfl) <|
    .kept (mem_fields 3 rfl) (.head _) (edited_reverse naming aside) <|
    .omitted (mem_fields 4 rfl) <| .kept (mem_fields 5 rfl) (.head _) (.leaf rfl) .nil
  exact edited_reverse settings (List.forall_mem_nil _)

end Sample

theorem edited_forms_are_read_stopwatches :
    Sample.stopwatchesEdited.isHoldable textLevels = true ∧
      Edited (.object .document) (Snapshot.documentOf Sample.stopwatches.declarations)
        Sample.stopwatchesEdited ∧
      Snapshot.load parse Sample.stopwatchesEdited.compact = .ok Sample.stopwatches ∧
    Sample.sequentialEdited.isHoldable textLevels = true ∧
      Edited (.object .settings) Sample.sequential.toJson Sample.sequentialEdited ∧
      Settings.loadJson parse Sample.sequentialEdited.compact = Sample.sequential.accept := by
  have held : Sample.stopwatchesEdited.isHoldable textLevels = true := by rfl
  have held' : Sample.sequentialEdited.isHoldable textLevels = true := by rfl
  exact ⟨held, Sample.edited_stopwatches,
    (edited_forms_are_read.2 parse _ _ (parse_compact _) held).1 _ Sample.edited_stopwatches,
    held', Sample.edited_sequential,
    (edited_forms_are_read.2 parse _ _ (parse_compact _) held').2 _ Sample.edited_sequential⟩

end EffectModel
