import EffectModel.Form.Settings
import EffectModel.Proofs.Form.Exact
import EffectModel.Proofs.Form.Output
import EffectModel.Proofs.Json.Text

namespace EffectModel

open Json

theorem Vocabulary.restores : Restores ofJson toJson :=
  restores_asRecord (by decide)
    fun ⟨moduleKind, runtimeKind, usesKind, testRuntimeKind, nameKey, instrumentedKey, includeKey,
        excludeKey, targetKey⟩ =>
      ⟨_, rfl, rfl, fun levels other => by simp [restores_asText.bind, and_assoc]⟩

theorem LiftingRules.restores : Restores ofJson toJson :=
  restores_asRecord (by decide)
    fun ⟨asyncWrappers, nullableWrappers, voidNames, unitType, optionType⟩ =>
      ⟨_, rfl, rfl, fun levels other => by
        simp [(restores_asList restores_asText).bind, restores_asText.bind, and_assoc]⟩

theorem NamingRules.restores : Restores ofJson toJson :=
  restores_asRecord (by decide) fun ⟨interfacePrefix, capabilityPrefix, stripAsyncSuffix⟩ =>
    ⟨_, rfl, rfl, fun levels other => by
      simp [restores_asChar.bind, restores_asText.bind, restores_asBool.bind, and_assoc]⟩

theorem PersistenceRules.restores : Restores ofJson toJson :=
  restores_asRecord (by decide) fun ⟨contextTypes, collectionTypes, ancestorDepthLimit⟩ =>
    ⟨_, rfl, rfl, fun levels other => by
      simp [(restores_asList restores_asText).bind, restores_asUInt64.bind, and_assoc]⟩

theorem Settings.restores : Restores ofJson toJson :=
  restores_asRecord (by decide) fun ⟨version, vocabulary, lifting, naming, persistence, parallel⟩ =>
    ⟨_, rfl, rfl, fun levels other => by
      simp [restores_asUInt32.bind, Vocabulary.restores.bind, LiftingRules.restores.bind,
        NamingRules.restores.bind, PersistenceRules.restores.bind, restores_asBool.bind, and_assoc]⟩

/-- Each form is read as what it was made of, where there are levels enough for it. -/
structure FormsAreRestored : Prop where
  declId : Restores DeclId.ofJson DeclId.toJson
  typeKind : Restores TypeKind.ofJson TypeKind.toJson
  typeUse : Restores TypeUse.ofJson TypeUse.toJson
  annotationValue : Restores AnnotationValue.ofJson AnnotationValue.toJson
  namedArgument : Restores NamedArgument.ofJson NamedArgument.toJson
  annotation : Restores Annotation.ofJson Annotation.toJson
  declKind : Restores DeclKind.ofJson DeclKind.toJson
  access : Restores Access.ofJson Access.toJson
  parameter : Restores Parameter.ofJson Parameter.toJson
  method : Restores Method.ofJson Method.toJson
  property : Restores Property.ofJson Property.toJson
  declaration : Restores Declaration.ofJson Declaration.toJson
  document : Restores Snapshot.readDocument Snapshot.documentOf
  strategy : Restores Strategy.ofJson Strategy.toJson
  produced : Restores Produced.ofJson Produced.toJson
  classification : Restores Classification.ofJson Classification.toJson
  effectParameter : Restores EffectParameter.ofJson EffectParameter.toJson
  effect : Restores Effect.ofJson Effect.toJson
  recordCollection : Restores RecordCollection.ofJson RecordCollection.toJson
  identifiers : Restores Identifiers.ofJson Identifiers.toJson
  effectModule : Restores EffectModule.ofJson EffectModule.toJson
  faultKind : Restores FaultKind.ofJson FaultKind.toJson
  fault : Restores Fault.ofJson Fault.toJson
  capability : Restores Capability.ofJson Capability.toJson
  runtime : Restores Runtime.ofJson Runtime.toJson
  testRuntime : Restores TestRuntime.ofJson TestRuntime.toJson
  stage : Restores Stage.ofJson Stage.toJson
  failure : Restores Failure.ofJson Failure.toJson
  output : Restores Output.ofJson Output.toJson
  vocabulary : Restores Vocabulary.ofJson Vocabulary.toJson
  lifting : Restores LiftingRules.ofJson LiftingRules.toJson
  naming : Restores NamingRules.ofJson NamingRules.toJson
  persistence : Restores PersistenceRules.ofJson PersistenceRules.toJson
  settings : Restores Settings.ofJson Settings.toJson

theorem formsAreRestored : FormsAreRestored where
  declId := DeclId.restores
  typeKind := TypeKind.restores
  typeUse := TypeUse.restores
  annotationValue := AnnotationValue.restores
  namedArgument := NamedArgument.restores
  annotation := Annotation.restores
  declKind := DeclKind.restores
  access := Access.restores
  parameter := Parameter.restores
  method := Method.restores
  property := Property.restores
  declaration := Declaration.restores
  document := Snapshot.restores_document
  strategy := Strategy.restores
  produced := Produced.restores
  classification := Classification.restores
  effectParameter := EffectParameter.restores
  effect := Effect.restores
  recordCollection := RecordCollection.restores
  identifiers := Identifiers.restores
  effectModule := EffectModule.restores
  faultKind := FaultKind.restores
  fault := Fault.restores
  capability := Capability.restores
  runtime := Runtime.restores
  testRuntime := TestRuntime.restores
  stage := Stage.restores
  failure := Failure.restores
  output := Output.restores
  vocabulary := Vocabulary.restores
  lifting := LiftingRules.restores
  naming := NamingRules.restores
  persistence := PersistenceRules.restores
  settings := Settings.restores

section Texts

variable {write : Json → String} {parse : String → Option Json}

theorem Output.document_eq_iff (reliable : IsReliable write parse) {first second : Output}
    (fits : first.toJson.depth ≤ textLevels) :
    first.document write = second.document write ↔ first = second := by
  refine ⟨fun same => Output.restores.injective ?_, congrArg _⟩
  exact reliable.eq_of_write_eq first.isExact_toJson second.isExact_toJson fits same

theorem Output.document_eq_iff_of_isDistinct (distinct : IsDistinct write)
    {first second : Output} : first.document write = second.document write ↔ first = second := by
  refine ⟨fun same => Output.restores.injective ?_, congrArg _⟩
  exact distinct _ _ first.isExact_toJson second.isExact_toJson same

namespace Snapshot

/-- The identities of a snapshot are distinct, so that its declarations make a snapshot again. -/
theorem ofList_declarations (snapshot : Snapshot) : ofList snapshot.declarations = .ok snapshot := by
  have fresh : firstRepeat [] (snapshot.declarations.map Declaration.id) = none :=
    firstRepeat_eq_none_iff.mpr ⟨snapshot.distinct, fun _ _ => List.not_mem_nil⟩
  unfold ofList
  split
  case h_1 => rfl
  case h_2 id found => simp [fresh] at found

theorem load_document (reliable : IsReliable write parse) (snapshot : Snapshot) :
    load parse (snapshot.document write) =
      if (documentOf snapshot.declarations).depth ≤ textLevels then .ok snapshot
      else .error .malformed := by
  have written : (documentOf snapshot.declarations).IsExact := isExact_documentOf _
  by_cases fits : (documentOf snapshot.declarations).depth ≤ textLevels
  · rw [load, document, reliable.restores _ written fits, Option.bind_some,
      restores_document.eq_ite]
    simp only [fits, if_true, ofDeclarations, ofList_declarations]
  · rw [load, document, if_neg fits]
    cases read : parse (write (documentOf snapshot.declarations)) with
    | none => rfl
    | some json =>
      obtain rfl := reliable.sincere _ json written read
      rw [Option.bind_some, restores_document.eq_ite, if_neg fits]

end Snapshot

end Texts

/-- Every form gives back the value that it was made of, and so outputs with the same form are the
same. With a library that is reliable the same goes for the text of an output that is not too deep, and
for all outputs if values are told by their texts at any depth; and a snapshot is loaded from the text
of its document unless that is too deep, in which case it is refused. -/
theorem written_forms_are_restored :
    FormsAreRestored ∧
      (∀ first second : Output, first.toJson = second.toJson ↔ first = second) ∧
      (∀ write : Json → String, IsDistinct write → ∀ first second : Output,
        first.document write = second.document write ↔ first = second) ∧
      ∀ (write : Json → String) (parse : String → Option Json), IsReliable write parse →
        (∀ first second : Output, first.toJson.depth ≤ textLevels →
          (first.document write = second.document write ↔ first = second)) ∧
        ∀ snapshot : Snapshot, Snapshot.load parse (snapshot.document write) =
          if (Snapshot.documentOf snapshot.declarations).depth ≤ textLevels then .ok snapshot
          else .error .malformed :=
  ⟨formsAreRestored, fun _ _ => Output.restores.injective.eq_iff,
    fun _ distinct _ _ => Output.document_eq_iff_of_isDistinct distinct,
    fun _ _ reliable =>
      ⟨fun _ _ => Output.document_eq_iff reliable, Snapshot.load_document reliable⟩⟩

namespace Sample

/-- A type in a number of others, each the argument of the next. -/
def boxed : Nat → TypeUse
  | 0 => .named "Item" .classType
  | wrappers + 1 => .generic "Box" .classType [boxed wrappers]

/-- A class that is derived from a boxed type. -/
def shelf (wrappers : Nat) : Snapshot where
  declarations := [{ Declaration.ofId ⟨"Shelf"⟩ with baseTypes := [boxed wrappers] }]
  distinct := List.nodup_singleton _

/-- The outcome of a run that one declaration has failed in. -/
def failed (message : String) : Output where
  modules := []
  runtimes := []
  testRuntimes := []
  failures := [⟨⟨"Shelf"⟩, .moduleStage, ⟨.resolution, ⟨"Shelf"⟩, message⟩⟩]

/-- The outcome of a run in which a root takes a boxed type. -/
def stored (wrappers : Nat) : Output where
  modules := []
  runtimes :=
    [⟨⟨"Store"⟩, "Store", "", .isPublic, [⟨"IHasBox", "Box", "box", boxed wrappers⟩]⟩]
  testRuntimes := []
  failures := []

end Sample

theorem written_forms_are_restored_shelf :
    IsReliable indented parse ∧ IsDistinct indented ∧
      Snapshot.load parse ((Sample.shelf 2).document indented) = .ok (Sample.shelf 2) ∧
      Snapshot.load parse ((Sample.shelf 70).document indented) = .error .malformed ∧
      (Sample.failed "no\ntarget").document indented ≠
        (Sample.failed "no\\ntarget").document indented ∧
      (Sample.stored 70).document indented ≠ (Sample.stored 71).document indented := by
  obtain ⟨_, _, told, relied⟩ := written_forms_are_restored
  obtain ⟨exports, loads⟩ := relied indented parse isReliable_indented
  refine ⟨isReliable_indented, isDistinct_indented, ?_, ?_, ?_, ?_⟩
  · rw [loads, if_pos (by decide +kernel)]
  · rw [loads, if_neg (by decide +kernel)]
  · rw [ne_eq, exports _ _ (by decide +kernel)]
    decide +kernel
  · rw [ne_eq, told indented isDistinct_indented]
    decide +kernel

end EffectModel
