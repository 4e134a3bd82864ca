import EffectModel.Proofs.Form.Edited
import EffectModel.Proofs.Form.Restored

/-! Reading of edited forms. Main statements: an edited declaration and an edited document are read as
what they were written from. The arguments of a type use and the items of a value are read by induction
on the levels, and content before its tag by what holding it leaves of it. -/
namespace EffectModel.Form

open Json

variable {α : Type} {read : Reading α} {form : α → Json} {value : α} {values : List α}
variable {model : Model} {part item : Part} {name : String} {levels : Nat} {place : Slot}

/-- An edited form that can be held is read as the value that the form was made of. -/
def Withstands (part : Part) (read : Reading α) (form : α → Json) (levels : Nat) : Prop :=
  ∀ value json, Edited part (form value) json → json.isHoldable levels = true →
    read levels json = some value

section Places

theorem required_part (withstands : Withstands part read form levels)
    (fills : Fills levels ⟨name, [part], none⟩ (form value) place) :
    place.required (read levels) = some value := by
  cases fills with
  | given possible edited held =>
    obtain rfl := List.mem_singleton.mp possible
    exact withstands value _ edited held
  | missing default => cases default

/-- A value that is left out is the default, since no two values have one form. -/
theorem withDefault_part (restores : Restores read form)
    (withstands : Withstands part read form levels) (default : α)
    (fills : Fills levels ⟨name, [part], some (form default)⟩ (form value) place) :
    place.withDefault default (read levels) = some value := by
  cases fills with
  | given possible edited held =>
    obtain rfl := List.mem_singleton.mp possible
    exact withstands value _ edited held
  | missing same => exact congrArg some (restores.injective (Option.some.inj same))

/-- The places of the fields of an object, one after the other. -/
def AllFill (levels : Nat) (place : String → Slot) : List Field → List (String × Json) → Prop
  | field :: fields, (_, form) :: forms =>
      Fills levels field form (place field.name) ∧ AllFill levels place fields forms
  | _, _ => True

theorem allFill {place : String → Slot} : ∀ {fields : List Field} {forms : List (String × Json)},
    forms.map Prod.fst = fields.map Field.name →
    (∀ field ∈ fields, ∀ form, (field.name, form) ∈ forms →
      Fills levels field form (place field.name)) → AllFill levels place fields forms
  | [], _, _, _ => trivial
  | _ :: _, [], named, _ => nomatch named
  | field :: fields, (name, form) :: forms, named, fills => by
    obtain ⟨rfl, named'⟩ := List.cons.inj named
    exact ⟨fills field List.mem_cons_self form List.mem_cons_self,
      allFill named' fun field known form member =>
        fills field (List.mem_cons_of_mem _ known) form (List.mem_cons_of_mem _ member)⟩

end Places

section Readings

/-- A value that is neither a list nor an object is not edited. -/
theorem withstands_leaf (restores : Restores read form) : Withstands .leaf read form levels := by
  intro value json edited _
  cases edited with
  | leaf flat => exact (restores levels value value).mpr ⟨flat ▸ Nat.zero_le levels, rfl⟩

theorem mapM_of_editedItems {items : List Json} (withstands : Withstands item read form levels)
    (edited : EditedItems item (values.map form) items)
    (held : ∀ json ∈ items, json.isHoldable levels = true) :
    items.mapM (read levels) = some values := by
  induction values generalizing items with
  | nil =>
    cases edited
    rfl
  | cons value values ih =>
    cases edited with
    | cons edited later =>
      obtain ⟨first, held⟩ := List.forall_mem_cons.mp held
      simp [withstands value _ edited first, ih later held]

theorem withstands_asList (withstands : ∀ fewer < levels, Withstands item read form fewer) :
    Withstands (.list item) (asList read) (fun values => .list (values.map form)) levels := by
  intro values json edited held
  cases edited with
  | list edited =>
    obtain ⟨fewer, rfl, each⟩ := isHoldable_list_iff.mp held
    exact mapM_of_editedItems (withstands fewer (Nat.lt_succ_self fewer)) edited each

/-- A record is read from the places of its fields, which are the same whatever their order is. -/
theorem withstands_asRecord {names : List String} {build : Nat → List Slot → Option α}
    (known : model.names = names)
    (builds : ∀ value, ∃ forms, form value = .record forms ∧ forms.map Prod.fst = names ∧
      ∀ fewer < levels, ∀ place, AllFill fewer place model.fields forms →
        build fewer (names.map place) = some value) :
    Withstands (.object model) (asRecord names build) form levels := by
  subst known
  intro value json edited held
  obtain ⟨forms, same, named, builds⟩ := builds value
  rw [same] at edited
  cases edited with
  | object edited foreign order =>
    obtain ⟨fewer, rfl, each⟩ := isHoldable_record_iff.mp held
    have distinct : (forms.map Prod.fst).Nodup := named ▸ model.nodup_names
    rw [asRecord, slots_eq fun name known => edited.length_under_le_one distinct foreign order known]
    exact builds fewer (Nat.lt_succ_self fewer) _ (allFill named fun field known form member =>
      edited.fills distinct foreign order each known member)

theorem required_leaf (restores : Restores read form)
    (fills : Fills levels ⟨name, [.leaf], none⟩ (form value) place) :
    place.required (read levels) = some value :=
  required_part (withstands_leaf restores) fills

theorem withDefault_leaf (restores : Restores read form) (default : α)
    (fills : Fills levels ⟨name, [.leaf], some (form default)⟩ (form value) place) :
    place.withDefault default (read levels) = some value :=
  withDefault_part restores (withstands_leaf restores) default fills

theorem withDefault_list (restores : Restores read form)
    (withstands : ∀ fewer < levels, Withstands item read form fewer) (default : List α)
    (fills : Fills levels ⟨name, [.list item], some (.list (default.map form))⟩
      (.list (values.map form)) place) :
    place.withDefault default (asList read levels) = some values :=
  withDefault_part (restores_asList restores) (withstands_asList withstands) default fills

end Readings

end EffectModel.Form

namespace EffectModel

open Json Form

variable {levels : Nat}

theorem TypeUse.withstands : Withstands (.object .typeUse) ofJson toJson levels := by
  induction levels using Nat.strongRecOn with
  | ind levels ih =>
    rw [ofJson_eq]
    refine withstands_asRecord rfl fun use => ?_
    obtain ⟨name, scope, kind, args, arity, nullable, declaration⟩ := use
    refine ⟨_, by rw [toJson, allToJson_eq_map], rfl, fun fewer less place fills => ?_⟩
    obtain ⟨name', scope', kind', args', arity', nullable', declaration', _⟩ := fills
    have fewest : ∀ fewest < fewer, Withstands (.object .typeUse) ofJson toJson fewest :=
      fun fewest less' => ih fewest (Nat.lt_trans less' less)
    simp [fields, ofSlots, required_leaf restores_asText name',
      withDefault_leaf restores_asText "" scope', required_leaf TypeKind.restores kind',
      withDefault_list TypeUse.restores fewest [] args', withDefault_leaf restores_asUInt64 0 arity',
      withDefault_leaf restores_asBool false nullable',
      withDefault_leaf restores_optionalId none declaration']

section Released

variable {names : List String}

theorem TypeUse.exists_fields (use : TypeUse) : ∃ fields, use.toJson = .record fields := by
  obtain ⟨name, scope, kind, args, arity, nullable, declaration⟩ := use
  exact ⟨_, toJson.eq_1 ..⟩

theorem AnnotationValue.exists_fields (value : AnnotationValue) :
    ∃ fields, value.toJson = .record fields := by
  cases value <;> exact ⟨_, toJson.eq_def _⟩

mutual

theorem TypeUse.lasts : ∀ use : TypeUse, Lasts names use.toJson
  | ⟨name, scope, kind, args, arity, nullable, declaration⟩ => by
    have flat : (ofOption DeclId.toJson declaration).depth = 0 := by cases declaration <;> rfl
    rw [toJson]
    refine lasts_record (.tail _ (.tail _ (.head _))) ?_
    simp only [List.forall_mem_cons]
    exact ⟨lasts_of_flat rfl, lasts_of_flat rfl, lasts_of_flat rfl,
      lasts_list (TypeUse.lasts_all args), lasts_of_flat rfl, lasts_of_flat rfl,
      lasts_of_flat flat, nofun⟩

theorem TypeUse.lasts_all : ∀ uses : List TypeUse,
    ∀ form ∈ allToJson uses, Lasts names form ∧ ∃ fields, form = .record fields
  | [] => nofun
  | use :: uses =>
    List.forall_mem_cons.mpr ⟨⟨TypeUse.lasts use, use.exists_fields⟩, TypeUse.lasts_all uses⟩

end

theorem lasts_tagged {word : String} {form : Json} (lasts : Lasts names form) :
    Lasts names (.record [("kind", .text word), ("value", form)]) := by
  refine lasts_record (.head _) ?_
  simp only [List.forall_mem_cons]
  exact ⟨lasts_of_flat rfl, lasts, nofun⟩

mutual

theorem AnnotationValue.lasts : ∀ value : AnnotationValue, Lasts names value.toJson
  | .text _ => by
    rw [toJson]
    exact lasts_tagged (lasts_of_flat rfl)
  | .bool _ => by
    rw [toJson]
    exact lasts_tagged (lasts_of_flat rfl)
  | .int _ => by
    rw [toJson]
    exact lasts_tagged (lasts_of_flat rfl)
  | .type use => by
    rw [toJson]
    exact lasts_tagged use.lasts
  | .list items => by
    rw [toJson]
    exact lasts_tagged (lasts_list (AnnotationValue.lasts_all items))
  | .null => by
    rw [toJson]
    exact lasts_record (.head _) (List.forall_mem_cons.mpr ⟨lasts_of_flat rfl, nofun⟩)

theorem AnnotationValue.lasts_all : ∀ values : List AnnotationValue,
    ∀ form ∈ allToJson values, Lasts names form ∧ ∃ fields, form = .record fields
  | [] => nofun
  | value :: values =>
    List.forall_mem_cons.mpr
      ⟨⟨AnnotationValue.lasts value, value.exists_fields⟩, AnnotationValue.lasts_all values⟩

end

end Released

namespace AnnotationValue

variable {word : String} {form json : Json} {value : AnnotationValue}

/-- The tag of an edited value with content, and its content, whichever comes first. -/
theorem ofJson_tagged (known : word ∈ kinds) (lasts : Lasts kinds form)
    (edited : Edited (.object .annotationValue) (.record [("kind", .text word), ("value", form)]) json)
    (held : json.isHoldable levels = true)
    (reads : ∀ fewer < levels, ∀ part ∈ [.leaf, .object .typeUse, .list (.object .annotationValue)],
      ∀ content, Edited part form content → content.isHoldable fewer = true →
        ofParts (asList ofJson fewer) fewer word (some content) = some value) :
    ofJson levels json = some value := by
  cases edited with
  | object edited foreign order =>
    obtain ⟨fewer, rfl, each⟩ := isHoldable_record_iff.mp held
    have distinct : ["kind", "value"].Nodup := by decide
    have single : ∀ name ∈ ["kind", "value"], (under name _).length ≤ 1 := fun _ =>
      edited.length_under_le_one distinct foreign order
    obtain ⟨tag, tagged, _, _, _, same⟩ :=
      (edited.fills distinct foreign order each (.head _) (.head _)).exists_given rfl
    obtain ⟨content, contained, held', part, possible, edited'⟩ :=
      (edited.fills distinct foreign order each (.tail _ (.head _))
        (.tail _ (.head _))).exists_given rfl
    obtain rfl := same.eq_of_flat rfl
    have reads' := reads fewer (Nat.lt_succ_self fewer) part possible
    rw [ofJson_eq]
    exact asTagged_of_content single tagged known contained held' (reads' content edited' held')
      (reads' _ (lasts part content edited') (isHoldable_released kinds fewer content held'))

theorem ofJson_plain (known : word ∈ kinds) (flat : form.depth = 0)
    (edited : Edited (.object .annotationValue) (.record [("kind", .text word), ("value", form)]) json)
    (held : json.isHoldable levels = true)
    (reads : ∀ fewer, ofParts (asList ofJson fewer) fewer word (some form) = some value) :
    ofJson levels json = some value := by
  refine ofJson_tagged known (lasts_of_flat flat) edited held ?_
  intro fewer _ part _ content edited _
  rw [edited.eq_of_flat flat]
  exact reads fewer

theorem ofJson_bare (known : word ∈ kinds)
    (edited : Edited (.object .annotationValue) (.record [("kind", .text word)]) json)
    (held : json.isHoldable levels = true)
    (reads : ∀ fewer < levels, ofParts (asList ofJson fewer) fewer word none = some value) :
    ofJson levels json = some value := by
  cases edited with
  | object edited foreign order =>
    obtain ⟨fewer, rfl, each⟩ := isHoldable_record_iff.mp held
    have distinct : ["kind"].Nodup := by decide
    have single : ∀ name ∈ ["kind", "value"], (under name _).length ≤ 1 := fun _ =>
      edited.length_under_le_one distinct foreign order
    obtain ⟨tag, tagged, _, _, _, same⟩ :=
      (edited.fills distinct foreign order each (.head _) (.head _)).exists_given rfl
    obtain rfl := same.eq_of_flat rfl
    have absent : "value" ∉ _ := fun listed => by simpa using edited.sublist.subset listed
    have bare := (edited.slot_eq distinct foreign order (.tail _ (.head _))).trans
      (slot_of_absent absent)
    rw [ofJson_eq, asTagged_of_bare single tagged known bare]
    exact reads fewer (Nat.lt_succ_self fewer)

theorem withstands : Withstands (.object .annotationValue) ofJson toJson levels := by
  induction levels using Nat.strongRecOn with
  | ind levels ih =>
    intro value json edited held
    cases value with
    | text value =>
      rw [toJson] at edited
      exact ofJson_plain (by decide) rfl edited held fun _ => rfl
    | bool value =>
      rw [toJson] at edited
      exact ofJson_plain (by decide) rfl edited held fun _ => rfl
    | int value =>
      rw [toJson] at edited
      refine ofJson_plain (by decide) rfl edited held fun fewer => ?_
      simp [ofParts, restores_asInt64.map, depth]
    | type use =>
      rw [toJson] at edited
      refine ofJson_tagged (by decide) use.lasts edited held ?_
      intro fewer _ part possible content edited held
      obtain ⟨fields, record⟩ := use.exists_fields
      obtain ⟨model, rfl⟩ := (record ▸ edited).part_of_record
      obtain rfl : model = .typeUse := by simpa using possible
      simp [ofParts, TypeUse.withstands use content edited held]
    | list items =>
      rw [toJson] at edited
      refine ofJson_tagged (by decide) (lasts_list (lasts_all items)) edited held ?_
      intro fewer less part possible content edited held
      obtain ⟨item, rfl⟩ := edited.part_of_list
      obtain rfl : item = .object .annotationValue := by simpa using possible
      have listed : Withstands (.list (.object .annotationValue)) (asList ofJson)
          (fun items => .list (items.map toJson)) fewer :=
        withstands_asList fun fewest less' => ih fewest (Nat.lt_trans less' less)
      rw [allToJson_eq_map] at edited
      simp [ofParts, listed items content edited held]
    | null =>
      rw [toJson] at edited
      exact ofJson_bare (by decide) edited held fun _ _ => rfl

end AnnotationValue

section Declarations

theorem NamedArgument.withstands : Withstands (.object .namedArgument) ofJson toJson levels :=
  withstands_asRecord rfl fun ⟨name, value⟩ => ⟨_, rfl, rfl, fun fewer _ place fills => by
    obtain ⟨name', value', _⟩ := fills
    simp [required_leaf restores_asText name', required_part AnnotationValue.withstands value']⟩

theorem Annotation.withstands : Withstands (.object .note) ofJson toJson levels :=
  withstands_asRecord rfl fun ⟨kind, typeArgs, args, named⟩ =>
    ⟨_, rfl, rfl, fun fewer _ place fills => by
      obtain ⟨kind', typeArgs', args', named', _⟩ := fills
      simp [required_leaf restores_asText kind',
        withDefault_list TypeUse.restores (fun _ _ => TypeUse.withstands) [] typeArgs',
        withDefault_list AnnotationValue.restores (fun _ _ => AnnotationValue.withstands) [] args',
        withDefault_list NamedArgument.restores (fun _ _ => NamedArgument.withstands) [] named']⟩

theorem Parameter.withstands : Withstands (.object .parameter) ofJson toJson levels :=
  withstands_asRecord rfl fun ⟨name, type, default⟩ => ⟨_, rfl, rfl, fun fewer _ place fills => by
    obtain ⟨name', type', default', _⟩ := fills
    simp [required_leaf restores_asText name', required_part TypeUse.withstands type',
      withDefault_leaf restores_optionalText none default']⟩

theorem Method.withstands : Withstands (.object .method) ofJson toJson levels :=
  withstands_asRecord rfl fun ⟨name, returnType, parameters, isStatic, access⟩ =>
    ⟨_, rfl, rfl, fun fewer _ place fills => by
      obtain ⟨name', returnType', parameters', isStatic', access', _⟩ := fills
      simp [required_leaf restores_asText name', required_part TypeUse.withstands returnType',
        withDefault_list Parameter.restores (fun _ _ => Parameter.withstands) [] parameters',
        withDefault_leaf restores_asBool false isStatic',
        withDefault_leaf Access.restores .isPublic access']⟩

theorem Property.withstands : Withstands (.object .property) ofJson toJson levels :=
  withstands_asRecord rfl fun ⟨name, type, readable, isStatic⟩ =>
    ⟨_, rfl, rfl, fun fewer _ place fills => by
      obtain ⟨name', type', readable', isStatic', _⟩ := fills
      simp [required_leaf restores_asText name', required_part TypeUse.withstands type',
        withDefault_leaf restores_asBool true readable',
        withDefault_leaf restores_asBool false isStatic']⟩

theorem Declaration.withstands : Withstands (.object .declaration) ofJson toJson levels :=
  withstands_asRecord rfl
    fun ⟨id, name, scope, kind, access, annotations, methods, properties, baseTypes⟩ =>
      ⟨_, rfl, rfl, fun fewer _ place fills => by
        obtain ⟨id', name', scope', kind', access', annotations', methods', properties',
          baseTypes', _⟩ := fills
        simp [fields, required_leaf DeclId.restores id', required_leaf restores_asText name',
          withDefault_leaf restores_asText "" scope', required_leaf DeclKind.restores kind',
          withDefault_leaf Access.restores .isPublic access',
          withDefault_list Annotation.restores (fun _ _ => Annotation.withstands) [] annotations',
          withDefault_list Method.restores (fun _ _ => Method.withstands) [] methods',
          withDefault_list Property.restores (fun _ _ => Property.withstands) [] properties',
          withDefault_list TypeUse.restores (fun _ _ => TypeUse.withstands) [] baseTypes']⟩

theorem Snapshot.withstands_document :
    Withstands (.object .document) readDocument documentOf levels :=
  withstands_asRecord rfl fun declarations => ⟨_, rfl, rfl, fun fewer _ place fills => by
    have listed : Withstands (.list (.object .declaration)) (asList Declaration.ofJson)
        (fun declarations => .list (declarations.map Declaration.toJson)) fewer :=
      withstands_asList fun _ _ => Declaration.withstands
    simp [required_part listed fills.1]⟩

end Declarations

end EffectModel
