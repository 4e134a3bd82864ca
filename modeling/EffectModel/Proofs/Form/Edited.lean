import EffectModel.Form.Declaration
import EffectModel.Form.Settings
import EffectModel.Proofs.Json.Held

/-! Edits of forms: fields with their defaults are left out, the fields of an object change their
order, and fields of other names come in, at any depth. Main statement: in an edited object each field
of its model has its place, with an edited value or with none. -/
namespace EffectModel.Form

open Json

/-- What the objects in declarations, in their documents and in settings stand for. -/
inductive Model where
  | typeUse
  | annotationValue
  | namedArgument
  | note
  | parameter
  | method
  | property
  | declaration
  | document
  | vocabulary
  | lifting
  | naming
  | persistence
  | settings

/-- What stands at a place of a form. -/
inductive Part where
  /-- Neither a list nor an object. -/
  | leaf
  | list (item : Part)
  | object (model : Model)

structure Field where
  name : String
  /-- What the value may be: one thing, but for the content of a tag. -/
  parts : List Part
  /-- The form of the default, where there is one. -/
  default : Option Json

namespace Model

/-- The fields of each model in their declared order. -/
def fields : Model → List Field
  | typeUse => [
      ⟨"name", [.leaf], none⟩,
      ⟨"namespace", [.leaf], some (.text "")⟩,
      ⟨"kind", [.leaf], none⟩,
      ⟨"type_args", [.list (.object typeUse)], some (.list [])⟩,
      ⟨"arity", [.leaf], some (.int 0)⟩,
      ⟨"nullable", [.leaf], some (.bool false)⟩,
      ⟨"declaration", [.leaf], some .null⟩]
  | annotationValue => [
      ⟨"kind", [.leaf], none⟩,
      ⟨"value", [.leaf, .object typeUse, .list (.object annotationValue)], none⟩]
  | namedArgument => [
      ⟨"name", [.leaf], none⟩,
      ⟨"value", [.object annotationValue], none⟩]
  | note => [
      ⟨"kind", [.leaf], none⟩,
      ⟨"type_args", [.list (.object typeUse)], some (.list [])⟩,
      ⟨"args", [.list (.object annotationValue)], some (.list [])⟩,
      ⟨"named", [.list (.object namedArgument)], some (.list [])⟩]
  | parameter => [
      ⟨"name", [.leaf], none⟩,
      ⟨"ty", [.object typeUse], none⟩,
      ⟨"default", [.leaf], some .null⟩]
  | method => [
      ⟨"name", [.leaf], none⟩,
      ⟨"return_type", [.object typeUse], none⟩,
      ⟨"parameters", [.list (.object parameter)], some (.list [])⟩,
      ⟨"is_static", [.leaf], some (.bool false)⟩,
      ⟨"accessibility", [.leaf], some (.text "public")⟩]
  | property => [
      ⟨"name", [.leaf], none⟩,
      ⟨"ty", [.object typeUse], none⟩,
      ⟨"readable", [.leaf], some (.bool true)⟩,
      ⟨"is_static", [.leaf], some (.bool false)⟩]
  | declaration => [
      ⟨"id", [.leaf], none⟩,
      ⟨"name", [.leaf], none⟩,
      ⟨"namespace", [.leaf], some (.text "")⟩,
      ⟨"kind", [.leaf], none⟩,
      ⟨"accessibility", [.leaf], some (.text "public")⟩,
      ⟨"annotations", [.list (.object note)], some (.list [])⟩,
      ⟨"methods", [.list (.object method)], some (.list [])⟩,
      ⟨"properties", [.list (.object property)], some (.list [])⟩,
      ⟨"base_types", [.list (.object typeUse)], some (.list [])⟩]
  | document => [⟨"declarations", [.list (.object declaration)], none⟩]
  | vocabulary => [
      ⟨"module", [.leaf], some (.text "EffectsModule")⟩,
      ⟨"runtime", [.leaf], some (.text "Runtime")⟩,
      ⟨"uses", [.leaf], some (.text "Uses")⟩,
      ⟨"test_runtime", [.leaf], some (.text "TestRuntime")⟩,
      ⟨"name_key", [.leaf], some (.text "name")⟩,
      ⟨"instrumented_key", [.leaf], some (.text "instrumented")⟩,
      ⟨"include_key", [.leaf], some (.text "include")⟩,
      ⟨"exclude_key", [.leaf], some (.text "exclude")⟩,
      ⟨"target_key", [.leaf], some (.text "target")⟩]
  | lifting => [
      ⟨"async_wrappers", [.list .leaf], some (.list [.text "Task", .text "ValueTask"])⟩,
      ⟨"nullable_wrappers", [.list .leaf], some (.list [.text "Nullable"])⟩,
      ⟨"void_names", [.list .leaf], some (.list [.text "void", .text "Void"])⟩,
      ⟨"unit_type", [.leaf], some (.text "Unit")⟩,
      ⟨"option_type", [.leaf], some (.text "Option")⟩]
  | naming => [
      ⟨"interface_prefix", [.leaf], some (.text "I")⟩,
      ⟨"capability_prefix", [.leaf], some (.text "IHas")⟩,
      ⟨"strip_async_suffix", [.leaf], some (.bool true)⟩]
  | persistence => [
      ⟨"context_types", [.list .leaf], some (.list [.text "DbContext"])⟩,
      ⟨"collection_types", [.list .leaf], some (.list [.text "DbSet"])⟩,
      ⟨"ancestor_depth_limit", [.leaf], some (.int 16)⟩]
  | settings => [
      ⟨"version", [.leaf], some (.int 1)⟩,
      ⟨"annotations", [.object vocabulary], some ({} : Vocabulary).toJson⟩,
      ⟨"lifting", [.object lifting], some ({} : LiftingRules).toJson⟩,
      ⟨"naming", [.object naming], some ({} : NamingRules).toJson⟩,
      ⟨"persistence", [.object persistence], some ({} : PersistenceRules).toJson⟩,
      ⟨"parallel", [.leaf], some (.bool true)⟩]

def names (model : Model) : List String := model.fields.map Field.name

theorem nodup_names (model : Model) : model.names.Nodup := by
  cases model <;> decide

end Model

mutual

/-- A form as it may have been edited. -/
inductive Edited : Part → Json → Json → Prop where
  | leaf {form : Json} (flat : form.depth = 0) : Edited .leaf form form
  | list {item : Part} {forms items : List Json} (edited : EditedItems item forms items) :
      Edited (.list item) (.list forms) (.list items)
  /-- The fields that are kept, and others under names that the model does not have, in any order. -/
  | object {model : Model} {forms kept others fields : List (String × Json)}
      (edited : EditedFields model forms kept) (foreign : ∀ field ∈ others, field.1 ∉ model.names)
      (order : fields.Perm (kept ++ others)) :
      Edited (.object model) (.record forms) (.record fields)

/-- The items of a list, each of which may have been edited. -/
inductive EditedItems : Part → List Json → List Json → Prop where
  | nil {item : Part} : EditedItems item [] []
  | cons {item : Part} {form value : Json} {forms items : List Json}
      (edited : Edited item form value) (later : EditedItems item forms items) :
      EditedItems item (form :: forms) (value :: items)

/-- The fields of an object, each of which is kept with its value edited, or is left out because its
value is its default. -/
inductive EditedFields : Model → List (String × Json) → List (String × Json) → Prop where
  | nil {model : Model} : EditedFields model [] []
  | kept {model : Model} {name : String} {parts : List Part} {default : Option Json} {part : Part}
      {form value : Json} {forms fields : List (String × Json)}
      (known : ⟨name, parts, default⟩ ∈ model.fields) (possible : part ∈ parts)
      (edited : Edited part form value) (later : EditedFields model forms fields) :
      EditedFields model ((name, form) :: forms) ((name, value) :: fields)
  | omitted {model : Model} {name : String} {parts : List Part} {form : Json}
      {forms fields : List (String × Json)} (known : ⟨name, parts, some form⟩ ∈ model.fields)
      (later : EditedFields model forms fields) :
      EditedFields model ((name, form) :: forms) fields

end

/-- The place of a field in an edited object that is read with a number of levels. -/
inductive Fills (levels : Nat) (field : Field) (form : Json) : Slot → Prop where
  | given {part : Part} {value : Json} (possible : part ∈ field.parts)
      (edited : Edited part form value) (held : value.isHoldable levels = true) :
      Fills levels field form (.given value)
  | missing (default : field.default = some form) : Fills levels field form .missing

variable {model : Model} {field : Field} {part : Part} {form value : Json} {levels : Nat}
variable {forms kept others fields : List (String × Json)} {place : Slot}

theorem Fills.exists_given (fills : Fills levels field form place) (needed : field.default = none) :
    ∃ value, place = .given value ∧ value.isHoldable levels = true ∧
      ∃ part ∈ field.parts, Edited part form value := by
  cases fills with
  | given possible edited held => exact ⟨_, rfl, held, _, possible, edited⟩
  | missing default => simp [needed] at default

theorem Model.eq_of_name {first second : Field} (known : first ∈ model.fields)
    (known' : second ∈ model.fields) (same : first.name = second.name) : first = second :=
  List.inj_on_of_nodup_map model.nodup_names known known' same

namespace EditedFields

/-- The fields that are kept are fields of the form, in the order that they have there. -/
theorem sublist (edited : EditedFields model forms kept) :
    (kept.map Prod.fst).Sublist (forms.map Prod.fst) := by
  induction forms generalizing kept with
  | nil =>
    cases edited
    exact .slnil
  | cons first forms ih =>
    cases edited with
    | kept _ _ _ later => exact (ih later).cons_cons _
    | omitted _ later => exact (ih later).cons _

/-- What became of a field: its name is that of one field only, in the model and in the form. -/
theorem kept_or_omitted (edited : EditedFields model forms kept)
    (distinct : (forms.map Prod.fst).Nodup) (known : field ∈ model.fields)
    (member : (field.name, form) ∈ forms) :
    (∃ part ∈ field.parts, ∃ value, Edited part form value ∧ (field.name, value) ∈ kept) ∨
      field.default = some form ∧ field.name ∉ kept.map Prod.fst := by
  induction forms generalizing kept with
  | nil => simp at member
  | cons first forms ih =>
    obtain ⟨fresh, distinct'⟩ := List.nodup_cons.mp distinct
    cases edited with
    | kept known' possible edited later =>
      rcases List.mem_cons.mp member with same | member
      · obtain ⟨named, rfl⟩ := Prod.mk.inj same
        obtain rfl := Model.eq_of_name known known' named
        exact .inl ⟨_, possible, _, edited, List.mem_cons_self⟩
      · refine (ih later distinct' member).imp ?_ ?_
        · rintro ⟨part, possible, value, edited, member⟩
          exact ⟨part, possible, value, edited, List.mem_cons_of_mem _ member⟩
        · rintro ⟨default, absent⟩
          refine ⟨default, fun listed => (List.mem_cons.mp listed).elim (fun same => ?_) absent⟩
          exact fresh (List.mem_map.mpr ⟨_, member, same⟩)
    | omitted known' later =>
      rcases List.mem_cons.mp member with same | member
      · obtain ⟨named, rfl⟩ := Prod.mk.inj same
        obtain rfl := Model.eq_of_name known known' named
        exact .inr ⟨rfl, fun listed => fresh (later.sublist.subset listed)⟩
      · exact ih later distinct' member

end EditedFields

section Places

variable (edited : EditedFields model forms kept) (distinct : (forms.map Prod.fst).Nodup)
variable (foreign : ∀ field ∈ others, field.1 ∉ model.names) (order : fields.Perm (kept ++ others))

include edited distinct foreign order

theorem EditedFields.length_under_le_one {name : String} (known : name ∈ model.names) :
    (under name fields).length ≤ 1 := by
  have foreign' : ∀ field ∈ others, field.1 ≠ name := fun field member same =>
    foreign field member (same ▸ known)
  have distinct' : (kept.map Prod.fst).Nodup := edited.sublist.nodup distinct
  rw [under_eq_of_perm order foreign' distinct']
  exact Json.length_under_le_one distinct' name

theorem EditedFields.slot_eq {name : String} (known : name ∈ model.names) :
    slot fields name = slot kept name :=
  slot_eq_of_perm order (fun field member same => foreign field member (same ▸ known))
    (edited.sublist.nodup distinct)

/-- Each field of the form has its place among the fields of the edited object. -/
theorem EditedFields.fills (held : ∀ field ∈ fields, field.2.isHoldable levels = true)
    (known : field ∈ model.fields) (member : (field.name, form) ∈ forms) :
    Fills levels field form (slot fields field.name) := by
  rw [edited.slot_eq distinct foreign order (List.mem_map_of_mem known)]
  rcases edited.kept_or_omitted distinct known member with
    ⟨part, possible, value, edited', member⟩ | ⟨default, absent⟩
  · rw [slot_of_mem (edited.sublist.nodup distinct) member]
    exact .given possible edited' (held _ (order.mem_iff.mpr (List.mem_append_left _ member)))
  · rw [slot_of_absent absent]
    exact .missing default

end Places

section Released

variable {names : List String} {item : Part} {items values : List Json}

/-- Holding an edited form makes nothing else of it. -/
def Lasts (names : List String) (form : Json) : Prop :=
  ∀ part value, Edited part form value → Edited part form (value.released names)

theorem Edited.part_of_list (edited : Edited part (.list items) value) :
    ∃ item, part = .list item := by
  cases edited with
  | leaf flat => simp [depth] at flat
  | list => exact ⟨_, rfl⟩

theorem Edited.part_of_record (edited : Edited part (.record forms) value) :
    ∃ model, part = .object model := by
  cases edited with
  | leaf flat => simp [depth] at flat
  | object => exact ⟨_, rfl⟩

theorem Edited.eq_of_flat (edited : Edited part form value) (flat : form.depth = 0) :
    value = form := by
  cases edited with
  | leaf => rfl
  | list => simp [depth] at flat
  | object => simp [depth] at flat

theorem lasts_of_flat (flat : form.depth = 0) : Lasts names form := fun part value edited => by
  rwa [released_of_flat (edited.eq_of_flat flat ▸ flat)]

theorem EditedFields.released (edited : EditedFields model forms kept)
    (each : ∀ entry ∈ forms, Lasts names entry.2) :
    EditedFields model forms (kept.map fun field => (field.1, field.2.released names)) := by
  induction forms generalizing kept with
  | nil =>
    cases edited
    exact .nil
  | cons first forms ih =>
    obtain ⟨head, tail⟩ := List.forall_mem_cons.mp each
    cases edited with
    | kept known possible edited later =>
      exact .kept known possible (head _ _ edited) (ih later tail)
    | omitted known later => exact .omitted known (ih later tail)

/-- In no model can the kind be left out. -/
theorem Model.kind_needed (known : field ∈ model.fields) (named : field.name = "kind") :
    field.default = none := by
  have checked : (model.fields.all fun field =>
      field.name != "kind" || field.default.isNone) = true := by
    cases model <;> rfl
  simpa [named] using List.all_eq_true.mp checked field known

theorem EditedFields.kind_mem {word : String} (edited : EditedFields model forms kept)
    (kind : ("kind", .text word) ∈ forms) : ("kind", .text word) ∈ kept := by
  induction forms generalizing kept with
  | nil => simp at kind
  | cons first forms ih =>
    cases edited with
    | kept known possible edited later =>
      rcases List.mem_cons.mp kind with same | kind
      · obtain ⟨named, rfl⟩ := Prod.mk.inj same
        rw [edited.eq_of_flat rfl, named]
        exact List.mem_cons_self
      · exact List.mem_cons_of_mem _ (ih later kind)
    | omitted known later =>
      rcases List.mem_cons.mp kind with same | kind
      · cases Model.kind_needed known (Prod.mk.inj same).1.symm
      · exact ih later kind

/-- An object with a kind is not taken for a choice between names. -/
theorem lasts_record {word : String} (kind : ("kind", .text word) ∈ forms)
    (each : ∀ entry ∈ forms, Lasts names entry.2) : Lasts names (.record forms) := by
  intro part value edited
  cases edited with
  | leaf flat => simp [depth] at flat
  | @object model _ kept others fields edited foreign order =>
    have kept' : ("kind", .text word) ∈ fields :=
      order.mem_iff.mpr (List.mem_append_left _ (edited.kind_mem kind))
    have spoken : ("kind", .text word) ∈ fields.map fun field => (field.1, field.2.released names) :=
      List.mem_map.mpr ⟨_, kept', rfl⟩
    have foreign' : ∀ field ∈ others.map fun field => (field.1, field.2.released names),
        field.1 ∉ model.names := List.forall_mem_map.mpr foreign
    have order' := order.map fun field => (field.1, field.2.released names)
    rw [List.map_append] at order'
    rw [released, releasedFields_eq_map, voidChoice_of_text spoken]
    exact .object (edited.released each) foreign' order'

/-- A list of objects is not taken for a tag with its content. -/
theorem EditedItems.released (edited : EditedItems item items values)
    (each : ∀ form ∈ items, Lasts names form ∧ ∃ fields, form = .record fields) :
    EditedItems item items (values.map (Json.released names)) ∧
      ∀ value ∈ values.map (Json.released names), ∃ fields, value = .record fields := by
  induction items generalizing values with
  | nil =>
    cases edited
    exact ⟨.nil, nofun⟩
  | cons first items ih =>
    obtain ⟨⟨lasts, fields, rfl⟩, tail⟩ := List.forall_mem_cons.mp each
    cases edited with
    | cons edited later =>
      obtain ⟨later', records⟩ := ih later tail
      refine ⟨.cons (lasts _ _ edited) later', List.forall_mem_cons.mpr ⟨?_, records⟩⟩
      cases edited with
      | leaf flat => simp [depth] at flat
      | object => exact exists_voidChoice _

theorem lasts_list (each : ∀ form ∈ items, Lasts names form ∧ ∃ fields, form = .record fields) :
    Lasts names (.list items) := by
  intro part value edited
  cases edited with
  | leaf flat => simp [depth] at flat
  | list edited =>
    obtain ⟨edited', records⟩ := edited.released each
    rw [released, releasedItems_eq_map, namedTag_of_records records]
    exact .list edited'

end Released

end EffectModel.Form
