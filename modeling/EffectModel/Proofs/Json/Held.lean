import EffectModel.Proofs.Json.Reading

/-! Content that is held before it is read. Main statements: the parts of what can be held can be
held, also when it is released, and a tagged value is read alike whether its tag comes first or its
content does. -/
namespace EffectModel.Json

variable {levels : Nat} {names : List String} {json : Json} {items : List Json}
variable {fields : List (String × Json)}

section Parts

theorem areItemsHoldable_iff : areItemsHoldable levels items = true ↔
    ∀ item ∈ items, item.isHoldable levels = true := by
  induction items with
  | nil => simp [areItemsHoldable]
  | cons item items ih => simp [areItemsHoldable, ih]

theorem areFieldsHoldable_iff : areFieldsHoldable levels fields = true ↔
    ∀ field ∈ fields, field.2.isHoldable levels = true := by
  induction fields with
  | nil => simp [areFieldsHoldable]
  | cons field fields ih => simp [areFieldsHoldable, ih]

theorem isHoldable_list_iff : (Json.list items).isHoldable levels = true ↔
    ∃ fewer, levels = fewer + 1 ∧ ∀ item ∈ items, item.isHoldable fewer = true := by
  cases levels with
  | zero => simp [isHoldable]
  | succ levels => simp [isHoldable, areItemsHoldable_iff]

theorem isHoldable_record_iff : (Json.record fields).isHoldable levels = true ↔
    ∃ fewer, levels = fewer + 1 ∧ ∀ field ∈ fields, field.2.isHoldable fewer = true := by
  cases levels with
  | zero => simp [isHoldable]
  | succ levels => simp [isHoldable, areFieldsHoldable_iff]

end Parts

section Released

theorem releasedItems_eq_map (names : List String) (items : List Json) :
    releasedItems names items = items.map (released names) := by
  induction items with
  | nil => rfl
  | cons item items ih => rw [releasedItems, ih, List.map_cons]

theorem releasedFields_eq_map (names : List String) (fields : List (String × Json)) :
    releasedFields names fields = fields.map fun field => (field.1, field.2.released names) := by
  induction fields with
  | nil => rfl
  | cons field fields ih => rw [releasedFields, ih, List.map_cons]

theorem released_of_flat (flat : json.depth = 0) : json.released names = json := by
  cases json <;> first | rfl | simp [depth] at flat

theorem isHoldable_namedTag (held : areItemsHoldable levels items = true) :
    (namedTag names items).isHoldable (levels + 1) = true := by
  unfold namedTag
  split
  case h_1 number content =>
    cases number.toNat?.bind (names[·]?) with
    | none => exact held
    | some name => simpa [isHoldable, areItemsHoldable] using (Bool.and_eq_true_iff.mp held).2
  case h_2 => exact held

theorem isHoldable_voidChoice (held : areFieldsHoldable levels fields = true) :
    (voidChoice fields).isHoldable (levels + 1) = true := by
  unfold voidChoice
  split
  case h_1 => simp [isHoldable, areFieldsHoldable]
  case h_2 => exact held

mutual

/-- What is held can be held again once it is released. -/
theorem isHoldable_released (names : List String) : ∀ (levels : Nat) (json : Json),
    json.isHoldable levels = true → (json.released names).isHoldable levels = true
  | _, .null, _ | _, .bool _, _ | _, .text _, _ => by simp [released, isHoldable]
  | _, .int _, held | _, .real _ _, held => held
  | _, .garbled, held => held
  | 0, .list _, held | 0, .record _, held => by simp [isHoldable] at held
  | levels + 1, .list items, held =>
    isHoldable_namedTag (areItemsHoldable_released names levels items held)
  | levels + 1, .record fields, held =>
    isHoldable_voidChoice (areFieldsHoldable_released names levels fields held)

theorem areItemsHoldable_released (names : List String) : ∀ (levels : Nat) (items : List Json),
    areItemsHoldable levels items = true → areItemsHoldable levels (releasedItems names items) = true
  | _, [], held => held
  | levels, item :: items, held => by
    rw [areItemsHoldable, Bool.and_eq_true] at held
    rw [releasedItems, areItemsHoldable, isHoldable_released names levels item held.1,
      areItemsHoldable_released names levels items held.2]
    rfl

theorem areFieldsHoldable_released (names : List String) :
    ∀ (levels : Nat) (fields : List (String × Json)), areFieldsHoldable levels fields = true →
      areFieldsHoldable levels (releasedFields names fields) = true
  | _, [], held => held
  | levels, (name, value) :: fields, held => by
    rw [areFieldsHoldable, Bool.and_eq_true] at held
    rw [releasedFields, areFieldsHoldable, isHoldable_released names levels value held.1,
      areFieldsHoldable_released names levels fields held.2]
    rfl

end

theorem exists_voidChoice (fields : List (String × Json)) :
    ∃ fields', voidChoice fields = .record fields' := by
  unfold voidChoice
  split <;> exact ⟨_, rfl⟩

theorem voidChoice_of_text {name word : String} (spoken : (name, .text word) ∈ fields) :
    voidChoice fields = .record fields := by
  unfold voidChoice
  split
  case h_1 => simp at spoken
  case h_2 => rfl

/-- A list of objects is not taken for a tag with its content. -/
theorem namedTag_of_records (records : ∀ item ∈ items, ∃ fields, item = .record fields) :
    namedTag names items = .list items := by
  unfold namedTag
  split
  case h_1 number content => simpa using records (.int number)
  case h_2 => rfl

end Released

section Tagged

variable {α : Type} {tag content name : String} {value : Json} {result : α}
variable {build : Nat → String → Option Json → Option α}

/-- The content of a tagged value, before its tag or behind it. -/
theorem asTagged_of_content (single : ∀ name ∈ [tag, content], (under name fields).length ≤ 1)
    (tagged : slot fields tag = .given (.text name)) (known : name ∈ names)
    (contained : slot fields content = .given value) (held : value.isHoldable levels = true)
    (behind : build levels name (some value) = some result)
    (before : build levels name (some (value.released names)) = some result) :
    asTagged tag content names build (levels + 1) (.record fields) = some result := by
  have named : asChoice (names.map fun name => (name, name)) levels (.text name) = some name :=
    lookup_self known
  rw [asTagged, slots_eq single]
  cases first : standsBefore tag content fields with
  | true => simp [tagged, contained, named, behind]
  | false => simp [tagged, contained, named, held, before]

end Tagged

end EffectModel.Json
