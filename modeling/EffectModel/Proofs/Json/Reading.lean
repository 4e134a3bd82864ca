import EffectModel.Proofs.Json.Slots
import Mathlib.Data.List.Basic
import Mathlib.Data.Option.Basic

/-! Readings that undo a form. Main statements: those of records, lists, options, choices and tagged
values do where those of their parts do, and they spend just as many levels as the form has. -/
namespace EffectModel.Json

variable {α β : Type} {levels : Nat} {form : α → Json} {read : Reading α} {value : α}
variable {fields : List (String × Json)} {names : List String}

/-- A form is read if there are levels enough for it, and then as the value that it was made of. -/
def Restores (read : Reading α) (form : α → Json) : Prop :=
  ∀ levels value other, read levels (form value) = some other ↔
    (form value).depth ≤ levels ∧ value = other

theorem Restores.eq_ite (restores : Restores read form) (levels : Nat) (value : α) :
    read levels (form value) = if (form value).depth ≤ levels then some value else none := by
  split
  · exact (restores levels value value).mpr ⟨‹_›, rfl⟩
  · refine Option.eq_none_iff_forall_ne_some.mpr fun other found => ?_
    exact absurd ((restores levels value other).mp found).1 ‹_›

theorem Restores.whole_eq (restores : Restores read form) (value : α) :
    read.whole (form value) = some value :=
  (restores _ value value).mpr ⟨Nat.le_refl _, rfl⟩

theorem Restores.injective (restores : Restores read form) : Function.Injective form :=
  fun first second same => Option.some.inj <| by
    rw [← restores.whole_eq first, ← restores.whole_eq second, same]

/-- A value that is read if it fits is handed on if it fits. -/
theorem bind_eq_some_of_fits {found : Option α} {fits : Prop}
    (reads : ∀ other, found = some other ↔ fits ∧ value = other) (next : α → Option β) {result : β} :
    found.bind next = some result ↔ fits ∧ next value = some result := by
  simp only [Option.bind_eq_some_iff, reads, and_assoc, exists_and_left, exists_eq_left']

theorem Restores.bind (restores : Restores read form) (next : α → Option β) {result : β} :
    (read levels (form value)).bind next = some result ↔
      (form value).depth ≤ levels ∧ next value = some result :=
  bind_eq_some_of_fits (restores levels value) next

theorem Restores.map (restores : Restores read form) (make : α → β) {result : β} :
    (read levels (form value)).map make = some result ↔
      (form value).depth ≤ levels ∧ make value = result := by
  simp only [Option.map_eq_some_iff, restores levels value, and_assoc, exists_and_left,
    exists_eq_left']

section Scalars

theorem restores_asText : Restores asText .text := by
  simp [Restores, asText, depth]

theorem restores_asBool : Restores asBool .bool := by
  simp [Restores, asBool, depth]

theorem restores_asChar : Restores asChar fun c => .text (String.singleton c) := by
  simp [Restores, asChar, depth]

theorem restores_asInt64 : Restores asInt64 fun value => .int value.toInt := by
  intro levels value other
  have bounds : -Int.pow 2 63 ≤ value.toInt ∧ value.toInt ≤ Int.pow 2 63 - 1 :=
    ⟨value.le_toInt, Int.le_sub_one_of_lt value.toInt_lt⟩
  rw [asInt64, asIntWithin, if_pos bounds]
  simp [depth]

theorem restores_asUInt64 : Restores asUInt64 fun value => .int value.toNat := by
  intro levels value other
  have bounds : (0 : Int) ≤ value.toNat ∧ (value.toNat : Int) ≤ Int.pow 2 64 - 1 :=
    ⟨Int.natCast_nonneg _, Int.le_sub_one_of_lt (Int.ofNat_lt.mpr value.toNat_lt)⟩
  rw [asUInt64, asIntWithin, if_pos bounds]
  simp [depth]

theorem restores_asUInt32 : Restores asUInt32 fun value => .int value.toNat := by
  intro levels value other
  have bounds : (0 : Int) ≤ value.toNat ∧ (value.toNat : Int) ≤ Int.pow 2 32 - 1 :=
    ⟨Int.natCast_nonneg _, Int.le_sub_one_of_lt (Int.ofNat_lt.mpr value.toNat_lt)⟩
  rw [asUInt32, asIntWithin, if_pos bounds]
  simp [depth]

/-- A name for each value of a type. -/
theorem restores_asChoice {table : List (String × α)} {name : α → String}
    (named : ∀ value, table.lookup (name value) = some value) :
    Restores (asChoice table) fun value => .text (name value) := by
  simp [Restores, asChoice, depth, named]

theorem restores_asOption (restores : Restores read form) (shown : ∀ value, form value ≠ .null) :
    Restores (asOption read) (ofOption form) := by
  rintro levels (_ | value) other
  · simp [ofOption, asOption, depth]
  · have given : asOption read levels (form value) = (read levels (form value)).map some := by
      rw [asOption]
      exact fun null => shown value null
    rw [ofOption, Option.elim_some, given, restores.map]

end Scalars

section Lists

variable {items others : List α}

theorem mapM_map_form (reads : ∀ item ∈ items, ∀ other, read levels (form item) = some other ↔
    (form item).depth ≤ levels ∧ item = other) :
    (items.map form).mapM (read levels) = some others ↔
      itemsDepth (items.map form) ≤ levels ∧ items = others := by
  induction items generalizing others with
  | nil => simp [itemsDepth, eq_comm]
  | cons item items ih =>
    have later : ∀ others, (items.map form).mapM (read levels) = some others ↔
        itemsDepth (items.map form) ≤ levels ∧ items = others := fun _ =>
      ih fun item member => reads item (List.mem_cons_of_mem _ member)
    rw [List.map_cons, List.mapM_cons, Option.bind_eq_bind,
      bind_eq_some_of_fits (reads item List.mem_cons_self), Option.bind_eq_bind,
      bind_eq_some_of_fits later, itemsDepth, Nat.max_le, and_assoc, Option.pure_def,
      Option.some.injEq]

theorem asList_zero (read : Reading α) : asList read 0 = fun _ => none := by
  funext json
  cases json <;> rfl

theorem asList_fixed (read : Reading α) (levels : Nat) :
    asList (fun _ => read levels) (levels + 1) = asList read (levels + 1) := by
  funext json
  cases json <;> rfl

theorem asList_map_form (reads : ∀ fewer < levels, ∀ item ∈ items, ∀ other,
    read fewer (form item) = some other ↔ (form item).depth ≤ fewer ∧ item = other) :
    asList read levels (.list (items.map form)) = some others ↔
      (Json.list (items.map form)).depth ≤ levels ∧ items = others := by
  cases levels with
  | zero => simp [asList, depth]
  | succ levels =>
    rw [asList, mapM_map_form (reads levels (Nat.lt_succ_self levels)), depth]
    exact and_congr_left fun _ => Nat.succ_le_succ_iff.symm

theorem restores_asList (restores : Restores read form) :
    Restores (asList read) fun items => .list (items.map form) :=
  fun _ _ _ => asList_map_form fun fewer _ item _ => restores fewer item

end Lists

section Records

variable {build : Nat → List Slot → Option α} {json : Json} {name : String}

@[simp] theorem required_given (read : Json → Option α) :
    (Slot.given json).required read = read json := rfl

@[simp] theorem withDefault_given (default : α) (read : Json → Option α) :
    (Slot.given json).withDefault default read = read json := rfl

@[simp] theorem optional_given (read : Json → Option (Option α)) :
    (Slot.given json).optional read = read json := rfl

@[simp] theorem fieldsDepth_nil_le : fieldsDepth [] ≤ levels := Nat.zero_le levels

@[simp] theorem fieldsDepth_cons_le : fieldsDepth ((name, json) :: fields) ≤ levels ↔
    json.depth ≤ levels ∧ fieldsDepth fields ≤ levels := Nat.max_le

theorem asRecord_record (named : fields.map Prod.fst = names) (distinct : names.Nodup)
    (builds : ∀ fewer < levels, ∀ other,
      build fewer (fields.map fun field => .given field.2) = some other ↔
        fieldsDepth fields ≤ fewer ∧ value = other) {other : α} :
    asRecord names build levels (.record fields) = some other ↔
      (Json.record fields).depth ≤ levels ∧ value = other := by
  cases levels with
  | zero => simp [asRecord, depth]
  | succ levels =>
    rw [asRecord, slots_record named distinct, Option.bind_some,
      builds levels (Nat.lt_succ_self levels), depth]
    exact and_congr_left fun _ => Nat.succ_le_succ_iff.symm

theorem restores_asRecord (distinct : names.Nodup)
    (builds : ∀ value, ∃ fields, form value = .record fields ∧ fields.map Prod.fst = names ∧
      ∀ levels other, build levels (fields.map fun field => .given field.2) = some other ↔
        fieldsDepth fields ≤ levels ∧ value = other) :
    Restores (asRecord names build) form := by
  intro levels value other
  obtain ⟨fields, same, named, builds⟩ := builds value
  rw [same]
  exact asRecord_record named distinct fun fewer _ => builds fewer

end Records

section Tagged

variable {tag content name : String} {build other : Nat → String → Option Json → Option α}
variable {json : Json}

theorem asTagged_congr (same : build levels = other levels) :
    asTagged tag content names build (levels + 1) =
      asTagged tag content names other (levels + 1) := by
  funext json
  rw [asTagged.eq_def, asTagged.eq_def]
  split
  case h_1 more =>
    obtain rfl := Nat.succ.inj more
    simp only [same]
  case h_2 more =>
    obtain rfl := Nat.succ.inj more
    simp only [same]
  case h_3 => rfl

theorem asTagged_zero : asTagged tag content names build 0 = fun _ => none := by
  funext json
  cases json <;> rfl

theorem lookup_self (known : name ∈ names) :
    (names.map fun name => (name, name)).lookup name = some name := by
  induction names with
  | nil => simp at known
  | cons first names ih =>
    by_cases same : name = first
    · simp [same]
    · have later : name ∈ names := (List.mem_cons.mp known).resolve_left same
      have differs : (name == first) = false := by simpa using same
      rw [List.map_cons, List.lookup_cons, differs, ih later]

theorem asTagged_content (known : name ∈ names) (apart : tag ≠ content) :
    asTagged tag content names build (levels + 1)
      (.record [(tag, .text name), (content, json)]) = build levels name (some json) := by
  have entries : slots [tag, content] (.record [(tag, .text name), (content, json)]) =
      some [.given (.text name), .given json] := slots_record rfl (by simpa using apart)
  simp [asTagged, entries, standsBefore, asChoice, lookup_self known]

theorem asTagged_of_bare (single : ∀ name ∈ [tag, content], (under name fields).length ≤ 1)
    (tagged : slot fields tag = .given (.text name)) (known : name ∈ names)
    (bare : slot fields content = .missing) :
    asTagged tag content names build (levels + 1) (.record fields) = build levels name none := by
  have named : asChoice (names.map fun name => (name, name)) levels (.text name) = some name :=
    lookup_self known
  rw [asTagged, slots_eq single]
  simp [tagged, bare, named]

theorem asTagged_bare (known : name ∈ names) (apart : tag ≠ content) :
    asTagged tag content names build (levels + 1) (.record [(tag, .text name)]) =
      build levels name none := by
  have distinct : ([(tag, Json.text name)].map Prod.fst).Nodup := List.nodup_singleton tag
  have absent : content ∉ [(tag, Json.text name)].map Prod.fst := by simpa using apart.symm
  exact asTagged_of_bare (fun _ _ => length_under_le_one distinct _)
    (slot_of_mem distinct (.head _)) known (slot_of_absent absent)

end Tagged

end EffectModel.Json
