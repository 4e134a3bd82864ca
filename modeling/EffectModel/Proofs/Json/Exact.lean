import EffectModel.Json.Record
import Mathlib.Data.List.Basic

namespace EffectModel.Json

/-- A value whose text leaves nothing open: its strings are texts, and its numbers are whole ones of 64
bits, with a sign or without. -/
inductive IsExact : Json → Prop where
  | null : IsExact .null
  | bool (value : Bool) : IsExact (.bool value)
  | int {value : Int} (least : -Int.pow 2 63 ≤ value) (greatest : value < Int.pow 2 64) :
      IsExact (.int value)
  | text (value : String) : IsExact (.text value)
  | list {items : List Json} (each : ∀ item ∈ items, IsExact item) : IsExact (.list items)
  | record {fields : List (String × Json)} (each : ∀ field ∈ fields, IsExact field.2) :
      IsExact (.record fields)

/-- A value is read from the text that it is written as, up to the nesting that a text may have. A
text that is nested deeper may be refused, but it is not read as another value. -/
structure IsReliable (write : Json → String) (parse : String → Option Json) : Prop where
  restores : ∀ json : Json, json.IsExact → json.depth ≤ textLevels → parse (write json) = some json
  sincere : ∀ json other : Json, json.IsExact → parse (write json) = some other → other = json

/-- Different values are written differently, however deep they are. -/
def IsDistinct (write : Json → String) : Prop :=
  ∀ first second : Json, first.IsExact → second.IsExact → write first = write second →
    first = second

/-- Of two values that are written alike, one that is read again is also what the other is read as. -/
theorem IsReliable.eq_of_write_eq {write : Json → String} {parse : String → Option Json}
    (reliable : IsReliable write parse) {first second : Json} (exact_first : first.IsExact)
    (exact_second : second.IsExact) (fits : first.depth ≤ textLevels)
    (same : write first = write second) : first = second := by
  have read := reliable.restores first exact_first fits
  rw [same] at read
  exact reliable.sincere second first exact_second read

variable {items : List Json} {fields : List (String × Json)}

attribute [simp] IsExact.null IsExact.bool IsExact.text

@[simp] theorem isExact_list_iff : (Json.list items).IsExact ↔ ∀ item ∈ items, item.IsExact := by
  refine ⟨fun exact_list => ?_, .list⟩
  cases exact_list with
  | list each => exact each

@[simp] theorem isExact_record_iff :
    (Json.record fields).IsExact ↔ ∀ field ∈ fields, field.2.IsExact := by
  refine ⟨fun exact_record => ?_, .record⟩
  cases exact_record with
  | record each => exact each

@[simp] theorem isExact_int64 (value : Int64) : (Json.int value.toInt).IsExact := by
  have least := value.le_toInt
  have greatest := value.toInt_lt
  exact .int least (Int.lt_trans greatest (by decide))

@[simp] theorem isExact_uint64 (value : UInt64) : (Json.int value.toNat).IsExact :=
  .int (Int.le_trans (by decide) (Int.natCast_nonneg _)) (Int.ofNat_lt.mpr value.toNat_lt)

@[simp] theorem isExact_ofOption {α : Type} {form : α → Json} (each : ∀ value, (form value).IsExact)
    (found : Option α) : (ofOption form found).IsExact := by
  cases found with
  | none => exact .null
  | some value => exact each value

end EffectModel.Json
