import EffectModel.Json.Record
import Mathlib.Data.List.Nodup

namespace EffectModel.Json

variable {α : Type} {fields others : List (String × α)} {name : String} {field : String × α}

/-- The fields of an object under a name. -/
def under (name : String) (fields : List (String × α)) : List (String × α) :=
  fields.filter fun field => field.1 == name

theorem lookup_eq_under (name : String) (fields : List (String × α)) :
    fields.lookup name = (under name fields).head?.map Prod.snd := by
  induction fields with
  | nil => rfl
  | cons field rest ih =>
    obtain ⟨key, value⟩ := field
    by_cases same : key = name
    · simp [under, same]
    · have differs : (name == key) = false := by simpa using Ne.symm same
      simpa [under, List.lookup_cons, same, differs] using ih

theorem countP_eq_length_under (name : String) (fields : List (String × α)) :
    fields.countP (fun field => field.1 == name) = (under name fields).length :=
  List.countP_eq_length_filter

theorem length_under_le_one (distinct : (fields.map Prod.fst).Nodup) (name : String) :
    (under name fields).length ≤ 1 := by
  have counted : (fields.map Prod.fst).count name = (under name fields).length := by
    rw [List.count, List.countP_map, ← countP_eq_length_under]
    rfl
  exact counted ▸ List.nodup_iff_count_le_one.mp distinct name

theorem under_of_mem (distinct : (fields.map Prod.fst).Nodup) (member : field ∈ fields) :
    under field.1 fields = [field] := by
  have held : field ∈ under field.1 fields := List.mem_filter.mpr ⟨member, by simp⟩
  have single := length_under_le_one distinct field.1
  match found : under field.1 fields, held, single with
  | [only], held, _ => rw [List.mem_singleton.mp held]

theorem lookup_of_mem (distinct : (fields.map Prod.fst).Nodup) (member : field ∈ fields) :
    fields.lookup field.1 = some field.2 := by
  rw [lookup_eq_under, under_of_mem distinct member]
  rfl

variable {names : List String} {fields : List (String × Json)}

def slot (fields : List (String × Json)) (name : String) : Slot :=
  (fields.lookup name).elim .missing .given

theorem slots_eq (single : ∀ name ∈ names, (under name fields).length ≤ 1) :
    slots names (.record fields) = some (names.map (slot fields)) := by
  have once : names.any (fun name =>
      1 < fields.countP (fun field => field.1 == name)) = false := by
    simpa [List.any_eq_false, countP_eq_length_under] using single
  rw [slots, once]
  rfl

theorem slot_of_mem {field : String × Json} (distinct : (fields.map Prod.fst).Nodup)
    (member : field ∈ fields) : slot fields field.1 = .given field.2 := by
  rw [slot, lookup_of_mem distinct member]
  rfl

theorem slot_of_absent {name : String} (absent : name ∉ fields.map Prod.fst) :
    slot fields name = .missing := by
  have empty : under name fields = [] := List.filter_eq_nil_iff.mpr fun field member same =>
    absent (List.mem_map.mpr ⟨field, member, beq_iff_eq.mp same⟩)
  rw [slot, lookup_eq_under, empty]
  rfl

theorem slots_record (named : fields.map Prod.fst = names) (distinct : names.Nodup) :
    slots names (.record fields) = some (fields.map fun field => .given field.2) := by
  subst named
  rw [slots_eq fun name _ => length_under_le_one distinct name, List.map_map]
  exact congrArg some (List.map_congr_left fun field member => slot_of_mem distinct member)

section Reordered

variable {kept others : List (String × Json)} {name : String}

/-- Neither the order of the fields nor those of other names count for a field. -/
theorem under_eq_of_perm (order : fields.Perm (kept ++ others))
    (foreign : ∀ field ∈ others, field.1 ≠ name) (distinct : (kept.map Prod.fst).Nodup) :
    under name fields = under name kept := by
  have among : (under name fields).Perm (under name kept ++ under name others) := by
    simpa [under] using order.filter fun field => field.1 == name
  have none : under name others = [] := List.filter_eq_nil_iff.mpr fun field member same =>
    foreign field member (beq_iff_eq.mp same)
  rw [none, List.append_nil] at among
  have single := length_under_le_one distinct name
  match found : under name kept, single with
  | [], _ => exact (found ▸ among).eq_nil
  | [field], _ => exact List.perm_singleton.mp (found ▸ among)

theorem slot_eq_of_perm (order : fields.Perm (kept ++ others))
    (foreign : ∀ field ∈ others, field.1 ≠ name) (distinct : (kept.map Prod.fst).Nodup) :
    slot fields name = slot kept name := by
  rw [slot, slot, lookup_eq_under, lookup_eq_under, under_eq_of_perm order foreign distinct]

end Reordered

end EffectModel.Json
