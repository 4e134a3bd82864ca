import Mathlib.Data.List.Induction
import Mathlib.Data.List.Nodup

namespace EffectModel

variable {α β κ ι : Type} [DecidableEq κ] [DecidableEq ι] {key : α → κ} {item : α}
variable {items front back : List α}

/-- The entries of a list whose key has not come up before. -/
def keepFirst (key : α → κ) : List α → List α
  | [] => []
  | item :: rest => item :: (keepFirst key rest).filter (fun other => key other ≠ key item)

theorem keepFirst_sublist (key : α → κ) (items : List α) : (keepFirst key items).Sublist items := by
  induction items with
  | nil => exact .slnil
  | cons item rest ih => exact (List.filter_sublist.trans ih).cons_cons item

theorem mem_of_mem_keepFirst (kept : item ∈ keepFirst key items) : item ∈ items :=
  (keepFirst_sublist key items).subset kept

theorem keepFirst_keys_nodup (key : α → κ) (items : List α) :
    ((keepFirst key items).map key).Nodup := by
  induction items with
  | nil => exact List.nodup_nil
  | cons item rest ih =>
    rw [keepFirst, List.map_cons, List.nodup_cons]
    refine ⟨?_, ih.sublist (List.filter_sublist.map key)⟩
    intro member
    obtain ⟨other, kept, same⟩ := List.mem_map.mp member
    exact absurd same (by simpa using (List.mem_filter.mp kept).2)

theorem mem_keys_keepFirst {known : κ} :
    known ∈ (keepFirst key items).map key ↔ known ∈ items.map key := by
  constructor
  · exact fun member => ((keepFirst_sublist key items).map key).subset member
  · intro member
    induction items with
    | nil => simp at member
    | cons item rest ih =>
      by_cases same : known = key item
      · simp [keepFirst, same]
      · have later : known ∈ rest.map key := by simpa [same] using member
        obtain ⟨other, kept, rfl⟩ := List.mem_map.mp (ih later)
        apply List.mem_map_of_mem
        exact List.mem_cons_of_mem _ (List.mem_filter.mpr ⟨kept, by simpa using same⟩)

theorem keepFirst_append (key : α → κ) (front back : List α) :
    keepFirst key (front ++ back) =
      keepFirst key front ++
        (keepFirst key back).filter (fun item => key item ∉ front.map key) := by
  induction front with
  | nil => simp [keepFirst]
  | cons item rest ih =>
    simp only [List.cons_append, keepFirst, ih, List.filter_append, List.filter_filter]
    congr 2
    apply List.filter_congr
    intro other _
    simp

/-- What brings no new key is passed over. -/
theorem keepFirst_append_of_known (known : ∀ item ∈ back, key item ∈ front.map key) :
    keepFirst key (front ++ back) = keepFirst key front := by
  rw [keepFirst_append, List.filter_eq_nil_iff.mpr, List.append_nil]
  intro item kept
  simpa using known item (mem_of_mem_keepFirst kept)

theorem keepFirst_concat_of_new (new : key item ∉ front.map key) :
    keepFirst key (front ++ [item]) = keepFirst key front ++ [item] := by
  rw [keepFirst_append]
  simp only [keepFirst, List.filter_nil]
  rw [List.filter_eq_self.mpr (by simpa using new)]

/-- Where a key tells the entries apart, no entry is lost. -/
theorem mem_keepFirst_iff
    (apart : ∀ first ∈ items, ∀ second ∈ items, key first = key second → first = second) :
    item ∈ keepFirst key items ↔ item ∈ items := by
  constructor
  · exact mem_of_mem_keepFirst
  · intro member
    obtain ⟨other, kept, same⟩ := List.mem_map.mp
      (mem_keys_keepFirst.mpr (List.mem_map_of_mem (f := key) member))
    exact apart other (mem_of_mem_keepFirst kept) item member same ▸ kept

/-- An item that comes again gives nothing new, so that it may be left out before what the items
give is put together. -/
theorem keepFirst_flatMap_keepFirst {tag : α → ι} {give : α → List β} {key : β → κ}
    (apart : ∀ first ∈ items, ∀ second ∈ items, tag first = tag second → first = second) :
    keepFirst key ((keepFirst tag items).flatMap give) = keepFirst key (items.flatMap give) := by
  induction items using List.reverseRecOn with
  | nil => rfl
  | append_singleton front last ih =>
    have apartFront : ∀ first ∈ front, ∀ second ∈ front, tag first = tag second → first = second :=
      fun first held second held' =>
        apart first (List.mem_append_left _ held) second (List.mem_append_left _ held')
    by_cases known : tag last ∈ front.map tag
    · obtain ⟨earlier, held, same⟩ := List.mem_map.mp known
      have again : earlier = last := apart earlier (by simp [held]) last (by simp) same
      have given : ∀ entry ∈ give last, key entry ∈ (front.flatMap give).map key :=
        fun entry member =>
          List.mem_map_of_mem (List.mem_flatMap.mpr ⟨earlier, held, again ▸ member⟩)
      rw [keepFirst_append_of_known (by simpa using known), ih apartFront, List.flatMap_append,
        List.flatMap_singleton, keepFirst_append_of_known given]
    · have keys : ∀ known, known ∈ ((keepFirst tag front).flatMap give).map key ↔
          known ∈ (front.flatMap give).map key := by
        intro known
        rw [← mem_keys_keepFirst, ih apartFront, mem_keys_keepFirst]
      rw [keepFirst_concat_of_new known, List.flatMap_append, List.flatMap_append,
        keepFirst_append, keepFirst_append, ih apartFront]
      simp only [keys]

/-- Where no two entries bear one key, what is found under a key is the entry that bears it. -/
theorem find?_eq_some_iff_of_nodup (distinct : (items.map key).Nodup) {known : κ} :
    items.find? (fun other => key other == known) = some item ↔ item ∈ items ∧ key item = known := by
  constructor
  · intro found
    exact ⟨List.mem_of_find?_eq_some found, by simpa using List.find?_some found⟩
  · rintro ⟨member, rfl⟩
    cases found : items.find? (fun other => key other == key item) with
    | none => simpa using List.find?_eq_none.mp found item member
    | some other =>
      have same : key other = key item := by simpa using List.find?_some found
      rw [List.inj_on_of_nodup_map distinct (List.mem_of_find?_eq_some found) member same]

omit [DecidableEq κ] [DecidableEq ι] in
/-- Entries that differ by one key differ by every finer one. -/
theorem nodup_map_of_finer {finer : α → ι} (distinct : (items.map key).Nodup)
    (determines : ∀ first ∈ items, ∀ second ∈ items, finer first = finer second →
      key first = key second) : (items.map finer).Nodup := by
  apply distinct.of_map.map_on
  intro first held second held' same
  exact List.inj_on_of_nodup_map distinct held held' (determines first held second held' same)

end EffectModel
