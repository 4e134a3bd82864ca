import EffectModel.Proofs.Form.Restored
import EffectModel.Proofs.Lookup
import Mathlib.Order.Bounds.Basic
import Std.Data.HashMap.Lemmas

namespace EffectModel

section Definitions

/-- The identity at a position stands at an earlier one already. -/
def Repeats (ids : List DeclId) (position : Nat) : Prop :=
  ∃ id, ids[position]? = some id ∧ ∃ earlier < position, ids[earlier]? = some id

/-- The identity that is the first to come again. -/
def FirstRepeats (ids : List DeclId) (id : DeclId) : Prop :=
  ∃ position, IsLeast {position | Repeats ids position} position ∧ ids[position]? = some id

instance : Hashable DeclId := ⟨fun id => hash id.text⟩

/-- Where declarations stand in a list, by their identities. -/
abbrev Positions := Std.HashMap DeclId Nat

namespace Positions

/-- Enters declarations that stand from a position on, up to one whose identity is entered already. -/
def enterAll (table : Positions) (position : Nat) : List Declaration → Except Fault Positions
  | [] => .ok table
  | declaration :: rest =>
      if declaration.id ∈ table then .error (Cause.repeatedDeclaration.blame declaration.id)
      else enterAll (table.insert declaration.id position) (position + 1) rest

def ofList (declarations : List Declaration) : Except Fault Positions :=
  enterAll ∅ 0 declarations

/-- The declaration at the position that the table has for an identity. -/
def find? (table : Positions) (declarations : List Declaration) (id : DeclId) :
    Option Declaration :=
  table[id]?.bind (fun position => declarations[position]?)

/-- A table has the positions of these identities and no others. -/
def Locates (table : Positions) (ids : List DeclId) : Prop :=
  ∀ (id : DeclId) (position : Nat), table[id]? = some position ↔ ids[position]? = some id

end Positions

/-- What a snapshot of some declarations answers. Each of them is found by its identity and by its
plain use, whatever names the others have, and a table of their positions finds the same. -/
structure Snapshot.AnswersFor (snapshot : Snapshot) (declarations : List Declaration) : Prop where
  ordered : snapshot.declarations = declarations
  found : ∀ id declaration, snapshot.lookup id = some declaration ↔
    declaration ∈ declarations ∧ declaration.id = id
  absent : ∀ id, snapshot.lookup id = none ↔ ∀ declaration ∈ declarations, declaration.id ≠ id
  resolved : ∀ declaration ∈ declarations,
    snapshot.resolve declaration.asTypeUse = some declaration
  located : ∃ table, Positions.ofList declarations = .ok table ∧
    ∀ id, table.find? declarations id = snapshot.lookup id

end Definitions

variable {declarations rest : List Declaration} {declaration : Declaration} {fault : Fault}
variable {table whole : Positions} {position : Nat} {id : DeclId} {seen done ids : List DeclId}
variable {snapshot : Snapshot}

section Repeats

theorem nodup_iff_not_repeats : ids.Nodup ↔ ∀ position, ¬ Repeats ids position := by
  rw [List.nodup_iff_getElem?_ne_getElem?]
  constructor
  · intro distinct position ⟨id, here, earlier, before, there⟩
    have inside : position < ids.length := (List.getElem?_eq_some_iff.mp here).1
    exact distinct earlier position before inside (there.trans here.symm)
  · intro fresh earlier position before inside same
    have here : ids[position]? = some ids[position] := List.getElem?_eq_getElem inside
    exact fresh position ⟨_, here, earlier, before, same.trans here⟩

theorem FirstRepeats.unique {other : DeclId} (first : FirstRepeats ids id)
    (first' : FirstRepeats ids other) : id = other := by
  obtain ⟨position, least, here⟩ := first
  obtain ⟨position', least', here'⟩ := first'
  have same : position = position' := least.unique least'
  exact Option.some_inj.mp (here.symm.trans (same ▸ here'))

/-- What stands behind distinct identities and is one of them is the first to come again. -/
theorem firstRepeats_append_cons (distinct : done.Nodup) (again : id ∈ done) (ids : List DeclId) :
    FirstRepeats (done ++ id :: ids) id := by
  have here : (done ++ id :: ids)[done.length]? = some id := by simp
  refine ⟨done.length, ⟨?_, ?_⟩, here⟩
  · obtain ⟨earlier, inside, there⟩ := List.getElem_of_mem again
    refine ⟨id, here, earlier, inside, ?_⟩
    rw [List.getElem?_append_left inside, List.getElem?_eq_getElem inside, there]
  · intro position ⟨other, there, earlier, before, there'⟩
    by_contra! inside
    -- a repetition this early would be one within the distinct identities
    rw [List.getElem?_append_left inside] at there
    rw [List.getElem?_append_left (before.trans inside)] at there'
    exact nodup_iff_not_repeats.mp distinct position ⟨other, there, earlier, before, there'⟩

theorem firstRepeats_of_firstRepeat (known : ∀ id, id ∈ seen ↔ id ∈ done) (distinct : done.Nodup)
    (found : firstRepeat seen ids = some id) : FirstRepeats (done ++ ids) id := by
  induction ids generalizing seen done with
  | nil => simp [firstRepeat] at found
  | cons head ids ih =>
    by_cases again : head ∈ seen
    · have same : head = id := by simpa [firstRepeat, again] using found
      exact same ▸ firstRepeats_append_cons distinct ((known head).mp again) ids
    · have new : head ∉ done := fun member => again ((known head).mpr member)
      have known' : ∀ id, id ∈ head :: seen ↔ id ∈ done ++ [head] := by
        simp [known, or_comm]
      have distinct' : (done ++ [head]).Nodup := by
        rw [← List.concat_eq_append, List.nodup_concat]
        exact ⟨new, distinct⟩
      have found' : firstRepeat (head :: seen) ids = some id := by
        simpa [firstRepeat, again] using found
      simpa using ih known' distinct' found'

theorem firstRepeat_eq_none_iff_nodup : firstRepeat [] ids = none ↔ ids.Nodup := by
  simp [firstRepeat_eq_none_iff]

/-- The search for a repetition finds the first one. -/
theorem firstRepeat_eq_some_iff : firstRepeat [] ids = some id ↔ FirstRepeats ids id := by
  have sound : ∀ id, firstRepeat [] ids = some id → FirstRepeats ids id :=
    fun id found => firstRepeats_of_firstRepeat (by simp) List.nodup_nil found
  constructor
  · exact sound id
  · intro first
    cases found : firstRepeat [] ids with
    | none =>
      have distinct : ids.Nodup := firstRepeat_eq_none_iff_nodup.mp found
      obtain ⟨position, ⟨again, _⟩, _⟩ := first
      exact absurd again (nodup_iff_not_repeats.mp distinct position)
    | some other => rw [(sound other found).unique first]

end Repeats

namespace Positions

theorem locates_empty : Locates ∅ [] := by simp [Locates]

theorem Locates.mem_iff (locates : table.Locates ids) : id ∈ table ↔ id ∈ ids := by
  rw [← Std.HashMap.isSome_getElem?_iff_mem, Option.isSome_iff_exists, List.mem_iff_getElem?]
  exact exists_congr fun position => locates id position

theorem getElem?_concat_eq_some_iff {other : DeclId} : (done ++ [id])[position]? = some other ↔
    done[position]? = some other ∨ position = done.length ∧ id = other := by
  by_cases inside : position < done.length
  · have apart : position ≠ done.length := by omega
    simp [List.getElem?_append_left inside, apart]
  · have outside : done[position]? = none := List.getElem?_eq_none (by omega)
    rw [List.getElem?_append_right (by omega), outside, List.getElem?_singleton]
    by_cases last : position = done.length
    · simp [last]
    · have beyond : position - done.length ≠ 0 := by omega
      simp [last, beyond]

theorem Locates.insert (locates : table.Locates done) (new : id ∉ done) :
    Locates (table.insert id done.length) (done ++ [id]) := by
  intro other position
  rw [Std.HashMap.getElem?_insert, getElem?_concat_eq_some_iff]
  by_cases same : id = other
  · have elsewhere : done[position]? ≠ some id :=
      fun there => new (List.mem_of_getElem? there)
    simp [← same, elsewhere, eq_comm]
  · simp [same, locates other position]

/-- Entering stops at the first identity that is known, be it from the table or from the list. -/
theorem enterAll_eq_error_iff (known : ∀ id, id ∈ table ↔ id ∈ seen) :
    enterAll table position declarations = .error fault ↔
      ∃ id, firstRepeat seen (declarations.map Declaration.id) = some id ∧
        Cause.repeatedDeclaration.blame id = fault := by
  induction declarations generalizing table position seen with
  | nil => simp [enterAll, firstRepeat]
  | cons declaration rest ih =>
    by_cases again : declaration.id ∈ seen
    · have again' : declaration.id ∈ table := (known declaration.id).mpr again
      simp [enterAll, firstRepeat, again, again']
    · have new : declaration.id ∉ table := fun member => again ((known declaration.id).mp member)
      have known' : ∀ id, id ∈ table.insert declaration.id position ↔
          id ∈ declaration.id :: seen := by
        intro id
        rw [Std.HashMap.mem_insert, known, List.mem_cons, beq_iff_eq]
        exact or_congr_left eq_comm
      rw [enterAll, if_neg new, ih known', List.map_cons, firstRepeat, if_neg again]

theorem Locates.enterAll (locates : table.Locates done)
    (success : Positions.enterAll table done.length declarations = .ok whole) :
    whole.Locates (done ++ declarations.map Declaration.id) := by
  induction declarations generalizing table done with
  | nil =>
    cases success
    simpa using locates
  | cons declaration rest ih =>
    by_cases again : declaration.id ∈ table
    · simp [Positions.enterAll, again] at success
    · have new : declaration.id ∉ done := fun member => again (locates.mem_iff.mpr member)
      have entered : Positions.enterAll (table.insert declaration.id done.length)
          (done ++ [declaration.id]).length rest = .ok whole := by
        simpa [Positions.enterAll, again] using success
      simpa using ih (locates.insert new) entered

theorem ofList_eq_error_iff : ofList declarations = .error fault ↔
    ∃ id, FirstRepeats (declarations.map Declaration.id) id ∧
      Cause.repeatedDeclaration.blame id = fault := by
  have none : ∀ id, id ∈ (∅ : Positions) ↔ id ∈ ([] : List DeclId) := by simp
  rw [ofList, enterAll_eq_error_iff none]
  simp only [firstRepeat_eq_some_iff]

theorem locates_of_ofList (success : ofList declarations = .ok table) :
    table.Locates (declarations.map Declaration.id) := by
  simpa using locates_empty.enterAll success

end Positions

namespace Snapshot

theorem ofList_eq_ok_iff : ofList declarations = .ok snapshot ↔
    snapshot.declarations = declarations := by
  constructor
  · intro success
    unfold ofList at success
    split at success
    · cases success
      rfl
    · cases success
  · intro same
    exact same ▸ ofList_declarations snapshot

theorem ofList_eq_error_iff : ofList declarations = .error fault ↔
    ∃ id, FirstRepeats (declarations.map Declaration.id) id ∧
      Cause.repeatedDeclaration.blame id = fault := by
  simp only [← firstRepeat_eq_some_iff]
  unfold ofList
  split
  next none => simp [none]
  next id found => simp [found]

theorem exists_ofList_iff : (∃ snapshot, ofList declarations = .ok snapshot) ↔
    (declarations.map Declaration.id).Nodup := by
  constructor
  · intro ⟨snapshot, success⟩
    exact ofList_eq_ok_iff.mp success ▸ snapshot.distinct
  · intro distinct
    exact ⟨⟨declarations, distinct⟩, ofList_eq_ok_iff.mpr rfl⟩

theorem find?_eq_lookup (located : table.Locates (snapshot.declarations.map Declaration.id))
    (id : DeclId) : table.find? snapshot.declarations id = snapshot.lookup id := by
  apply Option.ext
  intro declaration
  rw [Positions.find?, Option.bind_eq_some_iff, lookup_eq_some_iff]
  constructor
  · intro ⟨position, entered, there⟩
    have same : (snapshot.declarations.map Declaration.id)[position]? = some id :=
      (located id position).mp entered
    rw [List.getElem?_map, there, Option.map_some, Option.some_inj] at same
    exact ⟨List.mem_of_getElem? there, same⟩
  · intro ⟨held, same⟩
    obtain ⟨position, there⟩ := List.mem_iff_getElem?.mp held
    have entered : table[id]? = some position := by
      rw [located id position, List.getElem?_map, there, Option.map_some, same]
    exact ⟨position, entered, there⟩

theorem answersFor (snapshot : Snapshot) : snapshot.AnswersFor snapshot.declarations where
  ordered := rfl
  found id declaration := lookup_eq_some_iff
  absent id := by simp [lookup]
  resolved declaration held := resolve_eq_some_iff.mpr (.symbol held rfl)
  located := by
    cases entered : Positions.ofList snapshot.declarations with
    | error fault =>
      have failed : ofList snapshot.declarations = .error fault :=
        ofList_eq_error_iff.mpr (Positions.ofList_eq_error_iff.mp entered)
      cases (ofList_declarations snapshot).symm.trans failed
    | ok table => exact ⟨table, rfl, find?_eq_lookup (Positions.locates_of_ofList entered)⟩

/-- A list of declarations makes a snapshot exactly where their identities are distinct. Otherwise the
configuration is at fault, by the first identity that stands at an earlier position already, and so it
is for a table of positions. The snapshot answers for the declarations in their order. -/
theorem ofList_decides (declarations : List Declaration) :
    ((∃ snapshot, ofList declarations = .ok snapshot) ↔
      (declarations.map Declaration.id).Nodup) ∧
    (∀ fault, ofList declarations = .error fault ↔
      ∃ id, FirstRepeats (declarations.map Declaration.id) id ∧
        fault = ⟨.configuration, id, "declaration appears more than once in the snapshot"⟩) ∧
    (∀ fault, Positions.ofList declarations = .error fault ↔ ofList declarations = .error fault) ∧
    ∀ snapshot, ofList declarations = .ok snapshot → snapshot.AnswersFor declarations := by
  refine ⟨exists_ofList_iff, fun fault => ?_, fun fault => ?_, fun snapshot success => ?_⟩
  · rw [ofList_eq_error_iff]
    exact exists_congr fun id => and_congr_right fun _ => eq_comm
  · rw [Positions.ofList_eq_error_iff, ofList_eq_error_iff]
  · exact ofList_eq_ok_iff.mp success ▸ snapshot.answersFor

end Snapshot

namespace Sample

def watch : Declaration := { Declaration.ofId ⟨"App.IWatch"⟩ with kind := .interfaceDecl }

/-- A declaration under another identity than its name suggests, which is that of the watch. -/
def oldWatch : Declaration := { watch with id := ⟨"Old.IWatch"⟩ }

end Sample

open Snapshot (ofList ofList_decides)

theorem ofList_decides_watches :
    (∃ snapshot, ofList [Sample.watch, Sample.oldWatch] = .ok snapshot ∧
      Sample.oldWatch.asTypeUse.qualifiedName = Sample.watch.id.text ∧
      snapshot.resolve Sample.oldWatch.asTypeUse = some Sample.oldWatch) ∧
    ofList [Sample.watch, Sample.oldWatch, Sample.oldWatch, Sample.watch] =
      .error ⟨.configuration, Sample.oldWatch.id,
        "declaration appears more than once in the snapshot"⟩ := by
  constructor
  · obtain ⟨exists_iff, -, -, answers⟩ := ofList_decides [Sample.watch, Sample.oldWatch]
    obtain ⟨snapshot, success⟩ := exists_iff.mpr (by decide)
    have resolved : snapshot.resolve Sample.oldWatch.asTypeUse = some Sample.oldWatch :=
      (answers snapshot success).resolved Sample.oldWatch (by simp)
    exact ⟨snapshot, success, by decide +kernel, resolved⟩
  · obtain ⟨-, faults, -⟩ :=
      ofList_decides [Sample.watch, Sample.oldWatch, Sample.oldWatch, Sample.watch]
    have first : FirstRepeats [Sample.watch.id, Sample.oldWatch.id, Sample.oldWatch.id,
        Sample.watch.id] Sample.oldWatch.id := firstRepeat_eq_some_iff.mp (by decide)
    exact (faults _).mpr ⟨Sample.oldWatch.id, first, rfl⟩

end EffectModel
