import EffectModel.Proofs.Module.Renaming
import Mathlib.Data.List.FinRange
import Mathlib.Order.Bounds.Basic

namespace EffectModel.Effect

/-- The places at which effects have another name afterwards. -/
def changes (before after : List Effect) : Set Nat :=
  {i | ∃ effect effect', before[i]? = some effect ∧ after[i]? = some effect' ∧
    effect'.name ≠ effect.name}

/-- Places that hold every renamed effect whose name another one has too, or whose name another one
goes back to that they hold. -/
def Closed (effects : List Effect) (places : Set Nat) : Prop :=
  ∀ i effect, effects[i]? = some effect → effect.name ≠ effect.source →
    (∃ j other, j ≠ i ∧ effects[j]? = some other ∧
      (other.name = effect.name ∨ j ∈ places ∧ other.source = effect.name)) → i ∈ places

variable {effects start result : List Effect} {effect : Effect} {becomes : Effect → Effect}
variable {places : Set Nat} {passes i : Nat}

theorem mem_changes_map_iff (placed : effects[i]? = some effect) :
    i ∈ changes effects (effects.map becomes) ↔ (becomes effect).name ≠ effect.name := by
  simp [changes, placed]

theorem exists_of_mem_changes (changed : i ∈ changes effects (effects.map becomes)) :
    ∃ effect, effects[i]? = some effect ∧ (becomes effect).name ≠ effect.name := by
  obtain ⟨effect, _, placed, _, _⟩ := changed
  exact ⟨effect, placed, (mem_changes_map_iff placed).mp ⟨effect, _, placed, ‹_›, ‹_›⟩⟩

/-- A pass changes no name that closed places do not hold, if none has been changed before it. -/
theorem changes_passed_subset (closed : Closed start places)
    (reverts : ∀ effect, Reverts effect (becomes effect))
    (within : changes start (start.map becomes) ⊆ places) :
    changes start (start.map (passed (start.map becomes) ∘ becomes)) ⊆ places := by
  intro i changed
  obtain ⟨effect, placed, differs⟩ := exists_of_mem_changes changed
  by_cases earlier : (becomes effect).name ≠ effect.name
  · exact within ((mem_changes_map_iff placed).mpr earlier)
  have kept : becomes effect = effect := (reverts effect).eq_of_name (not_not.mp earlier)
  have hit : collides (start.map becomes) effect = true := by
    by_contra free
    rw [Function.comp_apply, kept, passed, if_neg free] at differs
    exact differs rfl
  have placed' : (start.map becomes)[i]? = some effect := by simp [placed, kept]
  obtain ⟨renamed, j, _, apart, met, same⟩ := (collides_iff placed').mp hit
  rw [List.getElem?_map, Option.map_eq_some_iff] at met
  obtain ⟨other, met, rfl⟩ := met
  refine closed i effect placed renamed ⟨j, other, apart, met, ?_⟩
  by_cases moved : (becomes other).name ≠ other.name
  · exact .inr ⟨within ((mem_changes_map_iff met).mpr moved),
      ((reverts other).name_eq_source moved).symm.trans same⟩
  · exact .inl ((not_not.mp moved).symm.trans same)

theorem Settles.changes_subset (closed : Closed start places) {current : List Effect}
    (settles : Settles passes current result) (made : start.map becomes = current)
    (reverts : ∀ effect, Reverts effect (becomes effect))
    (within : changes start current ⊆ places) : changes start result ⊆ places := by
  induction settles generalizing becomes with
  | still => exact within
  | @again _ current _ _ _ ih =>
    subst made
    have made : start.map (passed (start.map becomes) ∘ becomes) = restorePass (start.map becomes) := by
      rw [restorePass_eq, List.map_map]
    exact ih made (fun effect => (reverts effect).trans reverts_passed)
      (made ▸ changes_passed_subset closed reverts within)

/-- An effect that collides goes back to its method's name. -/
theorem Settles.name_of_collides (settles : Settles passes effects (effects.map becomes))
    (placed : effects[i]? = some effect) (hit : collides effects effect = true) :
    (becomes effect).name = effect.source := by
  generalize made : effects.map becomes = result at settles
  cases settles with
  | still calm => exact (List.any_eq_false.mp calm effect (List.mem_of_getElem? placed) hit).elim
  | again _ later =>
    obtain ⟨further, reverts, settles⟩ := later.exists_becomes
    have same : effects.map becomes = (restorePass effects).map further :=
      made.trans (later.unique (settles _ (.refl _)))
    have there := congrArg (·[i]?) same
    simp only [restorePass_eq, List.getElem?_map, placed, Option.map_some, Option.some.injEq, passed,
      hit, if_true] at there
    rw [there]
    rcases reverts effect.restored with again | again <;> rw [again] <;> rfl

/-- Where passes end, the places that they changed are closed. -/
theorem Settles.closed_changes (settles : Settles passes effects (effects.map becomes))
    (reverts : ∀ effect, Reverts effect (becomes effect)) :
    Closed effects (changes effects (effects.map becomes)) := by
  intro i effect placed renamed ⟨j, other, apart, met, reason⟩
  rw [mem_changes_map_iff placed]
  intro unchanged
  have kept : becomes effect = effect := (reverts effect).eq_of_name unchanged
  rcases reason with shared | ⟨moved, taken⟩
  · have hit : collides effects effect = true :=
      (collides_iff placed).mpr ⟨renamed, j, other, apart, met, shared⟩
    exact renamed (unchanged.symm.trans (settles.name_of_collides placed hit))
  · rw [mem_changes_map_iff met] at moved
    have taken : (becomes other).name = effect.name :=
      ((reverts other).name_eq_source moved).trans taken
    have placed' : (effects.map becomes)[i]? = some effect := by simp [placed, kept]
    have met' : (effects.map becomes)[j]? = some (becomes other) := by simp [met]
    have hit := (collides_iff placed').mpr ⟨renamed, j, _, apart, met', taken⟩
    exact List.any_eq_false.mp settles.calm effect (List.mem_of_getElem? placed') hit

/-- The effects that go back to the names of their methods are those that have to: the least places
that hold every renamed effect whose name is shared at first, or is gone back to by another of them.
All others stay as they are. The order of the effects plays no part in it, and a second time nothing
changes. -/
theorem restoreCollisions_isLeast (effects : List Effect) :
    IsLeast {places | Closed effects places} (changes effects (restoreCollisions effects)) ∧
      (∀ i, i ∉ changes effects (restoreCollisions effects) →
        (restoreCollisions effects)[i]? = effects[i]?) ∧
      (∀ (order : Equiv.Perm (Fin effects.length)) (i : Fin effects.length),
        (restoreCollisions (List.ofFn fun i => effects.get (order i)))[(i : Nat)]? =
          (restoreCollisions effects)[(order i : Nat)]?) ∧
      restoreCollisions (restoreCollisions effects) = restoreCollisions effects := by
  obtain ⟨passes, _, settles⟩ := exists_settles effects
  obtain ⟨becomes, reverts, made⟩ := restoreCollisions_eq_map effects
  have own : restoreCollisions effects = effects.map becomes := made effects (.refl _)
  rw [own] at settles ⊢
  refine ⟨⟨settles.closed_changes reverts, fun places closed => ?_⟩, fun i unchanged => ?_,
    fun order i => ?_, (Settles.still settles.calm).eq⟩
  · exact settles.changes_subset closed (List.map_id _) (fun _ => .inl rfl)
      fun i ⟨_, _, placed, placed', differs⟩ => by simp_all
  · cases placed : effects[i]? with
    | none => simp [placed]
    | some effect =>
      rw [mem_changes_map_iff placed, not_not] at unchanged
      rw [List.getElem?_map, placed, Option.map_some, (reverts effect).eq_of_name unchanged]
  · have perm : (List.ofFn (effects.get ∘ order)).Perm effects := by
      simpa using Equiv.Perm.ofFn_comp_perm order effects.get
    have permuted := made _ perm
    simp only [Function.comp_def] at permuted
    rw [permuted]
    simp

end EffectModel.Effect
