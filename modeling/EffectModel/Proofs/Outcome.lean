import EffectModel.Fault
import Mathlib.Data.List.Forall2
import Mathlib.Data.List.Perm.Basic

/-! Steps that may end in a fault: when a chain of them succeeds, and what has stopped it
otherwise. -/
namespace EffectModel

variable {ε α β : Type} {fault other : Fault}

@[simp] theorem orFault_eq_ok_iff {found : Option α} {value : α} :
    orFault found fault = .ok value ↔ found = some value := by
  cases found <;> simp [orFault]

@[simp] theorem orFault_eq_error_iff {found : Option α} :
    orFault found fault = .error other ↔ found = none ∧ fault = other := by
  cases found <;> simp [orFault]

theorem bind_eq_ok_iff {step : Except ε α} {next : α → Except ε β} {value : β} :
    step >>= next = .ok value ↔ ∃ middle, step = .ok middle ∧ next middle = .ok value := by
  cases step with
  | error _ => simp [bind, Except.bind]
  | ok middle => simp [bind, Except.bind]

/-- A check that stands before another step. -/
theorem bind_check_eq_ok_iff {check : Except ε Unit} {next : Except ε β} {value : β} :
    (check >>= fun _ => next) = .ok value ↔ check = .ok () ∧ next = .ok value := by
  rw [bind_eq_ok_iff]
  constructor
  · rintro ⟨⟨⟩, passed, success⟩
    exact ⟨passed, success⟩
  · rintro ⟨passed, success⟩
    exact ⟨(), passed, success⟩

theorem bind_eq_error_iff {step : Except Fault α} {next : α → Except Fault β} :
    step >>= next = .error fault ↔
      step = .error fault ∨ ∃ middle, step = .ok middle ∧ next middle = .error fault := by
  cases step with
  | error _ => simp [bind, Except.bind]
  | ok middle => simp [bind, Except.bind]

theorem map_eq_ok_iff {step : Except Fault α} {change : α → β} {value : β} :
    step.map change = .ok value ↔ ∃ middle, step = .ok middle ∧ change middle = value := by
  cases step <;> simp [Except.map]

theorem map_eq_error_iff {step : Except Fault α} {change : α → β} :
    step.map change = .error fault ↔ step = .error fault := by
  cases step <;> simp [Except.map]

theorem mapM_eq_ok_iff {step : α → Except Fault β} {items : List α} {values : List β} :
    items.mapM step = .ok values ↔
      List.Forall₂ (fun item value => step item = .ok value) items values := by
  induction items generalizing values with
  | nil => cases values <;> simp [pure, Except.pure]
  | cons item rest ih =>
    rw [List.mapM_cons, bind_eq_ok_iff]
    constructor
    · rintro ⟨value, first, remaining⟩
      obtain ⟨others, rest, same⟩ := bind_eq_ok_iff.mp remaining
      cases same
      exact .cons first (ih.mp rest)
    · intro taken
      cases taken with
      | @cons _ value _ others first remaining =>
        exact ⟨value, first, bind_eq_ok_iff.mpr ⟨others, ih.mpr remaining, rfl⟩⟩

theorem exists_of_mapM_eq_ok {step : α → Except Fault β} {items : List α} {values : List β}
    {value : β} (success : items.mapM step = .ok values) (member : value ∈ values) :
    ∃ item ∈ items, step item = .ok value := by
  have taken := mapM_eq_ok_iff.mp success
  clear success
  induction taken with
  | nil => simp at member
  | @cons item first items values built rest ih =>
    rcases List.mem_cons.mp member with same | later
    · subst same
      exact ⟨item, by simp, built⟩
    · obtain ⟨source, present, made⟩ := ih later
      exact ⟨source, by simp [present], made⟩

theorem exists_value_of_mapM_eq_ok {step : α → Except Fault β} {items : List α} {values : List β}
    {item : α} (success : items.mapM step = .ok values) (member : item ∈ items) :
    ∃ value ∈ values, step item = .ok value := by
  have taken := mapM_eq_ok_iff.mp success
  clear success
  induction taken with
  | nil => simp at member
  | @cons first value items values made rest ih =>
    rcases List.mem_cons.mp member with same | later
    · subst same
      exact ⟨value, by simp, made⟩
    · obtain ⟨other, present, made⟩ := ih later
      exact ⟨other, by simp [present], made⟩

/-- A step that is taken for every item gives the same values in another order. -/
theorem exists_perm_of_mapM_eq_ok {step : α → Except Fault β} {items others : List α}
    {values : List β} (perm : items.Perm others) (success : items.mapM step = .ok values) :
    ∃ values', others.mapM step = .ok values' ∧ values.Perm values' := by
  obtain ⟨values', taken, perm'⟩ := List.perm_comp_forall₂ perm.symm (mapM_eq_ok_iff.mp success)
  exact ⟨values', mapM_eq_ok_iff.mpr taken, perm'.symm⟩

/-- Steps that are taken one after the other end in a fault where the first of them fails that
does. -/
theorem mapM_eq_error_iff {step : α → Except Fault β} {items : List α} :
    items.mapM step = .error fault ↔ ∃ before item after, items = before ++ item :: after ∧
      (∀ earlier ∈ before, ∃ value, step earlier = .ok value) ∧ step item = .error fault := by
  induction items with
  | nil => simp [pure, Except.pure]
  | cons item rest ih =>
    rw [List.mapM_cons, bind_eq_error_iff]
    constructor
    · rintro (halted | ⟨value, first, remaining⟩)
      · exact ⟨[], item, rest, rfl, by simp, halted⟩
      · rcases bind_eq_error_iff.mp remaining with later | ⟨_, _, impossible⟩
        · obtain ⟨before, source, after, rfl, passed, halted⟩ := ih.mp later
          refine ⟨item :: before, source, after, rfl, ?_, halted⟩
          exact List.forall_mem_cons.mpr ⟨⟨value, first⟩, passed⟩
        · cases impossible
    · rintro ⟨before, source, after, split, passed, halted⟩
      cases before with
      | nil =>
        cases split
        exact .inl halted
      | cons earlier others =>
        cases split
        obtain ⟨⟨value, first⟩, passed⟩ := List.forall_mem_cons.mp passed
        have later := ih.mpr ⟨others, source, after, rfl, passed, halted⟩
        exact .inr ⟨value, first, bind_eq_error_iff.mpr (.inl later)⟩

theorem exists_of_mapM_eq_error {step : α → Except Fault β} {items : List α}
    (failed : items.mapM step = .error fault) : ∃ item ∈ items, step item = .error fault := by
  obtain ⟨before, item, after, rfl, _, halted⟩ := mapM_eq_error_iff.mp failed
  exact ⟨item, by simp, halted⟩

theorem exists_mapM_eq_ok_iff {step : α → Except Fault β} {items : List α} :
    (∃ values, items.mapM step = .ok values) ↔ ∀ item ∈ items, ∃ value, step item = .ok value := by
  constructor
  · rintro ⟨values, success⟩ item member
    obtain ⟨value, _, made⟩ := exists_value_of_mapM_eq_ok success member
    exact ⟨value, made⟩
  · intro each
    cases taken : items.mapM step with
    | ok values => exact ⟨values, rfl⟩
    | error fault =>
      obtain ⟨item, member, halted⟩ := exists_of_mapM_eq_error taken
      obtain ⟨value, made⟩ := each item member
      cases halted.symm.trans made

/-- Steps that are taken for corresponding items come to the same where they agree on these. -/
theorem mapM_eq_of_forall₂ {γ : Type} {step : α → Except Fault γ} {step' : β → Except Fault γ}
    {items : List α} {items' : List β}
    (same : List.Forall₂ (fun item item' => step item = step' item') items items') :
    items.mapM step = items'.mapM step' := by
  induction same with
  | nil => rfl
  | cons first rest ih => rw [List.mapM_cons, List.mapM_cons, first, ih]

theorem mapM_congr {step step' : α → Except Fault β} {items : List α}
    (same : ∀ item ∈ items, step item = step' item) : items.mapM step = items.mapM step' :=
  mapM_eq_of_forall₂ (List.forall₂_same.mpr same)

/-- Outcomes that are alike: the same fault on both sides, or values that are related. -/
inductive Alike {β : Type} (related : α → β → Prop) : (first : Except ε α) → (second : Except ε β) → Prop
    where
  | fault (fault : ε) : Alike related (.error fault) (.error fault)
  | value {value : α} {value' : β} (same : related value value') :
      Alike related (.ok value) (.ok value')

namespace Alike

variable {γ δ : Type} {related : α → β → Prop} {further : γ → δ → Prop}

theorem refl (step : Except ε α) : Alike Eq step step := by
  cases step with
  | error fault => exact .fault fault
  | ok value => exact .value rfl

theorem eq {step step' : Except ε α} (alike : Alike Eq step step') : step = step' := by
  cases alike with
  | fault => rfl
  | value same => rw [same]

theorem of_rel {found : Option α} {found' : Option β} (same : Option.Rel related found found')
    (fault : Fault) : Alike related (orFault found fault) (orFault found' fault) := by
  cases same with
  | none => exact .fault fault
  | some same => exact .value same

theorem bind {step : Except ε α} {step' : Except ε β} {next : α → Except ε γ}
    {next' : β → Except ε δ} (alike : Alike related step step')
    (after : ∀ {value value'}, related value value' → Alike further (next value) (next' value')) :
    Alike further (step >>= next) (step' >>= next') := by
  cases alike with
  | fault fault => exact .fault fault
  | value same => exact after same

end Alike

end EffectModel
