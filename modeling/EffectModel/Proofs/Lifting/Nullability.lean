import EffectModel.Proofs.Lifting.Classification

namespace EffectModel

/-- The type inside what is produced. -/
inductive Produced.Holds : Produced → TypeUse → Prop where
  | value (use : TypeUse) : Holds (.value use) use
  | optional (use : TypeUse) : Holds (.optional use) use

/-- The result of an effect is of the type that is produced, optional or not. -/
theorem Classification.holds_effectResult_iff {classification : Classification} {use : TypeUse} :
    classification.effectResult.Holds use ↔ classification.produced.Holds use := by
  obtain ⟨strategy, produced⟩ := classification
  cases produced with
  | unit => exact Iff.rfl
  | optional inner => exact Iff.rfl
  | value inner =>
    by_cases nullable : strategy.isNullable = true
    · simp only [effectResult, nullable, if_true]
      constructor
      · rintro ⟨⟩
        exact .value _
      · rintro ⟨⟩
        exact .optional _
    · simp [effectResult, nullable]

namespace LiftingRules

variable {rules : LiftingRules} {use declared inner : TypeUse} {value : ValueShape}
variable {classification : Classification} {owner : DeclId}

/-- A type with a marker that is overlooked: it is not awaited, has a result, and is not understood
itself or is a nullable wrapper that lacks an argument. -/
structure Overlooked (rules : LiftingRules) (declared : TypeUse) : Prop where
  sync : ¬ rules.Awaits declared
  something : ¬ rules.GivesNothing declared
  unresolved : rules.WrapsNullable declared ∧ declared.LacksArg ∨
    ¬ rules.WrapsNullable declared ∧ declared.kind = .error
  marker : declared.nullable = true

theorem not_overlooked_of_awaits (awaits : rules.Awaits declared) : ¬ rules.Overlooked declared :=
  fun overlooked => overlooked.sync awaits

theorem overlooked_iff_of_carries (sync : ¬ rules.Awaits declared)
    (carries : rules.Carries declared value) :
    rules.Overlooked declared ↔ value = .unresolved ∧ declared.nullable = true := by
  rw [carries.eq_unresolved_iff]
  constructor
  · rintro ⟨_, something, unresolved, marker⟩
    exact ⟨⟨something, unresolved⟩, marker⟩
  · rintro ⟨⟨something, unresolved⟩, marker⟩
    exact ⟨sync, something, unresolved, marker⟩

/-- What is found absent or present is no longer marked. -/
theorem Carries.unmarked_of_nullable (carries : rules.Carries use (.nullable inner)) :
    inner.nullable = false := by
  cases carries <;> rfl

theorem Carries.unmarked_of_value (carries : rules.Carries use (.value inner)) :
    inner.nullable = false ∧ inner = use := by
  cases carries with
  | value _ _ _ unmarked => exact ⟨unmarked, rfl⟩

namespace Lifts

variable (lifts : rules.Lifts declared classification)
include lifts

theorem produced_eq_unit_iff :
    classification.produced = .unit ↔ classification.strategy.isVoid = true := by
  cases lifts <;> simp [Strategy.isVoid]

theorem effectResult_optional_iff : (∃ inner, classification.effectResult = .optional inner) ↔
    classification.strategy.isNullable = true := by
  cases lifts <;> simp [Classification.effectResult, Strategy.isNullable]

/-- A type that is produced is marked where its marker has been overlooked. -/
theorem nullable_iff (holds : classification.produced.Holds use) :
    use.nullable = true ↔ rules.Overlooked declared := by
  cases lifts with
  | bare => cases holds
  | asyncVoid => cases holds
  | asyncNullable awaits only carries =>
    cases holds
    simp [carries.unmarked_of_nullable, not_overlooked_of_awaits awaits]
  | asyncValue awaits only carries =>
    cases holds
    obtain ⟨unmarked, rfl⟩ := carries.unmarked_of_value
    simp [unmarked, not_overlooked_of_awaits awaits]
  | syncVoid => cases holds
  | syncNullable sync carries =>
    cases holds
    simp [carries.unmarked_of_nullable, overlooked_iff_of_carries sync carries]
  | syncValue sync carries =>
    cases holds
    obtain ⟨unmarked, rfl⟩ := carries.unmarked_of_value
    simp [unmarked, overlooked_iff_of_carries sync carries]
  | syncUnresolved sync carries =>
    cases holds
    simp [overlooked_iff_of_carries sync carries]

theorem eq_of_overlooked (overlooked : rules.Overlooked declared) :
    classification = ⟨.syncValue, .value declared⟩ := by
  cases lifts with
  | bare awaits | asyncVoid awaits | asyncNullable awaits | asyncValue awaits =>
    exact (not_overlooked_of_awaits awaits overlooked).elim
  | syncVoid sync carries | syncNullable sync carries =>
    have unresolved := ((overlooked_iff_of_carries sync carries).mp overlooked).1
    cases unresolved
  | syncValue | syncUnresolved => rfl

theorem nullable_asTypeUse_iff : (classification.effectResult.asTypeUse rules).nullable = true ↔
    rules.Overlooked declared := by
  constructor
  · intro marked
    cases result : classification.effectResult with
    | unit => simp [result, Produced.asTypeUse, TypeUse.named] at marked
    | optional inner => simp [result, Produced.asTypeUse, TypeUse.generic, TypeUse.named] at marked
    | value use =>
      have holds : classification.effectResult.Holds use := result ▸ .value use
      rw [result] at marked
      exact (lifts.nullable_iff (Classification.holds_effectResult_iff.mp holds)).mp marked
  · intro overlooked
    rw [lifts.eq_of_overlooked overlooked]
    exact overlooked.marker

end Lifts

/-- What is produced, and what the effect results in, is settled by the strategy. The type in it is
unmarked unless its marker has been overlooked, which leaves a plain value; and it is written with a
question mark at the end just then, or where the name of a type without arguments ends in one. -/
theorem nullability_of_classify
    (classified : rules.classify owner declared = .ok classification) :
    (classification.produced = .unit ↔ classification.strategy.isVoid = true) ∧
    ((∃ inner, classification.effectResult = .optional inner) ↔
      classification.strategy.isNullable = true) ∧
    (∀ use, classification.produced.Holds use ∨ classification.effectResult.Holds use →
      (use.nullable = true ↔ rules.Overlooked declared)) ∧
    (rules.Overlooked declared → classification = ⟨.syncValue, .value declared⟩) ∧
    (TypeUse.EndsInMark (classification.effectResult.display rules) ↔ rules.Overlooked declared ∨
      ¬ (classification.effectResult.asTypeUse rules).TakesArgs ∧
        TypeUse.EndsInMark (classification.effectResult.asTypeUse rules).name) := by
  have lifts := lifts_of_classify classified
  refine ⟨lifts.produced_eq_unit_iff, lifts.effectResult_optional_iff, fun use holds => ?_,
    lifts.eq_of_overlooked, ?_⟩
  · rw [Classification.holds_effectResult_iff, or_self] at holds
    exact lifts.nullable_iff holds
  · rw [Produced.display, TypeUse.endsInMark_display_iff, lifts.nullable_asTypeUse_iff]

end LiftingRules

namespace Sample

/-- A type that is not understood, and marked. -/
def missing : TypeUse := { TypeUse.named "Missing" .error with nullable := true }

/-- A nullable wrapper of something that is not understood, and marked. -/
def vagueWrapper : TypeUse :=
  { TypeUse.generic "Nullable" .structType [.named "Missing" .error] with nullable := true }

end Sample

open LiftingRules (classify nullability_of_classify Overlooked)

theorem nullability_of_classify_missing :
    classify {} ⟨"App.Owner"⟩ Sample.missing = .ok ⟨.syncValue, .value Sample.missing⟩ ∧
      Overlooked {} Sample.missing ∧
      classify {} ⟨"App.Owner"⟩ Sample.pendingNumber =
        .ok ⟨.asyncNullable, .optional (.named "int" .structType)⟩ ∧
      ¬ Overlooked {} Sample.pendingNumber := by
  have kept : classify {} ⟨"App.Owner"⟩ Sample.missing =
      .ok ⟨.syncValue, .value Sample.missing⟩ := by rfl
  have lifted : classify {} ⟨"App.Owner"⟩ Sample.pendingNumber =
      .ok ⟨.asyncNullable, .optional (.named "int" .structType)⟩ := by rfl
  obtain ⟨_, _, overlooked, _⟩ := nullability_of_classify kept
  obtain ⟨_, _, unmarked, _⟩ := nullability_of_classify lifted
  refine ⟨kept, (overlooked _ (.inl (.value _))).mp rfl, lifted, fun marked => ?_⟩
  cases (unmarked _ (.inl (.optional _))).mpr marked

/-- Under accepted rules there are types with a marker that the strategy does not tell of. -/
theorem exists_marked_value : ({} : LiftingRules).check = .ok () ∧
    ∀ declared ∈ [Sample.missing, Sample.vagueWrapper], declared.nullable = true ∧
      classify {} ⟨"App.Owner"⟩ declared = .ok ⟨.syncValue, .value declared⟩ ∧
      Strategy.syncValue.isNullable = false ∧
      TypeUse.EndsInMark ((Produced.value declared).display {}) := by
  decide +kernel

end EffectModel
