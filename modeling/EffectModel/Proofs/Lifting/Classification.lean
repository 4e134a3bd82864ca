import EffectModel.Lifting.Classification
import EffectModel.Proofs.Lifting.Shape
import EffectModel.Proofs.Outcome

namespace EffectModel

theorem Strategy.eq_of_flags {first second : Strategy} (async : first.isAsync = second.isAsync)
    (void : first.isVoid = second.isVoid) (nullable : first.isNullable = second.isNullable) :
    first = second := by
  revert async void nullable
  cases first <;> cases second <;> decide

namespace LiftingRules

variable {rules : LiftingRules} {use declared inner seen : TypeUse} {value : ValueShape}
variable {shape : ReturnShape} {strategy : Strategy} {classification : Classification}

section Definitions

variable (rules : LiftingRules)

/-- A type that is awaited for something unknown: its argument is left out or could not be understood,
or is a nullable wrapper of which the same holds. -/
inductive AwaitsUnknown (declared : TypeUse) : Prop where
  | missing (awaits : rules.Awaits declared) (takes : declared.TakesArgs)
      (none : declared.args = [])
  | misunderstood {inner : TypeUse} (awaits : rules.Awaits declared)
      (only : declared.args = [inner]) (error : inner.kind = .error)
  | vague {inner : TypeUse} (awaits : rules.Awaits declared) (only : declared.args = [inner])
      (something : ¬ rules.GivesNothing inner) (wraps : rules.WrapsNullable inner)
      (lacks : inner.LacksArg)

/-- The type that a strategy goes by: the argument of an awaited type, and any other type itself. -/
inductive LooksAt (declared : TypeUse) : TypeUse → Prop where
  | itself (sync : ¬ rules.Awaits declared) : LooksAt declared declared
  | argument {inner : TypeUse} (awaits : rules.Awaits declared) (only : declared.args = [inner]) :
      LooksAt declared inner

/-- A type that has no result to lift: it is awaited for nothing, or nothing is given back as it. -/
def HasNoResult (declared : TypeUse) : Prop :=
  rules.Awaits declared ∧ ¬ declared.TakesArgs ∨
    ∃ seen, rules.LooksAt declared seen ∧ rules.GivesNothing seen

/-- A type whose value may be absent. A nullable wrapper is one unless it lacks an argument, whatever
its marker; another type is one if it is understood and marked. -/
def MayBeAbsent (use : TypeUse) : Prop :=
  rules.WrapsNullable use ∧ ¬ use.LacksArg ∨
    ¬ rules.WrapsNullable use ∧ use.kind ≠ .error ∧ use.nullable = true

/-- A strategy suits a type if it awaits what is awaited, has no result where there is none, and makes
a result optional that may be absent. -/
structure Suits (declared : TypeUse) (strategy : Strategy) : Prop where
  async : strategy.isAsync = true ↔ rules.Awaits declared
  void : strategy.isVoid = true ↔ rules.HasNoResult declared
  nullable : strategy.isNullable = true ↔ ¬ rules.HasNoResult declared ∧
    ∃ seen, rules.LooksAt declared seen ∧ rules.MayBeAbsent seen

/-- What a declared type is lifted to, by what it carries itself or what its argument does. A result
that is not awaited stays what was declared where it is not understood. -/
inductive Lifts (declared : TypeUse) : Classification → Prop where
  | bare (awaits : rules.Awaits declared) (bare : ¬ declared.TakesArgs) :
      Lifts declared ⟨.asyncVoid, .unit⟩
  | asyncVoid {inner : TypeUse} (awaits : rules.Awaits declared) (only : declared.args = [inner])
      (carries : rules.Carries inner .void) : Lifts declared ⟨.asyncVoid, .unit⟩
  | asyncNullable {inner use : TypeUse} (awaits : rules.Awaits declared)
      (only : declared.args = [inner]) (carries : rules.Carries inner (.nullable use)) :
      Lifts declared ⟨.asyncNullable, .optional use⟩
  | asyncValue {inner use : TypeUse} (awaits : rules.Awaits declared)
      (only : declared.args = [inner]) (carries : rules.Carries inner (.value use)) :
      Lifts declared ⟨.asyncValue, .value use⟩
  | syncVoid (sync : ¬ rules.Awaits declared) (carries : rules.Carries declared .void) :
      Lifts declared ⟨.syncVoid, .unit⟩
  | syncNullable {use : TypeUse} (sync : ¬ rules.Awaits declared)
      (carries : rules.Carries declared (.nullable use)) :
      Lifts declared ⟨.syncNullable, .value use⟩
  | syncValue {use : TypeUse} (sync : ¬ rules.Awaits declared)
      (carries : rules.Carries declared (.value use)) : Lifts declared ⟨.syncValue, .value declared⟩
  | syncUnresolved (sync : ¬ rules.Awaits declared) (carries : rules.Carries declared .unresolved) :
      Lifts declared ⟨.syncValue, .value declared⟩

end Definitions

theorem Suits.unique {other : Strategy} (suits : rules.Suits declared strategy)
    (suits' : rules.Suits declared other) : strategy = other :=
  Strategy.eq_of_flags (Bool.eq_iff_iff.mpr (suits.async.trans suits'.async.symm))
    (Bool.eq_iff_iff.mpr (suits.void.trans suits'.void.symm))
    (Bool.eq_iff_iff.mpr (suits.nullable.trans suits'.nullable.symm))

section LooksAt

theorem looksAt_iff_of_sync (sync : ¬ rules.Awaits declared) :
    rules.LooksAt declared seen ↔ seen = declared := by
  constructor
  · rintro (_ | ⟨awaits, _⟩)
    · rfl
    · exact (sync awaits).elim
  · rintro rfl
    exact .itself sync

theorem looksAt_iff_of_awaits (awaits : rules.Awaits declared) :
    rules.LooksAt declared seen ↔ declared.args = [seen] := by
  constructor
  · rintro (sync | ⟨_, only⟩)
    · exact (sync awaits).elim
    · exact only
  · exact .argument awaits

end LooksAt

section Carries

variable (carries : rules.Carries use value)
include carries

theorem Carries.givesNothing_iff : rules.GivesNothing use ↔ value = .void := by
  cases carries with
  | nothing void => simp [void]
  | vague something => simp [something]
  | wrapped something => simp [something]
  | unknown something => simp [something]
  | marked something => simp [something]
  | value something => simp [something]

theorem Carries.mayBeAbsent_iff (something : ¬ rules.GivesNothing use) :
    rules.MayBeAbsent use ↔ ∃ inner, value = .nullable inner := by
  cases carries with
  | nothing void => exact (something void).elim
  | vague _ wraps lacks => simp [MayBeAbsent, wraps, lacks]
  | wrapped _ wraps full => simp [MayBeAbsent, wraps, full]
  | unknown _ plain error => simp [MayBeAbsent, plain, error]
  | marked _ plain understood marker => simp [MayBeAbsent, plain, understood, marker]
  | value _ plain _ unmarked => simp [MayBeAbsent, plain, unmarked]

theorem Carries.eq_unresolved_iff : value = .unresolved ↔ ¬ rules.GivesNothing use ∧
    (rules.WrapsNullable use ∧ use.LacksArg ∨ ¬ rules.WrapsNullable use ∧ use.kind = .error) := by
  cases carries with
  | nothing void => simp [void]
  | vague something wraps lacks => simp [something, wraps, lacks]
  | wrapped _ wraps full => simp [wraps, full]
  | unknown something plain error => simp [something, plain, error]
  | marked _ plain understood => simp [plain, understood]
  | value _ plain understood => simp [plain, understood]

/-- What suits a type with something to look at is told from what that carries. -/
theorem Carries.suits_iff (looks : ∀ seen, rules.LooksAt declared seen ↔ seen = use)
    (filled : ¬ (rules.Awaits declared ∧ ¬ declared.TakesArgs)) : rules.Suits declared strategy ↔
      (strategy.isAsync = true ↔ rules.Awaits declared) ∧ (strategy.isVoid = true ↔ value = .void) ∧
        (strategy.isNullable = true ↔ ∃ inner, value = .nullable inner) := by
  have void : rules.HasNoResult declared ↔ value = .void := by
    simp only [HasNoResult, filled, false_or, looks, exists_eq_left, carries.givesNothing_iff]
  have nullable : (¬ rules.HasNoResult declared ∧
      ∃ seen, rules.LooksAt declared seen ∧ rules.MayBeAbsent seen) ↔
        ∃ inner, value = .nullable inner := by
    simp only [void, looks, exists_eq_left]
    constructor
    · rintro ⟨something, absent⟩
      exact (carries.mayBeAbsent_iff (carries.givesNothing_iff.not.mpr something)).mp absent
    · rintro ⟨inner, rfl⟩
      refine ⟨by simp, (carries.mayBeAbsent_iff ?_).mpr ⟨inner, rfl⟩⟩
      simp [carries.givesNothing_iff]
  constructor
  · rintro ⟨async, isVoid, isNullable⟩
    exact ⟨async, isVoid.trans void, isNullable.trans nullable⟩
  · rintro ⟨async, isVoid, isNullable⟩
    exact ⟨async, isVoid.trans void.symm, isNullable.trans nullable.symm⟩

theorem Carries.suits_iff_of_sync (sync : ¬ rules.Awaits use) : rules.Suits use strategy ↔
    strategy.isAsync = false ∧ (strategy.isVoid = true ↔ value = .void) ∧
      (strategy.isNullable = true ↔ ∃ inner, value = .nullable inner) := by
  rw [carries.suits_iff (fun _ => looksAt_iff_of_sync sync) (fun bare => sync bare.1)]
  simp [sync]

theorem Carries.suits_iff_of_awaits (awaits : rules.Awaits declared)
    (only : declared.args = [use]) : rules.Suits declared strategy ↔
      strategy.isAsync = true ∧ (strategy.isVoid = true ↔ value = .void) ∧
        (strategy.isNullable = true ↔ ∃ inner, value = .nullable inner) := by
  have looks : ∀ seen, rules.LooksAt declared seen ↔ seen = use := by
    intro seen
    rw [looksAt_iff_of_awaits awaits, only, List.singleton_inj, eq_comm]
  have filled : ¬ (rules.Awaits declared ∧ ¬ declared.TakesArgs) :=
    fun bare => bare.2 (.inr (by simp [only]))
  rw [carries.suits_iff looks filled]
  simp [awaits]

end Carries

theorem suits_asyncVoid_of_bare (awaits : rules.Awaits declared) (bare : ¬ declared.TakesArgs) :
    rules.Suits declared .asyncVoid where
  async := by simp [Strategy.isAsync, awaits]
  void := by simp [Strategy.isVoid, HasNoResult, awaits, bare]
  nullable := by simp [Strategy.isNullable, HasNoResult, awaits, bare]

theorem Shapes.awaitsUnknown_iff (shapes : rules.Shapes declared shape) :
    rules.AwaitsUnknown declared ↔ shape = ⟨.async, .unresolved⟩ := by
  cases shapes with
  | sync sync =>
    simp only [ReturnShape.mk.injEq, reduceCtorEq, false_and, iff_false]
    rintro (awaits | awaits | awaits) <;> exact sync awaits
  | bare awaits bare =>
    simp only [ReturnShape.mk.injEq, reduceCtorEq, and_false, iff_false]
    rintro (⟨_, takes⟩ | ⟨_, only⟩ | ⟨_, only⟩)
    · exact bare takes
    · exact bare (.inr (by simp [only]))
    · exact bare (.inr (by simp [only]))
  | missing awaits takes none => exact iff_of_true (.missing awaits takes none) rfl
  | misunderstood awaits only error => exact iff_of_true (.misunderstood awaits only error) rfl
  | @argument inner value awaits only understood carries =>
    simp only [ReturnShape.mk.injEq, true_and, carries.eq_unresolved_iff, understood, and_false,
      or_false]
    constructor
    · intro unknown
      cases unknown with
      | missing _ _ none => simp [only] at none
      | misunderstood _ only' error =>
        cases only.symm.trans only'
        exact (understood error).elim
      | vague _ only' something wraps lacks =>
        cases only.symm.trans only'
        exact ⟨something, wraps, lacks⟩
    · rintro ⟨something, wraps, lacks⟩
      exact .vague awaits only something wraps lacks

theorem classify?_eq_none_iff : rules.classify? declared = none ↔ rules.AwaitsUnknown declared := by
  rw [(shapes_shape rules declared).awaitsUnknown_iff]
  unfold classify?
  split <;> simp_all

instance : Decidable (rules.AwaitsUnknown declared) := decidable_of_iff _ classify?_eq_none_iff

theorem lifts_of_classify? (classified : rules.classify? declared = some classification) :
    rules.Lifts declared classification := by
  have shapes := shapes_shape rules declared
  unfold classify? at classified
  generalize rules.shape declared = shape at shapes classified
  cases shapes with
  | bare awaits bare =>
    cases classified
    exact .bare awaits bare
  | missing => cases classified
  | misunderstood => cases classified
  | @argument inner value awaits only understood carries =>
    cases value with
    | void => cases classified; exact .asyncVoid awaits only carries
    | nullable use => cases classified; exact .asyncNullable awaits only carries
    | value use => cases classified; exact .asyncValue awaits only carries
    | unresolved => cases classified
  | @sync value sync carries =>
    cases value with
    | void => cases classified; exact .syncVoid sync carries
    | nullable use => cases classified; exact .syncNullable sync carries
    | value use => cases classified; exact .syncValue sync carries
    | unresolved => cases classified; exact .syncUnresolved sync carries

theorem lifts_of_classify {owner : DeclId}
    (classified : rules.classify owner declared = .ok classification) :
    rules.Lifts declared classification :=
  lifts_of_classify? (orFault_eq_ok_iff.mp classified)

theorem Lifts.suits (lifts : rules.Lifts declared classification) :
    rules.Suits declared classification.strategy := by
  cases lifts with
  | bare awaits bare => exact suits_asyncVoid_of_bare awaits bare
  | asyncVoid awaits only carries | asyncNullable awaits only carries
  | asyncValue awaits only carries =>
    apply (carries.suits_iff_of_awaits awaits only).mpr
    simp [Strategy.isAsync, Strategy.isVoid, Strategy.isNullable]
  | syncVoid sync carries | syncNullable sync carries | syncValue sync carries
  | syncUnresolved sync carries =>
    apply (carries.suits_iff_of_sync sync).mpr
    simp [Strategy.isAsync, Strategy.isVoid, Strategy.isNullable]

/-- A declared type cannot be classified where it is awaited for something unknown, which is a matter
of resolution and laid to the owner's charge. Every other type has a classification, and its strategy
is the only one that suits the type. -/
theorem classify_decides (rules : LiftingRules) (owner : DeclId) (declared : TypeUse) :
    (∀ fault, rules.classify owner declared = .error fault ↔ rules.AwaitsUnknown declared ∧
      fault = ⟨.resolution, owner, (Cause.unknownWrapped declared.display).message⟩) ∧
    (¬ rules.AwaitsUnknown declared → ∃ classification,
      rules.classify owner declared = .ok classification ∧
        ∀ strategy, rules.Suits declared strategy ↔ strategy = classification.strategy) := by
  constructor
  · intro fault
    rw [classify, orFault_eq_error_iff, classify?_eq_none_iff, @eq_comm Fault fault]
    rfl
  · intro known
    obtain ⟨classification, classified⟩ :=
      Option.ne_none_iff_exists'.mp (classify?_eq_none_iff.not.mpr known)
    have suits := (lifts_of_classify? classified).suits
    refine ⟨classification, orFault_eq_ok_iff.mpr classified, fun strategy => ?_⟩
    constructor
    · exact fun suits' => suits'.unique suits
    · rintro rfl
      exact suits

end LiftingRules

namespace Sample

/-- A task for a number that may be absent. The marker on the task itself is not looked at. -/
def pendingNumber : TypeUse :=
  { TypeUse.generic "Task" .classType
      [.generic "Nullable" .structType [.named "int" .structType]] with nullable := true }

/-- A task for a number of which nothing but the absence is known. -/
def pendingUnknown : TypeUse :=
  .generic "Task" .classType [.generic "Nullable" .structType [.named "Missing" .error]]

end Sample

open LiftingRules (classify classify_decides AwaitsUnknown Suits)

theorem classify_decides_pending :
    ¬ AwaitsUnknown {} Sample.pendingNumber ∧
    (∃ classification, classify {} ⟨"App.Owner"⟩ Sample.pendingNumber = .ok classification ∧
      (∀ strategy, Suits {} Sample.pendingNumber strategy ↔ strategy = classification.strategy) ∧
      classification.strategy = .asyncNullable) ∧
    AwaitsUnknown {} Sample.pendingUnknown ∧
    ∃ fault, classify {} ⟨"App.Owner"⟩ Sample.pendingUnknown = .error fault ∧
      fault.kind = .resolution ∧ fault.declaration = ⟨"App.Owner"⟩ := by
  have known : ¬ AwaitsUnknown {} Sample.pendingNumber := by decide
  have unknown : AwaitsUnknown {} Sample.pendingUnknown := by decide
  obtain ⟨classification, classified, suits⟩ :=
    (classify_decides {} ⟨"App.Owner"⟩ Sample.pendingNumber).2 known
  have failed := ((classify_decides {} ⟨"App.Owner"⟩ Sample.pendingUnknown).1 _).mpr ⟨unknown, rfl⟩
  refine ⟨known, ⟨classification, classified, suits, ?_⟩, unknown, _, failed, rfl, rfl⟩
  have same : classify {} ⟨"App.Owner"⟩ Sample.pendingNumber =
      .ok ⟨.asyncNullable, .optional (.named "int" .structType)⟩ := by rfl
  cases classified.symm.trans same
  rfl

end EffectModel
