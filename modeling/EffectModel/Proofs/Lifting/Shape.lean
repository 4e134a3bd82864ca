import EffectModel.Lifting.Shape
import EffectModel.Proofs.TypeUse

/-! What a return type carries, and whether it is awaited. Main statement: the shape of a type follows
from its name, its kind, its arguments and its marker, and where it is awaited from those of its
argument. -/
namespace EffectModel

namespace LiftingRules

variable {rules : LiftingRules} {use declared inner : TypeUse} {value : ValueShape}

section Definitions

variable (rules : LiftingRules)

/-- A type that is awaited: it is understood, goes by the name of a wrapper, and has a place for one
argument at most. A nullable marker on it plays no part. -/
structure Awaits (use : TypeUse) : Prop where
  understood : use.kind ≠ .error
  named : use.name ∈ rules.asyncWrappers
  narrow : max use.arity.toNat use.args.length ≤ 1

/-- A type that nothing is given back as. -/
def GivesNothing (use : TypeUse) : Prop := use.kind = .void ∨ use.name ∈ rules.voidNames

/-- A nullable wrapper with arguments; without any it is a type like others. -/
structure WrapsNullable (use : TypeUse) : Prop where
  named : use.name ∈ rules.nullableWrappers
  takes : use.TakesArgs

/-- What a type carries. The first rule that applies is the one that counts, so each of them rules out
those before it. -/
inductive Carries (use : TypeUse) : ValueShape → Prop where
  | nothing (void : rules.GivesNothing use) : Carries use .void
  | vague (something : ¬ rules.GivesNothing use) (wraps : rules.WrapsNullable use)
      (lacks : use.LacksArg) : Carries use .unresolved
  | wrapped {inner : TypeUse} {rest : List TypeUse} (something : ¬ rules.GivesNothing use)
      (wraps : rules.WrapsNullable use) (full : ¬ use.LacksArg) (args : use.args = inner :: rest) :
      Carries use (.nullable inner.withoutNullable)
  | unknown (something : ¬ rules.GivesNothing use) (plain : ¬ rules.WrapsNullable use)
      (error : use.kind = .error) : Carries use .unresolved
  | marked (something : ¬ rules.GivesNothing use) (plain : ¬ rules.WrapsNullable use)
      (understood : use.kind ≠ .error) (marker : use.nullable = true) :
      Carries use (.nullable use.withoutNullable)
  | value (something : ¬ rules.GivesNothing use) (plain : ¬ rules.WrapsNullable use)
      (understood : use.kind ≠ .error) (unmarked : use.nullable = false) : Carries use (.value use)

/-- The shape of a declared type. What an awaited type carries is what its one argument does. -/
inductive Shapes (declared : TypeUse) : ReturnShape → Prop where
  | sync {value : ValueShape} (sync : ¬ rules.Awaits declared)
      (carries : rules.Carries declared value) : Shapes declared ⟨.sync, value⟩
  | bare (awaits : rules.Awaits declared) (bare : ¬ declared.TakesArgs) :
      Shapes declared ⟨.async, .void⟩
  | missing (awaits : rules.Awaits declared) (takes : declared.TakesArgs)
      (none : declared.args = []) : Shapes declared ⟨.async, .unresolved⟩
  | misunderstood {inner : TypeUse} (awaits : rules.Awaits declared)
      (only : declared.args = [inner]) (error : inner.kind = .error) :
      Shapes declared ⟨.async, .unresolved⟩
  | argument {inner : TypeUse} {value : ValueShape} (awaits : rules.Awaits declared)
      (only : declared.args = [inner]) (understood : inner.kind ≠ .error)
      (carries : rules.Carries inner value) : Shapes declared ⟨.async, value⟩

end Definitions

theorem isAwaited_iff : rules.isAwaited use = true ↔ rules.Awaits use := by
  simp only [isAwaited, Bool.and_eq_true, Bool.not_eq_true', decide_eq_true_eq,
    List.contains_iff_mem, Bool.eq_false_iff, ne_eq, TypeUse.isError_iff]
  constructor
  · rintro ⟨⟨understood, named⟩, narrow⟩
    exact ⟨understood, named, narrow⟩
  · rintro ⟨understood, named, narrow⟩
    exact ⟨⟨understood, named⟩, narrow⟩

theorem isVoid_iff : rules.isVoid use = true ↔ rules.GivesNothing use := by
  simp [isVoid, GivesNothing]

theorem isNullableWrapper_iff :
    rules.isNullableWrapper use = true ↔ rules.WrapsNullable use := by
  simp only [isNullableWrapper, Bool.and_eq_true, List.contains_iff_mem, TypeUse.isGeneric_iff]
  constructor
  · rintro ⟨named, takes⟩
    exact ⟨named, takes⟩
  · rintro ⟨named, takes⟩
    exact ⟨named, takes⟩

instance : Decidable (rules.Awaits use) := decidable_of_iff _ isAwaited_iff

instance : Decidable (rules.GivesNothing use) := decidable_of_iff _ isVoid_iff

instance : Decidable (rules.WrapsNullable use) := decidable_of_iff _ isNullableWrapper_iff

instance : Decidable use.LacksArg := decidable_of_iff _ TypeUse.hasUnresolvedArgs_iff

theorem carries_carried (rules : LiftingRules) (use : TypeUse) :
    rules.Carries use (rules.carried use) := by
  unfold carried
  by_cases void : rules.GivesNothing use
  · rw [if_pos (isVoid_iff.mpr void)]
    exact .nothing void
  rw [if_neg (isVoid_iff.not.mpr void)]
  by_cases wraps : rules.WrapsNullable use
  · rw [if_pos (isNullableWrapper_iff.mpr wraps)]
    by_cases lacks : use.LacksArg
    · rw [if_pos (TypeUse.hasUnresolvedArgs_iff.mpr lacks)]
      exact .vague void wraps lacks
    · rw [if_neg (TypeUse.hasUnresolvedArgs_iff.not.mpr lacks)]
      obtain ⟨inner, rest, args⟩ := TypeUse.exists_arg wraps.takes lacks
      rw [args]
      exact .wrapped void wraps lacks args
  rw [if_neg (isNullableWrapper_iff.not.mpr wraps)]
  by_cases error : use.kind = .error
  · rw [if_pos (TypeUse.isError_iff.mpr error)]
    exact .unknown void wraps error
  rw [if_neg (TypeUse.isError_iff.not.mpr error)]
  by_cases marker : use.nullable = true
  · rw [if_pos marker]
    exact .marked void wraps error marker
  · rw [if_neg marker]
    exact .value void wraps error (Bool.eq_false_iff.mpr marker)

theorem Awaits.length_le (awaits : rules.Awaits use) : use.args.length ≤ 1 :=
  Nat.le_trans (Nat.le_max_right _ _) awaits.narrow

theorem Awaits.only {rest : List TypeUse} (awaits : rules.Awaits use)
    (args : use.args = inner :: rest) : use.args = [inner] := by
  have short := awaits.length_le
  rw [args, List.length_cons] at short
  rw [args, List.length_eq_zero_iff.mp (by omega : rest.length = 0)]

theorem Awaits.lacksArg_iff (awaits : rules.Awaits use) (only : use.args = [inner]) :
    use.LacksArg ↔ inner.kind = .error := by
  have narrow : use.arity.toNat ≤ 1 := Nat.le_trans (Nat.le_max_left _ _) awaits.narrow
  simp only [TypeUse.LacksArg, only, List.length_singleton, List.mem_singleton, exists_eq_left]
  constructor
  · rintro (missing | error)
    · omega
    · exact error
  · exact .inr

theorem shapes_shape (rules : LiftingRules) (declared : TypeUse) :
    rules.Shapes declared (rules.shape declared) := by
  unfold shape
  by_cases awaits : rules.Awaits declared
  · rw [if_pos (isAwaited_iff.mpr awaits)]
    unfold awaited
    by_cases takes : declared.TakesArgs
    · rw [TypeUse.isGeneric_iff.mpr takes]
      cases args : declared.args with
      | nil =>
        simpa using .missing awaits takes args
      | cons inner rest =>
        have only : declared.args = [inner] := awaits.only args
        by_cases error : inner.kind = .error
        · have lacks : declared.hasUnresolvedArgs = true :=
            TypeUse.hasUnresolvedArgs_iff.mpr ((awaits.lacksArg_iff only).mpr error)
          simpa [lacks] using .misunderstood awaits only error
        · have full : declared.hasUnresolvedArgs = false :=
            Bool.eq_false_iff.mpr (TypeUse.hasUnresolvedArgs_iff.not.mpr
              ((awaits.lacksArg_iff only).not.mpr error))
          simpa [full] using .argument awaits only error (carries_carried rules inner)
    · rw [Bool.eq_false_iff.mpr (TypeUse.isGeneric_iff.not.mpr takes)]
      exact .bare awaits takes
  · rw [if_neg (isAwaited_iff.not.mpr awaits)]
    exact .sync awaits (carries_carried rules declared)

end LiftingRules

end EffectModel
