import EffectModel.TypeUse
import Mathlib.Data.List.Basic

namespace EffectModel

namespace TypeUse

variable {use inner : TypeUse} {name : String} {kind : TypeKind}

/-- The type is used with arguments, be they filled in or not. -/
def TakesArgs (use : TypeUse) : Prop := 0 < use.arity.toNat ∨ use.args ≠ []

/-- An argument is left out, or could not be understood. -/
def LacksArg (use : TypeUse) : Prop :=
  use.args.length < use.arity.toNat ∨ ∃ arg ∈ use.args, arg.kind = .error

theorem isError_iff : use.isError = true ↔ use.kind = .error := by simp [isError]

theorem isGeneric_iff : use.isGeneric = true ↔ use.TakesArgs := by
  rw [isGeneric, decide_eq_true_eq, slotCount, TakesArgs, ← List.length_pos_iff]
  omega

theorem hasUnresolvedArgs_iff : use.hasUnresolvedArgs = true ↔ use.LacksArg := by
  simp [hasUnresolvedArgs, LacksArg, isError_iff]

theorem exists_arg (takes : use.TakesArgs) (full : ¬ use.LacksArg) :
    ∃ inner rest, use.args = inner :: rest := by
  apply List.exists_cons_of_ne_nil
  intro none
  rcases takes with slots | some
  · exact full (.inl (by simpa [none] using slots))
  · exact some none

section Display

/-- Whether a text ends as that of a marked type does. -/
def EndsInMark (text : String) : Prop := text.toList.getLast? = some '?'

instance {text : String} : Decidable (EndsInMark text) := inferInstanceAs (Decidable (_ = _))

theorem renderAll_eq_map (label : TypeUse → String) (uses : List TypeUse) :
    renderAll label uses = uses.map (render label) := by
  induction uses with
  | nil => rfl
  | cons use rest ih => rw [renderAll, ih, List.map_cons]

theorem display_eq (use : TypeUse) : use.display =
    use.name ++ angled (use.args.map display) use.arity.toNat ++ if use.nullable then "?" else "" := by
  obtain ⟨name, scope, kind, args, arity, nullable, declaration⟩ := use
  rw [display, render, renderAll_eq_map]
  rfl

theorem angled_of_plain (bare : ¬ use.TakesArgs) :
    angled (use.args.map display) use.arity.toNat = "" := by
  simp only [TakesArgs, not_or, Nat.not_lt, Nat.le_zero, Decidable.not_not] at bare
  simp [angled, bare]

theorem angled_of_takesArgs (takes : use.TakesArgs) :
    ∃ listed, angled (use.args.map display) use.arity.toNat = listed ++ ">" := by
  have some : ¬ ((use.args.map display).isEmpty && use.arity.toNat == 0) = true := by
    simp only [List.isEmpty_map, Bool.and_eq_true, List.isEmpty_iff, beq_iff_eq]
    rintro ⟨none, zero⟩
    rcases takes with slots | args
    · omega
    · exact args none
  rw [angled, if_neg some]
  exact ⟨_, rfl⟩

/-- The expression of a type ends in a question mark if the type is marked, or else by its name. -/
theorem endsInMark_display_iff : EndsInMark use.display ↔
    use.nullable = true ∨ ¬ use.TakesArgs ∧ EndsInMark use.name := by
  rw [display_eq]
  cases marker : use.nullable with
  | true => simp [EndsInMark]
  | false =>
    by_cases takes : use.TakesArgs
    · obtain ⟨listed, angled⟩ := angled_of_takesArgs takes
      simp [EndsInMark, angled, takes]
    · simp [EndsInMark, angled_of_plain takes, takes]

theorem display_generic_singleton :
    (generic name kind [inner]).display = name ++ "<" ++ inner.display ++ ">" := by
  rw [display_eq]
  simp [generic, named, angled, String.append_assoc]

end Display

end TypeUse

end EffectModel
