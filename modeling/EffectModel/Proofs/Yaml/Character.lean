import EffectModel.Yaml.Writer
import Mathlib.Algebra.GroupWithZero.Nat
import Mathlib.Data.List.Basic

namespace EffectModel.Yaml

variable {c : Char} {chars front rest : List Char} {cursor : Cursor}

theorem isAllowed_of_isPrintable (shown : isPrintable c = true) : isAllowed c = true := by
  simp only [isPrintable, isAllowed, Bool.or_eq_true, Bool.and_eq_true, decide_eq_true_eq,
    beq_iff_eq] at *
  rcases shown with ((feed | ascii) | ⟨wide, _⟩) | astral
  · simp [feed]
  · simp [ascii]
  · simp [wide]
  · simp [astral]

/-- Of the gaps only the space is written as it is. -/
theorem eq_space_of_isGap (shown : isPrintable c = true) (gap : isGap c = true) : c = ' ' := by
  simp only [isGap, Bool.or_eq_true, beq_iff_eq] at gap
  rcases gap with rfl | rfl
  · rfl
  · simp [isPrintable] at shown

theorem not_isBreak_of_isGap (gap : isGap c = true) : isBreak c = false := by
  simp only [isGap, Bool.or_eq_true, beq_iff_eq] at gap
  rcases gap with rfl | rfl <;> decide

namespace Cursor

@[simp] theorem advance_rest (count : Nat) : (cursor.advance count).rest = cursor.rest.drop count :=
  rfl

@[simp] theorem advance_column (count : Nat) :
    (cursor.advance count).column = cursor.column + count := rfl

theorem bytesAhead_eq_sum (cursor : Cursor) (count : Nat) :
    cursor.bytesAhead count = ((cursor.rest.take count).map Char.utf8Size).sum := by
  rw [bytesAhead, List.sum]

@[simp] theorem advance_zero (cursor : Cursor) : cursor.advance 0 = cursor := by
  simp [advance, bytesAhead]

theorem advance_advance (cursor : Cursor) (first second : Nat) :
    (cursor.advance first).advance second = cursor.advance (first + second) := by
  simp [advance, bytesAhead_eq_sum, List.take_add, Nat.add_assoc]

theorem advance_append (split : cursor.rest = front ++ rest) :
    (cursor.advance front.length).rest = rest := by
  rw [advance_rest, split, List.drop_left]

theorem readBreak_eq (at_break : cursor.rest = c :: rest) (ends : isBreak c = true)
    (shown : isPrintable c = true) :
    cursor.readBreak.1 = [c] ∧ cursor.skipBreak.rest = rest ∧ cursor.skipBreak.column = 0 := by
  have possible : c = '\n' ∨ c = '\u2028' ∨ c = '\u2029' := by
    simp only [isBreak, Bool.or_eq_true, beq_iff_eq] at ends
    rcases ends with (((rfl | rfl) | rfl) | rfl) | rfl
    · exact .inl rfl
    · simp [isPrintable] at shown
    · simp [isPrintable] at shown
    · exact .inr (.inl rfl)
    · exact .inr (.inr rfl)
  rcases possible with rfl | rfl | rfl <;>
    simp [skipBreak, readBreak, at_break, isBreak]

end Cursor

end EffectModel.Yaml
