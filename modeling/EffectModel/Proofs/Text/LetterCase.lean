import EffectModel.Proofs.Text.Character
import EffectModel.Text.LetterCase
import Mathlib.Data.List.Basic

/-! Lower-casing: what has been lowered stays as it is, and a letter lowers to letters, but for the
dotted capital I, which leaves its dot behind. -/
namespace EffectModel.Text

variable {shift : Shift} {c d : Char} {front back : List Char}

theorem isLower_of_isUpper (upper : isUpper c = true) : isLower c = false := by
  have apart : areApart upperRuns lowerRuns = true := by decide +kernel
  exact onSome_eq_false_of_areApart apart upper

/-- The capital I with a dot above, the one character that lowers to two. -/
def dottedI : Char := Char.ofNat 0x130

theorem toLower_dottedI : toLower dottedI = ['i', Char.ofNat 0x307] := by decide +kernel

/-- The characters that lower-casing changes. -/
def changingRuns : List Run := ⟨0x130, 0x130, 1⟩ :: lowerShifts.map Shift.run

theorem toLower_eq_self (unchanging : onSome changingRuns c = false) : toLower c = [c] := by
  simp only [onSome, changingRuns, List.any_cons, List.any_map, Bool.or_eq_false_iff] at unchanging
  obtain ⟨undotted, unshifted⟩ := unchanging
  have other : c.toNat ≠ 0x130 := by
    intro same
    simp [same, Run.holds] at undotted
  have none : lowerShifts.find? (fun shift => shift.run.holds c.toNat) = none := by
    rw [List.find?_eq_none]
    simpa [List.any_eq_false] using unshifted
  rw [toLower, if_neg other, none]

namespace Shift

/-- Where a shift takes the characters of its run. -/
def landing (shift : Shift) : Run where
  first := shift.image
  last := shift.image + (shift.run.last - shift.run.first)
  step := shift.run.step

def moved (shift : Shift) (c : Char) : Char :=
  Char.ofNat (shift.image + (c.toNat - shift.run.first))

theorem holds_landing (held : shift.run.holds c.toNat = true) :
    shift.landing.holds (shift.image + (c.toNat - shift.run.first)) = true := by
  obtain ⟨above, below, steps⟩ := Run.holds_iff.mp held
  simp only [Run.holds_iff, landing, Nat.add_sub_cancel_left]
  exact ⟨by omega, by omega, steps⟩

section Listed

variable (listed : shift ∈ lowerShifts) (held : shift.run.holds c.toNat = true)
include listed held

theorem exists_letters : ∃ letters ∈ letterRuns, letters.isOfCharacters = true ∧
    letters.holds (shift.image + (c.toNat - shift.run.first)) = true := by
  have onLetters : lowerShifts.all (fun shift =>
      letterRuns.any (fun run => shift.landing.within run && run.isOfCharacters)) = true := by
    decide +kernel
  obtain ⟨letters, listed', within⟩ :=
    List.any_eq_true.mp (List.all_eq_true.mp onLetters shift listed)
  rw [Bool.and_eq_true] at within
  exact ⟨letters, listed', within.2, Run.holds_of_within within.1 (holds_landing held)⟩

theorem toNat_moved : (shift.moved c).toNat = shift.image + (c.toNat - shift.run.first) := by
  obtain ⟨letters, _, characters, onLetters⟩ := exists_letters listed held
  rw [moved, Char.ofNat, dif_pos (Run.isValidChar_of_holds characters onLetters)]
  rfl

theorem isLetter_moved : isLetter (shift.moved c) = true := by
  obtain ⟨letters, listed', _, onLetters⟩ := exists_letters listed held
  rw [← toNat_moved listed held] at onLetters
  exact List.any_eq_true.mpr ⟨letters, listed', onLetters⟩

theorem onSome_landing_moved : onSome (lowerShifts.map landing) (shift.moved c) = true := by
  rw [onSome, List.any_eq_true, toNat_moved listed held]
  exact ⟨shift.landing, List.mem_map_of_mem listed, holds_landing held⟩

/-- No shift lands where another one begins, so that lowering twice is lowering once. -/
theorem toLower_moved : toLower (shift.moved c) = [shift.moved c] := by
  have settled : areApart (lowerShifts.map landing) changingRuns = true := by decide +kernel
  exact toLower_eq_self (onSome_eq_false_of_areApart settled (onSome_landing_moved listed held))

theorem isUpper_moved : isUpper (shift.moved c) = false := by
  have settled : areApart (lowerShifts.map landing) upperRuns = true := by decide +kernel
  exact onSome_eq_false_of_areApart settled (onSome_landing_moved listed held)

end Listed

end Shift

/-- What lower-casing makes of a character: the two of the dotted capital I, the character itself,
or what a shift moves it to. -/
theorem toLower_eq_or_moved (c : Char) : c = dottedI ∨ toLower c = [c] ∨
    ∃ shift ∈ lowerShifts, shift.run.holds c.toNat = true ∧ toLower c = [shift.moved c] := by
  by_cases dotted : c.toNat = 0x130
  · left
    rw [dottedI, ← dotted, Char.ofNat_toNat]
  · right
    cases found : lowerShifts.find? (fun shift => shift.run.holds c.toNat) with
    | none =>
      left
      rw [toLower, if_neg dotted, found]
    | some shift =>
      right
      have held : shift.run.holds c.toNat = true := by
        simpa using List.find?_some found
      refine ⟨shift, List.mem_of_find?_eq_some found, held, ?_⟩
      rw [toLower, if_neg dotted, found, Shift.moved]

/-- What a shift moves a character to is a letter that lower-casing leaves as it is. -/
theorem toLower_cases (c : Char) : c = dottedI ∨ toLower c = [c] ∨
    ∃ small, toLower c = [small] ∧ isLetter small = true ∧ toLower small = [small] := by
  rcases toLower_eq_or_moved c with dotted | same | ⟨shift, listed, held, moved⟩
  · exact .inl dotted
  · exact .inr (.inl same)
  · exact .inr (.inr ⟨_, moved, shift.isLetter_moved listed held, shift.toLower_moved listed held⟩)

/-- What lower-casing changes does not begin with a capital any more. -/
theorem toLower_eq_self_or_small (c : Char) : toLower c = [c] ∨
    ∃ small rest, toLower c = small :: rest ∧ isUpper small = false := by
  rcases toLower_eq_or_moved c with rfl | same | ⟨shift, listed, held, moved⟩
  · exact .inr ⟨_, _, toLower_dottedI, by decide +kernel⟩
  · exact .inl same
  · exact .inr ⟨_, _, moved, shift.isUpper_moved listed held⟩

theorem toLower_ne_nil (c : Char) : toLower c ≠ [] := by
  rcases toLower_cases c with rfl | same | ⟨small, lowered, -, -⟩
  · simp [toLower_dottedI]
  · simp [same]
  · simp [lowered]

theorem toLower_of_mem_toLower (member : d ∈ toLower c) : toLower d = [d] := by
  rcases toLower_cases c with rfl | same | ⟨small, lowered, -, settled⟩
  · rw [toLower_dottedI] at member
    rcases List.mem_pair.mp member with rfl | rfl <;> decide +kernel
  · rw [same, List.mem_singleton] at member
    rw [member, same]
  · rw [lowered, List.mem_singleton] at member
    rw [member, settled]

/-- The characters in lower case, each by itself. -/
def lowerAll (chars : List Char) : List Char := chars.flatMap toLower

theorem lowerAll_append : lowerAll (front ++ back) = lowerAll front ++ lowerAll back :=
  List.flatMap_append

theorem lowerAll_eq_self (lowered : ∀ d ∈ back, d ∈ lowerAll front) : lowerAll back = back := by
  induction back with
  | nil => rfl
  | cons d rest ih =>
    obtain ⟨c, _, member⟩ := List.mem_flatMap.mp (lowered d List.mem_cons_self)
    have settled : toLower d = [d] := toLower_of_mem_toLower member
    have rest' : lowerAll rest = rest := ih fun e held => lowered e (List.mem_cons_of_mem d held)
    rw [lowerAll, List.flatMap_cons, settled, ← lowerAll, rest', List.singleton_append]

end EffectModel.Text
