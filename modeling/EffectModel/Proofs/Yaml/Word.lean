import EffectModel.Proofs.Json.Literal
import EffectModel.Proofs.Yaml.Unquoted

namespace EffectModel.Yaml

variable {c : Char} {chars digits : List Char} {value : Nat}

section Digits

theorem exists_digitChar (digit : c.isDigit = true) : ∃ value < 10, c = Nat.digitChar value := by
  simp only [Char.isDigit, Bool.and_eq_true, decide_eq_true_eq, ge_iff_le] at digit
  have least : 48 ≤ c.toNat := digit.1
  have greatest : c.toNat ≤ 57 := digit.2
  refine ⟨c.toNat - 48, by omega, Char.toNat_inj.mp ?_⟩
  rw [Nat.toNat_digitChar_of_lt_ten (by omega)]
  omega

theorem hexDigit_of_isDigit (digit : c.isDigit = true) :
    Json.hexDigit c = some (c.toNat - '0'.toNat) ∧ c.toNat - '0'.toNat < 10 := by
  obtain ⟨value, small, rfl⟩ := exists_digitChar digit
  have each : ∀ value < 10, Json.hexDigit (Nat.digitChar value) =
      some ((Nat.digitChar value).toNat - '0'.toNat) ∧
        (Nat.digitChar value).toNat - '0'.toNat < 10 := by decide
  exact each value small

end Digits

section Unmarked

/-- A character that is no mark of any kind, neither of a structure nor of a sign. -/
structure IsUnmarked (c : Char) : Prop where
  shown : isPrintable c = true
  line : isBreak c = false
  solid : isGap c = false
  outsideFlow : isFlowIndicator c = false
  noIndicator : "#&*!|>'\"%@\x60".toList.contains c = false
  noSign : c ∉ ['-', '.', '?', ':', '#', '+']

def mayBeUnmarked (c : Char) : Bool :=
  isPrintable c && !isBreak c && !isGap c && !isFlowIndicator c
    && !"#&*!|>'\"%@\x60".toList.contains c && !(List.contains ['-', '.', '?', ':', '#', '+'] c)

theorem isUnmarked_of_mayBeUnmarked (checked : mayBeUnmarked c = true) : IsUnmarked c := by
  simp only [mayBeUnmarked, Bool.and_eq_true, Bool.not_eq_true'] at checked
  obtain ⟨⟨⟨⟨⟨shown, line⟩, solid⟩, outsideFlow⟩, noIndicator⟩, noSign⟩ := checked
  exact ⟨shown, line, solid, outsideFlow, noIndicator, by simpa using noSign⟩

theorem IsUnmarked.isSpace (unmarked : IsUnmarked c) : Spelling.isSpace c = false := by
  have solid := unmarked.solid
  rw [isGap, Bool.or_eq_false_iff] at solid
  exact solid.1

theorem isUnmarked_of_isDigit (digit : c.isDigit = true) : IsUnmarked c := by
  obtain ⟨value, small, rfl⟩ := exists_digitChar digit
  have each : ∀ value < 10, mayBeUnmarked (Nat.digitChar value) = true := by decide
  exact isUnmarked_of_mayBeUnmarked (each value small)

theorem isUnmarked_of_isLower (lower : c.isLower = true) : IsUnmarked c := by
  obtain ⟨least, greatest⟩ := Bool.and_eq_true_iff.mp lower
  have least : 97 ≤ c.toNat := of_decide_eq_true least
  have greatest : c.toNat ≤ 122 := of_decide_eq_true greatest
  have each : ∀ place < 26, mayBeUnmarked (Char.ofNat (97 + place)) = true := by decide
  have unmarked := each (c.toNat - 97) (by omega)
  rw [Nat.add_sub_cancel' least, Char.ofNat_toNat] at unmarked
  exact isUnmarked_of_mayBeUnmarked unmarked

variable (unmarked : ∀ c ∈ chars, IsUnmarked c)
include unmarked

theorem hasIndicator_unmarked : Spelling.hasIndicator chars = false := by
  induction chars with
  | nil => rfl
  | cons c rest ih =>
    have further := ih fun d held => unmarked d (.tail c held)
    cases rest with
    | nil => rfl
    | cons d rest =>
      have noSign := (unmarked d (by simp)).noSign
      simp only [List.mem_cons, not_or] at noSign
      simp [Spelling.hasIndicator, further, noSign]

/-- Characters that are no marks may be plain. -/
theorem isPlain_unmarked : IsPlain chars where
  starts := by
    unfold Spelling.startsStructure
    split
    next => simpa using (unmarked _ List.mem_cons_self).noSign
    next => simpa using (unmarked _ List.mem_cons_self).noSign
    next c rest _ _ =>
      have first := unmarked c List.mem_cons_self
      have noSign := first.noSign
      simp only [List.mem_cons, not_or] at noSign
      simp only [first.outsideFlow, first.noIndicator, Bool.false_or]
      simp [noSign]
    next => rfl
  indicator := hasIndicator_unmarked unmarked
  shown := fun c held => (unmarked c held).shown
  line := fun c held => (unmarked c held).line
  first := by
    cases chars with
    | nil => rfl
    | cons c rest => exact (unmarked c List.mem_cons_self).isSpace
  last := by
    cases last : chars.getLast? with
    | none => rfl
    | some c => exact (unmarked c (List.mem_of_getLast? last)).isSpace

end Unmarked

section Numbers

variable (allDigits : ∀ c ∈ digits, c.isDigit = true)
include allDigits

theorem foldlM_digits (value : Nat) :
    digits.foldlM (fun value digit => ((Json.hexDigit digit).filter (· < 10)).map (10 * value + ·))
        value =
      some (digits.foldl (fun value digit => 10 * value + (digit.toNat - '0'.toNat)) value) := by
  induction digits generalizing value with
  | nil => rfl
  | cons c rest ih =>
    obtain ⟨read, small⟩ := hexDigit_of_isDigit (allDigits c (by simp))
    have one : ((Json.hexDigit c).filter (· < 10)).map (10 * value + ·) =
        some (10 * value + (c.toNat - '0'.toNat)) := by
      rw [read, Option.filter_some, if_pos (by simpa using small), Option.map_some]
    rw [List.foldlM_cons, one, List.foldl_cons]
    exact ih (fun d held => allDigits d (.tail c held)) _

theorem readMagnitude_digits (nonempty : digits ≠ [])
    (leads : digits.head? ≠ some '0' ∨ digits.length = 1) :
    Plain.readMagnitude digits = some (Json.decimal digits) := by
  have zeros : Plain.hasLeadingZero digits = false := by
    rcases leads with other | one
    · simp [Plain.hasLeadingZero, other]
    · simp [Plain.hasLeadingZero, one]
  have some_digit : digits.isEmpty = false := by simpa using nonempty
  have decimal : Plain.readDigits 10 digits = some (Json.decimal digits) := by
    rw [Plain.readDigits, some_digit]
    exact foldlM_digits allDigits 0
  -- Digits hold no letter that could be the mark of another base.
  unfold Plain.readMagnitude
  split
  next => simpa using allDigits 'x' (by simp)
  next => simpa using allDigits 'o' (by simp)
  next => simpa using allDigits 'b' (by simp)
  next => simp [zeros, decimal]

theorem splitSign_digits : Plain.splitSign digits = (none, digits) := by
  unfold Plain.splitSign
  split
  next => simpa using allDigits '+' (by simp)
  next => simpa using allDigits '-' (by simp)
  next => rfl

end Numbers

section Words

theorem isDigit_toString (value : Nat) : ∀ c ∈ (toString value).toList, c.isDigit = true := by
  rw [Json.toList_toString]
  exact fun c held => Nat.isDigit_of_mem_toDigits (by omega) (by omega) held

theorem toString_ne_empty (value : Nat) : (toString value).toList ≠ [] := by
  rw [Json.toList_toString]
  exact Nat.toDigits_ne_nil

/-- A number is read as it was written. -/
theorem readNat_toString (value : Nat) : Plain.readNat (toString value) = some value := by
  have magnitude : Plain.readMagnitude (toString value).toList = some value := by
    rw [readMagnitude_digits (isDigit_toString value) (toString_ne_empty value)]
    · rw [Json.toList_toString, Json.decimal_toDigits]
    · rw [Json.toList_toString]
      exact Json.isAllowed_toDigits value
  simp only [Plain.readNat, splitSign_digits (isDigit_toString value), magnitude]
  rfl

theorem isPlain_toString (value : Nat) : IsPlain (toString value).toList :=
  isPlain_unmarked fun c held => isUnmarked_of_isDigit (isDigit_toString value c held)

theorem isPlain_toString_bool (value : Bool) : IsPlain (toString value).toList := by
  cases value <;> exact isPlain_of_allowsPlain rfl

theorem readBool_toString (value : Bool) : Plain.readBool (toString value) = some value := by
  cases value <;> rfl

end Words

end EffectModel.Yaml
