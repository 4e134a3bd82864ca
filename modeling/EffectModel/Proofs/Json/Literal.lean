import EffectModel.Json.Reader
import EffectModel.Json.Writer
import Mathlib.Data.List.Basic
import Mathlib.Data.Option.Basic

/-! Literals in JSON texts. Main statements: texts and numbers are read as they were written, and what
stands behind them is left. -/
namespace EffectModel.Json

variable {rest : List Char} {c : Char} {value digits : Nat} {text : String}

section Texts

/-- The unit of a string literal that a written character is read as. -/
def pieceOf (c : Char) : Piece :=
  if c.toNat < 0x20 ∧ c ∉ ['\x08', '\x0c', '\n', '\r', '\t'] then .unit c.toNat else .plain c

theorem hexNumber_hexLetter : ∀ code < 0x20,
    hexNumber ['0', '0', hexLetter (code / 16), hexLetter (code % 16)] = some code := by
  decide

private theorem readPieces_short {letter : Char} (short : unescape letter = some c)
    (rest : List Char) : readPieces ('\\' :: letter :: rest) =
      (readPieces rest).map (fun (pieces, rest) => (.plain c :: pieces, rest)) := by
  have noCode : letter ≠ 'u' := by
    rintro rfl
    cases short
  rw [readPieces.eq_4 _ _ (fun _ _ _ _ _ same => absurd same noCode), short]
  cases readPieces rest <;> rfl

theorem readPieces_escape (c : Char) (rest : List Char) : readPieces (escape c ++ rest) =
    (readPieces rest).map (fun (pieces, rest) => (pieceOf c :: pieces, rest)) := by
  unfold escape
  split_ifs with quote backslash backspace feed newline return' tab control
  all_goals simp only [beq_iff_eq] at *
  · subst quote
    exact readPieces_short rfl rest
  · subst backslash
    exact readPieces_short rfl rest
  · subst backspace
    exact readPieces_short rfl rest
  · subst feed
    exact readPieces_short rfl rest
  · subst newline
    exact readPieces_short rfl rest
  · subst return'
    exact readPieces_short rfl rest
  · subst tab
    exact readPieces_short rfl rest
  · have coded : pieceOf c = .unit c.toNat := by simp [pieceOf, *]
    rw [coded]
    simp only [List.cons_append, List.nil_append, readPieces, hexNumber_hexLetter _ control]
    cases readPieces rest <;> rfl
  · have plain : pieceOf c = .plain c := by simp [pieceOf, control]
    rw [plain, List.singleton_append, readPieces.eq_5 _ _ quote
      (fun _ _ _ _ _ same => absurd same backslash) (fun _ _ same => absurd same backslash)]
    have shown : guard (0x20 ≤ c.toNat) = some () := by simp [guard, Nat.not_lt.mp control]
    rw [shown]
    cases readPieces rest <;> rfl

theorem readPieces_flatMap_escape (chars rest : List Char) :
    readPieces (chars.flatMap escape ++ '"' :: rest) = some (chars.map pieceOf, rest) := by
  induction chars with
  | nil => rfl
  | cons c chars ih => simp [readPieces_escape, ih]

private theorem joinPieces_unit {code : Nat} (small : code < 0xD800) (pieces : List Piece) :
    joinPieces (.unit code :: pieces) = (joinPieces pieces).map (Char.ofNat code :: ·) := by
  have noHigh : ¬ 0xD800 ≤ code := by omega
  have noLow : ¬ 0xDC00 ≤ code := by omega
  cases pieces with
  | nil => simp [joinPieces, noHigh]
  | cons piece pieces => cases piece <;> simp [joinPieces, noHigh, noLow]

theorem joinPieces_pieceOf (chars : List Char) : joinPieces (chars.map pieceOf) = some chars := by
  induction chars with
  | nil => rfl
  | cons c chars ih =>
    rw [List.map_cons, pieceOf]
    split
    · rename_i coded
      rw [joinPieces_unit (by omega), ih, Char.ofNat_toNat]
      rfl
    · rw [joinPieces, ih]
      rfl

theorem readText_quote (text : String) (rest : List Char) :
    readText (text.toList.flatMap escape ++ '"' :: rest) = some (some text, rest) := by
  simp [readText, readPieces_flatMap_escape, joinPieces_pieceOf]

end Texts

section Numbers

/-- What stands behind a number and cannot belong to it. -/
def EndsNumber (rest : List Char) : Prop :=
  ∀ c, rest.head? = some c → c.isDigit = false ∧ c ≠ '.' ∧ c ≠ 'e' ∧ c ≠ 'E'

theorem toList_toString (value : Nat) : (toString value).toList = Nat.toDigits 10 value := by
  rw [Nat.toString_eq_ofList_toDigits, String.toList_ofList]

theorem decimal_toDigits (value : Nat) : decimal (Nat.toDigits 10 value) = value := by
  rw [decimal, ← Nat.ofDigitChars_eq_foldl, Nat.ofDigitChars_ten_toDigits]

/-- Only zero is written with a zero in front. -/
theorem head?_toDigits_ne_zero (positive : value ≠ 0) : (Nat.toDigits 10 value).head? ≠ some '0' := by
  induction value using Nat.strongRecOn with
  | ind value ih =>
    by_cases small : value < 10
    · rw [Nat.toDigits_of_lt_base small]
      have digits : ∀ digit < 10, digit ≠ 0 → ([digit.digitChar] : List Char).head? ≠ some '0' := by
        decide
      exact digits value small positive
    · rw [Nat.toDigits_of_base_le (by omega) (by omega), List.head?_append_of_ne_nil _
        Nat.toDigits_ne_nil]
      exact ih (value / 10) (by omega) (by omega)

theorem readDigits_toDigits (value : Nat) (ends : ∀ c, rest.head? = some c → c.isDigit = false) :
    readDigits (Nat.toDigits 10 value ++ rest) = some (Nat.toDigits 10 value, rest) := by
  have digits : ∀ c ∈ Nat.toDigits 10 value, c.isDigit = true := fun c member =>
    Nat.isDigit_of_mem_toDigits (by omega) (by omega) member
  have taken : rest.takeWhile Char.isDigit = [] ∧ rest.dropWhile Char.isDigit = rest := by
    cases rest with
    | nil => exact ⟨rfl, rfl⟩
    | cons c rest => simp [ends c rfl]
  rw [readDigits, List.takeWhile_append_of_pos digits, List.dropWhile_append_of_pos digits, taken.1,
    taken.2, List.append_nil]
  cases written : Nat.toDigits 10 value with
  | nil => exact (Nat.toDigits_ne_nil written).elim
  | cons => rfl

theorem isAllowed_toDigits (value : Nat) :
    (Nat.toDigits 10 value).head? ≠ some '0' ∨ (Nat.toDigits 10 value).length = 1 := by
  by_cases zero : value = 0
  · subst zero
    exact .inr rfl
  · exact .inl (head?_toDigits_ne_zero zero)

theorem readFraction_of_ends (ends : rest.head? ≠ some '.') :
    readFraction rest = some (none, rest) := by
  cases rest with
  | nil => rfl
  | cons c rest =>
    rw [readFraction]
    intro _ same
    cases same
    exact ends rfl

theorem readExponent_of_ends (ends : rest.head? ≠ some 'e') (ends' : rest.head? ≠ some 'E') :
    readExponent rest = some (none, rest) := by
  cases rest with
  | nil => rfl
  | cons c rest =>
    have other : c ≠ 'e' := fun same => ends (same ▸ rfl)
    have other' : c ≠ 'E' := fun same => ends' (same ▸ rfl)
    simp [readExponent.eq_def, other, other']

theorem toList_toString_ofNat (value : Nat) :
    (toString (Int.ofNat value)).toList = Nat.toDigits 10 value :=
  toList_toString value

theorem toList_toString_negSucc (value : Nat) :
    (toString (Int.negSucc value)).toList = '-' :: Nat.toDigits 10 (value + 1) := by
  have signed : toString (Int.negSucc value) = "-" ++ toString (value + 1) := rfl
  rw [signed, String.toList_append, toList_toString]
  rfl

theorem exists_toDigits (value : Nat) :
    ∃ first others, Nat.toDigits 10 value = first :: others ∧ first.isDigit = true := by
  cases written : Nat.toDigits 10 value with
  | nil => exact (Nat.toDigits_ne_nil written).elim
  | cons first others =>
    have digit : first.isDigit = true :=
      Nat.isDigit_of_mem_toDigits (b := 10) (n := value) (by omega) (by omega) (by simp [written])
    exact ⟨first, others, rfl, digit⟩

theorem toDigits_append_ne_cons (other : c.isDigit = false) (tail : List Char) :
    Nat.toDigits 10 value ++ rest ≠ c :: tail := by
  intro same
  obtain ⟨first, others, written, digit⟩ := exists_toDigits value
  rw [written, List.cons_append, List.cons.injEq] at same
  rw [same.1, other] at digit
  cases digit

theorem readExponent_toString (exponent : Int)
    (ends : ∀ c, rest.head? = some c → c.isDigit = false) :
    readExponent ('e' :: ((toString exponent).toList ++ rest)) = some (some exponent, rest) := by
  cases exponent with
  | ofNat value =>
    rw [toList_toString_ofNat, readExponent.eq_3 _ _ (toDigits_append_ne_cons rfl)
      (toDigits_append_ne_cons rfl), readDigits_toDigits value ends]
    simp [decimal_toDigits]
  | negSucc value =>
    rw [toList_toString_negSucc, List.cons_append, readExponent.eq_1,
      readDigits_toDigits (value + 1) ends]
    simp [decimal_toDigits, Int.negSucc_eq]

theorem readUnsigned_int (negative : Bool) (value : Nat) (ends : EndsNumber rest) :
    readUnsigned negative (Nat.toDigits 10 value ++ rest) =
      if negative then
        if value = 0 then some (.real 0 0, rest) else some (.int (-(value : Int)), rest)
      else some (.int value, rest) := by
  have unbroken : rest.head? ≠ some '.' := fun first => (ends _ first).2.1 rfl
  have unscaled : rest.head? ≠ some 'e' := fun first => (ends _ first).2.2.1 rfl
  have unscaled' : rest.head? ≠ some 'E' := fun first => (ends _ first).2.2.2 rfl
  rw [readUnsigned, readDigits_toDigits value fun c first => (ends c first).1]
  simp [guard, isAllowed_toDigits, readFraction_of_ends unbroken,
    readExponent_of_ends unscaled unscaled', decimal_toDigits]

theorem readUnsigned_real (digits : Nat) (exponent : Int) (ends : EndsNumber rest) :
    readUnsigned false (Nat.toDigits 10 digits ++ 'e' :: ((toString exponent).toList ++ rest)) =
      some (.real digits exponent, rest) := by
  have unbroken : readFraction ('e' :: ((toString exponent).toList ++ rest)) =
      some (none, 'e' :: ((toString exponent).toList ++ rest)) := readFraction_of_ends (by simp)
  have scaled := readExponent_toString exponent fun c first => (ends c first).1
  rw [readUnsigned, readDigits_toDigits digits (by simp)]
  generalize 'e' :: ((toString exponent).toList ++ rest) = tail at unbroken scaled ⊢
  simp [guard, isAllowed_toDigits, unbroken, scaled, decimal_toDigits]

/-- A number begins with a digit or a minus sign. -/
def BeginsNumber (chars : List Char) : Prop :=
  ∃ first others, chars = first :: others ∧ (first.isDigit = true ∨ first = '-')

theorem beginsNumber_toDigits (value : Nat) (rest : List Char) :
    BeginsNumber (Nat.toDigits 10 value ++ rest) := by
  obtain ⟨first, others, written, digit⟩ := exists_toDigits value
  exact ⟨first, others ++ rest, by rw [written, List.cons_append], .inl digit⟩

theorem beginsNumber_int (value : Int) (rest : List Char) :
    BeginsNumber ((toString value).toList ++ rest) := by
  cases value with
  | ofNat value => exact toList_toString_ofNat value ▸ beginsNumber_toDigits value rest
  | negSucc value =>
    rw [toList_toString_negSucc]
    exact ⟨'-', _, rfl, .inr rfl⟩

theorem readNumber_int (value : Int) (ends : EndsNumber rest) :
    readNumber ((toString value).toList ++ rest) = some (.int value, rest) := by
  cases value with
  | ofNat value =>
    rw [toList_toString_ofNat, readNumber.eq_2 _ (toDigits_append_ne_cons rfl),
      readUnsigned_int false value ends]
    rfl
  | negSucc value =>
    rw [toList_toString_negSucc, List.cons_append, readNumber, readUnsigned_int true _ ends]
    simp [Int.negSucc_eq]

theorem readNumber_real (digits : Nat) (exponent : Int) (ends : EndsNumber rest) :
    readNumber ((toString digits).toList ++ 'e' :: ((toString exponent).toList ++ rest)) =
      some (.real digits exponent, rest) := by
  rw [toList_toString, readNumber.eq_2 _ (toDigits_append_ne_cons rfl),
    readUnsigned_real digits exponent ends]

end Numbers

end EffectModel.Json
