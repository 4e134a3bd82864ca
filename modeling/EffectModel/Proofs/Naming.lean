import EffectModel.Module.Naming
import EffectModel.Proofs.Text.LetterCase
import Mathlib.Data.List.TakeWhile

/-! Names in camel case. Main statement: a leading part of a name is lowered and the rest kept, so
that names with one camel case form differ in case alone, and only in a leading part. -/
namespace EffectModel.Naming

open Text (isUpper isLower toLower lowerAll)

variable {atStart : Bool} {c : Char} {chars rest : List Char} {first second : String}

section CamelCase

/-- The leading capitals that are lowered: all of them, but for the last where a small letter
follows, as it begins the next word. At the start of a name one capital by itself is lowered even so. -/
def loweredCapitals (atStart : Bool) (chars : List Char) : List Char :=
  let capitals := chars.takeWhile isUpper
  if (atStart → 2 ≤ capitals.length) ∧ (chars.dropWhile isUpper).head?.any isLower then
    capitals.dropLast
  else capitals

theorem isPrefix_loweredCapitals : loweredCapitals atStart chars <+: chars := by
  have capitals : chars.takeWhile isUpper <+: chars := List.takeWhile_prefix isUpper
  unfold loweredCapitals
  dsimp only
  split
  · exact (List.dropLast_prefix _).trans capitals
  · exact capitals

theorem isUpper_of_mem_loweredCapitals (member : c ∈ loweredCapitals atStart chars) :
    isUpper c = true := by
  have capital : c ∈ chars.takeWhile isUpper := by
    unfold loweredCapitals at member
    dsimp only at member
    split at member
    · exact (List.dropLast_sublist _).subset member
    · exact member
  exact List.mem_takeWhile_imp capital

theorem loweredCapitals_of_not_isUpper (other : chars.head?.any isUpper = false) :
    loweredCapitals atStart chars = [] := by
  have none : chars.takeWhile isUpper = [] := by
    cases chars with
    | nil => rfl
    | cons c rest => exact List.takeWhile_cons_of_neg (by simpa using other)
  simp [loweredCapitals, none]

theorem loweredCapitals_cons (upper : isUpper c = true) :
    loweredCapitals atStart (c :: rest) =
      if !atStart && rest.head?.any isLower then [] else c :: loweredCapitals false rest := by
  have capitals : (c :: rest).takeWhile isUpper = c :: rest.takeWhile isUpper :=
    List.takeWhile_cons_of_pos upper
  have remains : (c :: rest).dropWhile isUpper = rest.dropWhile isUpper :=
    List.dropWhile_cons_of_pos upper
  cases rest with
  | nil => simp [loweredCapitals, upper]
  | cons d more =>
    by_cases again : isUpper d = true
    · have capitals' : (d :: more).takeWhile isUpper = d :: more.takeWhile isUpper :=
        List.takeWhile_cons_of_pos again
      -- the small letter that may keep the last capital comes after both of these
      by_cases small : ((d :: more).dropWhile isUpper).head?.any isLower = true
      · simp [loweredCapitals, capitals, remains, capitals', Text.isLower_of_isUpper again, small]
      · simp [loweredCapitals, capitals, remains, capitals', Text.isLower_of_isUpper again, small]
    · have capitals' : (d :: more).takeWhile isUpper = [] := List.takeWhile_cons_of_neg again
      have remains' : (d :: more).dropWhile isUpper = d :: more := List.dropWhile_cons_of_neg again
      simp [loweredCapitals, capitals, remains, capitals', remains']

/-- The look-ahead of one character that lowering goes by finds the end of the leading capitals. -/
theorem lowerLeading_eq (atStart : Bool) (chars : List Char) : lowerLeading atStart chars =
    lowerAll (loweredCapitals atStart chars) ++
      chars.drop (loweredCapitals atStart chars).length := by
  induction chars generalizing atStart with
  | nil => simp [lowerLeading, loweredCapitals, lowerAll]
  | cons c rest ih =>
    by_cases upper : isUpper c = true
    · rw [lowerLeading, if_pos upper, loweredCapitals_cons upper]
      split
      · simp [lowerAll]
      · simp [ih, lowerAll]
    · have other : (c :: rest).head?.any isUpper = false := by simpa using upper
      rw [lowerLeading, if_neg upper, loweredCapitals_of_not_isUpper other]
      simp [lowerAll]

theorem toList_camelCase (name : String) : (camelCase name).toList =
    lowerAll (loweredCapitals true name.toList) ++
      name.toList.drop (loweredCapitals true name.toList).length := by
  rw [camelCase, String.toList_ofList, lowerLeading_eq]

theorem camelCase_ne_empty {name : String} (named : name ≠ "") : camelCase name ≠ "" := by
  rw [ne_eq, ← String.toList_inj, toList_camelCase, String.toList_empty]
  cases lowered : loweredCapitals true name.toList with
  | nil => simpa [lowerAll] using named
  | cons c rest => simp [lowerAll, Text.toLower_ne_nil]

example : loweredCapitals true "HTTPClient".toList = "HTTP".toList := by decide +kernel

theorem loweredCapitals_append_drop (chars : List Char) :
    loweredCapitals atStart chars ++ chars.drop (loweredCapitals atStart chars).length = chars :=
  List.prefix_iff_eq_append.mp isPrefix_loweredCapitals

theorem exists_capitals_of_camelCase (name : String) : ∃ capitals rest,
    name.toList = capitals ++ rest ∧ (camelCase name).toList = lowerAll capitals ++ rest ∧
      capitals.all isUpper = true := by
  refine ⟨loweredCapitals true name.toList, _, (loweredCapitals_append_drop name.toList).symm,
    toList_camelCase name, ?_⟩
  rw [List.all_eq_true]
  exact fun c member => isUpper_of_mem_loweredCapitals member

end CamelCase

/-- Two names that differ at most in the case of a leading part, which one of them has in capitals
throughout. -/
def DifferInCase (first second : String) : Prop :=
  ∃ front front' rest, first.toList = front ++ rest ∧ second.toList = front' ++ rest ∧
    lowerAll front = lowerAll front' ∧ (front.all isUpper ∨ front'.all isUpper)

theorem DifferInCase.symm (differ : DifferInCase first second) : DifferInCase second first := by
  obtain ⟨front, front', rest, split, split', same, capitals⟩ := differ
  exact ⟨front', front, rest, split', split, same.symm, capitals.symm⟩

/-- Where the lowered capitals of one name go further than those of another one, they go on in small
letters that the other one has already. -/
theorem differInCase_of_longer {capitals capitals' between : List Char}
    (split : first.toList = capitals ++ (between ++ rest))
    (split' : second.toList = capitals' ++ rest)
    (further : lowerAll capitals' = lowerAll capitals ++ between)
    (upper : capitals'.all isUpper = true) : DifferInCase first second := by
  have lowered : ∀ d ∈ between, d ∈ lowerAll capitals' := by
    intro d member
    rw [further]
    exact List.mem_append_right _ member
  have small : lowerAll between = between := Text.lowerAll_eq_self lowered
  refine ⟨capitals ++ between, capitals', rest, ?_, split', ?_, .inr upper⟩
  · rw [split, List.append_assoc]
  · rw [Text.lowerAll_append, small, further]

/-- Names with one camel case form differ in case alone. -/
theorem differInCase_of_camelCase_eq (same : camelCase first = camelCase second) :
    DifferInCase first second := by
  obtain ⟨capitals, rest, split, lowered, upper⟩ := exists_capitals_of_camelCase first
  obtain ⟨capitals', rest', split', lowered', upper'⟩ := exists_capitals_of_camelCase second
  have chars : lowerAll capitals ++ rest = lowerAll capitals' ++ rest' := by
    rw [← lowered, ← lowered', same]
  -- what is lowered of one name begins what is lowered of the other one
  rcases List.append_eq_append_iff.mp chars with ⟨between, further, rfl⟩ | ⟨between, further, rfl⟩
  · exact differInCase_of_longer split split' further upper'
  · exact (differInCase_of_longer split' split further upper).symm

/-- What differs in case alone is one name when case is left out. -/
theorem lowerAll_eq_of_differInCase (differ : DifferInCase first second) :
    lowerAll first.toList = lowerAll second.toList := by
  obtain ⟨front, front', rest, split, split', same, -⟩ := differ
  rw [split, split', Text.lowerAll_append, Text.lowerAll_append, same]

/-- A name loses a suffix to something that is left before it, or not at all. -/
theorem withoutSuffix_cases (name suffix : String) : withoutSuffix name suffix = name ∨
    withoutSuffix name suffix ≠ "" ∧ name = withoutSuffix name suffix ++ suffix := by
  unfold withoutSuffix
  split
  · next stem ends =>
    by_cases none : stem = []
    · simp [none]
    · right
      have split : stem ++ suffix.toList = name.toList :=
        List.isSuffixOf?_eq_some_iff_append_eq.mp ends
      simp [none, ← String.toList_inj, split]
  · exact .inl rfl

end EffectModel.Naming
