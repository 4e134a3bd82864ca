import EffectModel.Proofs.Naming

namespace EffectModel

namespace Text

variable {c : Char} {front back : List Char}

theorem lowerAll_eq_self_of_forall (settled : ∀ c ∈ front, toLower c = [c]) :
    lowerAll front = front := by
  induction front with
  | nil => rfl
  | cons c rest ih =>
    have rest' : lowerAll rest = rest := ih fun d member => settled d (List.mem_cons_of_mem c member)
    rw [lowerAll, List.flatMap_cons, settled c List.mem_cons_self, ← lowerAll, rest',
      List.singleton_append]

/-- In lowered characters, those in front of the first one that was changed are settled, and that one
does not begin with a capital. -/
theorem exists_settled (front : List Char) : ∃ settled, (∀ c ∈ settled, toLower c = [c]) ∧
    (settled = front ∨
      ∃ small rest, lowerAll front = settled ++ small :: rest ∧ isUpper small = false) := by
  induction front with
  | nil => exact ⟨[], by simp, .inl rfl⟩
  | cons c front ih =>
    rcases toLower_eq_self_or_small c with same | ⟨small, rest, lowered, other⟩
    · obtain ⟨settled, holds, unchanged⟩ := ih
      refine ⟨c :: settled, by simpa [same] using holds, ?_⟩
      rcases unchanged with rfl | ⟨small, rest, lowered, other⟩
      · exact .inl rfl
      · exact .inr ⟨small, rest, by simpa [lowerAll, same] using lowered, other⟩
    · exact ⟨[], by simp, .inr ⟨small, rest ++ lowerAll front, by simp [lowerAll, lowered], other⟩⟩

end Text

namespace Naming

open Text (isUpper isLower toLower lowerAll)

variable {atStart : Bool} {c : Char} {chars front back : List Char}

/-- The capitals at the front of a name, as many as there are. -/
def leadingCapitals (name : String) : List Char := name.toList.takeWhile isUpper

/-- What follows the capitals at the front of a name. -/
def afterCapitals (name : String) : List Char := name.toList.dropWhile isUpper

/-- What is lowered ends in front of the first character that is no capital. -/
theorem mem_of_mem_loweredCapitals {d : Char} (other : isUpper d = false)
    (member : c ∈ loweredCapitals atStart (front ++ d :: back)) : c ∈ front := by
  have front_of : loweredCapitals atStart (front ++ d :: back) <+: front ++ d :: back :=
    isPrefix_loweredCapitals
  obtain ⟨behind, split⟩ := front_of
  rcases List.append_eq_append_iff.mp split with ⟨between, same, -⟩ | ⟨between, same, further⟩
  · exact same ▸ List.mem_append_left between member
  · cases between with
    | nil => simpa [same] using member
    | cons first between =>
      obtain ⟨rfl, -⟩ := List.cons.inj further
      have lowered : d ∈ loweredCapitals atStart (front ++ d :: back) := by simp [same]
      simp [isUpper_of_mem_loweredCapitals lowered] at other

theorem loweredCapitals_eq (name : String) : loweredCapitals true name.toList =
    if 2 ≤ (leadingCapitals name).length ∧ (afterCapitals name).head?.any isLower then
      (leadingCapitals name).dropLast
    else leadingCapitals name := by
  unfold loweredCapitals leadingCapitals afterCapitals
  simp only [true_implies]

theorem drop_eq_of_leadingCapitals {name : String} (split : leadingCapitals name = front ++ back) :
    name.toList.drop front.length = back ++ afterCapitals name := by
  have whole : name.toList = front ++ (back ++ afterCapitals name) := by
    rw [← List.append_assoc, ← split]
    exact List.takeWhile_append_dropWhile.symm
  rw [whole, List.drop_left]

theorem lowerLeading_eq_self (settled : ∀ c ∈ loweredCapitals atStart chars, toLower c = [c]) :
    lowerLeading atStart chars = chars := by
  rw [lowerLeading_eq, Text.lowerAll_eq_self_of_forall settled, loweredCapitals_append_drop]

theorem lowerLeading_lowerLeading (chars : List Char) :
    lowerLeading true (lowerLeading true chars) = lowerLeading true chars := by
  obtain ⟨settled, holds, unchanged⟩ := Text.exists_settled (loweredCapitals true chars)
  rcases unchanged with rfl | ⟨small, rest, lowered, other⟩
  · rw [lowerLeading_eq_self holds, lowerLeading_eq_self holds]
  · have split : lowerLeading true chars =
        settled ++ small :: (rest ++ chars.drop (loweredCapitals true chars).length) := by
      rw [lowerLeading_eq, lowered, List.append_assoc, List.cons_append]
    rw [split]
    apply lowerLeading_eq_self
    exact fun c member => holds c (mem_of_mem_loweredCapitals other member)

/-- The leading capitals of a name are lowered one by one, and the rest of it is kept; but the last of two
capitals or more is kept as well where a small letter follows. A name in camel case stays as it is. -/
theorem camelCase_decides (name : String) :
    ((camelCase name).toList =
      if 2 ≤ (leadingCapitals name).length ∧ (afterCapitals name).head?.any isLower then
        lowerAll (leadingCapitals name).dropLast ++ (leadingCapitals name).getLast?.toList ++
          afterCapitals name
      else lowerAll (leadingCapitals name) ++ afterCapitals name) ∧
    camelCase (camelCase name) = camelCase name := by
  constructor
  · rw [toList_camelCase, loweredCapitals_eq]
    split
    next several =>
      have capitals : leadingCapitals name ≠ [] := List.length_pos_iff.mp (by omega)
      rw [drop_eq_of_leadingCapitals (List.dropLast_append_getLast capitals).symm,
        List.getLast?_eq_some_getLast capitals, Option.toList_some, List.append_assoc]
    next => rw [drop_eq_of_leadingCapitals (List.append_nil _).symm, List.nil_append]
  · rw [camelCase, camelCase, String.toList_ofList, lowerLeading_lowerLeading]

end Naming

end EffectModel
