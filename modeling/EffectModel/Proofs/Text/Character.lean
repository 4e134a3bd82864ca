import EffectModel.Text.Character
import Mathlib.Data.List.Basic
import Mathlib.Data.List.TakeWhile

namespace EffectModel.Text

variable {run other : Run} {runs others : List Run} {point : Nat} {c : Char}

namespace Run

def isUniform (run : Run) : Bool := run.step == 2 || run.first == run.last

/-- Two runs that cannot meet: one ends before the other begins, or they are of different parity. -/
def apart (run other : Run) : Bool :=
  run.last.blt other.first || other.last.blt run.first ||
    (run.isUniform && other.isUniform && (run.first + other.first) % 2 == 1)

def within (run other : Run) : Bool :=
  other.first.ble run.first && run.last.ble other.last && other.step == 1

/-- A run that holds no surrogate and nothing behind the last code point. -/
def isOfCharacters (run : Run) : Bool :=
  run.last.blt 0xD800 || (Nat.blt 0xDFFF run.first && run.last.blt 0x110000)

theorem holds_iff : run.holds point = true ↔
    run.first ≤ point ∧ point ≤ run.last ∧ (point - run.first) % run.step = 0 := by
  simp [holds, and_assoc]

theorem parity_eq_of_isUniform (uniform : run.isUniform = true) (held : run.holds point = true) :
    point % 2 = run.first % 2 := by
  obtain ⟨above, below, steps⟩ := holds_iff.mp held
  simp only [isUniform, Bool.or_eq_true, beq_iff_eq] at uniform
  rcases uniform with two | single
  · rw [two] at steps
    omega
  · have same : point = run.first := by omega
    rw [same]

theorem not_holds_of_apart (apart : run.apart other = true) (held : run.holds point = true) :
    ¬ other.holds point = true := by
  intro held'
  obtain ⟨above, below, -⟩ := holds_iff.mp held
  obtain ⟨above', below', -⟩ := holds_iff.mp held'
  simp only [Run.apart, Bool.or_eq_true, Bool.and_eq_true, Nat.blt_eq, beq_iff_eq] at apart
  rcases apart with (before | behind) | ⟨⟨uniform, uniform'⟩, odd⟩
  · omega
  · omega
  · have parity : point % 2 = run.first % 2 := parity_eq_of_isUniform uniform held
    have parity' : point % 2 = other.first % 2 := parity_eq_of_isUniform uniform' held'
    omega

theorem holds_of_within (within : run.within other = true) (held : run.holds point = true) :
    other.holds point = true := by
  obtain ⟨above, below, -⟩ := holds_iff.mp held
  simp only [Run.within, Bool.and_eq_true, Nat.ble_eq, beq_iff_eq] at within
  obtain ⟨⟨front, back⟩, gapless⟩ := within
  rw [holds_iff, gapless]
  omega

theorem isValidChar_of_holds (characters : run.isOfCharacters = true)
    (held : run.holds point = true) : point.isValidChar := by
  obtain ⟨above, below, -⟩ := holds_iff.mp held
  simp only [isOfCharacters, Bool.or_eq_true, Bool.and_eq_true, Nat.blt_eq] at characters
  unfold Nat.isValidChar
  omega

end Run

/-- Two tables without a run in one that can meet a run in the other. -/
def areApart (runs others : List Run) : Bool :=
  runs.all (fun run => others.all (fun other => run.apart other))

theorem onSome_eq_false_of_areApart (apart : areApart runs others = true)
    (held : onSome runs c = true) : onSome others c = false := by
  rw [onSome, List.any_eq_true] at held
  obtain ⟨run, listed, held⟩ := held
  rw [onSome, List.any_eq_false]
  intro other listed'
  have apart' : run.apart other = true :=
    List.all_eq_true.mp (List.all_eq_true.mp apart run listed) other listed'
  exact Run.not_holds_of_apart apart' held

variable {chars : List Char} {text : String}

theorem isAlphanumeric_eq_onSome : isAlphanumeric c = onSome (letterRuns ++ numeralRuns) c := by
  rw [isAlphanumeric, isLetter, isNumeral, onSome, onSome, onSome, List.any_append]

theorem isBlank_of_isAlphanumeric (held : isAlphanumeric c = true) : isBlank c = false := by
  have apart : areApart (letterRuns ++ numeralRuns) blankRuns = true := by decide +kernel
  exact onSome_eq_false_of_areApart apart (isAlphanumeric_eq_onSome.symm.trans held)

theorem dropWhile_isBlank_eq_self (solid : ∀ c ∈ chars, isBlank c = false) :
    chars.dropWhile isBlank = chars := by
  cases chars with
  | nil => rfl
  | cons c rest => simp [solid c List.mem_cons_self]

theorem trimChars_eq_self (solid : ∀ c ∈ chars, isBlank c = false) : trimChars chars = chars := by
  have reversed : ∀ c ∈ chars.reverse, isBlank c = false := by simpa using solid
  rw [trimChars, dropWhile_isBlank_eq_self solid, dropWhile_isBlank_eq_self reversed,
    List.reverse_reverse]

theorem trim_eq_self (solid : ∀ c ∈ text.toList, isBlank c = false) : trim text = text := by
  rw [trim, trimChars_eq_self solid, String.ofList_toList]

theorem trimChars_eq_nil_iff : trimChars chars = [] ↔ ∀ c ∈ chars, isBlank c = true := by
  simp only [trimChars, List.reverse_eq_nil_iff, List.dropWhile_eq_nil_iff, List.mem_reverse]
  constructor
  · intro blank c member
    rw [← List.takeWhile_append_dropWhile (p := isBlank) (l := chars)] at member
    rcases List.mem_append.mp member with taken | dropped
    · exact List.mem_takeWhile_imp taken
    · exact blank c dropped
  · intro blank c dropped
    exact blank c ((List.dropWhile_sublist isBlank).subset dropped)

theorem trim_eq_empty_iff : trim text = "" ↔ ∀ c ∈ text.toList, isBlank c = true := by
  rw [← trimChars_eq_nil_iff, trim, ← String.toList_inj, String.toList_ofList, String.toList_empty]

/-- A text that neither begins nor ends in white space, and is not empty. -/
structure IsTrimmed (text : String) : Prop where
  first : ∃ c, text.toList.head? = some c ∧ isBlank c = false
  last : ∃ c, text.toList.getLast? = some c ∧ isBlank c = false

theorem exists_head_dropWhile_isBlank (left : chars.dropWhile isBlank ≠ []) :
    ∃ c, (chars.dropWhile isBlank).head? = some c ∧ isBlank c = false :=
  ⟨_, List.head?_eq_some_head left, List.head_dropWhile_not isBlank left⟩

theorem isTrimmed_trim (left : trim text ≠ "") : IsTrimmed (trim text) := by
  have chars : (trim text).toList =
      ((text.toList.dropWhile isBlank).reverse.dropWhile isBlank).reverse := by
    rw [trim, String.toList_ofList, trimChars]
  have some : (text.toList.dropWhile isBlank).reverse.dropWhile isBlank ≠ [] := by
    intro none
    rw [none, List.reverse_nil] at chars
    exact left (String.toList_inj.mp chars)
  have front : text.toList.dropWhile isBlank ≠ [] := by
    intro none
    simp [none] at some
  constructor
  · -- what is dropped behind leaves the front as it is
    obtain ⟨c, opens, solid⟩ := exists_head_dropWhile_isBlank front
    refine ⟨c, ?_, solid⟩
    have kept : (text.toList.dropWhile isBlank).reverse.dropWhile isBlank <:+
        (text.toList.dropWhile isBlank).reverse := List.dropWhile_suffix isBlank
    rw [chars, List.head?_reverse, List.getLast?_eq_some_getLast some, kept.getLast some,
      ← List.getLast?_eq_some_getLast, List.getLast?_reverse, opens]
  · rw [chars, List.getLast?_reverse]
    exact exists_head_dropWhile_isBlank some

end EffectModel.Text
