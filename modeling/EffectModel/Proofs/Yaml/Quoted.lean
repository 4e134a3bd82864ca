import EffectModel.Proofs.Yaml.Character
import EffectModel.Proofs.Yaml.Folding
import Mathlib.Data.Option.Basic

/-! Scalars between quotes. Main statements: a text between double quotes or between single ones is
read as it was written, and what follows the closing quote is left. -/
namespace EffectModel.Yaml

open Scalar

variable {c letter : Char} {chars text rest : List Char} {cursor : Cursor} {folding : Folding}
variable {fuel value length : Nat}

section Escapes

theorem unescape_of_shortEscape? (short : shortEscape? c = some letter) :
    unescape letter = some c ∧ codeLength letter = none ∧ isBreak letter = false := by
  unfold shortEscape? at short
  split at short <;> cases short <;> decide

theorem length_hexDigits (length value : Nat) : (hexDigits length value).length = length := by
  induction length generalizing value with
  | zero => rfl
  | succ length ih => simp [hexDigits, ih]

theorem hexDigit_digitChar : ∀ digit < 16,
    Json.hexDigit (Nat.digitChar digit).toUpper = some digit := by
  decide

theorem hexNumber_hexDigits (small : value < 16 ^ length) :
    Json.hexNumber (hexDigits length value) = some value := by
  induction length generalizing value with
  | zero =>
    have none : value = 0 := by simpa using small
    rw [none]
    rfl
  | succ length ih =>
    have quotient : value / 16 < 16 ^ length := by
      rw [Nat.pow_succ] at small
      omega
    have front := ih quotient
    have last := hexDigit_digitChar (value % 16) (Nat.mod_lt _ (by decide))
    rw [Json.hexNumber] at front ⊢
    rw [hexDigits, List.foldlM_append, front]
    simp [last]
    omega

theorem charOfCode_toNat (c : Char) : charOfCode c.toNat = some c := by
  have valid : c.toNat.isValidChar := c.valid
  rw [charOfCode, if_pos valid, Char.ofNat_toNat]

theorem readEscape_code (given : codeLength letter = some length) (small : c.toNat < 16 ^ length)
    (rest : List Char) :
    readEscape (letter :: (hexDigits length c.toNat ++ rest)) = some (c, length + 1) := by
  have digits : (hexDigits length c.toNat ++ rest).take length = hexDigits length c.toNat :=
    List.take_left' (length_hexDigits _ _)
  simp [readEscape, given, digits, length_hexDigits, hexNumber_hexDigits small, charOfCode_toNat]

/-- The escape of a character is read as the character. -/
theorem exists_escape (c : Char) : ∃ letter body, escape c = '\\' :: letter :: body ∧
    isBreak letter = false ∧
    ∀ rest, readEscape (letter :: (body ++ rest)) = some (c, body.length + 1) := by
  have points : c.toNat < 16 ^ 8 := by
    have valid : c.toNat.isValidChar := c.valid
    unfold Nat.isValidChar at valid
    omega
  unfold escape
  split
  next letter short =>
    obtain ⟨read, noCode, unbroken⟩ := unescape_of_shortEscape? short
    exact ⟨letter, [], rfl, unbroken, fun rest => by simp [readEscape, noCode, read]⟩
  next =>
    split_ifs with byte plane
    · refine ⟨'x', _, rfl, rfl, fun rest => ?_⟩
      rw [length_hexDigits]
      exact readEscape_code rfl (by omega) rest
    · refine ⟨'u', _, rfl, rfl, fun rest => ?_⟩
      rw [length_hexDigits]
      exact readEscape_code rfl (by omega) rest
    · refine ⟨'U', _, rfl, rfl, fun rest => ?_⟩
      rw [length_hexDigits]
      exact readEscape_code rfl points rest

end Escapes

section Double

variable (placed : cursor.column ≠ 0)
include placed

theorem readDouble_close (here : cursor.rest = '"' :: rest) :
    readDouble (fuel + 1) folding cursor = some (folding.join, cursor.advance 1) := by
  simp [readDouble, placed, here]

theorem readDouble_escape {length : Nat} {body : List Char} (here : cursor.rest = '\\' :: body)
    (line : body.head?.any isBreak = false) (read : readEscape body = some (c, length)) :
    readDouble (fuel + 1) folding cursor =
      readDouble fuel (folding.push c) (cursor.advance (length + 1)) := by
  simp [readDouble, placed, here, line, read]

theorem readDouble_gap (here : cursor.rest = c :: rest) (gap : isGap c = true) :
    readDouble (fuel + 1) folding cursor = readDouble fuel (folding.gap c) (cursor.advance 1) := by
  have quote : c ≠ '"' := by rintro rfl; simp [isGap] at gap
  have slash : c ≠ '\\' := by rintro rfl; simp [isGap] at gap
  simp [readDouble, placed, here, gap]

theorem readDouble_push (here : cursor.rest = c :: rest) (quote : c ≠ '"') (slash : c ≠ '\\')
    (gap : isGap c = false) (line : isBreak c = false) :
    readDouble (fuel + 1) folding cursor = readDouble fuel (folding.push c) (cursor.advance 1) := by
  simp [readDouble, placed, here, gap, line]

omit placed in
theorem writeDoubled_cases (c : Char) : writeDoubled c = escape c ∨
    writeDoubled c = [c] ∧ isPrintable c = true ∧ isBreak c = false ∧ c ≠ '"' ∧ c ≠ '\\' := by
  unfold writeDoubled
  split
  next => exact .inl rfl
  next plain =>
    simp only [Bool.not_eq_true, Bool.or_eq_false_iff, Bool.not_eq_eq_eq_not, Bool.not_false,
      beq_eq_false_iff_ne] at plain
    obtain ⟨⟨⟨shown, line⟩, quote⟩, slash⟩ := plain
    exact .inr ⟨rfl, shown, line, quote, slash⟩

/-- Between double quotes each character is written by itself, and read by itself. -/
theorem readDouble_written (holds : folding.Holds text) (line : folding.broken = false)
    (here : cursor.rest = chars.flatMap writeDoubled ++ '"' :: rest) (enough : chars.length < fuel) :
    ∃ whole behind, readDouble fuel folding cursor = some (whole, behind) ∧
      whole.text = chars.reverse ++ text ∧ behind.rest = rest := by
  induction chars generalizing cursor folding text fuel with
  | nil =>
    cases fuel with
    | zero => simp at enough
    | succ fuel => exact ⟨_, _, readDouble_close placed here, holds.joined, by simp [here]⟩
  | cons c chars ih =>
    rw [List.flatMap_cons] at here
    cases fuel with
    | zero => simp at enough
    | succ fuel =>
      have enough' : chars.length < fuel := by simpa using enough
      rcases writeDoubled_cases c with escaped | ⟨same, shown, plain, quote, slash⟩
      · obtain ⟨letter, body, escape_eq, unbroken, read⟩ := exists_escape c
        rw [escaped, escape_eq, List.cons_append, List.cons_append, List.append_assoc] at here
        have next : (cursor.advance (body.length + 2)).rest =
            chars.flatMap writeDoubled ++ '"' :: rest := by
          simp [here]
        obtain ⟨whole, behind, success, all, left⟩ :=
          ih (by simp) (holds.push c) (by simp) next enough'
        rw [readDouble_escape placed here (by simpa using unbroken) (read _)]
        exact ⟨whole, behind, success, by simp [all], left⟩
      · rw [same, List.singleton_append] at here
        have next : (cursor.advance 1).rest = chars.flatMap writeDoubled ++ '"' :: rest := by
          simp [here]
        by_cases gap : isGap c = true
        · obtain ⟨whole, behind, success, all, left⟩ :=
            ih (by simp) (holds.gap line c) (by simpa using line) next enough'
          rw [readDouble_gap placed here gap]
          exact ⟨whole, behind, success, by simp [all], left⟩
        · obtain ⟨whole, behind, success, all, left⟩ :=
            ih (by simp) (holds.push c) (by simp) next enough'
          rw [readDouble_push placed here quote slash (by simpa using gap) plain]
          exact ⟨whole, behind, success, by simp [all], left⟩

end Double

section Single

section Steps

variable (unmarked : (cursor.column == 0 && atDocumentMark cursor.rest) = false)
include unmarked

theorem readSingle_close (here : cursor.rest = '\'' :: rest) (single : rest.head? ≠ some '\'') :
    readSingle (fuel + 1) folding cursor = some (folding.join, cursor.advance 1) := by
  rw [here] at unmarked
  cases rest with
  | nil => simp [readSingle, here, unmarked]
  | cons next rest =>
    have other : next ≠ '\'' := by simpa using single
    simp [readSingle, here, unmarked, other]

theorem readSingle_quote (here : cursor.rest = '\'' :: '\'' :: rest) :
    readSingle (fuel + 1) folding cursor =
      readSingle fuel (folding.push '\'') (cursor.advance 2) := by
  rw [here] at unmarked
  simp [readSingle, here, unmarked]

/-- Whatever is no quote is taken in as it is between double quotes. -/
theorem readSingle_other (here : cursor.rest = c :: rest) (quote : c ≠ '\'') :
    readSingle (fuel + 1) folding cursor =
      if isGap c then readSingle fuel (folding.gap c) (cursor.advance 1)
      else if isBreak c then readSingle fuel (folding.lineBreak cursor.readBreak.1) cursor.skipBreak
      else readSingle fuel (folding.push c) (cursor.advance 1) := by
  rw [here] at unmarked
  rw [readSingle.eq_2, here, unmarked]
  split
  next => contradiction
  next =>
    split
    next same => cases same
    next same => cases same; exact absurd rfl quote
    next same => cases same; exact absurd rfl quote
    next same => cases same; rfl

end Steps

theorem atDocumentMark_of_isBreak (ends : isBreak c = true) (rest : List Char) :
    atDocumentMark (c :: rest) = false := by
  unfold atDocumentMark
  split
  next same => cases same; simp [isBreak] at ends
  next same => cases same; simp [isBreak] at ends
  next => rfl

theorem readSingle_margin (broken : folding.broken = true) {indent : Nat}
    (here : cursor.rest = margin indent ++ rest) :
    readSingle (fuel + indent) folding cursor = readSingle fuel folding (cursor.advance indent) := by
  induction indent generalizing cursor with
  | zero => simp
  | succ indent ih =>
    have first : cursor.rest = ' ' :: (margin indent ++ rest) := by
      simpa [margin, List.replicate_succ] using here
    have unmarked : (cursor.column == 0 && atDocumentMark cursor.rest) = false := by
      simp [first, atDocumentMark]
    rw [← Nat.add_assoc, readSingle_other unmarked first (by decide), if_pos (by decide),
      Folding.gap_of_broken broken, ih (by simp [first]), Cursor.advance_advance, Nat.add_comm]

/-- A character that stands on a line, with a quote written twice. -/
def quotedOnce (c : Char) : List Char := if c == '\'' then ['\'', '\''] else [c]

/-- A character on a line is taken in as it is. A folding whose line has ended takes no gap in. -/
theorem exists_readSingle_char (fuel : Nat) (placed : cursor.column ≠ 0) (holds : folding.Holds text)
    (shown : isPrintable c = true) (line : isBreak c = false)
    (solid : folding.broken = true → isGap c = false)
    (here : cursor.rest = quotedOnce c ++ rest) : ∃ length next,
      readSingle (fuel + 1) folding cursor = readSingle fuel next (cursor.advance length) ∧
        0 < length ∧ (cursor.advance length).rest = rest ∧ next.Holds (c :: text) ∧
        next.broken = false ∧ (next.gaps = [] ∨ c = ' ') := by
  have unmarked : (cursor.column == 0 && atDocumentMark cursor.rest) = false := by simp [placed]
  by_cases quote : c = '\''
  · subst quote
    refine ⟨2, _, readSingle_quote unmarked here, by decide, by simp [here, quotedOnce],
      holds.push _, by simp, .inl (by simp)⟩
  · have single : cursor.rest = c :: rest := by simpa [quotedOnce, quote] using here
    rw [readSingle_other unmarked single quote]
    by_cases gap : isGap c = true
    · have unbroken : folding.broken = false := by
        by_contra broken
        simp [solid (by simpa using broken)] at gap
      rw [if_pos gap]
      exact ⟨1, _, rfl, by decide, by simp [single], holds.gap unbroken c, by simpa using unbroken,
        .inr (eq_space_of_isGap shown gap)⟩
    · rw [if_neg gap, line, if_neg (by decide)]
      exact ⟨1, _, rfl, by decide, by simp [single], holds.push c, by simp, .inl (by simp)⟩

theorem readSingle_lineBreak (shown : isPrintable c = true) (ends : isBreak c = true)
    (here : cursor.rest = c :: rest) : readSingle (fuel + 1) folding cursor =
      readSingle fuel (folding.lineBreak [c]) cursor.skipBreak := by
  have quote : c ≠ '\'' := by rintro rfl; simp [isBreak] at ends
  have gap : ¬ isGap c = true := fun gap => by simp [not_isBreak_of_isGap gap] at ends
  have unmarked : (cursor.column == 0 && atDocumentMark cursor.rest) = false := by
    rw [here, atDocumentMark_of_isBreak ends, Bool.and_false]
  rw [readSingle_other unmarked here quote, if_neg gap, if_pos ends,
    (Cursor.readBreak_eq here ends shown).1]

/-- The line feeds in front of which another one is written. -/
def doubled (c : Char) (afterBreak : Bool) : List Char :=
  if c == '\n' && !afterBreak then ['\n'] else []

/-- The end of a line is taken in as it is; a line feed that ends a line of text is written twice. -/
theorem exists_readSingle_lineBreak (fuel : Nat) (holds : folding.Holds text)
    (shown : isPrintable c = true) (ends : isBreak c = true)
    (closed : folding.broken = false → folding.gaps = [])
    (here : cursor.rest = doubled c folding.broken ++ c :: rest) :
    ∃ next behind, readSingle (fuel + (doubled c folding.broken).length + 1) folding cursor =
        readSingle fuel next behind ∧
      behind.rest = rest ∧ next.Holds (c :: text) ∧ next.broken = true := by
  by_cases broken : folding.broken = true
  · have once : cursor.rest = c :: rest := by simpa [doubled, broken] using here
    have none : doubled c folding.broken = [] := by simp [doubled, broken]
    rw [none, List.length_nil, Nat.add_zero, readSingle_lineBreak shown ends once]
    exact ⟨_, _, rfl, (Cursor.readBreak_eq once ends shown).2.1, holds.lineBreak_of_broken broken,
      by simp⟩
  · rw [Bool.not_eq_true] at broken
    by_cases feed : c = '\n'
    · subst feed
      have twice : cursor.rest = '\n' :: '\n' :: rest := by simpa [doubled, broken] using here
      have again : cursor.skipBreak.rest = '\n' :: rest :=
        (Cursor.readBreak_eq twice ends shown).2.1
      have one : (doubled '\n' folding.broken).length = 1 := by simp [doubled, broken]
      rw [one, readSingle_lineBreak shown ends twice, readSingle_lineBreak shown ends again]
      exact ⟨_, _, rfl, (Cursor.readBreak_eq again ends shown).2.1,
        holds.lineFeed broken (closed broken), by simp⟩
    · have once : cursor.rest = c :: rest := by simpa [doubled, feed] using here
      have none : doubled c folding.broken = [] := by simp [doubled, feed]
      rw [none, List.length_nil, Nat.add_zero, readSingle_lineBreak shown ends once]
      exact ⟨_, _, rfl, (Cursor.readBreak_eq once ends shown).2.1,
        holds.lineBreak broken (closed broken) feed, by simp⟩

/-- How far the next character of a text is set in: a line that goes on has a margin. -/
def lead (indent : Nat) (afterBreak : Bool) : Nat := if afterBreak then indent else 0

theorem margin_lead (indent : Nat) (afterBreak : Bool) :
    margin (lead indent afterBreak) = if afterBreak then margin indent else [] := by
  cases afterBreak <;> rfl

theorem writeSingle_nil (indent : Nat) (afterBreak : Bool) :
    writeSingle indent afterBreak [] = margin (lead indent afterBreak) := by
  rw [writeSingle, margin_lead]

theorem writeSingle_lineBreak (ends : isBreak c = true) (indent : Nat) (afterBreak : Bool)
    (chars : List Char) : writeSingle indent afterBreak (c :: chars) =
      doubled c afterBreak ++ c :: writeSingle indent true chars := by
  rw [writeSingle, if_pos ends, doubled]

theorem writeSingle_char (line : isBreak c = false) (indent : Nat) (afterBreak : Bool)
    (chars : List Char) : writeSingle indent afterBreak (c :: chars) =
      margin (lead indent afterBreak) ++ (quotedOnce c ++ writeSingle indent false chars) := by
  rw [writeSingle, if_neg (by simp [line]), quotedOnce, margin_lead, List.append_assoc]

/-- Behind the margin of a line that goes on, or where the line has not ended. -/
theorem readSingle_lead (fuel : Nat) {indent : Nat} (wide : 0 < indent)
    (placed : folding.broken = true ∨ cursor.column ≠ 0)
    (here : cursor.rest = margin (lead indent folding.broken) ++ rest) :
    readSingle (fuel + lead indent folding.broken) folding cursor =
        readSingle fuel folding (cursor.advance (lead indent folding.broken)) ∧
      (cursor.advance (lead indent folding.broken)).rest = rest ∧
      (cursor.advance (lead indent folding.broken)).column ≠ 0 := by
  refine ⟨?_, by simp [here, margin], ?_⟩
  · by_cases broken : folding.broken = true
    · exact readSingle_margin broken here
    · simp [lead, broken]
  · rw [Cursor.advance_column]
    by_cases broken : folding.broken = true
    · simp only [lead, broken, if_true]
      omega
    · simp [lead, broken, placed.resolve_left broken]

/-- A text that single quotes can hold: no space stands beside the end of a line. -/
structure IsSingle (chars : List Char) : Prop where
  shown : ∀ c ∈ chars, isPrintable c = true
  spaceBreak : Spelling.hasPair Spelling.isSpace isBreak chars = false
  breakSpace : Spelling.hasPair isBreak Spelling.isSpace chars = false

theorem hasPair_cons {first second : Char → Bool}
    (none : Spelling.hasPair first second (c :: chars) = false) :
    Spelling.hasPair first second chars = false ∧
      (first c = true → chars.head?.any second = false) := by
  cases chars with
  | nil => simp [Spelling.hasPair]
  | cons d chars => simpa [Spelling.hasPair, and_comm] using none

theorem IsSingle.tail (single : IsSingle (c :: chars)) : IsSingle chars :=
  ⟨fun d held => single.shown d (.tail c held), (hasPair_cons single.spaceBreak).1,
    (hasPair_cons single.breakSpace).1⟩

/-- The reading of a text between single quotes has taken some characters in, and has come to where the
others were written, with the closing quote behind them. -/
structure AtSingle (indent fuel : Nat) (folding : Folding) (cursor : Cursor)
    (text chars rest : List Char) : Prop where
  holds : folding.Holds text
  placed : folding.broken = true ∨ cursor.column ≠ 0
  starts : folding.broken = true → chars.head?.any Spelling.isSpace = false
  closed : folding.broken = false → folding.gaps = [] ∨ chars.head?.any isBreak = false
  here : cursor.rest = writeSingle indent folding.broken chars ++ '\'' :: rest
  enough : (writeSingle indent folding.broken chars).length < fuel

namespace AtSingle

variable {indent : Nat}

theorem lineBreak (single : IsSingle (c :: chars)) (ends : isBreak c = true)
    (reached : AtSingle indent fuel folding cursor text (c :: chars) rest) :
    ∃ further next behind, readSingle fuel folding cursor = readSingle further next behind ∧
      AtSingle indent further next behind (c :: text) chars rest := by
  obtain ⟨holds, -, -, closed, here, enough⟩ := reached
  rw [writeSingle_lineBreak ends, List.append_assoc, List.cons_append] at here
  rw [writeSingle_lineBreak ends, List.length_append, List.length_cons] at enough
  have closed' : folding.broken = false → folding.gaps = [] := fun line =>
    (closed line).resolve_right (by simp [ends])
  obtain ⟨further, rfl⟩ : ∃ further, fuel = further + (doubled c folding.broken).length + 1 :=
    ⟨fuel - (doubled c folding.broken).length - 1, by omega⟩
  obtain ⟨next, behind, passed, left, holds', broken⟩ :=
    exists_readSingle_lineBreak further holds (single.shown c List.mem_cons_self) ends closed' here
  refine ⟨further, next, behind, passed, holds', .inl broken, ?_, ?_, ?_, ?_⟩
  · exact fun _ => (hasPair_cons single.breakSpace).2 ends
  · exact fun line => absurd broken (by simp [line])
  · rw [left, broken]
  · rw [broken]
    omega

theorem char (wide : 0 < indent) (single : IsSingle (c :: chars)) (line : isBreak c = false)
    (reached : AtSingle indent fuel folding cursor text (c :: chars) rest) :
    ∃ further next behind, readSingle fuel folding cursor = readSingle further next behind ∧
      AtSingle indent further next behind (c :: text) chars rest := by
  obtain ⟨holds, placed, starts, -, here, enough⟩ := reached
  rw [writeSingle_char line, List.append_assoc, List.append_assoc] at here
  rw [writeSingle_char line, List.length_append, List.length_append, margin,
    List.length_replicate] at enough
  have shown := single.shown c List.mem_cons_self
  have some_char : 0 < (quotedOnce c).length := by
    unfold quotedOnce
    split <;> simp
  have solid : folding.broken = true → isGap c = false := by
    intro broken
    have noSpace := starts broken
    by_contra gap
    rw [Bool.not_eq_false] at gap
    simp [eq_space_of_isGap shown gap, Spelling.isSpace] at noSpace
  obtain ⟨further, rfl⟩ : ∃ further, fuel = further + 1 + lead indent folding.broken :=
    ⟨fuel - 1 - lead indent folding.broken, by omega⟩
  obtain ⟨passed, left, placed'⟩ := readSingle_lead (further + 1) wide placed here
  obtain ⟨length, next, passed', positive, left', holds', line', closed⟩ :=
    exists_readSingle_char further placed' holds shown line solid left
  refine ⟨further, next, _, passed.trans passed', holds', .inr ?_, ?_, ?_, ?_, ?_⟩
  · rw [Cursor.advance_column]
    omega
  · exact fun broken => absurd broken (by simp [line'])
  · exact fun _ => closed.imp_right fun space =>
      (hasPair_cons single.spaceBreak).2 (by simp [space, Spelling.isSpace])
  · rw [left', line']
  · rw [line']
    omega

theorem step (wide : 0 < indent) (single : IsSingle (c :: chars))
    (reached : AtSingle indent fuel folding cursor text (c :: chars) rest) :
    ∃ further next behind, readSingle fuel folding cursor = readSingle further next behind ∧
      AtSingle indent further next behind (c :: text) chars rest := by
  cases ends : isBreak c with
  | true => exact reached.lineBreak single ends
  | false => exact reached.char wide single ends

theorem close (wide : 0 < indent) (closing : rest.head? ≠ some '\'')
    (reached : AtSingle indent fuel folding cursor text [] rest) :
    ∃ whole behind, readSingle fuel folding cursor = some (whole, behind) ∧ whole.text = text ∧
      behind.rest = rest := by
  obtain ⟨holds, placed, -, -, here, enough⟩ := reached
  rw [writeSingle_nil] at here enough
  rw [margin, List.length_replicate] at enough
  obtain ⟨further, rfl⟩ : ∃ further, fuel = further + 1 + lead indent folding.broken :=
    ⟨fuel - 1 - lead indent folding.broken, by omega⟩
  obtain ⟨passed, left, placed'⟩ := readSingle_lead (further + 1) wide placed here
  have unmarked : ∀ chars, ((cursor.advance (lead indent folding.broken)).column == 0 &&
      atDocumentMark chars) = false := by
    intro chars
    rw [beq_eq_false_iff_ne.mpr placed', Bool.false_and]
  rw [passed, readSingle_close (unmarked _) left closing]
  exact ⟨_, _, rfl, holds.joined, by rw [Cursor.advance_rest, left, List.drop_one, List.tail_cons]⟩

end AtSingle

/-- Between single quotes a text is read as it was written, over all of its lines. -/
theorem readSingle_written {indent : Nat} (wide : 0 < indent) (single : IsSingle chars)
    (closing : rest.head? ≠ some '\'')
    (reached : AtSingle indent fuel folding cursor text chars rest) :
    ∃ whole behind, readSingle fuel folding cursor = some (whole, behind) ∧
      whole.text = chars.reverse ++ text ∧ behind.rest = rest := by
  induction chars generalizing fuel folding cursor text with
  | nil => exact reached.close wide closing
  | cons c chars ih =>
    obtain ⟨further, next, behind, passed, reached'⟩ := reached.step wide single
    obtain ⟨whole, behind', read, all, left⟩ := ih single.tail reached'
    exact ⟨whole, behind', passed.trans read, by simp [all], left⟩

end Single

end EffectModel.Yaml
