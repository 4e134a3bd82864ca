import EffectModel.Proofs.Yaml.Character
import EffectModel.Proofs.Yaml.Folding

namespace EffectModel.Yaml

open Scalar

section Definitions

/-- Whether a plain scalar goes on over characters of one line, the first of which may follow a gap. -/
def goesOn (afterGap : Bool) : List Char → Bool
  | [] => true
  | c :: rest =>
      !isBreak c && (isGap c || !(c == ':' && atGap rest) && !(c == '#' && afterGap))
        && goesOn (isGap c) rest

/-- How a line goes on behind its margin: not with a gap, a line end, a comment or a byte order mark. -/
def BeginsLine (content : List Char) : Prop :=
  ∀ c, content.head? = some c → isGap c = false ∧ isBreak c = false ∧ c ≠ '#' ∧ c ≠ '\ufeff'

end Definitions

variable {c : Char} {chars text rest content : List Char} {cursor : Cursor} {folding : Folding}
variable {fuel column : Nat} {indent : Int} {afterGap : Bool}

theorem goesOn_of_hasIndicator (unbroken : ∀ d ∈ chars, isBreak d = false)
    (none : Spelling.hasIndicator (c :: chars) = false) : goesOn (isGap c) chars = true := by
  induction chars generalizing c with
  | nil => rfl
  | cons d chars ih =>
    simp only [Spelling.hasIndicator, Bool.or_eq_false_iff] at none
    obtain ⟨⟨colon, comment⟩, none⟩ := none
    have line : isBreak d = false := unbroken d List.mem_cons_self
    have further := ih (fun e held => unbroken e (.tail d held)) none
    have comment' : (d == '#' && isGap c) = false := by
      cases gap : isGap c with
      | false => simp
      | true => simpa [atGap, gap] using comment
    simp [goesOn, line, colon, comment', further]

/-- What is known of a text that may be plain. -/
structure IsPlain (chars : List Char) : Prop where
  starts : Spelling.startsStructure chars = false
  indicator : Spelling.hasIndicator chars = false
  shown : ∀ c ∈ chars, isPrintable c = true
  line : ∀ c ∈ chars, isBreak c = false
  first : chars.head?.any Spelling.isSpace = false
  last : chars.getLast?.any Spelling.isSpace = false

theorem isPlain_of_allowsPlain (plain : Spelling.allowsPlain chars = true) : IsPlain chars := by
  simp only [Spelling.allowsPlain, Spelling.needsEscapes, Bool.not_eq_true', Bool.or_eq_false_iff,
    List.any_eq_false, Bool.not_eq_true', Bool.not_eq_true, Bool.not_eq_false] at plain
  obtain ⟨⟨⟨⟨⟨starts, indicator⟩, shown, -⟩, line⟩, first⟩, last⟩ := plain
  exact ⟨starts, indicator, shown, line, first, last⟩

theorem IsPlain.not_isGap_head (plain : IsPlain (c :: chars)) : isGap c = false := by
  by_contra gap
  have space : c = ' ' :=
    eq_space_of_isGap (plain.shown c List.mem_cons_self) (by simpa using gap)
  simpa [space, Spelling.isSpace] using plain.first

theorem IsPlain.startsStructure_head (plain : IsPlain (c :: chars)) :
    isFlowIndicator c = false ∧ "#&*!|>'\"%@\x60".toList.contains c = false ∧
      ((c == '-' || c == '?' || c == ':') && atGap chars) = false := by
  have starts := plain.starts
  unfold Spelling.startsStructure at starts
  split at starts
  next => cases starts
  next => cases starts
  next d rest _ _ same =>
    cases same
    simpa only [Bool.or_eq_false_iff, and_assoc] using starts
  next same => cases same

theorem IsPlain.beginsLine (plain : IsPlain (c :: chars)) (rest : List Char) :
    BeginsLine (c :: chars ++ rest) := by
  intro d first
  obtain rfl : c = d := by simpa using first
  have shown : isPrintable c = true := plain.shown c List.mem_cons_self
  refine ⟨plain.not_isGap_head, plain.line c List.mem_cons_self, ?_, ?_⟩
  · rintro rfl
    simpa using plain.startsStructure_head.2.1
  · rintro rfl
    simp [isPrintable] at shown

theorem IsPlain.isIndicator (plain : IsPlain (c :: chars)) (dash : c ≠ '-') (question : c ≠ '?')
    (colon : c ≠ ':') : isIndicator c = false := by
  obtain ⟨flow, marks, -⟩ := plain.startsStructure_head
  rw [Yaml.isIndicator, flow, Bool.false_or]
  simpa [dash, question, colon] using marks

/-- A text that may be plain goes on to its end. -/
theorem IsPlain.goesOn (plain : IsPlain chars) : Yaml.goesOn false chars = true := by
  cases chars with
  | nil => rfl
  | cons c chars =>
    have line : isBreak c = false := plain.line c List.mem_cons_self
    have colon : (c == ':' && atGap chars) = false := by
      have starts := plain.startsStructure_head.2.2
      by_contra both
      simp only [Bool.not_eq_false, Bool.and_eq_true, beq_iff_eq] at both
      simp [both] at starts
    have further : Yaml.goesOn (isGap c) chars = true :=
      goesOn_of_hasIndicator (fun d held => plain.line d (.tail c held)) plain.indicator
    simp [Yaml.goesOn, line, colon, further]

section Reading

theorem atGap_append (chars : List Char) (ends : atGap chars = false) (rest : List Char) :
    atGap (chars ++ rest) = false := by
  cases chars with
  | nil => simp [atGap] at ends
  | cons c chars => exact ends

theorem plainClashes_outside (chars : List Char) : plainClashes false chars = false := by
  unfold plainClashes
  split <;> rfl

/-- A plain scalar goes on over a character of its line. -/
theorem readPlain_char (fuel : Nat) (goes : goesOn afterGap (c :: chars) = true)
    (placed : afterGap = true → indent ≤ cursor.column ∧ 0 < cursor.column)
    (line : folding.broken = false) (here : cursor.rest = c :: (chars ++ rest)) :
    readPlain false indent (fuel + 1) folding afterGap cursor =
      readPlain false indent fuel (if isGap c then folding.gap c else folding.push c) (isGap c)
        (cursor.advance 1) := by
  simp only [goesOn, Bool.and_eq_true, Bool.or_eq_true, Bool.not_eq_true'] at goes
  obtain ⟨⟨unbroken, inner⟩, -⟩ := goes
  by_cases gap : isGap c = true
  · simp [readPlain, here, gap, line]
  · obtain ⟨colon, comment⟩ := inner.resolve_left gap
    have stays : (afterGap && (c == '#' || !false && decide ((cursor.column : Int) < indent)
        || cursor.column == 0 && atDocumentMark (c :: (chars ++ rest)))) = false := by
      cases afterGap with
      | false => rfl
      | true =>
        obtain ⟨inside, behind⟩ := placed rfl
        simp only [Bool.and_true, beq_eq_false_iff_ne] at comment
        simp [comment, Int.not_lt.mpr inside, Nat.ne_of_gt behind]
    have goes : plainEnds false (c :: (chars ++ rest)) = false := by
      by_cases mark : c = ':'
      · have more : atGap chars = false := by simpa [mark] using colon
        simp [plainEnds, atGap_append chars more]
      · simp [plainEnds, mark]
    rw [readPlain.eq_2, here]
    simp only [gap, unbroken, stays, goes, plainClashes_outside, if_false, Bool.false_eq_true]

theorem readPlain_line (fuel : Nat) (goes : goesOn afterGap chars = true)
    (placed : (afterGap = true ∨ ∃ c ∈ chars, isGap c = true) →
      indent ≤ cursor.column ∧ 0 < cursor.column)
    (holds : folding.Holds text) (line : folding.broken = false)
    (here : cursor.rest = chars ++ rest) : ∃ next afterGap',
      readPlain false indent (fuel + chars.length) folding afterGap cursor =
          readPlain false indent fuel next afterGap' (cursor.advance chars.length) ∧
        next.Holds (chars.reverse ++ text) ∧ next.broken = false ∧
        (folding.gaps = [] ∨ chars ≠ [] → chars.getLast?.any isGap = false → next.gaps = []) := by
  induction chars generalizing afterGap cursor folding text with
  | nil =>
    refine ⟨folding, afterGap, by simp, holds, line, fun closed _ => ?_⟩
    exact closed.resolve_right (by simp)
  | cons c chars ih =>
    have taken := readPlain_char (fuel + chars.length) goes
      (fun after => placed (.inl after)) line here
    simp only [goesOn, Bool.and_eq_true] at goes
    obtain ⟨-, further⟩ := goes
    have placed' : (isGap c = true ∨ ∃ d ∈ chars, isGap d = true) →
        indent ≤ (cursor.advance 1).column ∧ 0 < (cursor.advance 1).column := by
      intro gap
      have inside := placed (.inr (by simpa using gap))
      rw [Cursor.advance_column]
      omega
    have here' : (cursor.advance 1).rest = chars ++ rest := by simp [here]
    rw [List.length_cons, ← Nat.add_assoc, taken]
    have same : (cursor.advance 1).advance chars.length = cursor.advance (chars.length + 1) := by
      rw [Cursor.advance_advance, Nat.add_comm]
    by_cases gap : isGap c = true
    · obtain ⟨next, afterGap', passed, holds', line', closed⟩ :=
        ih further placed' (holds.gap line c) (by simpa using line) here'
      rw [if_pos gap, passed, same]
      refine ⟨next, afterGap', rfl, by simpa using holds', line', fun _ solid => ?_⟩
      -- the last character is not the gap, so that more follows it
      cases chars with
      | nil => simp [gap] at solid
      | cons d chars => exact closed (.inr (by simp)) (by simpa using solid)
    · obtain ⟨next, afterGap', passed, holds', line', closed⟩ :=
        ih further placed' (holds.push c) (by simp) here'
      rw [if_neg gap, passed, same]
      refine ⟨next, afterGap', rfl, by simpa using holds', line', fun _ solid => ?_⟩
      refine closed (.inl (by simp)) ?_
      cases chars with
      | nil => rfl
      | cons d chars => simpa using solid

/-- Nothing is left over behind a text that may be plain. -/
theorem IsPlain.isGap_last (plain : IsPlain chars) : chars.getLast?.any isGap = false := by
  cases ends : chars.getLast? with
  | none => rfl
  | some c =>
    by_contra gap
    have space : c = ' ' :=
      eq_space_of_isGap (plain.shown c (List.mem_of_getLast? ends)) (by simpa using gap)
    simpa [ends, space, Spelling.isSpace] using plain.last

theorem IsPlain.isBreak_last (plain : IsPlain chars) : chars.getLast?.any isBreak = false := by
  cases ends : chars.getLast? with
  | none => rfl
  | some c => exact plain.line c (List.mem_of_getLast? ends)

/-- A name is read up to its colon. -/
theorem readPlain_name (indent : Int) (plain : IsPlain chars) (solid : ∀ c ∈ chars, isGap c = false)
    (gap : atGap rest = true) (here : cursor.rest = chars ++ ':' :: rest)
    (enough : chars.length < fuel) : ∃ whole,
      readPlain false indent fuel {} false cursor = some (whole, cursor.advance chars.length) ∧
        whole.text = chars.reverse ∧ whole.broken = false := by
  obtain ⟨spare, rfl⟩ : ∃ spare, fuel = spare + 1 + chars.length :=
    ⟨fuel - (1 + chars.length), by omega⟩
  have placed : (false = true ∨ ∃ c ∈ chars, isGap c = true) →
      indent ≤ cursor.column ∧ 0 < cursor.column := fun gap => absurd gap (by simpa using solid)
  obtain ⟨read, afterGap, passed, holds, line, closed⟩ :=
    readPlain_line (spare + 1) plain.goesOn placed Folding.holds_empty rfl here
  have colon : (cursor.advance chars.length).rest = ':' :: rest := Cursor.advance_append here
  refine ⟨read, ?_, ?_, line⟩
  · have ends : plainEnds false (':' :: rest) = true := by simp [plainEnds, gap]
    -- whether what stands in front of the colon is a gap makes no difference
    simp only [passed, readPlain.eq_2, colon, show isGap ':' = false from rfl,
      show isBreak ':' = false from rfl, plainClashes_outside, ends, if_true, Bool.false_eq_true,
      if_false, ite_self]
  · have whole := holds.text_eq line
    rwa [closed (.inl rfl) plain.isGap_last, List.nil_append, List.append_nil] at whole

/-- Behind the end of a line the margin of the next one leaves no trace. -/
theorem readPlain_margin (broken : folding.broken = true) {wide : Nat}
    (here : cursor.rest = margin wide ++ rest) :
    readPlain false indent (fuel + wide) folding true cursor =
      readPlain false indent fuel folding true (cursor.advance wide) := by
  induction wide generalizing cursor with
  | zero => simp
  | succ wide ih =>
    have first : cursor.rest = ' ' :: (margin wide ++ rest) := by
      simpa [margin, List.replicate_succ] using here
    have passed : readPlain false indent (fuel + wide + 1) folding true cursor =
        readPlain false indent (fuel + wide) folding true (cursor.advance 1) := by
      simp [readPlain, first, isGap, Folding.gap_of_broken broken]
    rw [← Nat.add_assoc, passed, ih (by simp [first]), Cursor.advance_advance, Nat.add_comm]

/-- A line that is not indented far enough ends a plain scalar. -/
theorem readPlain_end (shallow : (cursor.column : Int) < indent) (begins : BeginsLine cursor.rest) :
    readPlain false indent (fuel + 1) folding true cursor = some (folding, cursor) := by
  cases here : cursor.rest with
  | nil => simp [readPlain, here]
  | cons c rest =>
    obtain ⟨gap, line, -⟩ := begins c (by simp [here])
    simp [readPlain, here, gap, line, shallow]

/-- A text that may be plain is read as it was written. -/
theorem readPlain_text (indent : Int) (plain : IsPlain chars)
    (placed : indent ≤ cursor.column ∧ 0 < cursor.column) (shallow : (column : Int) < indent)
    (begins : BeginsLine content) (here : cursor.rest = chars ++ '\n' :: (margin column ++ content))
    (enough : cursor.rest.length < fuel) : ∃ whole behind,
      readPlain false indent fuel {} false cursor = some (whole, behind) ∧
        whole.text = chars.reverse ∧ whole.broken = true ∧
        behind.rest = content ∧ behind.column = column := by
  obtain ⟨spare, rfl⟩ : ∃ spare, fuel = spare + 1 + column + 1 + chars.length := by
    refine ⟨fuel - (column + 2 + chars.length), ?_⟩
    simp [here, margin] at enough
    omega
  obtain ⟨read, afterGap, passed, holds, line, closed⟩ :=
    readPlain_line (spare + 1 + column + 1) plain.goesOn (fun _ => placed)
      Folding.holds_empty rfl here
  have text : read.text = chars.reverse := by
    have whole := holds.text_eq line
    rwa [closed (.inl rfl) plain.isGap_last, List.nil_append, List.append_nil] at whole
  let atEnd := cursor.advance chars.length
  have feed : atEnd.rest = '\n' :: (margin column ++ content) := Cursor.advance_append here
  obtain ⟨written, rest_eq, column_eq⟩ := Cursor.readBreak_eq feed (by decide) (by decide)
  have broke : readPlain false indent (spare + 1 + column + 1) read afterGap atEnd =
      readPlain false indent (spare + 1 + column) (read.lineBreak ['\n']) true atEnd.skipBreak := by
    rw [readPlain.eq_2, feed]
    simp only [show isGap '\n' = false from rfl, show isBreak '\n' = true from rfl, written,
      if_true, if_false, Bool.false_eq_true]
    rfl
  let behind := atEnd.skipBreak.advance column
  have behind_rest : behind.rest = content := by simp [behind, rest_eq, margin]
  have behind_column : behind.column = column := by simp [behind, column_eq]
  refine ⟨read.lineBreak ['\n'], behind, ?_, ?_, by simp, behind_rest, behind_column⟩
  · rw [passed, broke, readPlain_margin (by simp) rest_eq]
    exact readPlain_end (by rwa [behind_column]) (by rwa [behind_rest])
  · simpa [Folding.lineBreak, line] using text

end Reading

end EffectModel.Yaml
