import EffectModel.Proofs.Yaml.Unquoted
import Mathlib.Data.List.TakeWhile
import Mathlib.Data.Option.Basic

namespace EffectModel.Yaml

open Scalar

variable {c : Char} {chars text rest content : List Char} {cursor : Cursor} {block : Block}
variable {fuel wide column deepest : Nat}

section Writing

theorem writeLines_break (ends : isBreak c = true) (wide : Nat) (afterBreak : Bool)
    (chars : List Char) : writeLines wide afterBreak (c :: chars) = c :: writeLines wide true chars := by
  rw [writeLines, if_pos ends]

theorem writeLines_char (line : isBreak c = false) (wide : Nat) (chars : List Char) :
    writeLines wide false (c :: chars) = c :: writeLines wide false chars := by
  simp [writeLines, line]

/-- A line that is not empty stands behind its margin. -/
theorem writeLines_margin (line : isBreak c = false) (wide : Nat) (chars : List Char) :
    writeLines wide true (c :: chars) = margin wide ++ writeLines wide false (c :: chars) := by
  simp [writeLines, line]

theorem writeLines_line {line : List Char} (unbroken : ∀ d ∈ line, isBreak d = false) (wide : Nat)
    (chars : List Char) :
    writeLines wide false (line ++ chars) = line ++ writeLines wide false chars := by
  induction line with
  | nil => rfl
  | cons d line ih =>
    rw [List.cons_append, writeLines_char (unbroken d List.mem_cons_self),
      ih (fun e held => unbroken e (.tail d held)), List.cons_append]

theorem getLast?_writeLines (wide : Nat) (afterBreak : Bool) (chars : List Char) :
    (writeLines wide afterBreak chars).getLast? = chars.getLast? := by
  induction chars generalizing afterBreak with
  | nil => rfl
  | cons c chars ih =>
    unfold writeLines
    split <;> simp [List.getLast?_cons, List.getLast?_append, ih]

theorem length_le_writeLines (wide : Nat) (afterBreak : Bool) (chars : List Char) :
    chars.length ≤ (writeLines wide afterBreak chars).length := by
  induction chars generalizing afterBreak with
  | nil => simp
  | cons c chars ih =>
    unfold writeLines
    split
    · simpa using ih true
    · have further := ih false
      simp only [List.length_append, List.length_cons]
      omega

theorem writeLines_append_break (ends : isBreak c = true) (wide : Nat) (afterBreak : Bool)
    (chars : List Char) :
    writeLines wide afterBreak (chars ++ [c]) = writeLines wide afterBreak chars ++ [c] := by
  induction chars generalizing afterBreak with
  | nil => simp [writeLines, ends]
  | cons d chars ih =>
    rw [List.cons_append, writeLines, writeLines]
    split <;> simp [ih]

end Writing

section Lines

/-- A block that is being read holds a text when that is what has been taken in, all line ends at the
end included. -/
structure Scalar.Block.Holds (block : Block) (text : List Char) : Prop where
  whole : block.text.reverse ++ (block.lineEnd ++ block.further) = text
  breaks : ∀ c ∈ block.lineEnd ++ block.further, isBreak c = true
  ended : (block.text = [] ∧ block.lineEnd = []) ∨
    ∃ last before ending, block.text = last :: before ∧ isBreak last = false ∧ block.lineEnd = [ending]

/-- Where the reading of a block has come to in front of a line that is not empty, or behind the block
when no characters are left. -/
def AtLine (wide column : Nat) (content : List Char) : List Char → Cursor → Prop
  | [], cursor => cursor.rest = content ∧ cursor.column = column
  | c :: chars, cursor =>
      isBreak c = false ∧ cursor.column = wide ∧
        cursor.rest = writeLines wide false (c :: chars) ++ (margin column ++ content)

theorem length_spaces_margin (wide : Nat) (rest : List Char) :
    ((margin wide ++ rest).takeWhile (· == ' ')).length =
      wide + (rest.takeWhile (· == ' ')).length := by
  rw [List.takeWhile_append_of_pos (by simp [margin])]
  simp [margin]

theorem takeWhile_spaces_eq_nil (solid : rest.head? ≠ some ' ') :
    rest.takeWhile (· == ' ') = [] := by
  cases rest with
  | nil => rfl
  | cons c rest =>
    have other : c ≠ ' ' := by simpa using solid
    simp [other]

theorem BeginsLine.head?_ne (begins : BeginsLine content) (gap : isGap c = true) :
    content.head? ≠ some c := by
  intro first
  simp [(begins c first).1] at gap

theorem BeginsLine.any_isBreak (begins : BeginsLine content) :
    content.head?.any isBreak = false := by
  cases first : content.head? with
  | none => rfl
  | some c => exact (begins c first).2.1

theorem readEmptyLines_break (start : cursor.column = 0) (shown : isPrintable c = true)
    (ends : isBreak c = true) (here : cursor.rest = c :: rest) (indent : Nat) :
    readEmptyLines (some indent) (fuel + 1) deepest cursor =
      (readEmptyLines (some indent) fuel deepest cursor.skipBreak).map
        (fun (further, depth, place) => (c :: further, depth, place)) := by
  have other : c ≠ ' ' := by rintro rfl; simp [isBreak] at ends
  have tab : c ≠ '\t' := by rintro rfl; simp [isBreak] at ends
  have written := (Cursor.readBreak_eq here ends shown).1
  simp [readEmptyLines, here, other, tab, ends, start, written, Cursor.skipBreak,
    Option.map_eq_bind]

/-- The empty lines end in front of a line that is not empty, at the margin of the block. -/
theorem readEmptyLines_line (start : cursor.column = 0) (line : isBreak c = false)
    (here : cursor.rest = margin wide ++ c :: rest) :
    readEmptyLines (some wide) (fuel + 1) deepest cursor =
      some ([], max deepest wide, cursor.advance wide) := by
  have count : min (cursor.rest.takeWhile (· == ' ')).length wide = wide := by
    rw [here, length_spaces_margin]
    omega
  have next : (cursor.advance wide).rest = c :: rest := by simp [here, margin]
  simp [readEmptyLines, start, count, next, line, -Cursor.advance_rest]

theorem readEmptyLines_end (start : cursor.column = 0) (shallow : column < wide)
    (begins : BeginsLine content) (here : cursor.rest = margin column ++ content) :
    readEmptyLines (some wide) (fuel + 1) deepest cursor =
      some ([], max deepest column, cursor.advance column) := by
  have count : min (cursor.rest.takeWhile (· == ' ')).length wide = column := by
    rw [here, length_spaces_margin, takeWhile_spaces_eq_nil (begins.head?_ne rfl)]
    exact Nat.min_eq_left (Nat.le_of_lt shallow)
  have next : (cursor.advance column).rest = content := by simp [here, margin]
  have tab : content.head? ≠ some '\t' := begins.head?_ne rfl
  simp [readEmptyLines, start, count, next, tab, begins.any_isBreak, -Cursor.advance_rest]

/-- The empty lines in front of a line are passed, and so is its margin. -/
theorem readEmptyLines_written (deepest : Nat) (shown : ∀ c ∈ chars, isPrintable c = true)
    (shallow : column < wide) (begins : BeginsLine content) (start : cursor.column = 0)
    (here : cursor.rest = writeLines wide true chars ++ (margin column ++ content))
    (enough : chars.length < fuel) : ∃ depth place,
      readEmptyLines (some wide) fuel deepest cursor =
          some (chars.takeWhile isBreak, depth, place) ∧
        AtLine wide column content (chars.dropWhile isBreak) place := by
  induction chars generalizing cursor fuel with
  | nil =>
    obtain ⟨fuel, rfl⟩ := Nat.exists_eq_add_one_of_ne_zero (Nat.ne_of_gt enough)
    refine ⟨_, _, readEmptyLines_end start shallow begins here, ?_, ?_⟩
    · simp [here, writeLines, margin]
    · simp [start]
  | cons c chars ih =>
    obtain ⟨fuel, rfl⟩ := Nat.exists_eq_add_one_of_ne_zero (Nat.ne_zero_of_lt enough)
    by_cases ends : isBreak c = true
    · rw [writeLines_break ends, List.cons_append] at here
      obtain ⟨-, rest_eq, column_eq⟩ :=
        Cursor.readBreak_eq here ends (shown c List.mem_cons_self)
      obtain ⟨depth, place, read, atLine⟩ :=
        ih (fun d held => shown d (.tail c held)) column_eq rest_eq (by simpa using enough)
      refine ⟨depth, place, ?_, by simpa [ends] using atLine⟩
      rw [readEmptyLines_break start (shown c List.mem_cons_self) ends here, read]
      simp [ends]
    · rw [Bool.not_eq_true] at ends
      rw [writeLines_margin ends, List.append_assoc] at here
      have line := here
      rw [writeLines_char ends, List.cons_append] at line
      refine ⟨max deepest wide, cursor.advance wide, ?_, ?_⟩
      · rw [readEmptyLines_line start ends line]
        simp [ends]
      · rw [List.dropWhile_cons_of_neg (by simp [ends])]
        exact ⟨ends, by simp [start], by simp [here, margin]⟩

/-- The first line of characters the last of which ends a line. -/
theorem exists_firstLine (line : isBreak c = false)
    (ends : (c :: chars).getLast?.all isBreak = true) : ∃ first before ending more,
      c :: chars = (first :: before) ++ ending :: more ∧
        (∀ d ∈ first :: before, isBreak d = false) ∧ isBreak ending = true := by
  obtain ⟨last, at_end⟩ : ∃ last, (c :: chars).getLast? = some last := by simp [List.getLast?_cons]
  have found : ((c :: chars).find? isBreak).isSome = true :=
    List.find?_isSome.mpr ⟨last, List.mem_of_getLast? at_end, by simpa [at_end] using ends⟩
  obtain ⟨ending, found⟩ := Option.isSome_iff_exists.mp found
  obtain ⟨ends, before, more, split, unbroken⟩ := List.find?_eq_some_iff_append.mp found
  cases before with
  | nil =>
    obtain ⟨rfl, -⟩ : c = ending ∧ chars = more := by simpa using split
    simp [line] at ends
  | cons first before => exact ⟨first, before, ending, more, split, by simpa using unbroken, ends⟩

theorem readLines_end (done : cursor.column ≠ wide) :
    readLines true wide (fuel + 1) block cursor = some (block, cursor) := by
  rw [readLines, if_pos (by simp [done])]

/-- A line of a block is taken in, with the empty lines behind it. -/
theorem readLines_line {line : List Char} {ending : Char} (nonempty : line ≠ [])
    (unbroken : ∀ d ∈ line, isBreak d = false) (ends : isBreak ending = true)
    (shown : isPrintable ending = true) (placed : cursor.column = wide)
    (here : cursor.rest = line ++ ending :: rest) :
    readLines true wide (fuel + 1) block cursor =
      (readEmptyLines (some wide) fuel 0 (cursor.advance line.length).skipBreak).bind
        (fun (further, _, place) => readLines true wide fuel
          ⟨line.reverse ++ ((block.lineEnd ++ block.further).reverse ++ block.text), [ending], further,
            line.head?.any isGap⟩ place) := by
  have taken : cursor.rest.takeWhile (fun c => !isBreak c) = line := by
    rw [here, List.takeWhile_append_of_pos (by simpa using unbroken)]
    simp [ends]
  have behind : (cursor.advance line.length).rest = ending :: rest := Cursor.advance_append here
  have written := (Cursor.readBreak_eq behind ends shown).1
  have more : cursor.rest ≠ [] := by simp [here]
  have head : cursor.rest.head? = line.head? := by
    rw [here, List.head?_append_of_ne_nil _ nonempty]
  rw [readLines, if_neg (by simp [placed, more])]
  simp [Cursor.takeWhile, Cursor.skipWhile, taken, written, Cursor.skipBreak, head]

theorem Scalar.Block.Holds.take (holds : block.Holds text) {first ending : Char}
    {before further : List Char} (unbroken : ∀ d ∈ first :: before, isBreak d = false)
    (breaks : ∀ d ∈ ending :: further, isBreak d = true) (afterGap : Bool) :
    Block.Holds ⟨(first :: before).reverse ++ ((block.lineEnd ++ block.further).reverse ++ block.text),
      [ending], further, afterGap⟩ (text ++ ((first :: before) ++ ending :: further)) := by
  refine ⟨by simp [← holds.whole], breaks, .inr ?_⟩
  have split := List.dropLast_append_getLast (List.cons_ne_nil first before)
  generalize (first :: before).dropLast = front, (first :: before).getLast _ = last at split
  refine ⟨last, front.reverse ++ ((block.lineEnd ++ block.further).reverse ++ block.text), ending,
    by simp [← split], unbroken last (by simp [← split]), rfl⟩

theorem endsLine_of_append (chars : List Char) (ends : (chars ++ rest).getLast?.all isBreak = true) :
    rest.getLast?.all isBreak = true := by
  rw [List.getLast?_append] at ends
  cases last : rest.getLast? with
  | none => rfl
  | some c => simpa [last] using ends

/-- The lines of a block are taken in as they were written. -/
theorem readLines_written (shown : ∀ c ∈ chars, isPrintable c = true) (shallow : column < wide)
    (begins : BeginsLine content) (ends : chars.getLast?.all isBreak = true)
    (holds : block.Holds text) (here : AtLine wide column content chars cursor)
    (enough : chars.length < fuel) : ∃ whole behind,
      readLines true wide fuel block cursor = some (whole, behind) ∧ whole.Holds (text ++ chars) ∧
        behind.rest = content ∧ behind.column = column := by
  induction fuel generalizing block cursor text chars with
  | zero => simp at enough
  | succ fuel ih =>
    cases chars with
    | nil =>
      obtain ⟨rest_eq, column_eq⟩ := here
      have done : cursor.column ≠ wide := by omega
      exact ⟨block, cursor, readLines_end done, by simpa using holds, rest_eq, column_eq⟩
    | cons c chars =>
      obtain ⟨line, placed, here⟩ := here
      obtain ⟨first, before, ending, more, split, unbroken, breaks⟩ := exists_firstLine line ends
      rw [split] at shown ends here enough ⊢
      rw [writeLines_line unbroken, writeLines_break breaks, List.append_assoc, List.cons_append]
        at here
      have endingShown : isPrintable ending = true := shown ending (by simp)
      have behind : (cursor.advance (first :: before).length).rest =
          ending :: (writeLines wide true more ++ (margin column ++ content)) :=
        Cursor.advance_append here
      obtain ⟨-, rest_eq, column_eq⟩ := Cursor.readBreak_eq behind breaks endingShown
      have moreShown : ∀ d ∈ more, isPrintable d = true := fun d held => shown d (by simp [held])
      have shorter : more.length < fuel := by simp at enough; omega
      obtain ⟨depth, place, empty, atLine⟩ :=
        readEmptyLines_written 0 moreShown shallow begins column_eq rest_eq shorter
      rw [readLines_line (List.cons_ne_nil first before) unbroken breaks endingShown placed here,
        empty, Option.bind_some]
      have parts := List.takeWhile_append_dropWhile (p := isBreak) (l := more)
      have allBreaks : ∀ d ∈ ending :: more.takeWhile isBreak, isBreak d = true :=
        List.forall_mem_cons.mpr ⟨breaks, fun d held => List.mem_takeWhile_imp held⟩
      have taken := holds.take unbroken allBreaks ((first :: before).head?.any isGap)
      have moreEnds : (more.dropWhile isBreak).getLast?.all isBreak = true := by
        refine endsLine_of_append ((first :: before) ++ ending :: more.takeWhile isBreak) ?_
        simpa only [List.append_assoc, List.cons_append, parts] using ends
      obtain ⟨whole, behind, read, holds', rest_eq', column_eq'⟩ :=
        ih (fun d held => moreShown d ((List.dropWhile_sublist _).subset held)) moreEnds taken atLine
          (Nat.lt_of_le_of_lt (List.length_dropWhile_le _ _) shorter)
      refine ⟨whole, behind, read, ?_, rest_eq', column_eq'⟩
      simpa only [List.append_assoc, List.cons_append, parts] using holds'

end Lines

section Header

/-- Whether the indentation of a block cannot be seen from its first line. -/
def isHinted (chars : List Char) : Bool := chars.head?.any (fun c => c == ' ' || isBreak c)

/-- What becomes of the line ends behind a block as it is written. -/
def chompingFor (chars : List Char) : Chomping :=
  match chars.reverse with
  | last :: before =>
      if !isBreak last then .strip
      else if before.isEmpty || before.head?.any isBreak then .keep
      else .clip
  | [] => .strip

def chompingMark : Chomping → List Char
  | .strip => ['-']
  | .clip => []
  | .keep => ['+']

theorem blockHeader_eq (chars : List Char) : blockHeader chars =
    (if isHinted chars then ['2'] else []) ++ chompingMark (chompingFor chars) := by
  have digit : Nat.toDigits 10 indentStep = ['2'] := rfl
  unfold blockHeader chompingFor
  rw [digit]
  refine congrArg₂ (· ++ ·) rfl ?_
  cases chars.reverse with
  | nil => rfl
  | cons last before =>
    dsimp only
    split_ifs <;> rfl

/-- The header of a block says how the block was written. -/
theorem readHeader_written (chars rest : List Char) :
    readHeader (blockHeader chars ++ '\n' :: rest) =
      (chompingFor chars, if isHinted chars then some indentStep else none,
        (blockHeader chars).length) := by
  rw [blockHeader_eq]
  cases isHinted chars <;> cases chompingFor chars <;> cases rest <;> rfl

/-- Behind the last line of a text the line ends, unless the text has ended it. -/
def endedLines (chars : List Char) : List Char :=
  if chars.getLast?.any isBreak then chars else chars ++ ['\n']

theorem writeLines_endedLines (wide : Nat) (chars : List Char) :
    writeLines wide true (endedLines chars) =
      if chars.getLast?.any isBreak then writeLines wide true chars
      else writeLines wide true chars ++ ['\n'] := by
  unfold endedLines
  split
  · rfl
  · rw [writeLines_append_break (by rfl)]

theorem isPrintable_endedLines (shown : ∀ c ∈ chars, isPrintable c = true) :
    ∀ c ∈ endedLines chars, isPrintable c = true := by
  unfold endedLines
  split_ifs
  · exact shown
  · simpa [or_imp, forall_and, isPrintable] using shown

theorem getLast?_endedLines (chars : List Char) :
    (endedLines chars).getLast?.all isBreak = true := by
  unfold endedLines
  split
  next ends =>
    cases last : chars.getLast? with
    | none => rfl
    | some c => simpa [last] using ends
  next => simp [isBreak]

/-- What is kept of the line ends behind a block. -/
def Scalar.Block.kept (block : Block) : Chomping → List Char
  | .strip => []
  | .clip => block.lineEnd
  | .keep => block.lineEnd ++ block.further

/-- Where a line is ended once, the block has no further line ends. -/
theorem Scalar.Block.Holds.once {front : List Char} {last ending : Char}
    (holds : block.Holds (front ++ [last, ending])) (line : isBreak last = false) :
    block.text.reverse = front ++ [last] ∧ block.lineEnd = [ending] := by
  have whole := holds.whole
  obtain ⟨none, open_end⟩ | ⟨c, before, first, text_eq, solid, end_eq⟩ := holds.ended
  · have held : last ∈ block.lineEnd ++ block.further := by
      rw [none, List.reverse_nil, List.nil_append] at whole
      simp [whole]
    simp [holds.breaks last held] at line
  · rw [text_eq, end_eq] at whole
    have backwards := congrArg List.reverse whole
    simp only [List.reverse_append, List.reverse_cons, List.reverse_nil, List.reverse_reverse,
      List.nil_append, List.append_assoc, List.cons_append] at backwards
    cases further : block.further.reverse with
    | nil =>
      rw [further, List.nil_append] at backwards
      simp only [List.cons.injEq] at backwards
      obtain ⟨rfl, rfl, rfl⟩ := backwards
      simp [text_eq, end_eq]
    | cons d more =>
      -- counted from the end, a line end would be in the place of the last character
      have held : last ∈ block.lineEnd ++ block.further := by
        rw [further, List.cons_append, List.cons.injEq] at backwards
        rw [end_eq, ← List.reverse_reverse block.further, further]
        cases more with
        | nil => simp [(List.cons.inj backwards.2).1]
        | cons e more => simp [(List.cons.inj backwards.2).1]
      simp [holds.breaks last held] at line

/-- A text that does not end a line, one that ends its line once, and one that ends in further line
ends, or is nothing but line ends, differ in what is kept. -/
theorem chompingFor_cases (nonempty : chars ≠ []) :
    (∃ front last, chars = front ++ [last] ∧ isBreak last = false ∧ chompingFor chars = .strip) ∨
    (∃ front last ending, chars = front ++ [last, ending] ∧ isBreak last = false ∧
      isBreak ending = true ∧ chompingFor chars = .clip) ∨
    (chars.getLast?.any isBreak = true ∧ chompingFor chars = .keep) := by
  obtain ⟨last, before, rfl⟩ : ∃ last before, chars = List.reverse (last :: before) := by
    cases backwards : chars.reverse with
    | nil => exact absurd (List.reverse_eq_nil_iff.mp backwards) nonempty
    | cons last before => exact ⟨last, before, by rw [← backwards, List.reverse_reverse]⟩
  unfold chompingFor
  rw [List.reverse_reverse]
  cases ends : isBreak last with
  | false => exact .inl ⟨before.reverse, last, by simp, ends, by simp [ends]⟩
  | true =>
    refine .inr ?_
    cases before with
    | nil => exact .inr (by simp [ends])
    | cons d more =>
      cases line : isBreak d with
      | false => exact .inl ⟨more.reverse, d, last, by simp, line, ends, by simp [ends, line]⟩
      | true => exact .inr (by simp [ends, line])

theorem Scalar.Block.Holds.kept (nonempty : chars ≠ []) (holds : block.Holds (endedLines chars)) :
    block.text.reverse ++ block.kept (chompingFor chars) = chars := by
  unfold endedLines at holds
  rcases chompingFor_cases nonempty with
    ⟨front, last, rfl, line, strips⟩ | ⟨front, last, ending, rfl, line, ends, clips⟩ | ⟨ends, keeps⟩
  · simp only [List.getLast?_concat, Option.any_some, line, Bool.false_eq_true, if_false,
      List.append_assoc, List.singleton_append] at holds
    rw [strips, (holds.once line).1]
    exact List.append_nil _
  · have ended : (front ++ [last, ending]).getLast?.any isBreak = true := by simp [ends]
    rw [if_pos ended] at holds
    obtain ⟨text_eq, end_eq⟩ := holds.once line
    rw [clips, text_eq, Block.kept, end_eq, List.append_assoc]
    rfl
  · rw [if_pos ends] at holds
    rw [keeps]
    exact holds.whole

/-- Where the indentation can be seen from the first line, that line shows it. -/
theorem readEmptyLines_seen (start : cursor.column = 0) (line : isBreak c = false)
    (solid : isGap c = false) (here : cursor.rest = margin wide ++ c :: rest) :
    readEmptyLines none (fuel + 1) deepest cursor =
      some ([], max deepest wide, cursor.advance wide) := by
  have space : c ≠ ' ' := by rintro rfl; simp [isGap] at solid
  have tab : c ≠ '\t' := by rintro rfl; simp [isGap] at solid
  have count : (cursor.rest.takeWhile (· == ' ')).length = wide := by
    rw [here, length_spaces_margin, takeWhile_spaces_eq_nil (by simpa using space)]
    rfl
  have next : (cursor.advance wide).rest = c :: rest := by simp [here, margin]
  simp [readEmptyLines, start, count, next, line, tab, -Cursor.advance_rest]

variable {outer : Nat}

/-- The empty lines at the front of a block show how far it is indented, or its header says so. -/
theorem readEmptyLines_first (nonempty : chars ≠ []) (shown : ∀ c ∈ chars, isPrintable c = true)
    (shallow : column < outer + indentStep) (begins : BeginsLine content) (start : cursor.column = 0)
    (here : cursor.rest =
      writeLines (outer + indentStep) true (endedLines chars) ++ (margin column ++ content))
    (enough : (endedLines chars).length < fuel) : ∃ depth place,
      readEmptyLines (if isHinted chars then some (outer + indentStep) else none) fuel 0 cursor =
          some ((endedLines chars).takeWhile isBreak, depth, place) ∧
        AtLine (outer + indentStep) column content ((endedLines chars).dropWhile isBreak) place ∧
        (isHinted chars = false → depth = outer + indentStep) := by
  have shown' := isPrintable_endedLines shown
  cases hinted : isHinted chars with
  | true =>
    obtain ⟨depth, place, read, atLine⟩ :=
      readEmptyLines_written 0 shown' shallow begins start here enough
    exact ⟨depth, place, by simpa using read, atLine, nofun⟩
  | false =>
    cases chars with
    | nil => exact absurd rfl nonempty
    | cons c chars =>
      obtain ⟨other, line⟩ : c ≠ ' ' ∧ isBreak c = false := by simpa [isHinted] using hinted
      have solid : isGap c = false := by
        by_contra gap
        exact other (eq_space_of_isGap (shown c List.mem_cons_self) (by simpa using gap))
      obtain ⟨more, split⟩ : ∃ more, endedLines (c :: chars) = c :: more := by
        unfold endedLines
        split_ifs
        · exact ⟨_, rfl⟩
        · exact ⟨_, rfl⟩
      rw [split, writeLines_margin line, List.append_assoc] at here
      have first := here
      rw [writeLines_char line, List.cons_append] at first
      obtain ⟨fuel, rfl⟩ := Nat.exists_eq_add_one_of_ne_zero (Nat.ne_zero_of_lt enough)
      refine ⟨max 0 (outer + indentStep), cursor.advance (outer + indentStep), ?_, ?_, by simp⟩
      · rw [split, List.takeWhile_cons_of_neg (by simp [line])]
        exact readEmptyLines_seen start line solid first
      · rw [split, List.dropWhile_cons_of_neg (by simp [line])]
        exact ⟨line, by simp [start], by simp [here, margin]⟩

theorem Scalar.Block.holds_further {empty : List Char} (breaks : ∀ c ∈ empty, isBreak c = true) :
    Block.Holds { further := empty } empty :=
  ⟨rfl, by simpa using breaks, .inl ⟨rfl, rfl⟩⟩

theorem skip_lineFeed (here : cursor.rest = '\n' :: rest) :
    (cursor.skipWhile isGap).skipComment = cursor := by
  have gaps : cursor.skipWhile isGap = cursor := by simp [Cursor.skipWhile, here, isGap]
  simp [Cursor.skipComment, gaps, here]

/-- A text that is written as a block is read as it was, up to the content of the line that follows. -/
theorem readBlock_written (nonempty : chars ≠ []) (shown : ∀ c ∈ chars, isPrintable c = true)
    (shallow : column < outer + indentStep) (begins : BeginsLine content)
    (here : cursor.rest = blockHeader chars ++ '\n' ::
      (writeLines (outer + indentStep) true (endedLines chars) ++ (margin column ++ content))) :
    ∃ behind, readBlock true outer cursor = some (chars, behind) ∧
      behind.rest = content ∧ behind.column = column := by
  have feed := Cursor.advance_append here
  generalize header_eq : cursor.advance (blockHeader chars).length = header at feed
  obtain ⟨-, rest_eq, column_eq⟩ := Cursor.readBreak_eq feed (by rfl) (by rfl)
  have enough : (endedLines chars).length < header.skipBreak.rest.length + 1 := by
    have longer := length_le_writeLines (outer + indentStep) true (endedLines chars)
    rw [rest_eq, List.length_append]
    omega
  obtain ⟨depth, place, empty, atLine, seen⟩ :=
    readEmptyLines_first nonempty shown shallow begins column_eq rest_eq enough
  have parts := List.takeWhile_append_dropWhile (p := isBreak) (l := endedLines chars)
  have ends : ((endedLines chars).dropWhile isBreak).getLast?.all isBreak = true :=
    endsLine_of_append ((endedLines chars).takeWhile isBreak)
      (by rw [parts]; exact getLast?_endedLines chars)
  obtain ⟨block, behind, read, holds, rest_eq', column_eq'⟩ :=
    readLines_written
      (fun c held => isPrintable_endedLines shown c ((List.dropWhile_sublist _).subset held))
      shallow begins ends (Block.holds_further (fun c held => List.mem_takeWhile_imp held)) atLine
      (Nat.lt_of_le_of_lt (List.length_dropWhile_le _ _) enough)
  rw [parts] at holds
  have indent : (if isHinted chars then some (outer + indentStep) else none).getD
      (max depth (max ((outer : Int) + 1).toNat 1)) = outer + indentStep := by
    cases hinted : isHinted chars with
    | true => rfl
    | false =>
      simp only [Bool.false_eq_true, if_false, Option.getD_none, seen hinted, indentStep]
      omega
  have given : (if isHinted chars then some indentStep else none).map
      (fun increment => (outer : Int).toNat + increment) =
        if isHinted chars then some (outer + indentStep) else none := by
    split <;> rfl
  have atEnd : atBreak header.rest = true := by simp [feed, atBreak, isBreak]
  refine ⟨behind, ?_, rest_eq', column_eq'⟩
  rw [readBlock, here, readHeader_written]
  simp only [header_eq, skip_lineFeed feed, atEnd, given, empty, indent, read, guard_true,
    Option.pure_def, Option.bind_eq_bind, Option.bind_some]
  exact congrArg (fun text => some (text, behind)) (holds.kept nonempty)

end Header

end EffectModel.Yaml
