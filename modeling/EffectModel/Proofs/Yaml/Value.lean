import EffectModel.Proofs.Yaml.Lexer
import EffectModel.Yaml.Record

/-! Cutting off the values of fields. Main statement: a text that was written behind the name of a field
or a dash becomes one token, however it was written. -/
namespace EffectModel.Yaml

variable {lexer : Lexer} {out tokens : List Token} {rest chars : List Char} {text : String}
variable {blocks : List Nat} {column outer : Nat} {keyAllowed : Bool} {c : Char}

/-- The style of the token that a text becomes. -/
def Spelling.style : Spelling → ScalarStyle
  | .plain => .plain
  | .single | .double => .other
  | .literal => .literal

section Spelled

theorem isPlain_of_ofText (plain : Spelling.ofText text = .plain) :
    IsPlain text.toList ∧ text.toList ≠ [] := by
  unfold Spelling.ofText at plain
  dsimp only at plain
  split_ifs at plain with _ _ allowed
  simp only [Bool.and_eq_true, Bool.not_eq_true'] at allowed
  refine ⟨isPlain_of_allowsPlain allowed.2, fun none => ?_⟩
  rw [String.toList_eq_nil_iff] at none
  simp [none, Plain.isAmbiguous, Plain.isNull] at allowed

theorem allowsSingle_of_ofText (single : Spelling.ofText text = .single) :
    Spelling.allowsSingle text.toList = true := by
  unfold Spelling.ofText at single
  dsimp only at single
  split_ifs at single with _ _ _ allowed
  exact allowed

theorem isSingle_of_allowsSingle (allowed : Spelling.allowsSingle chars = true) : IsSingle chars := by
  simp only [Spelling.allowsSingle, Spelling.needsEscapes, Bool.not_eq_true', Bool.or_eq_false_iff,
    List.any_eq_false] at allowed
  obtain ⟨⟨shown, spaceBreak⟩, breakSpace⟩ := allowed
  exact ⟨by simpa using shown, spaceBreak, breakSpace⟩

theorem shown_of_ofText (literal : Spelling.ofText text = .literal) :
    text.toList ≠ [] ∧ ∀ c ∈ text.toList, isPrintable c = true := by
  unfold Spelling.ofText at literal
  dsimp only at literal
  split_ifs at literal with _ allowed
  simp only [Spelling.allowsBlock, Spelling.needsEscapes, Bool.not_eq_true', Bool.or_eq_false_iff,
    List.isEmpty_eq_false_iff, List.any_eq_false] at allowed
  obtain ⟨⟨nonempty, shown, -⟩, -⟩ := allowed
  exact ⟨nonempty, by simpa using shown⟩

end Spelled

section Taking

/-- Behind the start of a line no key has to begin. -/
theorem Lexer.exists_markKey (here : lexer.IsAt ⟨rest, column, outer :: blocks, tokens, keyAllowed⟩)
    (placed : outer < column) : ∃ possible, lexer.markKey = some { lexer with possible := possible } ∧
      possible.any PossibleKey.isRequired = false := by
  cases keyAllowed with
  | true =>
    refine ⟨_, Lexer.markKey_of_allowed here.keyAllowed here.free, ?_⟩
    have deeper : ((outer : Int) == column) = false := beq_eq_false_iff_ne.mpr (by omega)
    simp [Lexer.possibleKey, Lexer.indent, here.blocks, here.column, deeper]
  | false =>
    refine ⟨lexer.possible, ?_, here.free⟩
    rw [Lexer.markKey, if_neg (by simp [here.keyAllowed])]

/-- A plain text is cut off with the end of its line and the margin of the next one. -/
theorem Stage.scans_plain (plain : IsPlain chars) (nonempty : chars ≠ []) (placed : outer < column)
    (after : LineScans rest outer (outer :: blocks)
      (.scalar (String.ofList chars) .plain :: tokens) out) :
    Stage.Scans ⟨chars ++ '\n' :: rest, column, outer :: blocks, tokens, keyAllowed⟩ out := by
  obtain ⟨wide, content, rfl, shallow, begins, scans⟩ := after
  obtain ⟨c, chars, rfl⟩ := List.exists_cons_of_ne_nil nonempty
  refine scans_of_takeToken (plain.beginsLine _) (by simp)
    (Lexer.inside_cons (Nat.le_of_lt placed) blocks) fun lexer here fuel enough => ?_
  have column_eq : lexer.cursor.column = column := here.column
  have indent : lexer.indent = outer := by simp [Lexer.indent, here.blocks]
  have unmarked : (lexer.cursor.column == 0 && atDocumentMark lexer.cursor.rest) = false := by
    simp [column_eq, Nat.ne_zero_of_lt placed]
  obtain ⟨possible, marked, free⟩ := Lexer.exists_markKey here placed
  obtain ⟨whole, behind, read, text_eq, broken, rest_eq, behind_eq⟩ :=
    readPlain_text (lexer.indent + 1) plain (by omega) (by omega) begins here.rest
      (by rwa [here.rest])
  let next : Lexer := { lexer with
    cursor := behind
    tokens := .scalar (String.ofList (c :: chars)) .plain :: lexer.tokens
    possible := possible
    keyAllowed := true }
  have reached : next.IsAt ⟨content, wide, outer :: blocks,
      .scalar (String.ofList (c :: chars)) .plain :: tokens, true⟩ :=
    ⟨rest_eq, behind_eq, here.blocks, congrArg _ here.tokens, rfl, here.outside, free⟩
  refine ⟨next, ?_, by simp [next, rest_eq]; omega, scans next reached⟩
  rw [Lexer.takeToken_plain plain here.outside unmarked here.rest,
    Lexer.takePlain_of_read here.inFlow marked read text_eq, broken]

/-- A text between quotes is cut off with the end of its line and the margin of the next one. -/
theorem Stage.scans_quoted {quote : Char} {written : List Char}
    (read : Nat → Cursor → Option (Folding × Cursor)) (other : BeginsLine [quote])
    (taken : ∀ (lexer : Lexer) (fuel : Nat) (rest : List Char), lexer.cursor.rest = quote :: rest →
      lexer.takeToken fuel = lexer.takeQuoted (read fuel))
    (reads : ∀ (fuel : Nat) (cursor : Cursor) (rest : List Char), cursor.column ≠ 0 →
      rest.head? ≠ some quote → cursor.rest = written ++ quote :: rest → cursor.rest.length < fuel →
        ∃ whole behind, read fuel cursor = some (whole, behind) ∧ whole.text = chars.reverse ∧
          behind.rest = rest)
    (placed : outer < column)
    (after : LineScans rest outer (outer :: blocks)
      (.scalar (String.ofList chars) .other :: tokens) out) :
    Stage.Scans ⟨quote :: (written ++ quote :: '\n' :: rest), column, outer :: blocks, tokens,
      keyAllowed⟩ out := by
  refine scans_of_takeToken (fun c first => other c (by simpa using first)) (by simp)
    (Lexer.inside_cons (Nat.le_of_lt placed) blocks) fun lexer here fuel enough => ?_
  obtain ⟨possible, marked, free⟩ := Lexer.exists_markKey here placed
  have opened : (lexer.cursor.advance 1).rest = written ++ quote :: '\n' :: rest := by
    simp [here.rest]
  have feed : ('\n' :: rest).head? ≠ some quote := by
    rintro same
    have line := (other quote rfl).2.1
    rw [List.head?_cons, Option.some.injEq] at same
    simp [← same, isBreak] at line
  obtain ⟨whole, behind, read_eq, text_eq, rest_eq⟩ :=
    reads fuel (lexer.cursor.advance 1) _ (by simp) feed opened (by simp [here.rest] at enough ⊢; omega)
  let next : Lexer := { lexer with
    cursor := behind
    tokens := .scalar (String.ofList chars) .other :: lexer.tokens
    possible := possible
    keyAllowed := false }
  have reached : next.IsAt ⟨'\n' :: rest, behind.column, outer :: blocks,
      .scalar (String.ofList chars) .other :: tokens, false⟩ :=
    ⟨rest_eq, rfl, here.blocks, congrArg _ here.tokens, rfl, here.outside, free⟩
  refine ⟨next, ?_, by simp [next, rest_eq]; omega,
    Stage.scans_lineEnd after next reached⟩
  rw [taken lexer fuel _ here.rest, Lexer.takeQuoted, marked]
  change (read fuel (lexer.cursor.advance 1)).bind _ = _
  simp only [read_eq, Option.bind_some, text_eq, List.reverse_reverse]
  rfl

/-- A block is cut off with the margin of the line behind it. -/
theorem Stage.scans_block (nonempty : chars ≠ []) (shown : ∀ c ∈ chars, isPrintable c = true)
    (placed : outer < column)
    (after : LineScans rest outer (outer :: blocks)
      (.scalar (String.ofList chars) .literal :: tokens) out) :
    Stage.Scans ⟨'|' :: (blockHeader chars ++ '\n' ::
      (writeLines (outer + indentStep) true (endedLines chars) ++ rest)),
      column, outer :: blocks, tokens, keyAllowed⟩ out := by
  obtain ⟨wide, content, rfl, shallow, begins, scans⟩ := after
  refine scans_of_takeToken (by simp [BeginsLine, isGap, isBreak]) (by simp)
    (Lexer.inside_cons (Nat.le_of_lt placed) blocks) fun lexer here fuel enough => ?_
  have indent : lexer.indent = outer := by simp [Lexer.indent, here.blocks]
  have shallow' : wide < outer + indentStep := by
    unfold indentStep
    omega
  have opened : (lexer.cursor.advance 1).rest = blockHeader chars ++ '\n' ::
      (writeLines (outer + indentStep) true (endedLines chars) ++ (margin wide ++ content)) := by
    simp [here.rest]
  obtain ⟨behind, read, rest_eq, column_eq⟩ :=
    readBlock_written nonempty shown shallow' begins opened
  let next : Lexer := { lexer with
    cursor := behind
    tokens := .scalar (String.ofList chars) .literal :: lexer.tokens
    possible := none
    keyAllowed := true }
  have reached : next.IsAt ⟨content, wide, outer :: blocks,
      .scalar (String.ofList chars) .literal :: tokens, true⟩ :=
    ⟨rest_eq, column_eq, here.blocks, congrArg _ here.tokens, rfl, here.outside, rfl⟩
  refine ⟨next, ?_, by simp [next, rest_eq]; omega, scans next reached⟩
  have taken : lexer.takeToken fuel = lexer.takeBlock true := by
    simp [Lexer.takeToken, here.rest, here.inFlow]
  rw [taken, Lexer.takeBlock, Lexer.dropKey, if_neg (by simp [here.free])]
  change (Scalar.readBlock true lexer.indent (lexer.cursor.advance 1)).bind _ = _
  rw [indent, read]
  rfl

end Taking

section Texts

theorem length_le_flatMap_writeDoubled (chars : List Char) :
    chars.length ≤ (chars.flatMap writeDoubled).length := by
  induction chars with
  | nil => rfl
  | cons c chars ih =>
    have some_char : 0 < (writeDoubled c).length := by
      obtain escaped | ⟨plain, -⟩ := writeDoubled_cases c
      · obtain ⟨letter, body, written, -⟩ := exists_escape c
        simp [escaped, written]
      · simp [plain]
    rw [List.flatMap_cons, List.length_append, List.length_cons]
    omega

theorem Stage.scans_double (chars : List Char) (placed : outer < column)
    (after : LineScans rest outer (outer :: blocks)
      (.scalar (String.ofList chars) .other :: tokens) out) :
    Stage.Scans ⟨'"' :: (chars.flatMap writeDoubled ++ '"' :: '\n' :: rest), column, outer :: blocks,
      tokens, keyAllowed⟩ out := by
  refine scans_quoted (fun fuel => Scalar.readDouble fuel {})
    (by simp [BeginsLine, isGap, isBreak]) (fun lexer fuel rest here => ?_)
    (fun fuel cursor rest behind _ here enough => ?_) placed after
  · simp [Lexer.takeToken, here]
  · have shorter := length_le_flatMap_writeDoubled chars
    have long : chars.length < fuel := by
      simp only [here, List.length_append] at enough
      omega
    simpa using readDouble_written behind Folding.holds_empty rfl here long

theorem Stage.scans_single {indent : Nat} (deep : 0 < indent)
    (allowed : Spelling.allowsSingle chars = true) (placed : outer < column)
    (after : LineScans rest outer (outer :: blocks)
      (.scalar (String.ofList chars) .other :: tokens) out) :
    Stage.Scans ⟨'\'' :: (writeSingle indent false chars ++ '\'' :: '\n' :: rest), column,
      outer :: blocks, tokens, keyAllowed⟩ out := by
  refine scans_quoted (fun fuel => Scalar.readSingle fuel {})
    (by simp [BeginsLine, isGap, isBreak]) (fun lexer fuel rest here => ?_)
    (fun fuel cursor rest behind closing here enough => ?_) placed after
  · simp [Lexer.takeToken, here]
  · have long : (writeSingle indent false chars).length < fuel := by
      simp only [here, List.length_append] at enough
      omega
    have reached : AtSingle indent fuel {} cursor [] chars rest :=
      ⟨Folding.holds_empty, .inr behind, by simp, fun _ => .inl rfl, here, long⟩
    simpa using readSingle_written deep (isSingle_of_allowsSingle allowed) closing reached

theorem toList_endLine {scalar : String} (line : scalar.toList.getLast?.any isBreak = false) :
    (endLine scalar).toList = scalar.toList ++ ['\n'] := by
  simp [endLine, line]

theorem toList_endLine_quoted {quote : Char} (other : isBreak quote = false) (written : List Char) :
    (endLine (String.ofList (quote :: (written ++ [quote])))).toList =
      quote :: (written ++ [quote, '\n']) := by
  rw [toList_endLine (by simp [List.getLast?_cons, other])]
  simp

theorem toList_endLine_block (nonempty : chars ≠ []) (wide : Nat) :
    (endLine (String.ofList ('|' :: (blockHeader chars ++ '\n' :: writeLines wide true chars)))).toList =
      '|' :: (blockHeader chars ++ '\n' :: writeLines wide true (endedLines chars)) := by
  have last : ('|' :: (blockHeader chars ++ '\n' :: writeLines wide true chars)).getLast? =
      chars.getLast? := by
    cases chars with
    | nil => exact absurd rfl nonempty
    | cons c chars => simp [List.getLast?_cons, List.getLast?_append, getLast?_writeLines]
  rw [writeLines_endedLines, endLine, String.toList_ofList, last]
  split <;> simp

def textChars (indent : Nat) (text : String) : List Char :=
  match Spelling.ofText text with
  | .plain => text.toList ++ ['\n']
  | .single => '\'' :: (writeSingle indent false text.toList ++ ['\'', '\n'])
  | .double => '"' :: (text.toList.flatMap writeDoubled ++ ['"', '\n'])
  | .literal =>
      '|' :: (blockHeader text.toList ++ '\n' :: writeLines indent true (endedLines text.toList))

theorem toList_endLine_writeText (indent : Nat) (text : String) :
    (endLine (writeText indent text)).toList = textChars indent text := by
  unfold writeText textChars
  cases spelling : Spelling.ofText text with
  | plain => exact toList_endLine (isPlain_of_ofText spelling).1.isBreak_last
  | single => exact toList_endLine_quoted rfl _
  | double => exact toList_endLine_quoted rfl _
  | literal => exact toList_endLine_block (shown_of_ofText spelling).1 indent

/-- A text is cut off with the end of its line, however it was written. -/
theorem Stage.scans_text (placed : outer < column)
    (after : LineScans rest outer (outer :: blocks)
      (.scalar text (Spelling.ofText text).style :: tokens) out) :
    Stage.Scans ⟨textChars (outer + indentStep) text ++ rest, column, outer :: blocks, tokens,
      keyAllowed⟩ out := by
  have after : LineScans rest outer (outer :: blocks)
      (.scalar (String.ofList text.toList) (Spelling.ofText text).style :: tokens) out := by
    rwa [String.ofList_toList]
  unfold textChars
  cases spelling : Spelling.ofText text with
  | plain =>
    obtain ⟨plain, nonempty⟩ := isPlain_of_ofText spelling
    rw [spelling] at after
    simpa using scans_plain plain nonempty placed after
  | single =>
    rw [spelling] at after
    simpa using scans_single (by simp [indentStep]) (allowsSingle_of_ofText spelling) placed after
  | double =>
    rw [spelling] at after
    simpa using scans_double _ placed after
  | literal =>
    obtain ⟨nonempty, shown⟩ := shown_of_ofText spelling
    rw [spelling] at after
    simpa using scans_block nonempty shown placed after

theorem Stage.scans_char {indent : Nat} (deep : 0 < indent) (placed : outer < column)
    (after : LineScans rest outer (outer :: blocks)
      (.scalar (String.ofList [c]) .other :: tokens) out) :
    Stage.Scans ⟨(endLine (writeChar indent c)).toList ++ rest, column, outer :: blocks, tokens,
      keyAllowed⟩ out := by
  unfold writeChar
  split
  next allowed =>
    simp only [toList_endLine_quoted (show isBreak '\'' = false from rfl), List.cons_append,
      List.append_assoc, List.nil_append]
    exact scans_single deep allowed placed after
  next =>
    simp only [toList_endLine_quoted (show isBreak '"' = false from rfl), List.cons_append,
      List.append_assoc, List.nil_append]
    simpa using scans_double [c] placed after

end Texts

section Collections

/-- Brackets with nothing between them are cut off with the end of their line. -/
theorem Stage.scans_brackets (placed : outer < column)
    (after : LineScans rest outer (outer :: blocks)
      (.flowSequenceEnd :: .flowSequenceStart :: tokens) out) :
    Stage.Scans ⟨'[' :: ']' :: '\n' :: rest, column, outer :: blocks, tokens, keyAllowed⟩ out := by
  refine scans_of_takeToken (by simp [BeginsLine, isGap, isBreak]) (by simp)
    (Lexer.inside_cons (Nat.le_of_lt placed) blocks) fun lexer here fuel enough => ?_
  obtain ⟨possible, marked, free⟩ := Lexer.exists_markKey here placed
  let inner : Lexer := { lexer with
    cursor := lexer.cursor.advance 1
    tokens := .flowSequenceStart :: lexer.tokens
    possible := none
    enclosing := possible :: lexer.enclosing
    keyAllowed := true }
  have opened : lexer.takeToken fuel = some inner := by
    simp [Lexer.takeToken, here.rest, Lexer.openFlow, marked, Lexer.allowKey, Lexer.take, Lexer.push,
      inner]
  have bracket : inner.cursor.rest = ']' :: '\n' :: rest := by
    simp [inner, here.rest]
  let next : Lexer := { lexer with
    cursor := inner.cursor.advance 1
    tokens := .flowSequenceEnd :: inner.tokens
    possible := possible
    keyAllowed := false }
  have reached : next.IsAt ⟨'\n' :: rest, column + 2, outer :: blocks,
      .flowSequenceEnd :: .flowSequenceStart :: tokens, false⟩ :=
    ⟨by simp [next, bracket], by simp [next, inner, here.column], here.blocks,
      by simp [next, inner, here.tokens], rfl, here.outside, free⟩
  have closes : inner.Scans out := by
    refine .of_takeToken (by simp [bracket, BeginsLine, isGap, isBreak]) (by simp [bracket]) (.inl rfl)
      fun fuel enough => ⟨next, ?_, by simp [next, bracket], scans_lineEnd after next reached⟩
    have taken : inner.takeToken fuel = inner.closeFlow .flowSequenceEnd := by
      simp [Lexer.takeToken, bracket]
    rw [taken]
    rfl
  exact ⟨inner, opened, by simp [inner, here.rest], closes⟩

/-- A dash in front of an item is cut off. It stands right below the names of the block around it. -/
theorem Stage.scans_dash
    (scans : Stage.Scans ⟨' ' :: rest, outer + 1, outer :: blocks, .blockEntry :: tokens, true⟩ out) :
    Stage.Scans ⟨'-' :: ' ' :: rest, outer, outer :: blocks, tokens, true⟩ out := by
  refine scans_of_takeToken (by simp [BeginsLine, isGap, isBreak]) (by simp)
    (Lexer.inside_cons (Nat.le_refl outer) blocks) fun lexer here fuel enough => ?_
  let next : Lexer := { lexer with
    cursor := lexer.cursor.advance 1
    tokens := .blockEntry :: lexer.tokens
    possible := none
    keyAllowed := true }
  have reached : next.IsAt ⟨' ' :: rest, outer + 1, outer :: blocks, .blockEntry :: tokens, true⟩ :=
    ⟨by simp [next, here.rest], by simp [next, here.column], here.blocks, by simp [next, here.tokens],
      rfl, here.outside, rfl⟩
  refine ⟨next, ?_, by simp [next, here.rest], scans next reached⟩
  have taken : lexer.takeToken fuel = lexer.takeEntry := by
    simp [Lexer.takeToken, here.rest, atDocumentMark, atGap, isGap]
  -- the block around the name is the block of its items
  have entered : lexer.enterBlock .blockSequenceStart = some lexer := by
    have opened : lexer.opensBlock lexer.cursor.column = false := by
      rw [Lexer.opensBlock_eq here.outside, here.blocks, here.column]
      simp [Lexer.opensAt]
    simp [Lexer.enterBlock, here.inFlow, here.keyAllowed, Lexer.openBlock, opened]
  rw [taken, Lexer.takeEntry, entered]
  simp only [Option.bind_eq_bind, Option.bind_some, Lexer.dropKey, here.free, Bool.false_eq_true,
    if_false]
  rfl

end Collections

end EffectModel.Yaml
