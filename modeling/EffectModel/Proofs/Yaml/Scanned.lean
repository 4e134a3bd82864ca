import EffectModel.Proofs.Yaml.Layout

namespace EffectModel.Yaml

section Definitions

def textToken (text : String) : Token := .scalar text (Spelling.ofText text).style

def itemTokens (text : String) : List Token := [.blockEntry, textToken text]

def Value.tokens : Value → List Token
  | .text value => [textToken value]
  | .char c => [.scalar (String.ofList [c]) .other]
  | .word value => [.scalar value.spelling .plain]
  | .texts [] => [.flowSequenceStart, .flowSequenceEnd]
  | .texts values => values.flatMap itemTokens

def nameTokens (name : String) : List Token := [.key, .scalar name .plain, .value]

def Entry.tokens (entry : Entry) : List Token := nameTokens entry.name ++ entry.value.tokens

def Part.bodyTokens : Part → List Token
  | .field entry => entry.value.tokens
  | .block _ entries => .blockMappingStart :: (entries.flatMap Entry.tokens ++ [.blockEnd])

def Part.tokens (part : Part) : List Token := nameTokens part.name ++ part.bodyTokens

end Definitions

variable {rest name : List Char} {tokens out : List Token} {text : String} {value : Value}
variable {entry : Entry} {part : Part} {blocks : List Nat} {column outer : Nat} {keyAllowed : Bool}

section Beginnings

theorem beginsLine_textChars (indent : Nat) (text : String) (rest : List Char) :
    BeginsLine (textChars indent text ++ rest) := by
  unfold textChars
  cases spelling : Spelling.ofText text with
  | plain =>
    obtain ⟨plain, nonempty⟩ := isPlain_of_ofText spelling
    obtain ⟨c, chars, split⟩ := List.exists_cons_of_ne_nil nonempty
    rw [split] at plain
    simpa [split] using plain.beginsLine ('\n' :: rest)
  | single => simp [BeginsLine, isGap, isBreak]
  | double => simp [BeginsLine, isGap, isBreak]
  | literal => simp [BeginsLine, isGap, isBreak]

theorem IsName.beginsLine (named : IsName name) (rest : List Char) : BeginsLine (name ++ rest) := by
  obtain ⟨c, chars, rfl⟩ := List.exists_cons_of_ne_nil named.nonempty
  exact named.plain.beginsLine rest

theorem beginsLine_writeChar (indent : Nat) (c : Char) (rest : List Char) :
    BeginsLine ((endLine (writeChar indent c)).toList ++ rest) := by
  unfold writeChar
  split <;> rw [toList_endLine_quoted rfl] <;> simp [BeginsLine, isGap, isBreak]

theorem Value.atGap_chars (value : Value) (indent : Nat) (rest : List Char) :
    atGap (value.chars indent ++ rest) = true := by
  unfold Value.chars
  split <;> rfl

end Beginnings

section Lines

/-- A line begins with the name of a further field of a block. -/
theorem LineScans.key (column : Nat) (named : IsName name) (gap : atGap rest = true)
    (scans : Stage.Scans ⟨rest, column + name.length + 1, column :: blocks,
      .value :: .scalar (String.ofList name) .plain :: .key :: tokens, false⟩ out) :
    LineScans (margin column ++ (name ++ ':' :: rest)) column (column :: blocks) tokens out := by
  have inside := Lexer.inside_cons (Nat.le_refl column) blocks
  refine ⟨column, _, rfl, Nat.le_refl _, named.beginsLine _, Stage.scans_key named gap inside ?_⟩
  simpa [Lexer.opensAt] using scans

/-- A line begins with the name of the first field of a block, which it opens. -/
theorem LineScans.firstKey (column : Nat) (named : IsName name) (gap : atGap rest = true)
    (opens : Lexer.opensAt blocks column = true)
    (scans : Stage.Scans ⟨rest, column + name.length + 1, column :: blocks,
      .value :: .scalar (String.ofList name) .plain :: .key :: .blockMappingStart :: tokens,
      false⟩ out) :
    LineScans (margin column ++ (name ++ ':' :: rest)) column blocks tokens out := by
  refine ⟨column, _, rfl, Nat.le_refl _, named.beginsLine _, Stage.scans_key named gap ?_ ?_⟩
  · intro block first
    have shallow : block < column := by
      simpa [Lexer.opensAt, Option.mem_def.mp first] using opens
    exact Nat.le_of_lt shallow
  · simpa [opens] using scans

/-- A line that is indented less ends a block. -/
theorem LineScans.dedent {block : Nat} (shallow : outer < block)
    (after : LineScans rest outer blocks (.blockEnd :: tokens) out) :
    LineScans rest block (block :: blocks) tokens out := by
  obtain ⟨wide, content, rfl, inside, begins, scans⟩ := after
  have deeper : wide < block := by omega
  exact ⟨wide, content, rfl, Nat.le_of_lt deeper, begins, Stage.scans_dedent begins deeper scans⟩

theorem LineScans.item
    (after : LineScans rest outer (outer :: blocks) (textToken text :: .blockEntry :: tokens) out) :
    LineScans (margin outer ++ (itemChars outer text ++ rest)) outer (outer :: blocks) tokens out := by
  refine ⟨outer, _, rfl, Nat.le_refl _, by simp [itemChars, BeginsLine, isGap, isBreak], ?_⟩
  exact Stage.scans_dash (Stage.scans_gap (beginsLine_textChars _ text rest)
    (Stage.scans_text (by omega) after))

theorem LineScans.items (texts : List String)
    (after : LineScans rest outer (outer :: blocks)
      ((texts.flatMap itemTokens).reverse ++ tokens) out) :
    LineScans (texts.flatMap (fun text => margin outer ++ itemChars outer text) ++ rest) outer
      (outer :: blocks) tokens out := by
  induction texts generalizing tokens with
  | nil => exact after
  | cons text texts ih =>
    rw [List.flatMap_cons, List.append_assoc, List.append_assoc]
    exact .item (ih (by simpa [itemTokens] using after))

/-- The value of a field is cut off from behind its colon. -/
theorem Stage.scans_value (value : Value) (placed : outer < column)
    (after : LineScans rest outer (outer :: blocks) (value.tokens.reverse ++ tokens) out) :
    Stage.Scans ⟨value.chars outer ++ rest, column, outer :: blocks, tokens, keyAllowed⟩ out := by
  have placed : outer < column + 1 := by omega
  cases value with
  | text text => exact scans_gap (beginsLine_textChars _ text rest) (scans_text placed after)
  | char c =>
    exact scans_gap (beginsLine_writeChar _ c rest) (scans_char (by simp [indentStep]) placed after)
  | word word =>
    have plain := word.isPlain_spelling
    have nonempty := word.spelling_ne_empty
    have after : LineScans rest outer (outer :: blocks)
        (.scalar (String.ofList word.spelling.toList) .plain :: tokens) out := by
      rwa [String.ofList_toList]
    have begins : BeginsLine (word.spelling.toList ++ '\n' :: rest) := by
      obtain ⟨c, chars, split⟩ := List.exists_cons_of_ne_nil nonempty
      rw [split] at plain ⊢
      exact plain.beginsLine _
    have chars_eq : (Value.word word).chars outer ++ rest =
        ' ' :: (word.spelling.toList ++ '\n' :: rest) := by
      simp [Value.chars]
    rw [chars_eq]
    exact scans_gap begins (scans_plain plain nonempty placed after)
  | texts texts =>
    cases texts with
    | nil =>
      exact scans_gap (by simp [BeginsLine, isGap, isBreak]) (scans_brackets placed after)
    | cons text texts => exact scans_lineEnd (.items (text :: texts) after)

theorem LineScans.nextEntry (writable : entry.IsWritable)
    (after : LineScans rest column (column :: blocks) (entry.tokens.reverse ++ tokens) out) :
    LineScans (margin column ++ (entry.chars column ++ rest)) column (column :: blocks) tokens out := by
  have length : 0 < entry.name.toList.length := List.length_pos_of_ne_nil writable.nonempty
  rw [Entry.chars, List.append_assoc, List.cons_append]
  refine .key column writable (Value.atGap_chars _ _ rest)
    (Stage.scans_value entry.value (by omega) ?_)
  simpa [Entry.tokens, nameTokens] using after

theorem LineScans.firstEntry (writable : entry.IsWritable)
    (opens : Lexer.opensAt blocks column = true)
    (after : LineScans rest column (column :: blocks)
      (entry.tokens.reverse ++ .blockMappingStart :: tokens) out) :
    LineScans (margin column ++ (entry.chars column ++ rest)) column blocks tokens out := by
  rw [Entry.chars, List.append_assoc, List.cons_append]
  refine .firstKey column writable (Value.atGap_chars _ _ rest) opens
    (Stage.scans_value entry.value (by omega) ?_)
  simpa [Entry.tokens, nameTokens] using after

theorem LineScans.entries {entries : List Entry} (writable : ∀ entry ∈ entries, entry.IsWritable)
    (after : LineScans rest column (column :: blocks)
      ((entries.flatMap Entry.tokens).reverse ++ tokens) out) :
    LineScans (entries.flatMap (fun entry => margin column ++ entry.chars column) ++ rest) column
      (column :: blocks) tokens out := by
  induction entries generalizing tokens with
  | nil => exact after
  | cons entry entries ih =>
    rw [List.flatMap_cons, List.append_assoc, List.append_assoc]
    refine .nextEntry (writable entry List.mem_cons_self)
      (ih (fun other held => writable other (.tail entry held)) ?_)
    simpa using after

/-- The fields of a block that lies in the outermost one are cut off, and the block is ended. -/
theorem LineScans.block {entries : List Entry} (nonempty : entries ≠ [])
    (writable : ∀ entry ∈ entries, entry.IsWritable)
    (after : LineScans rest 0 [0]
      (.blockEnd :: ((entries.flatMap Entry.tokens).reverse ++ .blockMappingStart :: tokens)) out) :
    LineScans (entries.flatMap (fun entry => margin indentStep ++ entry.chars indentStep) ++ rest)
      indentStep [0] tokens out := by
  have shallow : 0 < indentStep := by decide
  obtain ⟨entry, entries, rfl⟩ := List.exists_cons_of_ne_nil nonempty
  rw [List.flatMap_cons, List.append_assoc, List.append_assoc]
  refine .firstEntry (writable entry List.mem_cons_self) rfl
    (.entries (fun other held => writable other (.tail entry held)) (.dedent shallow ?_))
  simpa using after

theorem Stage.scans_body (writable : part.IsWritable) (placed : 0 < column)
    (after : LineScans rest 0 [0] (part.tokens.reverse ++ tokens) out) :
    Stage.Scans ⟨part.body ++ rest, column, [0],
      .value :: .scalar part.name .plain :: .key :: tokens, false⟩ out := by
  cases part with
  | field entry =>
    refine scans_value entry.value placed ?_
    simpa [Part.tokens, Part.bodyTokens, nameTokens, Part.name] using after
  | block name entries =>
    obtain ⟨-, nonempty, writable⟩ := writable
    refine scans_lineEnd (LineScans.block nonempty writable ?_)
    simpa [Part.tokens, Part.bodyTokens, nameTokens, Part.name] using after

theorem Part.isName (writable : part.IsWritable) : IsName part.name.toList := by
  cases part with
  | field entry => exact writable
  | block name entries => exact writable.1

theorem Part.atGap_body (part : Part) (rest : List Char) : atGap (part.body ++ rest) = true := by
  cases part with
  | field entry => exact entry.value.atGap_chars 0 rest
  | block name entries => rfl

def Part.chars (part : Part) : List Char := part.name.toList ++ ':' :: part.body

theorem LineScans.nextPart (writable : part.IsWritable)
    (after : LineScans rest 0 [0] (part.tokens.reverse ++ tokens) out) :
    LineScans (part.chars ++ rest) 0 [0] tokens out := by
  have length : 0 < part.name.toList.length := List.length_pos_of_ne_nil (Part.isName writable).nonempty
  rw [Part.chars, List.append_assoc, List.cons_append]
  refine .key 0 (Part.isName writable) (part.atGap_body rest) ?_
  simpa using Stage.scans_body writable (by omega) after

theorem LineScans.firstPart (writable : part.IsWritable)
    (after : LineScans rest 0 [0] (part.tokens.reverse ++ [.blockMappingStart]) out) :
    LineScans (part.chars ++ rest) 0 [] [] out := by
  rw [Part.chars, List.append_assoc, List.cons_append]
  refine .firstKey 0 (Part.isName writable) (part.atGap_body rest) rfl ?_
  simpa using Stage.scans_body writable (by omega) after

theorem LineScans.parts {parts : List Part} (writable : ∀ part ∈ parts, part.IsWritable)
    (after : LineScans rest 0 [0] ((parts.flatMap Part.tokens).reverse ++ tokens) out) :
    LineScans (parts.flatMap Part.chars ++ rest) 0 [0] tokens out := by
  induction parts generalizing tokens with
  | nil => exact after
  | cons part parts ih =>
    rw [List.flatMap_cons, List.append_assoc]
    refine .nextPart (writable part List.mem_cons_self)
      (ih (fun other held => writable other (.tail part held)) ?_)
    simpa using after

end Lines

section Documents

def partsTokens (parts : List Part) : List Token :=
  .blockMappingStart :: (parts.flatMap Part.tokens ++ [.blockEnd])

/-- A record that is written is cut into the tokens of its parts. -/
theorem scan_writeParts {parts : List Part} (nonempty : parts ≠ [])
    (writable : ∀ part ∈ parts, part.IsWritable) :
    Token.scan (writeParts parts) = some (partsTokens parts) := by
  have written : (writeParts parts).toList = parts.flatMap Part.chars := by
    rw [writeParts, String.toList_join, List.flatMap_map]
    exact List.flatMap_congr fun part _ => part.toList_write
  have allowed : (parts.flatMap Part.chars).all isAllowed = true :=
    all_flatMap fun part held => by
      rw [Part.chars, ← Part.toList_write]
      exact Part.all_isAllowed (writable part held)
  have ended : LineScans [] 0 [0] ((parts.flatMap Part.tokens).reverse ++ [.blockMappingStart])
      (partsTokens parts) := by
    have inside := Lexer.inside_cons (Nat.le_refl 0) []
    have tokens_eq : partsTokens parts =
        ((parts.flatMap Part.tokens).reverse ++ [Token.blockMappingStart]).reverse ++ [.blockEnd] := by
      simp [partsTokens]
    rw [tokens_eq]
    exact ⟨0, [], rfl, Nat.le_refl 0, nofun, Stage.scans_end inside⟩
  have lines : LineScans (parts.flatMap Part.chars) 0 [] [] (partsTokens parts) := by
    obtain ⟨part, parts, rfl⟩ := List.exists_cons_of_ne_nil nonempty
    have further : LineScans (parts.flatMap Part.chars ++ []) 0 [0]
        (part.tokens.reverse ++ [.blockMappingStart]) (partsTokens (part :: parts)) :=
      .parts (fun other held => writable other (.tail part held)) (by simpa using ended)
    rw [List.append_nil] at further
    exact .firstPart (writable part List.mem_cons_self) further
  obtain ⟨wide, content, split, outermost, -, scans⟩ := lines
  obtain rfl : wide = 0 := Nat.le_zero.mp outermost
  rw [Token.scan, written]
  simp only [allowed, guard_true, Option.pure_def, Option.bind_eq_bind, Option.bind_some]
  exact scans { cursor := .start (parts.flatMap Part.chars) }
    ⟨split, rfl, rfl, rfl, rfl, rfl, rfl⟩ _ (by simp [Cursor.start])

end Documents

end EffectModel.Yaml
