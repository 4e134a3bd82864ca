import EffectModel.Proofs.Yaml.Value
import EffectModel.Proofs.Yaml.Word

namespace EffectModel.Yaml

section Definitions

/-- An item from its dash on. -/
def itemChars (indent : Nat) (text : String) : List Char :=
  '-' :: ' ' :: textChars (indent + indentStep) text

def Value.chars (indent : Nat) : Value → List Char
  | .text value => ' ' :: textChars (indent + indentStep) value
  | .char c => ' ' :: (endLine (writeChar (indent + indentStep) c)).toList
  | .word value => ' ' :: (value.spelling.toList ++ ['\n'])
  | .texts [] => [' ', '[', ']', '\n']
  | .texts values => '\n' :: values.flatMap (fun text => margin indent ++ itemChars indent text)

def Entry.chars (indent : Nat) (entry : Entry) : List Char :=
  entry.name.toList ++ ':' :: entry.value.chars indent

/-- A part behind the colon of its name. -/
def Part.body : Part → List Char
  | .field entry => entry.value.chars 0
  | .block _ entries => '\n' :: entries.flatMap (fun entry => margin indentStep ++ entry.chars indentStep)

/-- A name can be told from its colon. -/
def Entry.IsWritable (entry : Entry) : Prop := IsName entry.name.toList

def Part.IsWritable : Part → Prop
  | .field entry => entry.IsWritable
  | .block name entries =>
      IsName name.toList ∧ entries ≠ [] ∧ ∀ entry ∈ entries, entry.IsWritable

end Definitions

variable {text front scalar : String} {indent : Nat} {entry : Entry} {part : Part}

section Written

theorem Word.isPlain_spelling : ∀ word : Word, IsPlain word.spelling.toList
  | .bool value => isPlain_toString_bool value
  | .number value => isPlain_toString value

theorem Word.spelling_ne_empty : ∀ word : Word, word.spelling.toList ≠ []
  | .bool value => by cases value <;> decide
  | .number value => toString_ne_empty value

theorem writeText_ne_empty (indent : Nat) (text : String) : (writeText indent text).toList ≠ [] := by
  unfold writeText
  cases spelling : Spelling.ofText text with
  | plain => exact (isPlain_of_ofText spelling).2
  | single => simp
  | double => simp
  | literal => simp

theorem writeChar_ne_empty (indent : Nat) (c : Char) : (writeChar indent c).toList ≠ [] := by
  unfold writeChar
  split <;> simp

/-- Whether the line has ended is seen from what is written last. -/
theorem toList_endLine_append (written : scalar.toList ≠ []) :
    (endLine (front ++ scalar)).toList = front.toList ++ (endLine scalar).toList := by
  have last : (front ++ scalar).toList.getLast? = scalar.toList.getLast? := by
    rw [String.toList_append, List.getLast?_append_of_ne_nil _ written]
  unfold endLine
  rw [last]
  split <;> simp [String.toList_append]

theorem toList_writeField (written : scalar.toList ≠ []) (name : String) :
    (writeField indent name scalar).toList =
      margin indent ++ (name.toList ++ ':' :: ' ' :: (endLine scalar).toList) := by
  simp [writeField, toList_endLine_append written]

theorem toList_writeListField {texts : List String} (nonempty : texts ≠ []) (name : String) :
    (writeListField indent name texts).toList = margin indent ++ (name.toList ++ ':' :: '\n' ::
      texts.flatMap (fun text => margin indent ++ itemChars indent text)) := by
  have item (text : String) : (endLine (String.ofList (margin indent) ++ "- " ++
      writeText (indent + indentStep) text)).toList = margin indent ++ itemChars indent text := by
    rw [toList_endLine_append (writeText_ne_empty _ text), toList_endLine_writeText]
    simp [itemChars]
  have some_text : texts.isEmpty = false := by simpa using nonempty
  simp [writeListField, some_text, String.toList_append, String.toList_join, List.flatMap_map, item]

/-- A field is written as a margin, its name, and what it holds. -/
theorem Entry.toList_write (entry : Entry) (indent : Nat) :
    (entry.write indent).toList = margin indent ++ entry.chars indent := by
  obtain ⟨name, value⟩ := entry
  cases value with
  | text text =>
    refine (toList_writeField (writeText_ne_empty _ text) name).trans ?_
    rw [toList_endLine_writeText]
    rfl
  | char c => exact toList_writeField (writeChar_ne_empty _ c) name
  | word word =>
    refine (toList_writeField word.spelling_ne_empty name).trans ?_
    rw [toList_endLine word.isPlain_spelling.isBreak_last]
    rfl
  | texts texts =>
    cases texts with
    | nil =>
      have brackets : "[]".toList ≠ [] := by simp
      exact toList_writeField brackets name
    | cons text texts => exact toList_writeListField (List.cons_ne_nil text texts) name

/-- A part is written as its name and its body. -/
theorem Part.toList_write (part : Part) :
    part.write.toList = part.name.toList ++ ':' :: part.body := by
  cases part with
  | field entry => exact entry.toList_write 0
  | block name entries =>
    simp [Part.write, String.toList_append, String.toList_join, List.flatMap_map,
      Entry.toList_write, Part.body, Part.name]

end Written

section Allowed

variable {chars : List Char}

theorem all_flatMap {α : Type} {items : List α} {write : α → List Char}
    (each : ∀ item ∈ items, (write item).all isAllowed = true) :
    (items.flatMap write).all isAllowed = true := by
  rw [List.all_flatMap]
  exact List.all_eq_true.mpr each

theorem all_isAllowed_margin (wide : Nat) : (margin wide).all isAllowed = true := by
  simp [margin, isAllowed]

theorem all_isAllowed_of_isPrintable (shown : ∀ c ∈ chars, isPrintable c = true) :
    chars.all isAllowed = true :=
  List.all_eq_true.mpr fun c held => isAllowed_of_isPrintable (shown c held)

theorem all_isAllowed_hexDigits (length value : Nat) :
    (hexDigits length value).all isAllowed = true := by
  have digits : ∀ digit < 16, isAllowed (Nat.digitChar digit).toUpper = true := by decide
  induction length generalizing value with
  | zero => rfl
  | succ length ih =>
    rw [hexDigits, List.all_append, ih, Bool.true_and, List.all_cons, List.all_nil, Bool.and_true]
    exact digits _ (Nat.mod_lt _ (by simp))

theorem isAllowed_of_shortEscape? {c letter : Char} (short : shortEscape? c = some letter) :
    isAllowed letter = true := by
  unfold shortEscape? at short
  split at short <;> cases short <;> rfl

/-- A character that may not stand in a document is written with those that may. -/
theorem all_isAllowed_writeDoubled (c : Char) : (writeDoubled c).all isAllowed = true := by
  have slash : isAllowed '\\' = true := rfl
  have code (mark : Char) (length : Nat) (marked : isAllowed mark = true) :
      ('\\' :: mark :: hexDigits length c.toNat).all isAllowed = true := by
    rw [List.all_cons, List.all_cons, slash, marked, all_isAllowed_hexDigits]
    rfl
  obtain escaped | ⟨plain, shown, -⟩ := writeDoubled_cases c
  · rw [escaped]
    unfold escape
    split
    next letter short => simp [slash, isAllowed_of_shortEscape? short]
    next =>
      split_ifs
      · exact code 'x' 2 rfl
      · exact code 'u' 4 rfl
      · exact code 'U' 8 rfl
  · simp [plain, isAllowed_of_isPrintable shown]

theorem all_isAllowed_writeSingle (shown : ∀ c ∈ chars, isPrintable c = true) (afterBreak : Bool) :
    (writeSingle indent afterBreak chars).all isAllowed = true := by
  induction chars generalizing afterBreak with
  | nil =>
    unfold writeSingle
    split <;> simp [all_isAllowed_margin, -List.all_eq_true]
  | cons c chars ih =>
    have further := ih (fun d held => shown d (.tail c held))
    have first := isAllowed_of_isPrintable (shown c List.mem_cons_self)
    have quote : isAllowed '\'' = true := rfl
    have feed : isAllowed '\n' = true := rfl
    unfold writeSingle
    split_ifs <;>
      simp [all_isAllowed_margin, further, first, quote, feed, -List.all_eq_true]

theorem all_isAllowed_writeLines (shown : ∀ c ∈ chars, isPrintable c = true) (afterBreak : Bool) :
    (writeLines indent afterBreak chars).all isAllowed = true := by
  induction chars generalizing afterBreak with
  | nil => rfl
  | cons c chars ih =>
    have further := ih (fun d held => shown d (.tail c held))
    have first := isAllowed_of_isPrintable (shown c List.mem_cons_self)
    unfold writeLines
    split_ifs <;> simp [all_isAllowed_margin, further, first, -List.all_eq_true]

theorem all_isAllowed_blockHeader (chars : List Char) :
    (blockHeader chars).all isAllowed = true := by
  rw [blockHeader_eq, List.all_append]
  cases isHinted chars <;> cases chompingFor chars <;> rfl

theorem all_isAllowed_textChars (indent : Nat) (text : String) :
    (textChars indent text).all isAllowed = true := by
  unfold textChars
  have feed : isAllowed '\n' = true := rfl
  cases spelling : Spelling.ofText text with
  | plain =>
    have shown := (isPlain_of_ofText spelling).1.shown
    simp [all_isAllowed_of_isPrintable shown, feed, -List.all_eq_true]
  | single =>
    have quote : isAllowed '\'' = true := rfl
    have shown := (isSingle_of_allowsSingle (allowsSingle_of_ofText spelling)).shown
    simp [all_isAllowed_writeSingle shown, feed, quote, -List.all_eq_true]
  | double =>
    have quote : isAllowed '"' = true := rfl
    have each := all_flatMap (fun c (_ : c ∈ text.toList) => all_isAllowed_writeDoubled c)
    simp [each, feed, quote, -List.all_eq_true]
  | literal =>
    have bar : isAllowed '|' = true := rfl
    have shown := isPrintable_endedLines (shown_of_ofText spelling).2
    simp [all_isAllowed_blockHeader, all_isAllowed_writeLines shown, feed, bar, -List.all_eq_true]

theorem all_isAllowed_writeChar (indent : Nat) (c : Char) :
    (endLine (writeChar indent c)).toList.all isAllowed = true := by
  have feed : isAllowed '\n' = true := rfl
  unfold writeChar
  split
  next allowed =>
    have quote : isAllowed '\'' = true := rfl
    rw [toList_endLine_quoted rfl]
    simp [feed, quote, all_isAllowed_writeSingle (isSingle_of_allowsSingle allowed).shown, -List.all_eq_true]
  next =>
    have quote : isAllowed '"' = true := rfl
    rw [toList_endLine_quoted rfl]
    simp [feed, quote, all_isAllowed_writeDoubled, -List.all_eq_true]

theorem Value.all_isAllowed (value : Value) (indent : Nat) :
    (value.chars indent).all isAllowed = true := by
  have space : isAllowed ' ' = true := rfl
  have feed : isAllowed '\n' = true := rfl
  cases value with
  | text text => simp [Value.chars, space, all_isAllowed_textChars, -List.all_eq_true]
  | char c => simp [Value.chars, space, all_isAllowed_writeChar, -List.all_eq_true]
  | word word =>
    have shown := all_isAllowed_of_isPrintable word.isPlain_spelling.shown
    simp [Value.chars, space, shown, feed, -List.all_eq_true]
  | texts texts =>
    cases texts with
    | nil => rfl
    | cons text texts =>
      have dash : isAllowed '-' = true := rfl
      have item (text : String) : (margin indent ++ itemChars indent text).all isAllowed = true := by
        simp [itemChars, space, dash, all_isAllowed_margin, all_isAllowed_textChars,
          -List.all_eq_true]
      rw [Value.chars, List.all_cons, feed, Bool.true_and]
      · exact all_flatMap fun text _ => item text
      · exact List.cons_ne_nil text texts

theorem Entry.all_isAllowed (writable : entry.IsWritable) :
    (entry.chars indent).all isAllowed = true := by
  have colon : isAllowed ':' = true := rfl
  simp [Entry.chars, colon, all_isAllowed_of_isPrintable writable.plain.shown,
    Value.all_isAllowed, -List.all_eq_true]

/-- Whatever the texts are, a document may hold what is written. -/
theorem Part.all_isAllowed (writable : part.IsWritable) : part.write.toList.all isAllowed = true := by
  rw [Part.toList_write]
  cases part with
  | field entry => exact Entry.all_isAllowed writable
  | block name entries =>
    obtain ⟨named, -, fields⟩ := writable
    have colon : isAllowed ':' = true := rfl
    have feed : isAllowed '\n' = true := rfl
    have each : ∀ entry ∈ entries,
        (margin indentStep ++ entry.chars indentStep).all isAllowed = true := by
      intro entry held
      rw [List.all_append, all_isAllowed_margin, Entry.all_isAllowed (fields entry held)]
      rfl
    simp [Part.name, Part.body, colon, feed, all_isAllowed_of_isPrintable named.plain.shown,
      all_flatMap each, -List.all_eq_true]

end Allowed

end EffectModel.Yaml
