import EffectModel.Proofs.Json.Exact
import EffectModel.Proofs.Json.Literal

/-! JSON texts. Main statements: every value is read from the text that it is written as, on one line
or on several, and so two values with one text are the same. -/
namespace EffectModel.Json

/-- Nothing but white space is set between the parts of a value. -/
structure Layout.IsBlank (layout : Layout) : Prop where
  line : ∀ level, ∀ c ∈ layout.line level, isSpace c = true
  colon : ∃ blanks, layout.colon = ':' :: blanks ∧ ∀ c ∈ blanks, isSpace c = true

theorem isBlank_compact : Layout.compact.IsBlank :=
  ⟨fun _ => nofun, [], rfl, nofun⟩

theorem isBlank_indented : Layout.indented.IsBlank where
  line level c member := by
    rcases List.mem_cons.mp member with rfl | member
    · rfl
    · rw [List.eq_of_mem_replicate member]
      rfl
  colon := ⟨[' '], rfl, List.forall_mem_singleton.mpr rfl⟩

variable {blanks chars rest : List Char} {c : Char} {layout : Layout} {fuel level : Nat}

theorem skipSpace_append (blank : ∀ c ∈ blanks, isSpace c = true) (chars : List Char) :
    skipSpace (blanks ++ chars) = skipSpace chars :=
  List.dropWhile_append_of_pos blank

theorem skipSpace_cons (shown : isSpace c = false) (chars : List Char) :
    skipSpace (c :: chars) = c :: chars := by
  simp [skipSpace, shown]

theorem readValue_append (blank : ∀ c ∈ blanks, isSpace c = true) (chars : List Char) :
    readValue fuel (blanks ++ chars) = readValue fuel chars := by
  cases fuel with
  | zero => simp only [readValue]
  | succ fuel => rw [readValue.eq_2, readValue.eq_2, skipSpace_append blank]

theorem readItems_append (blank : ∀ c ∈ blanks, isSpace c = true) (chars : List Char) :
    readItems fuel (blanks ++ chars) = readItems fuel chars := by
  cases fuel with
  | zero => simp only [readItems]
  | succ fuel => rw [readItems.eq_2, readItems.eq_2, readValue_append blank]

theorem readFields_append (blank : ∀ c ∈ blanks, isSpace c = true) (chars : List Char) :
    readFields fuel (blanks ++ chars) = readFields fuel chars := by
  cases fuel with
  | zero => simp only [readFields]
  | succ fuel => rw [readFields.eq_2, readFields.eq_2, skipSpace_append blank]

/-- What stands behind a value in a text: white space, a comma or a closing bracket. -/
theorem endsNumber_of_parts (ends : ∀ c, rest.head? = some c →
    isSpace c = true ∨ c = ',' ∨ c = ']' ∨ c = '}') : EndsNumber rest := by
  intro c first
  have possible := ends c first
  simp only [isSpace, Bool.or_eq_true, beq_iff_eq] at possible
  rcases possible with (((rfl | rfl) | rfl) | rfl) | rfl | rfl | rfl <;> decide

theorem endsNumber_append (blank : ∀ c ∈ blanks, isSpace c = true)
    (closing : c = ',' ∨ c = ']' ∨ c = '}') : EndsNumber (blanks ++ c :: rest) := by
  apply endsNumber_of_parts
  cases blanks with
  | nil =>
    intro first same
    cases same
    exact .inr closing
  | cons first blanks =>
    intro c same
    cases same
    exact .inl (blank first List.mem_cons_self)

theorem endsNumber_cons (closing : c = ',' ∨ c = ']' ∨ c = '}') : EndsNumber (c :: rest) :=
  endsNumber_append (List.forall_mem_nil _) closing

theorem isSpace_of_begins (begins : c.isDigit = true ∨ c = '-') : isSpace c = false := by
  rw [← Bool.not_eq_true]
  intro space
  simp only [isSpace, Bool.or_eq_true, beq_iff_eq] at space
  rcases space with ((rfl | rfl) | rfl) | rfl <;> simp at begins

theorem readValue_number (begins : BeginsNumber chars) :
    readValue (fuel + 1) chars = readNumber chars := by
  obtain ⟨first, others, rfl, begins⟩ := begins
  rw [readValue.eq_2, skipSpace_cons (isSpace_of_begins begins)]
  split
  case h_7 => rfl
  all_goals
    rename_i same
    obtain ⟨rfl, -⟩ := List.cons.inj same
    simp at begins

/-- A value begins with a character that is neither white space nor the end of a list. -/
theorem exists_write (layout : Layout) (level : Nat) (json : Json) :
    ∃ first others, write layout level json = first :: others ∧ isSpace first = false ∧
      first ≠ ']' := by
  have number : ∀ chars, BeginsNumber chars →
      ∃ first others, chars = first :: others ∧ isSpace first = false ∧ first ≠ ']' := by
    rintro chars ⟨first, others, rfl, begins⟩
    refine ⟨first, others, rfl, isSpace_of_begins begins, ?_⟩
    rintro rfl
    simp at begins
  cases json with
  | null | garbled => exact ⟨_, _, rfl, rfl, by decide⟩
  | bool value => cases value <;> exact ⟨_, _, rfl, rfl, by decide⟩
  | int value => exact number _ (by simpa [write] using beginsNumber_int value [])
  | real digits exponent =>
    rw [write, toList_toString]
    exact number _ (beginsNumber_toDigits digits _)
  | text value => exact ⟨'"', _, rfl, rfl, by decide⟩
  | list items => cases items <;> exact ⟨'[', _, rfl, rfl, by decide⟩
  | record fields => cases fields <;> exact ⟨'{', _, rfl, rfl, by decide⟩

theorem readValue_items (blank : ∀ c ∈ blanks, isSpace c = true) (shown : isSpace c = false)
    (opens : c ≠ ']') : readValue (fuel + 1) ('[' :: (blanks ++ c :: chars)) =
      (readItems fuel (c :: chars)).map (fun (items, rest) => (.list items, rest)) := by
  rw [readValue.eq_2, skipSpace_cons rfl]
  simp only [skipSpace_append blank, skipSpace_cons shown]
  split
  · rename_i same
    exact (opens (List.cons.inj same).1).elim
  · rfl

theorem readValue_fields (blank : ∀ c ∈ blanks, isSpace c = true) :
    readValue (fuel + 1) ('{' :: (blanks ++ '"' :: chars)) =
      (readFields fuel ('"' :: chars)).map (fun (fields, rest) => (ofFields fields, rest)) := by
  rw [readValue.eq_2, skipSpace_cons rfl]
  simp only [skipSpace_append blank, skipSpace_cons (show isSpace '"' = false from rfl)]
  rfl

theorem ofFields_named (fields : List (String × Json)) :
    ofFields (fields.map fun field => (some field.1, field.2)) = .record fields := by
  have named : (fields.map fun field => (some field.1, field.2)).mapM
      (fun field => field.1.map (·, field.2)) = some fields := by
    induction fields with
    | nil => rfl
    | cons field fields ih => simp [ih]
  rw [ofFields]
  split
  case h_1 others found => rw [Option.some.inj (found.symm.trans named)]
  case h_2 missing => cases missing.symm.trans named

mutual

/-- A value is read from its text, at any level. The fuel is counted by characters: each opening
bracket, comma and colon that costs a step is one. -/
theorem readValue_write (blank : layout.IsBlank) : ∀ (json : Json) (level fuel : Nat)
    (rest : List Char), (write layout level json).length ≤ fuel → EndsNumber rest →
      readValue fuel (write layout level json ++ rest) = some (json, rest)
  | json, level, 0, rest, enough, ends => by
    obtain ⟨first, others, written, _⟩ := exists_write layout level json
    simp [written] at enough
  | .null, level, fuel + 1, rest, enough, ends => rfl
  | .bool true, level, fuel + 1, rest, enough, ends => rfl
  | .bool false, level, fuel + 1, rest, enough, ends => rfl
  | .garbled, level, fuel + 1, rest, enough, ends => rfl
  | .int value, level, fuel + 1, rest, enough, ends => by
    rw [write, readValue_number (beginsNumber_int value rest), readNumber_int value ends]
  | .real digits exponent, level, fuel + 1, rest, enough, ends => by
    have begins := toList_toString digits ▸ beginsNumber_toDigits digits
    rw [write, List.append_assoc, List.cons_append, readValue_number (begins _),
      readNumber_real digits exponent ends]
  | .text value, level, fuel + 1, rest, enough, ends => by
    simp [write, quote, readValue, skipSpace_cons, isSpace, readText_quote]
  | .list [], level, fuel + 1, rest, enough, ends => rfl
  | .record [], level, fuel + 1, rest, enough, ends => rfl
  | .list (item :: items), level, fuel + 1, rest, enough, ends => by
    simp only [write, List.length_cons, List.length_append] at enough
    obtain ⟨first, others, written, shown, opens⟩ := exists_write layout (level + 1) item
    have read := readItems_write blank item items (level + 1) fuel (layout.line level) rest
      (blank.line level) (by rw [List.length_append]; omega)
    rw [written] at read
    rw [write, written]
    simp only [List.cons_append, List.append_assoc, List.nil_append] at read ⊢
    rw [readValue_items (blank.line _) shown opens, read]
    rfl
  | .record ((name, value) :: fields), level, fuel + 1, rest, enough, ends => by
    simp only [write, List.length_cons, List.length_append] at enough
    have read := readFields_write blank name value fields (level + 1) fuel (layout.line level) rest
      (blank.line level) (by rw [List.length_append]; omega)
    rw [write]
    simp only [quote, List.cons_append, List.append_assoc, List.nil_append] at read ⊢
    rw [readValue_fields (blank.line _), read, Option.map_some]
    simp only [ofFields_named]
termination_by json => sizeOf json

theorem readItems_write (blank : layout.IsBlank) : ∀ (item : Json) (items : List Json)
    (level fuel : Nat) (blanks rest : List Char), (∀ c ∈ blanks, isSpace c = true) →
      (write layout level item ++ writeItems layout level items).length < fuel →
      readItems fuel (write layout level item ++
        (writeItems layout level items ++ (blanks ++ ']' :: rest))) = some (item :: items, rest)
  | item, items, level, 0, blanks, rest, spaces, enough => by simp at enough
  | item, [], level, fuel + 1, blanks, rest, spaces, enough => by
    simp only [writeItems, List.length_append, List.length_nil] at enough
    have read := readValue_write blank item level fuel (blanks ++ ']' :: rest) (by omega)
      (endsNumber_append spaces (by simp))
    rw [writeItems, List.nil_append, readItems.eq_2, read]
    simp [skipSpace_append spaces, skipSpace_cons, isSpace]
  | item, next :: items, level, fuel + 1, blanks, rest, spaces, enough => by
    simp only [writeItems, List.length_append, List.length_cons] at enough
    have read := readValue_write blank item level fuel
      (writeItems layout level (next :: items) ++ (blanks ++ ']' :: rest)) (by omega)
      (by simpa [writeItems] using endsNumber_cons (.inl rfl))
    have read' := readItems_write blank next items level fuel blanks rest spaces
      (by rw [List.length_append]; omega)
    rw [readItems.eq_2, read, writeItems]
    simp [skipSpace_cons, isSpace, readItems_append (blank.line level), read']
termination_by item items => sizeOf item + sizeOf items

theorem readFields_write (blank : layout.IsBlank) : ∀ (name : String) (value : Json)
    (fields : List (String × Json)) (level fuel : Nat) (blanks rest : List Char),
      (∀ c ∈ blanks, isSpace c = true) →
      (write layout level value ++ writeFields layout level fields).length < fuel →
      readFields fuel (quote name ++ (layout.colon ++ (write layout level value ++
        (writeFields layout level fields ++ (blanks ++ '}' :: rest))))) =
          some (((name, value) :: fields).map (fun field => (some field.1, field.2)), rest)
  | name, value, fields, level, 0, blanks, rest, spaces, enough => by simp at enough
  | name, value, [], level, fuel + 1, blanks, rest, spaces, enough => by
    simp only [writeFields, List.length_append, List.length_nil] at enough
    obtain ⟨gap, colon, spaces'⟩ := blank.colon
    have read := readValue_write blank value level fuel (blanks ++ '}' :: rest) (by omega)
      (endsNumber_append spaces (by simp))
    rw [writeFields, List.nil_append, readFields.eq_2, colon]
    simp [quote, skipSpace_cons, isSpace, readText_quote, readValue_append spaces', read,
      skipSpace_append spaces]
  | name, value, (key, next) :: fields, level, fuel + 1, blanks, rest, spaces, enough => by
    simp only [writeFields, List.length_append, List.length_cons] at enough
    obtain ⟨gap, colon, spaces'⟩ := blank.colon
    have read := readValue_write blank value level fuel
      (writeFields layout level ((key, next) :: fields) ++ (blanks ++ '}' :: rest)) (by omega)
      (by simpa [writeFields] using endsNumber_cons (.inl rfl))
    have read' := readFields_write blank key next fields level fuel blanks rest spaces
      (by rw [List.length_append]; omega)
    simp only [writeFields, quote, colon, List.cons_append, List.append_assoc, List.nil_append]
      at read read' ⊢
    rw [readFields.eq_2]
    simp [skipSpace_cons, isSpace, readText_quote, readValue_append spaces', read,
      readFields_append (blank.line level), read']
termination_by _ value fields => sizeOf value + sizeOf fields

end

theorem parse_write (blank : layout.IsBlank) (json : Json) :
    parse (String.ofList (write layout 0 json)) = some json := by
  have read := readValue_write blank json 0 (2 * (write layout 0 json).length + 2) [] (by omega)
    nofun
  rw [List.append_nil] at read
  simp [parse, read, skipSpace]

theorem parse_indented (json : Json) : parse json.indented = some json :=
  parse_write isBlank_indented json

theorem parse_compact (json : Json) : parse json.compact = some json :=
  parse_write isBlank_compact json

/-- These texts can be relied upon at any depth. -/
theorem isReliable_indented : IsReliable indented parse where
  restores json _ _ := parse_indented json
  sincere json other _ read := by
    rw [parse_indented] at read
    exact (Option.some.inj read).symm

theorem isDistinct_indented : IsDistinct indented := by
  intro first second _ _ same
  simpa [parse_indented] using congrArg parse same

end EffectModel.Json
