import EffectModel.Proofs.Yaml.Scanned

namespace EffectModel.Yaml

section Definitions

def textNode (text : String) : Node := .scalar text (Spelling.ofText text).style none

def nameNode (name : String) : Node := .scalar name .plain none

def Value.node : Value → Node
  | .text value => textNode value
  | .char c => .scalar (String.ofList [c]) .other none
  | .word value => .scalar value.spelling .plain none
  | .texts values => .sequence (values.map textNode)

def Entry.node (entry : Entry) : Node × Node := (nameNode entry.name, entry.value.node)

def Part.bodyNode : Part → Node
  | .field entry => entry.value.node
  | .block _ entries => .mapping (entries.map Entry.node)

def Part.node (part : Part) : Node × Node := (nameNode part.name, part.bodyNode)

/-- A step takes tokens in and gives a value, whatever handles and anchors there are. -/
def Assembler.Reads {α : Type} (step : Assembler α) (tokens : List Token) (value : α)
    (rest : List Token) : Prop :=
  ∀ handles anchors, step.run ⟨tokens, handles, anchors⟩ = some (value, ⟨rest, handles, anchors⟩)

end Definitions

namespace Assembler

variable {α β : Type} {step : Assembler α} {next : α → Assembler β} {first : α} {second : β}
variable {tokens middle rest ends : List Token} {token other : Token} {node : Node} {fuel : Nat}
variable {inBlock isEntry : Bool} {text : String} {style : ScalarStyle}

theorem Reads.pure (value : α) (tokens : List Token) :
    Reads (Pure.pure value) tokens value tokens := fun _ _ => rfl

theorem Reads.bind (read : step.Reads tokens first middle)
    (further : (next first).Reads middle second rest) : (step >>= next).Reads tokens second rest := by
  intro handles anchors
  rw [StateT.run_bind, read handles anchors]
  exact further handles anchors

theorem reads_peek (tokens : List Token) : peek.Reads tokens tokens.head? tokens := fun _ _ => rfl

theorem reads_skip (token : Token) (rest : List Token) : skip.Reads (token :: rest) () rest :=
  fun _ _ => rfl

theorem reads_skipIf (token : Token) (rest : List Token) :
    (skipIf token).Reads (token :: rest) true rest := by
  intro handles anchors
  simp [skipIf, peek, skip]

theorem reads_skipIf_other (different : other ≠ token) (rest : List Token) :
    (skipIf token).Reads (other :: rest) false (other :: rest) := by
  intro handles anchors
  simp [skipIf, peek, different]

section Contents

/-- The node of a collection is its content, where no anchor and no tag is in front of it. -/
theorem readNode_of_readContent (opens : token = .blockEntry ∨ token = .blockMappingStart)
    (read : (readContent fuel inBlock isEntry false none).Reads (token :: tokens) node rest) :
    (readNode (fuel + 1) inBlock isEntry).Reads (token :: tokens) node rest := by
  have properties : takeProperties.Reads (token :: tokens) (none, none) (token :: tokens) := by
    rcases opens with rfl | rfl <;> exact fun _ _ => rfl
  rcases opens with rfl | rfl <;>
    exact .bind (reads_peek _) (.bind properties
      (.bind (.pure none _) (.bind (.pure none _) (.bind read (.pure node _)))))

theorem readNode_scalar (text : String) (style : ScalarStyle) (rest : List Token) :
    (readNode (fuel + 2) inBlock isEntry).Reads (.scalar text style :: rest) (.scalar text style none)
      rest := fun _ _ => rfl

theorem readNode_brackets (rest : List Token) :
    (readNode (fuel + 3) inBlock isEntry).Reads (.flowSequenceStart :: .flowSequenceEnd :: rest)
      (.sequence []) rest := fun _ _ => rfl

theorem readNode_items {items : List Node}
    (read : (readBareItems fuel).Reads (.blockEntry :: tokens) items rest) :
    (readNode (fuel + 2) inBlock true).Reads (.blockEntry :: tokens) (.sequence items) rest :=
  readNode_of_readContent (.inl rfl) (.bind (reads_peek _) (.bind read (.pure _ _)))

theorem readNode_entries {entries : List (Node × Node)}
    (read : (readBlockEntries fuel).Reads tokens entries rest) :
    (readNode (fuel + 2) true isEntry).Reads (.blockMappingStart :: tokens) (.mapping entries) rest :=
  readNode_of_readContent (.inr rfl)
    (.bind (reads_peek _) (.bind (reads_skip _ tokens) (.bind read (.pure _ _))))

theorem readUnless_of_readNode (there : ends.contains token = false)
    (read : (readNode fuel inBlock isEntry).Reads (token :: tokens) node rest) :
    (readUnless (fuel + 1) ends inBlock isEntry).Reads (token :: tokens) node rest := by
  refine .bind (reads_peek _) ?_
  simp only [List.head?_cons, Option.any_some, there, Bool.false_eq_true, if_false]
  exact read

end Contents

section Collections

theorem readBareItems_end (other : token ≠ .blockEntry) (rest : List Token) :
    (readBareItems (fuel + 1)).Reads (token :: rest) [] (token :: rest) :=
  .bind (reads_skipIf_other other rest) (.pure [] _)

/-- Items without a block of their own are read up to the next key or the end of the block around
them. -/
theorem readBareItems_texts {texts : List String} (other : token ≠ .blockEntry)
    (enough : texts.length + 4 ≤ fuel) :
    (readBareItems fuel).Reads (texts.flatMap itemTokens ++ token :: rest) (texts.map textNode)
      (token :: rest) := by
  induction texts generalizing fuel with
  | nil =>
    obtain ⟨fuel, rfl⟩ : ∃ spare, fuel = spare + 1 := ⟨fuel - 1, by omega⟩
    exact readBareItems_end other rest
  | cons text texts ih =>
    obtain ⟨fuel, rfl⟩ : ∃ spare, fuel = spare + 4 := ⟨fuel - 4, by omega⟩
    have item : (readUnless (fuel + 3) [.blockEntry, .key, .value, .blockEnd] true false).Reads
        (textToken text :: (texts.flatMap itemTokens ++ token :: rest)) (textNode text)
        (texts.flatMap itemTokens ++ token :: rest) :=
      readUnless_of_readNode rfl (readNode_scalar text _ _)
    exact .bind (reads_skipIf .blockEntry _)
      (.bind item (.bind (ih (by simp at enough; omega)) (.pure _ _)))

theorem length_items (texts : List String) :
    (texts.flatMap itemTokens).length = 2 * texts.length := by
  induction texts with
  | nil => rfl
  | cons text texts ih =>
    simp only [List.flatMap_cons, List.length_append, ih, itemTokens, List.length_cons, List.length_nil]
    omega

variable {value : Value} {entry : Entry} {part : Part}

theorem readNode_value (closes : token = .key ∨ token = .blockEnd)
    (enough : value.tokens.length + 8 ≤ fuel) :
    (readUnless fuel [.key, .value, .blockEnd] true true).Reads (value.tokens ++ token :: rest)
      value.node (token :: rest) := by
  obtain ⟨fuel, rfl⟩ : ∃ spare, fuel = spare + 4 := ⟨fuel - 4, by omega⟩
  cases value with
  | text text => exact readUnless_of_readNode rfl (readNode_scalar text _ _)
  | char c => exact readUnless_of_readNode rfl (readNode_scalar _ _ _)
  | word word => exact readUnless_of_readNode rfl (readNode_scalar word.spelling _ _)
  | texts texts =>
    cases texts with
    | nil => exact readUnless_of_readNode rfl (readNode_brackets _)
    | cons text texts =>
      have other : token ≠ .blockEntry := by rcases closes with rfl | rfl <;> exact nofun
      have items : (readBareItems (fuel + 1)).Reads
          ((text :: texts).flatMap itemTokens ++ token :: rest) ((text :: texts).map textNode)
          (token :: rest) := by
        refine readBareItems_texts other ?_
        have length : ((text :: texts).flatMap itemTokens).length = _ := length_items _
        change ((text :: texts).flatMap itemTokens).length + 8 ≤ fuel + 4 at enough
        rw [length] at enough
        simp only [List.length_cons] at enough ⊢
        omega
      exact readUnless_of_readNode rfl (readNode_items items)

/-- A name and what it stands for are read as an entry. -/
theorem readBlockEntries_next {entries : List (Node × Node)} (name : String)
    (value : (readUnless (fuel + 3) [.key, .value, .blockEnd] true true).Reads tokens node middle)
    (further : (readBlockEntries (fuel + 3)).Reads middle entries rest) :
    (readBlockEntries (fuel + 4)).Reads (nameTokens name ++ tokens) ((nameNode name, node) :: entries)
      rest := by
  have key : (readUnless (fuel + 3) [.key, .value, .blockEnd] true true).Reads
      (.scalar name .plain :: .value :: tokens) (nameNode name) (.value :: tokens) :=
    readUnless_of_readNode rfl (readNode_scalar name _ _)
  have mark : (expect .key).Reads (.key :: .scalar name .plain :: .value :: tokens) ()
      (.scalar name .plain :: .value :: tokens) := .bind (reads_skipIf .key _) (fun _ _ => rfl)
  have goesOn := reads_skipIf_other (show Token.key ≠ .blockEnd from nofun)
    (.scalar name .plain :: .value :: tokens)
  exact .bind goesOn (.bind mark (.bind key
    (.bind (reads_skipIf .value tokens) (.bind value (.bind further (.pure _ _))))))

variable {ι : Type}

theorem exists_next (name : ι → String) (tokensOf : ι → List Token) (items : List ι)
    (rest : List Token) : ∃ token more,
    items.flatMap (fun item => nameTokens (name item) ++ tokensOf item) ++ .blockEnd :: rest =
      token :: more ∧ (token = .key ∨ token = .blockEnd) := by
  cases items with
  | nil => exact ⟨.blockEnd, rest, rfl, .inr rfl⟩
  | cons item items => exact ⟨.key, _, rfl, .inl rfl⟩

/-- The entries of a block are read up to its end, when what each name stands for is read. -/
theorem readBlockEntries_all (name : ι → String) (tokensOf : ι → List Token) (nodeOf : ι → Node)
    {items : List ι}
    (each : ∀ item ∈ items, ∀ fuel token rest, (token = .key ∨ token = .blockEnd) →
      (tokensOf item).length + 8 ≤ fuel →
        (readUnless fuel [.key, .value, .blockEnd] true true).Reads (tokensOf item ++ token :: rest)
          (nodeOf item) (token :: rest))
    (enough : (items.flatMap (fun item => nameTokens (name item) ++ tokensOf item)).length + 6 ≤ fuel) :
    (readBlockEntries fuel).Reads
      (items.flatMap (fun item => nameTokens (name item) ++ tokensOf item) ++ .blockEnd :: rest)
      (items.map (fun item => (nameNode (name item), nodeOf item))) rest := by
  induction items generalizing fuel with
  | nil =>
    obtain ⟨fuel, rfl⟩ : ∃ spare, fuel = spare + 1 := ⟨fuel - 1, by omega⟩
    exact .bind (reads_skipIf .blockEnd rest) (.pure [] rest)
  | cons item items ih =>
    obtain ⟨fuel, rfl⟩ : ∃ spare, fuel = spare + 4 := ⟨fuel - 4, by omega⟩
    obtain ⟨token, more, next, closes⟩ := exists_next name tokensOf items rest
    simp only [List.flatMap_cons, List.length_append, nameTokens, List.length_cons,
      List.length_nil] at enough
    have each' : ∀ other ∈ items, _ := fun other held => each other (.tail item held)
    have further := @ih (fuel + 3) each' (by simp only [nameTokens]; omega)
    rw [List.flatMap_cons, List.append_assoc, List.append_assoc]
    rw [next] at further ⊢
    exact readBlockEntries_next (name item)
      (each item List.mem_cons_self _ token more closes (by omega)) further

end Collections

section Documents

variable {entries : List Entry} {part : Part} {parts : List Part}

theorem readBlockEntries_entries (enough : (entries.flatMap Entry.tokens).length + 6 ≤ fuel) :
    (readBlockEntries fuel).Reads (entries.flatMap Entry.tokens ++ .blockEnd :: rest)
      (entries.map Entry.node) rest :=
  readBlockEntries_all Entry.name (fun entry => entry.value.tokens) (fun entry => entry.value.node)
    (fun _ _ _ _ _ closes enough => readNode_value closes enough) enough

theorem readNode_body (closes : token = .key ∨ token = .blockEnd)
    (enough : part.bodyTokens.length + 8 ≤ fuel) :
    (readUnless fuel [.key, .value, .blockEnd] true true).Reads (part.bodyTokens ++ token :: rest)
      part.bodyNode (token :: rest) := by
  cases part with
  | field entry => exact readNode_value closes enough
  | block name entries =>
    simp only [Part.bodyTokens, List.length_cons, List.length_append, List.length_nil] at enough
    obtain ⟨fuel, rfl⟩ : ∃ spare, fuel = spare + 3 := ⟨fuel - 3, by omega⟩
    have fields : (readBlockEntries fuel).Reads
        (entries.flatMap Entry.tokens ++ .blockEnd :: (token :: rest)) (entries.map Entry.node)
        (token :: rest) := readBlockEntries_entries (by omega)
    rw [Part.bodyTokens, List.cons_append, List.append_assoc]
    exact readUnless_of_readNode rfl (readNode_entries fields)

theorem readBlockEntries_parts (enough : (parts.flatMap Part.tokens).length + 6 ≤ fuel) :
    (readBlockEntries fuel).Reads (parts.flatMap Part.tokens ++ .blockEnd :: rest)
      (parts.map Part.node) rest :=
  readBlockEntries_all Part.name Part.bodyTokens Part.bodyNode
    (fun _ _ _ _ _ closes enough => readNode_body closes enough) enough

theorem readDocument_partsTokens (parts : List Part) :
    readDocument (partsTokens parts) = some (.mapping (parts.map Part.node)) := by
  have length : (partsTokens parts).length = (parts.flatMap Part.tokens).length + 2 := by
    simp [partsTokens]
  obtain ⟨fuel, enough⟩ : ∃ spare, 5 * ((partsTokens parts).length + 1) = spare + 2 :=
    ⟨5 * ((partsTokens parts).length + 1) - 2, by omega⟩
  have root : (readNode (5 * ((partsTokens parts).length + 1)) true false).Reads (partsTokens parts)
      (.mapping (parts.map Part.node)) [] := by
    rw [enough]
    exact readNode_entries (readBlockEntries_parts (by omega))
  have directives : takeDirectives false [] (partsTokens parts) = some ([], partsTokens parts) := rfl
  have unmarked : (partsTokens parts).head? ≠ some .documentStart := by simp [partsTokens]
  rw [readDocument, directives]
  simp [unmarked, root standardHandles []]

end Documents

end Assembler

/-- A record that is written is parsed as the mapping from its names to what they hold. -/
theorem parse_writeParts {parts : List Part} (nonempty : parts ≠ [])
    (writable : ∀ part ∈ parts, part.IsWritable) :
    Node.parse (writeParts parts) = some (.mapping (parts.map Part.node)) := by
  rw [Node.parse, scan_writeParts nonempty writable]
  exact Assembler.readDocument_partsTokens parts

end EffectModel.Yaml
