import EffectModel.Proofs.Yaml.Block
import EffectModel.Proofs.Yaml.Quoted
import EffectModel.Yaml.Lexer

/-! Cutting a text that was written as the fields of a record. Main statements: what the tokens of a
text are follows from what those of the text behind its next name, dash or scalar are. -/
namespace EffectModel.Yaml

/-- Where a text has been cut to, outside of brackets. -/
structure Stage where
  rest : List Char
  column : Nat
  /-- The columns of the blocks that are open, the innermost first. -/
  blocks : List Nat
  /-- The tokens so far, the last one first. -/
  tokens : List Token
  keyAllowed : Bool

namespace Lexer

/-- A lexer has come to a stage. The line and the number of bytes do not matter there, nor does a key
that may still be given up. -/
structure IsAt (lexer : Lexer) (stage : Stage) : Prop where
  rest : lexer.cursor.rest = stage.rest
  column : lexer.cursor.column = stage.column
  blocks : lexer.blocks = stage.blocks
  tokens : lexer.tokens = stage.tokens
  keyAllowed : lexer.keyAllowed = stage.keyAllowed
  outside : lexer.enclosing = []
  free : lexer.possible.any PossibleKey.isRequired = false

theorem IsAt.inFlow {lexer : Lexer} {stage : Stage} (here : lexer.IsAt stage) :
    lexer.inFlow = false := by
  simp [Lexer.inFlow, here.outside]

/-- Cutting what is left gives these tokens, however many steps more than enough are allowed. -/
def Scans (lexer : Lexer) (tokens : List Token) : Prop :=
  ∀ fuel, lexer.cursor.rest.length + 1 < fuel → lexer.run fuel = some tokens

end Lexer

/-- From a stage on a text is cut into these tokens. -/
def Stage.Scans (stage : Stage) (tokens : List Token) : Prop :=
  ∀ lexer : Lexer, lexer.IsAt stage → lexer.Scans tokens

/-- From the start of a line on that is indented by no more than some columns, a text is cut into these
tokens. -/
def LineScans (line : List Char) (outer : Nat) (blocks : List Nat) (tokens out : List Token) : Prop :=
  ∃ wide content, line = margin wide ++ content ∧ wide ≤ outer ∧ BeginsLine content ∧
    Stage.Scans ⟨content, wide, blocks, tokens, true⟩ out

/-- A text that may be the name of a field: it is no mark of a document, and so short that its colon is
within reach. -/
structure IsName (name : List Char) : Prop where
  plain : IsPlain name
  nonempty : name ≠ []
  solid : ∀ c ∈ name, isGap c = false
  unmarked : name.head? ≠ some '-' ∧ name.head? ≠ some '.'
  short : 4 * name.length ≤ PossibleKey.reach

variable {lexer next : Lexer} {out tokens : List Token} {rest chars line content : List Char}
variable {blocks : List Nat} {column outer block fuel : Nat} {keyAllowed : Bool} {c : Char}

section Name

theorem IsName.atDocumentMark (named : IsName chars) (rest : List Char) :
    Yaml.atDocumentMark (chars ++ rest) = false := by
  cases chars with
  | nil => exact absurd rfl named.nonempty
  | cons c chars =>
    obtain ⟨dash, dot⟩ := named.unmarked
    unfold Yaml.atDocumentMark
    split
    next same => exact absurd (congrArg List.head? same) dash
    next same => exact absurd (congrArg List.head? same) dot
    next => rfl

theorem sum_utf8Size_le (chars : List Char) : (chars.map Char.utf8Size).sum ≤ 4 * chars.length := by
  induction chars with
  | nil => rfl
  | cons c chars ih =>
    have each := c.utf8Size_le_four
    simp only [List.map_cons, List.sum_cons, List.length_cons]
    omega

end Name

namespace Lexer

section Spacing

/-- What stands in front of the next token, outside of brackets. -/
def gapsPassed (lexer : Lexer) : Cursor :=
  ((skipByteOrderMark lexer.cursor).skipWhile lexer.isPassed).skipComment

theorem skipToToken_succ (fuel : Nat) (lexer : Lexer) : lexer.skipToToken (fuel + 1) =
    if lexer.gapsPassed.rest.head?.any isBreak then
      skipToToken fuel
        { lexer with
          cursor := lexer.gapsPassed.skipBreak
          keyAllowed := lexer.keyAllowed || !lexer.inFlow }
    else { lexer with cursor := lexer.gapsPassed } := rfl

/-- A lexer in front of its next token, with the blocks ended that lie deeper. -/
def settled (fuel : Nat) (lexer : Lexer) : Lexer :=
  (lexer.skipToToken fuel).closeBlocks (lexer.skipToToken fuel).cursor.column

/-- What comes next depends only on where the gaps, comments and line ends lead to. -/
theorem run_congr (same : lexer.settled fuel = next.settled fuel) :
    lexer.run (fuel + 1) = next.run (fuel + 1) := by
  unfold settled at same
  simp only [run, same]

theorem isGap_of_isPassed {c : Char} (passed : lexer.isPassed c = true) : isGap c = true := by
  simp only [isPassed, Bool.or_eq_true, Bool.and_eq_true] at passed
  simp only [isGap, Bool.or_eq_true]
  exact passed.imp_right And.right

/-- The gaps in front of a token are passed. -/
theorem gapsPassed_margin (wide : Nat) (begins : BeginsLine content)
    (here : lexer.cursor.rest = margin wide ++ content) :
    lexer.gapsPassed = lexer.cursor.advance wide := by
  have unmarked : skipByteOrderMark lexer.cursor = lexer.cursor := by
    have first : lexer.cursor.rest.head? ≠ some '\ufeff' := by
      rw [here]
      cases wide with
      | zero => exact fun mark => (begins _ mark).2.2.2 rfl
      | succ wide => simp [margin, List.replicate_succ]
    simp [skipByteOrderMark, first]
  have gaps : lexer.cursor.rest.takeWhile lexer.isPassed = margin wide := by
    rw [here, List.takeWhile_append_of_pos (by simp [margin, isPassed])]
    cases content with
    | nil => simp
    | cons c rest =>
      have stays : lexer.isPassed c = false := by
        by_contra passed
        simpa [isGap_of_isPassed (by simpa using passed)] using (begins c rfl).1
      simp [stays]
  have behind : (lexer.cursor.advance wide).rest = content := by simp [here, margin]
  rw [gapsPassed, unmarked, Cursor.skipWhile, gaps, margin, List.length_replicate]
  unfold Cursor.skipComment
  rw [behind]
  split
  next rest comment => exact absurd rfl (begins '#' rfl).2.2.1
  next => rfl

theorem skipToToken_of_beginsLine (begins : BeginsLine lexer.cursor.rest) (fuel : Nat) :
    lexer.skipToToken fuel = lexer := by
  cases fuel with
  | zero => rfl
  | succ fuel =>
    have settled : lexer.gapsPassed = lexer.cursor := by
      rw [gapsPassed_margin 0 begins (by simp [margin]), Cursor.advance_zero]
    rw [skipToToken_succ, settled, begins.any_isBreak]
    rfl

/-- Whatever stands in front of a token does not change what the tokens are. -/
theorem Scans.of_skipToToken (scans : next.Scans out)
    (skipped : ∀ fuel, lexer.skipToToken (fuel + 2) = next) (begins : BeginsLine next.cursor.rest)
    (shorter : next.cursor.rest.length < lexer.cursor.rest.length) : lexer.Scans out := by
  intro fuel enough
  obtain ⟨spare, rfl⟩ : ∃ spare, fuel = spare + 2 + 1 := ⟨fuel - 3, by omega⟩
  have same : lexer.settled (spare + 2) = next.settled (spare + 2) := by
    rw [settled, settled, skipped, skipToToken_of_beginsLine begins]
  rw [run_congr same]
  exact scans _ (by omega)

end Spacing

section Blocks

/-- No block is open that lies deeper than a column. -/
def Inside (blocks : List Nat) (column : Nat) : Prop := ∀ block ∈ blocks.head?, block ≤ column

theorem inside_cons (placed : outer ≤ column) (blocks : List Nat) :
    Inside (outer :: blocks) column := by
  intro block first
  obtain rfl : outer = block := Option.some.inj first
  exact placed

theorem closeBlocks_of_inside (inside : Inside lexer.blocks column) :
    lexer.closeBlocks column = lexer := by
  have none : lexer.blocks.takeWhile (fun block : Nat => decide ((column : Int) < block)) = [] := by
    cases blocks : lexer.blocks with
    | nil => rfl
    | cons block outer =>
      have shallow : block ≤ column := inside block (by simp [blocks])
      simp [shallow]
  unfold closeBlocks
  rw [none]
  split <;> rfl

theorem closeBlocks_cons (outside : lexer.enclosing = []) (opened : lexer.blocks = block :: blocks)
    (shallow : column < block) : lexer.closeBlocks column =
      closeBlocks { lexer with blocks := blocks, tokens := .blockEnd :: lexer.tokens } column := by
  have deeper : decide ((column : Int) < block) = true := by simpa using shallow
  simp only [closeBlocks, inFlow, outside, opened, List.isEmpty_nil, Bool.not_true,
    Bool.false_eq_true, if_false, List.takeWhile_cons, deeper, if_true, List.length_cons,
    List.drop_succ_cons, List.map_const', List.append_cons _ Token.blockEnd lexer.tokens,
    ← List.replicate_succ']

theorem closeBlocks_all (outside : lexer.enclosing = []) :
    lexer.closeBlocks (-1) = { lexer with
      blocks := []
      tokens := lexer.blocks.map (fun _ => .blockEnd) ++ lexer.tokens } := by
  have all : lexer.blocks.takeWhile (fun block : Nat => decide (-1 < (block : Int))) = lexer.blocks :=
    List.takeWhile_eq_self_iff.mpr fun block _ => by simp; omega
  simp [closeBlocks, inFlow, outside, all]

end Blocks

section Running

/-- A token is cut off where a lexer stands in front of it. -/
theorem Scans.of_takeToken (begins : BeginsLine lexer.cursor.rest) (more : lexer.cursor.rest ≠ [])
    (inside : lexer.inFlow = true ∨ Inside lexer.blocks lexer.cursor.column)
    (taken : ∀ fuel, lexer.cursor.rest.length < fuel → ∃ next, lexer.takeToken fuel = some next ∧
      next.cursor.rest.length < lexer.cursor.rest.length ∧ next.Scans out) : lexer.Scans out := by
  intro fuel enough
  obtain ⟨fuel, rfl⟩ := Nat.exists_eq_add_one_of_ne_zero (Nat.ne_zero_of_lt enough)
  obtain ⟨next, taken, shorter, scans⟩ := taken fuel (by omega)
  have closed : lexer.closeBlocks lexer.cursor.column = lexer := by
    rcases inside with flow | inside
    · rw [closeBlocks, if_pos flow]
    · exact closeBlocks_of_inside inside
  have left : lexer.cursor.rest.isEmpty = false := by simpa using more
  rw [run, skipToToken_of_beginsLine begins]
  simp only [closed, left, taken, Bool.false_eq_true, if_false, Option.bind_eq_bind, Option.bind_some]
  exact scans fuel (by omega)

end Running

end Lexer

/-- A token is cut off that begins at a stage, inside the blocks that are open. -/
theorem Stage.scans_of_takeToken {stage : Stage} (begins : BeginsLine stage.rest)
    (more : stage.rest ≠ []) (inside : Lexer.Inside stage.blocks stage.column)
    (taken : ∀ lexer : Lexer, lexer.IsAt stage → ∀ fuel, stage.rest.length < fuel → ∃ next,
      lexer.takeToken fuel = some next ∧ next.cursor.rest.length < stage.rest.length ∧
        next.Scans out) : stage.Scans out := by
  intro lexer here
  rw [← here.rest] at begins more taken
  rw [← here.blocks, ← here.column] at inside
  exact .of_takeToken begins more (.inr inside) (taken lexer here)

theorem Stage.scans_gap (begins : BeginsLine content)
    (scans : Stage.Scans ⟨content, column + 1, blocks, tokens, keyAllowed⟩ out) :
    Stage.Scans ⟨' ' :: content, column, blocks, tokens, keyAllowed⟩ out := by
  intro lexer here
  let next := { lexer with cursor := lexer.cursor.advance 1 }
  have next_rest : next.cursor.rest = content := by simp [next, here.rest]
  have reached : next.IsAt ⟨content, column + 1, blocks, tokens, keyAllowed⟩ :=
    ⟨next_rest, by simp [next, here.column], here.blocks, here.tokens, here.keyAllowed, here.outside,
      here.free⟩
  have passed : lexer.gapsPassed = next.cursor :=
    Lexer.gapsPassed_margin 1 begins here.rest
  refine (scans next reached).of_skipToToken (fun fuel => ?_) (by rwa [next_rest])
    (by simp [next_rest, here.rest])
  rw [Lexer.skipToToken_succ, passed, next_rest, begins.any_isBreak]
  rfl

/-- The end of a line is passed, with the margin of the next one, where a key may begin. -/
theorem Stage.scans_lineEnd (after : LineScans line outer blocks tokens out) :
    Stage.Scans ⟨'\n' :: line, column, blocks, tokens, keyAllowed⟩ out := by
  obtain ⟨wide, content, rfl, -, begins, scans⟩ := after
  intro lexer here
  obtain ⟨-, rest_eq, column_eq⟩ := Cursor.readBreak_eq here.rest (by rfl) (by rfl)
  let behind := { lexer with cursor := lexer.cursor.skipBreak, keyAllowed := true }
  let next := { behind with cursor := lexer.cursor.skipBreak.advance wide }
  have next_rest : next.cursor.rest = content := by simp [next, rest_eq, margin]
  have reached : next.IsAt ⟨content, wide, blocks, tokens, true⟩ :=
    ⟨next_rest, by simp [next, column_eq], here.blocks, here.tokens, rfl, here.outside, here.free⟩
  have stays : lexer.gapsPassed = lexer.cursor := by
    simp [Lexer.gapsPassed, Lexer.skipByteOrderMark, Cursor.skipWhile, Cursor.skipComment, here.rest,
      Lexer.isPassed]
  have passed : behind.gapsPassed = next.cursor := Lexer.gapsPassed_margin wide begins rest_eq
  have shorter : next.cursor.rest.length < lexer.cursor.rest.length := by
    rw [next_rest, here.rest, List.length_cons, List.length_append]
    omega
  refine (scans next reached).of_skipToToken (fun fuel => ?_) (by rwa [next_rest]) shorter
  have ends : lexer.cursor.rest.head?.any isBreak = true := by simp [here.rest, isBreak]
  have allowed : (lexer.keyAllowed || !lexer.inFlow) = true := by
    simp [here.inFlow]
  rw [Lexer.skipToToken_succ, stays, if_pos ends, allowed, Lexer.skipToToken_succ]
  change (if behind.gapsPassed.rest.head?.any isBreak then _ else
    { behind with cursor := behind.gapsPassed }) = next
  rw [passed, next_rest, begins.any_isBreak]
  rfl

/-- A line that is indented less than a block ends it. -/
theorem Stage.scans_dedent (begins : BeginsLine rest) (shallow : column < block)
    (scans : Stage.Scans ⟨rest, column, blocks, .blockEnd :: tokens, keyAllowed⟩ out) :
    Stage.Scans ⟨rest, column, block :: blocks, tokens, keyAllowed⟩ out := by
  intro lexer here fuel enough
  let next := { lexer with blocks := blocks, tokens := .blockEnd :: lexer.tokens }
  have reached : next.IsAt ⟨rest, column, blocks, .blockEnd :: tokens, keyAllowed⟩ :=
    ⟨here.rest, here.column, rfl, by simp [next, here.tokens], here.keyAllowed, here.outside,
      here.free⟩
  obtain ⟨fuel, rfl⟩ := Nat.exists_eq_add_one_of_ne_zero (Nat.ne_zero_of_lt enough)
  have settles : ∀ here' : Lexer, here'.cursor = lexer.cursor →
      here'.settled fuel = here'.closeBlocks column := by
    intro here' same
    rw [Lexer.settled, Lexer.skipToToken_of_beginsLine (by rwa [same, here.rest]), same, here.column]
  have same : lexer.settled fuel = next.settled fuel := by
    rw [settles lexer rfl, settles next rfl, Lexer.closeBlocks_cons here.outside here.blocks shallow]
  rw [Lexer.run_congr same]
  exact scans next reached (fuel + 1) enough

theorem Stage.scans_end (inside : Lexer.Inside blocks column) :
    Stage.Scans ⟨[], column, blocks, tokens, keyAllowed⟩
      (tokens.reverse ++ blocks.map (fun _ => .blockEnd)) := by
  intro lexer here fuel enough
  obtain ⟨fuel, rfl⟩ := Nat.exists_eq_add_one_of_ne_zero (Nat.ne_zero_of_lt enough)
  have settled : lexer.skipToToken fuel = lexer :=
    Lexer.skipToToken_of_beginsLine (by simp [here.rest, BeginsLine]) fuel
  have closed : lexer.closeBlocks lexer.cursor.column = lexer := by
    rw [here.column]
    exact Lexer.closeBlocks_of_inside (by rwa [here.blocks])
  have none : lexer.cursor.rest.isEmpty = true := by simp [here.rest]
  rw [Lexer.run, settled]
  simp [closed, none, Lexer.closeBlocks_all here.outside, Lexer.dropKey, here.free, here.tokens,
    here.blocks]

namespace Lexer

section Names

theorem takeToken_plain (plain : IsPlain (c :: chars)) (outside : lexer.enclosing = [])
    (unmarked : (lexer.cursor.column == 0 && atDocumentMark lexer.cursor.rest) = false)
    (here : lexer.cursor.rest = c :: chars ++ rest) :
    lexer.takeToken fuel = lexer.takePlain fuel := by
  obtain ⟨flow, marks, dash⟩ := plain.startsStructure_head
  have solid : (c == '-' || c == '?' || c == ':') = true → atGap (chars ++ rest) = false := by
    intro mark
    rw [mark, Bool.true_and] at dash
    exact atGap_append chars dash rest
  have outside' : lexer.inFlow = false := by simp [inFlow, outside]
  unfold takeToken
  simp only [unmarked, Bool.false_eq_true, if_false, outside']
  rw [here, List.cons_append]
  -- the other marks are excluded by what a plain text begins with
  split
  next same => cases same
  all_goals try (next same => cases same; simp at marks)
  all_goals try (next same => cases same; simp [isFlowIndicator] at flow)
  all_goals try (next same => cases same; simp [solid])
  next dash _ question colon _ _ _ _ _ _ _ same =>
    cases same
    simp [plain.not_isGap_head, plain.isIndicator dash question colon]

def possibleKey (lexer : Lexer) : PossibleKey :=
  { position := lexer.tokens.length
    line := lexer.cursor.line
    index := lexer.cursor.index
    column := lexer.cursor.column
    isRequired := !lexer.inFlow && lexer.indent == lexer.cursor.column }

theorem markKey_of_allowed (allowed : lexer.keyAllowed = true)
    (free : lexer.possible.any PossibleKey.isRequired = false) :
    lexer.markKey = some { lexer with possible := some lexer.possibleKey } := by
  simp [markKey, allowed, dropKey, free, possibleKey]

theorem takePlain_of_read {possible : Option PossibleKey} {whole : Folding} {behind : Cursor}
    (outside : lexer.inFlow = false)
    (marked : lexer.markKey = some { lexer with possible := possible })
    (read : Scalar.readPlain false (lexer.indent + 1) fuel {} false lexer.cursor =
      some (whole, behind))
    (text : whole.text = chars.reverse) : lexer.takePlain fuel = some { lexer with
      cursor := behind
      tokens := .scalar (String.ofList chars) .plain :: lexer.tokens
      possible := possible
      keyAllowed := whole.broken } := by
  rw [takePlain, marked]
  change (Scalar.readPlain lexer.inFlow (lexer.indent + 1) fuel {} false lexer.cursor).bind _ = _
  simp only [outside, read, Option.bind_some, text, List.reverse_reverse]
  rfl

/-- The lexer behind a name that may turn out to be a key. -/
def behindName (lexer : Lexer) (name : List Char) : Lexer :=
  { lexer with
    cursor := lexer.cursor.advance name.length
    tokens := .scalar (String.ofList name) .plain :: lexer.tokens
    possible := some lexer.possibleKey
    keyAllowed := false }

/-- A name is taken in up to its colon. -/
theorem takeToken_name {name : List Char} (named : IsName name) (gap : atGap rest = true)
    (here : lexer.IsAt ⟨name ++ ':' :: rest, column, blocks, tokens, true⟩)
    (enough : name.length < fuel) : lexer.takeToken fuel = some (lexer.behindName name) := by
  obtain ⟨whole, read, text, line⟩ :=
    readPlain_name (lexer.indent + 1) named.plain named.solid gap here.rest enough
  have unmarked : atDocumentMark lexer.cursor.rest = false := by
    rw [here.rest]
    exact named.atDocumentMark _
  have taken : lexer.takeToken fuel = lexer.takePlain fuel := by
    cases name with
    | nil => exact absurd rfl named.nonempty
    | cons c name =>
      exact takeToken_plain named.plain here.outside (by rw [unmarked, Bool.and_false]) here.rest
  have marked := markKey_of_allowed here.keyAllowed here.free
  rw [taken, takePlain_of_read here.inFlow marked read text, line]
  rfl

theorem isNear_name {name : List Char} (named : IsName name)
    (here : lexer.cursor.rest = name ++ rest) :
    lexer.possibleKey.isNear (lexer.cursor.advance name.length) = true := by
  have bytes := sum_utf8Size_le name
  have index : (lexer.cursor.advance name.length).index =
      lexer.cursor.index + (name.map Char.utf8Size).sum := by
    simp [Cursor.advance, Cursor.bytesAhead_eq_sum, here]
  have short := named.short
  simp only [PossibleKey.isNear, possibleKey, index, Bool.and_eq_true, beq_iff_eq, decide_eq_true_eq]
  exact ⟨rfl, by omega⟩

/-- Whether a block begins with a key at a column. -/
def opensAt (blocks : List Nat) (column : Nat) : Bool := blocks.head?.all (· < column)

theorem opensBlock_eq (outside : lexer.enclosing = []) (column : Nat) :
    lexer.opensBlock column = opensAt lexer.blocks column := by
  cases blocks : lexer.blocks with
  | nil => simp [opensBlock, inFlow, outside, indent, blocks, opensAt]; omega
  | cons block outer => simp [opensBlock, inFlow, outside, indent, blocks, opensAt]

/-- The lexer behind the colon of a key: the key has been announced in front of its name. -/
theorem takeToken_colon {name : List Char} (named : IsName name) (gap : atGap rest = true)
    (here : lexer.IsAt ⟨name ++ ':' :: rest, column, blocks, tokens, true⟩) (fuel : Nat) :
    ∃ next, (lexer.behindName name).takeToken fuel = some next ∧
      next.IsAt {
        rest := rest
        column := column + name.length + 1
        blocks := if opensAt blocks column then column :: blocks else blocks
        tokens := .value :: .scalar (String.ofList name) .plain :: .key ::
          if opensAt blocks column then .blockMappingStart :: tokens else tokens
        keyAllowed := false } := by
  have colon : (lexer.behindName name).cursor.rest = ':' :: rest := Cursor.advance_append here.rest
  have outside : (lexer.behindName name).inFlow = false := by
    simp [inFlow, behindName, here.outside]
  have taken : (lexer.behindName name).takeToken fuel = (lexer.behindName name).takeValue := by
    simp [takeToken, colon, outside, gap]
  have near : (lexer.behindName name).possible.filter (·.isNear (lexer.behindName name).cursor) =
      some lexer.possibleKey := by
    simp [behindName, isNear_name named here.rest]
  have opened : (lexer.behindName name).opensBlock lexer.possibleKey.column = opensAt blocks column := by
    have outermost : (lexer.behindName name).enclosing = [] := here.outside
    rw [opensBlock_eq outermost]
    exact congrArg₂ opensAt here.blocks here.column
  refine ⟨_, by rw [taken, takeValue, near], ?_⟩
  have rest_eq : ((lexer.behindName name).cursor.advance 1).rest = rest := by simp [colon]
  have column_eq : ((lexer.behindName name).cursor.advance 1).column = column + name.length + 1 := by
    simp [behindName, here.column]
  unfold confirmKey
  rw [opened]
  cases opens : opensAt blocks column with
  | true =>
    refine ⟨rest_eq, column_eq, ?_, ?_, rfl, here.outside, rfl⟩
    · exact congrArg₂ List.cons here.column here.blocks
    · simp [take, push, insert, possibleKey, behindName, here.tokens]
  | false =>
    refine ⟨rest_eq, column_eq, here.blocks, ?_, rfl, here.outside, rfl⟩
    simp [take, push, insert, possibleKey, behindName, here.tokens]

end Names

end Lexer

/-- A key and its colon are cut off. The first key of a block begins it. -/
theorem Stage.scans_key {name : List Char} (named : IsName name) (gap : atGap rest = true)
    (inside : Lexer.Inside blocks column)
    (scans : Stage.Scans {
      rest := rest
      column := column + name.length + 1
      blocks := if Lexer.opensAt blocks column then column :: blocks else blocks
      tokens := .value :: .scalar (String.ofList name) .plain :: .key ::
        if Lexer.opensAt blocks column then .blockMappingStart :: tokens else tokens
      keyAllowed := false } out) :
    Stage.Scans ⟨name ++ ':' :: rest, column, blocks, tokens, true⟩ out := by
  have begins : BeginsLine (name ++ ':' :: rest) := by
    cases name with
    | nil => exact absurd rfl named.nonempty
    | cons c name => exact named.plain.beginsLine _
  have length : (name ++ ':' :: rest).length = name.length + (rest.length + 1) := by simp
  have some_name : 0 < name.length := List.length_pos_of_ne_nil named.nonempty
  refine scans_of_takeToken begins (by simp) inside fun lexer here fuel enough => ?_
  have colon : (lexer.behindName name).cursor.rest = ':' :: rest := Cursor.advance_append here.rest
  have named_scans : (lexer.behindName name).Scans out := by
    refine .of_takeToken (by simp [colon, BeginsLine, isGap, isBreak]) (by simp [colon]) (.inr ?_) ?_
    · intro block first
      have shallow := inside block (by simpa [Lexer.behindName, here.blocks] using first)
      simp only [Lexer.behindName, Cursor.advance_column, here.column]
      omega
    · intro fuel _
      obtain ⟨next, taken, reached⟩ := Lexer.takeToken_colon named gap here fuel
      exact ⟨next, taken, by simp [colon, reached.rest], scans next reached⟩
  refine ⟨_, Lexer.takeToken_name named gap here (by simp at enough; omega), ?_, named_scans⟩
  rw [colon, length, List.length_cons]
  omega

end EffectModel.Yaml
