import EffectModel.Json.Reader
import EffectModel.Yaml.Cursor

namespace EffectModel.Yaml

/-- A scalar that is being read. -/
structure Folding where
  /-- The text so far, its last character first. -/
  text : List Char := []
  /-- The gaps since the last character of the text, the last one first. -/
  gaps : List Char := []
  /-- Whether a line has ended since. -/
  broken : Bool := false
  /-- The end of that line; nothing where it was escaped. -/
  lineEnd : List Char := []
  /-- The ends of further lines, the last one first. -/
  further : List Char := []
  deriving Repr

namespace Folding

/-- Settles what the gaps and line ends since the last character amount to. -/
def join (folding : Folding) : Folding :=
  if folding.broken then
    { text :=
        if folding.lineEnd == ['\n'] then
          if folding.further.isEmpty then ' ' :: folding.text else folding.further ++ folding.text
        else folding.further ++ (folding.lineEnd ++ folding.text) }
  else { text := folding.gaps ++ folding.text }

def push (folding : Folding) (c : Char) : Folding :=
  let joined := folding.join
  { joined with text := c :: joined.text }

def gap (folding : Folding) (c : Char) : Folding :=
  if folding.broken then folding else { folding with gaps := c :: folding.gaps }

def lineBreak (folding : Folding) (written : List Char) : Folding :=
  if folding.broken then { folding with further := written ++ folding.further }
  else { folding with gaps := [], broken := true, lineEnd := written }

/-- Takes in the end of a line that leaves no trace. -/
def escapedBreak (folding : Folding) : Folding :=
  { folding.join with broken := true }

end Folding

/-- How a scalar is written, as far as it matters for what it stands for. -/
inductive ScalarStyle where
  | plain
  | literal
  /-- Between quotes, or as a block whose lines are folded. -/
  | other
  deriving DecidableEq, Repr, Inhabited

namespace Scalar

def plainEnds (inFlow : Bool) : List Char → Bool
  | [] => true
  | c :: next => (c == ':' && atGap next) || (inFlow && isFlowIndicator c)

/-- Whether a plain scalar in brackets comes upon a colon that it may not hold. -/
def plainClashes (inFlow : Bool) : List Char → Bool
  | ':' :: c :: _ => inFlow && (isFlowIndicator c || c == '?')
  | _ => false

/-- Reads a plain scalar that may go on over lines that are indented far enough. -/
def readPlain (inFlow : Bool) (indent : Int) :
    Nat → Folding → Bool → Cursor → Option (Folding × Cursor)
  | 0, _, _, _ => none
  | fuel + 1, folding, afterGap, cursor =>
      match cursor.rest with
      | [] => some (folding, cursor)
      | c :: _ =>
          if isGap c then
            if folding.broken && (cursor.column : Int) < indent && c == '\t' then none
            else readPlain inFlow indent fuel (folding.gap c) true (cursor.advance 1)
          else if isBreak c then
            let (written, next) := cursor.readBreak
            readPlain inFlow indent fuel (folding.lineBreak written) true next
          else if afterGap && (c == '#' || (!inFlow && (cursor.column : Int) < indent)
              || (cursor.column == 0 && atDocumentMark cursor.rest)) then
            some (folding, cursor)
          else if plainClashes inFlow cursor.rest then none
          else if plainEnds inFlow cursor.rest then some (folding, cursor)
          else readPlain inFlow indent fuel (folding.push c) false (cursor.advance 1)

/-- Reads a scalar in single quotes from behind the opening one. A quote is written twice. -/
def readSingle : Nat → Folding → Cursor → Option (Folding × Cursor)
  | 0, _, _ => none
  | fuel + 1, folding, cursor =>
      if cursor.column == 0 && atDocumentMark cursor.rest then none
      else
        match cursor.rest with
        | [] => none
        | '\'' :: '\'' :: _ => readSingle fuel (folding.push '\'') (cursor.advance 2)
        | '\'' :: _ => some (folding.join, cursor.advance 1)
        | c :: _ =>
            if isGap c then readSingle fuel (folding.gap c) (cursor.advance 1)
            else if isBreak c then
              let (written, next) := cursor.readBreak
              readSingle fuel (folding.lineBreak written) next
            else readSingle fuel (folding.push c) (cursor.advance 1)

def unescape : Char → Option Char
  | '0' => some '\x00'
  | 'a' => some '\x07'
  | 'b' => some '\x08'
  | 't' => some '\t'
  | '\t' => some '\t'
  | 'n' => some '\n'
  | 'v' => some '\x0b'
  | 'f' => some '\x0c'
  | 'r' => some '\r'
  | 'e' => some '\x1b'
  | ' ' => some ' '
  | '"' => some '"'
  | '/' => some '/'
  | '\\' => some '\\'
  | 'N' => some '\x85'
  | '_' => some '\xa0'
  | 'L' => some '\u2028'
  | 'P' => some '\u2029'
  | _ => none

def codeLength : Char → Option Nat
  | 'x' => some 2
  | 'u' => some 4
  | 'U' => some 8
  | _ => none

/-- The character with a code point, unless the code point is half of a surrogate pair or none at
all. -/
def charOfCode (code : Nat) : Option Char :=
  if code.isValidChar then some (Char.ofNat code) else none

def readEscape : List Char → Option (Char × Nat)
  | [] => none
  | letter :: rest =>
      match codeLength letter with
      | some length => do
          let digits := rest.take length
          guard (digits.length = length)
          let code ← Json.hexNumber digits
          let c ← charOfCode code
          some (c, length + 1)
      | none => (unescape letter).map (·, 1)

def readDouble : Nat → Folding → Cursor → Option (Folding × Cursor)
  | 0, _, _ => none
  | fuel + 1, folding, cursor =>
      if cursor.column == 0 && atDocumentMark cursor.rest then none
      else
        match cursor.rest with
        | [] => none
        | '"' :: _ => some (folding.join, cursor.advance 1)
        | '\\' :: rest =>
            if rest.head?.any isBreak then
              readDouble fuel folding.escapedBreak (cursor.advance 1).skipBreak
            else do
              let (c, length) ← readEscape rest
              readDouble fuel (folding.push c) (cursor.advance (length + 1))
        | c :: _ =>
            if isGap c then readDouble fuel (folding.gap c) (cursor.advance 1)
            else if isBreak c then
              let (written, next) := cursor.readBreak
              readDouble fuel (folding.lineBreak written) next
            else readDouble fuel (folding.push c) (cursor.advance 1)

inductive Chomping where
  | strip
  | clip
  | keep
  deriving DecidableEq, Repr

def chompingOf : Char → Option Chomping
  | '+' => some .keep
  | '-' => some .strip
  | _ => none

/-- The indentation that a digit asks for; it cannot be nought. -/
def incrementOf (c : Char) : Option Nat :=
  if '1' ≤ c ∧ c ≤ '9' then some (c.toNat - '0'.toNat) else none

/-- The header of a block behind its indicator: chomping and indentation in either order, and the
number of characters they take. -/
def readHeader : List Char → Chomping × Option Nat × Nat
  | first :: second :: _ =>
      match chompingOf first, incrementOf first with
      | some chomping, _ =>
          match incrementOf second with
          | some increment => (chomping, some increment, 2)
          | none => (chomping, none, 1)
      | none, some increment =>
          match chompingOf second with
          | some chomping => (chomping, some increment, 2)
          | none => (.clip, some increment, 1)
      | none, none => (.clip, none, 0)
  | [first] =>
      match chompingOf first, incrementOf first with
      | some chomping, _ => (chomping, none, 1)
      | none, some increment => (.clip, some increment, 1)
      | none, none => (.clip, none, 0)
  | [] => (.clip, none, 0)

/-- Passes the empty lines of a block up to the indentation of its text, which is the deepest one
seen where it is not known yet. Gives the line ends, that depth, and the place. -/
def readEmptyLines (indent : Option Nat) : Nat → Nat → Cursor → Option (List Char × Nat × Cursor)
  | 0, _, _ => none
  | fuel + 1, deepest, cursor =>
      let spaces := (cursor.rest.takeWhile (· == ' ')).length
      let next := cursor.advance (match indent with
        | some indent => min spaces (indent - cursor.column)
        | none => spaces)
      let deepest := max deepest next.column
      let isShort := indent.all (fun indent => decide (next.column < indent))
      if isShort && next.rest.head? == some '\t' then none
      else if next.rest.head?.any isBreak then do
        let (written, after) := next.readBreak
        let (further, deepest, place) ← readEmptyLines indent fuel deepest after
        some (written ++ further, deepest, place)
      else some ([], deepest, next)

structure Block where
  /-- The text so far, its last character first. -/
  text : List Char := []
  /-- The end of the last line. -/
  lineEnd : List Char := []
  /-- The ends of the empty lines behind it. -/
  further : List Char := []
  /-- Whether the last line began with a space or a tab. -/
  afterGap : Bool := false

/-- Reads the lines of a block that are indented as its text is. Folded lines are joined by a space
unless one of them begins with a space or a tab. -/
def readLines (isLiteral : Bool) (indent : Nat) : Nat → Block → Cursor → Option (Block × Cursor)
  | 0, _, _ => none
  | fuel + 1, block, cursor =>
      if cursor.column ≠ indent || cursor.rest.isEmpty then some (block, cursor)
      else do
        let startsWithGap := cursor.rest.head?.any isGap
        let folds := !isLiteral && block.lineEnd == ['\n'] && !block.afterGap && !startsWithGap
        let between :=
          if folds then if block.further.isEmpty then [' '] else block.further
          else block.lineEnd ++ block.further
        let (line, behind) := cursor.takeWhile (fun c => !isBreak c)
        let (lineEnd, next) := behind.readBreak
        let (further, _, place) ← readEmptyLines (some indent) fuel 0 next
        readLines isLiteral indent fuel
          ⟨line.reverse ++ (between.reverse ++ block.text), lineEnd, further, startsWithGap⟩ place

/-- Reads a block from behind its indicator. `outer` is the indentation around it. -/
def readBlock (isLiteral : Bool) (outer : Int) (cursor : Cursor) : Option (List Char × Cursor) := do
  let (chomping, increment, length) := readHeader cursor.rest
  let header := ((cursor.advance length).skipWhile isGap).skipComment
  guard (atBreak header.rest)
  let first := header.skipBreak
  let fuel := first.rest.length + 1
  let given := increment.map (fun increment => outer.toNat + increment)
  let (empty, deepest, place) ← readEmptyLines given fuel 0 first
  let indent := given.getD (max deepest (max (outer + 1).toNat 1))
  let (block, behind) ← readLines isLiteral indent fuel { further := empty } place
  let kept := match chomping with
    | .strip => []
    | .clip => block.lineEnd
    | .keep => block.lineEnd ++ block.further
  some (block.text.reverse ++ kept, behind)

end Scalar

end EffectModel.Yaml
