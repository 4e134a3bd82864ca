import EffectModel.Yaml.Scalar
import EffectModel.Yaml.Tag

/-! Cutting a text into tokens. Whether something is a key is known only when its colon comes, so
its place is kept until then, and the tokens that announce it are put in there. -/
namespace EffectModel.Yaml

inductive Token where
  | directive (directive : Directive)
  | documentStart
  | documentEnd
  | blockSequenceStart
  | blockMappingStart
  | blockEnd
  | flowSequenceStart
  | flowSequenceEnd
  | flowMappingStart
  | flowMappingEnd
  /-- A dash in front of an item. -/
  | blockEntry
  /-- A comma between items in brackets. -/
  | flowEntry
  | key
  | value
  | alias (name : List Char)
  | anchor (name : List Char)
  | tag (tag : Tag)
  | scalar (text : String) (style : ScalarStyle)
  deriving DecidableEq, Repr

/-- A place where a key may have begun. -/
structure PossibleKey where
  /-- The number of tokens in front of it. -/
  position : Nat
  line : Nat
  index : Nat
  column : Nat
  /-- Whether it has to be a key, since it stands where a block has its keys. -/
  isRequired : Bool
  deriving Repr

namespace PossibleKey

/-- The number of bytes that a key and its colon may be apart. -/
def reach : Nat := 1024

/-- A key and its colon stand on one line, and not too far from each other. -/
def isNear (key : PossibleKey) (cursor : Cursor) : Bool :=
  key.line == cursor.line && cursor.index ≤ key.index + reach

end PossibleKey

/-- How far a text has been cut. -/
structure Lexer where
  cursor : Cursor
  /-- The tokens so far, the last one first. -/
  tokens : List Token := []
  /-- The columns of the blocks that are open, the innermost first. -/
  blocks : List Nat := []
  /-- The possible key of the innermost level of brackets. -/
  possible : Option PossibleKey := none
  /-- The possible keys around it, one for each open bracket. -/
  enclosing : List (Option PossibleKey) := []
  /-- Whether a key may begin here. -/
  keyAllowed : Bool := true
  deriving Repr

namespace Lexer

def inFlow (lexer : Lexer) : Bool := !lexer.enclosing.isEmpty

/-- The column of the innermost block; outside of all blocks it is to the left of everything. -/
def indent (lexer : Lexer) : Int := (lexer.blocks.head?.map Int.ofNat).getD (-1)

def push (lexer : Lexer) (token : Token) : Lexer := { lexer with tokens := token :: lexer.tokens }

def take (lexer : Lexer) (token : Token) (length : Nat) : Lexer :=
  { lexer.push token with cursor := lexer.cursor.advance length }

def allowKey (lexer : Lexer) (isAllowed : Bool) : Lexer := { lexer with keyAllowed := isAllowed }

def dropKey (lexer : Lexer) : Option Lexer :=
  if lexer.possible.any PossibleKey.isRequired then none else some { lexer with possible := none }

def markKey (lexer : Lexer) : Option Lexer :=
  if lexer.keyAllowed then do
    let cursor := lexer.cursor
    let isRequired := !lexer.inFlow && lexer.indent == cursor.column
    some
      { ← lexer.dropKey with
        possible := some
          ⟨lexer.tokens.length, cursor.line, cursor.index, cursor.column, isRequired⟩ }
  else some lexer

/-- Puts tokens in behind a number of earlier ones; the last of them comes first. -/
def insert (lexer : Lexer) (position : Nat) (tokens : List Token) : Lexer :=
  let later := lexer.tokens.length - position
  { lexer with tokens := lexer.tokens.take later ++ tokens ++ lexer.tokens.drop later }

/-- Ends the blocks that lie deeper than a column. -/
def closeBlocks (lexer : Lexer) (column : Int) : Lexer :=
  if lexer.inFlow then lexer
  else
    let closed := lexer.blocks.takeWhile (fun block : Nat => column < (block : Int))
    { lexer with
      blocks := lexer.blocks.drop closed.length
      tokens := closed.map (fun _ => .blockEnd) ++ lexer.tokens }

def opensBlock (lexer : Lexer) (column : Nat) : Bool := !lexer.inFlow && lexer.indent < column

/-- Begins a block, if the line is indented deeper than the block around it. -/
def openBlock (lexer : Lexer) (start : Token) : Lexer :=
  let column := lexer.cursor.column
  if lexer.opensBlock column then
    { lexer.push start with blocks := column :: lexer.blocks }
  else lexer

/-- Begins a block where one is needed for an item or a key that has no bracket around it. -/
def enterBlock (lexer : Lexer) (start : Token) : Option Lexer :=
  if lexer.inFlow then some lexer
  else if lexer.keyAllowed then some (lexer.openBlock start)
  else none

/-- Announces the possible key, now that its colon has come. -/
def confirmKey (lexer : Lexer) (key : PossibleKey) : Lexer :=
  if lexer.opensBlock key.column then
    { lexer.insert key.position [.key, .blockMappingStart] with
      blocks := key.column :: lexer.blocks
      possible := none
      keyAllowed := false }
  else
    { lexer.insert key.position [.key] with possible := none, keyAllowed := false }

def takeValue (lexer : Lexer) : Option Lexer := do
  match lexer.possible.filter (·.isNear lexer.cursor) with
  | some key => some ((lexer.confirmKey key).take .value 1)
  | none => do
      let lexer ← (← lexer.dropKey).enterBlock .blockMappingStart
      some ((lexer.allowKey (!lexer.inFlow)).take .value 1)

def takeEntry (lexer : Lexer) : Option Lexer := do
  let lexer ← (← lexer.enterBlock .blockSequenceStart).dropKey
  some ((lexer.allowKey true).take .blockEntry 1)

def takeKey (lexer : Lexer) : Option Lexer := do
  let lexer ← (← lexer.enterBlock .blockMappingStart).dropKey
  some ((lexer.allowKey (!lexer.inFlow)).take .key 1)

def openFlow (lexer : Lexer) (start : Token) : Option Lexer := do
  let lexer ← lexer.markKey
  let inner := { lexer with possible := none, enclosing := lexer.possible :: lexer.enclosing }
  some ((inner.allowKey true).take start 1)

def closeFlow (lexer : Lexer) (finish : Token) : Option Lexer := do
  let lexer ← lexer.dropKey
  let outer :=
    match lexer.enclosing with
    | possible :: enclosing => { lexer with possible := possible, enclosing := enclosing }
    | [] => lexer
  some ((outer.allowKey false).take finish 1)

def takeComma (lexer : Lexer) : Option Lexer := do
  some (((← lexer.dropKey).allowKey true).take .flowEntry 1)

/-- Ends all blocks in front of something that belongs to no document. -/
def leaveDocument (lexer : Lexer) : Option Lexer := do
  some ((← (lexer.closeBlocks (-1)).dropKey).allowKey false)

def takeMark (lexer : Lexer) (mark : Token) : Option Lexer := do
  some ((← lexer.leaveDocument).take mark 3)

def goTo (lexer : Lexer) (rest : List Char) : Lexer :=
  { lexer with cursor := lexer.cursor.advance (lexer.cursor.rest.length - rest.length) }

def takeDirective (lexer : Lexer) : Option Lexer := do
  let lexer ← lexer.leaveDocument
  let (directive, rest) ← readDirective (lexer.cursor.rest.drop 1)
  let atEnd := lexer.goTo rest
  some ({ atEnd with cursor := atEnd.cursor.skipBreak }.push (.directive directive))

def endsName : List Char → Bool
  | [] => true
  | c :: rest => atGap (c :: rest) || "?:,]\x7d%@\x60".toList.contains c

def takeName (lexer : Lexer) (token : List Char → Token) : Option Lexer := do
  let lexer ← lexer.markKey
  let (name, behind) := (lexer.cursor.advance 1).takeWhile isWord
  guard (!name.isEmpty && endsName behind.rest)
  some (({ lexer with cursor := behind }.push (token name)).allowKey false)

def takeTag (lexer : Lexer) : Option Lexer := do
  let lexer ← lexer.markKey
  let (tag, rest) ← readTag lexer.cursor.rest
  guard (atGap rest || (lexer.inFlow && rest.head? == some ','))
  some (((lexer.goTo rest).push (.tag tag)).allowKey false)

def takeQuoted (lexer : Lexer) (read : Cursor → Option (Folding × Cursor)) : Option Lexer := do
  let lexer ← lexer.markKey
  let (folding, behind) ← read (lexer.cursor.advance 1)
  let scalar := .scalar (String.ofList folding.text.reverse) .other
  some (({ lexer with cursor := behind }.push scalar).allowKey false)

/-- Takes in a plain scalar. A key may begin behind it if it goes on to the next line. -/
def takePlain (lexer : Lexer) (fuel : Nat) : Option Lexer := do
  let lexer ← lexer.markKey
  let (folding, behind) ←
    Scalar.readPlain lexer.inFlow (lexer.indent + 1) fuel {} false lexer.cursor
  let scalar := .scalar (String.ofList folding.text.reverse) .plain
  some (({ lexer with cursor := behind }.push scalar).allowKey folding.broken)

def takeBlock (lexer : Lexer) (isLiteral : Bool) : Option Lexer := do
  let lexer ← lexer.dropKey
  let (text, behind) ← Scalar.readBlock isLiteral lexer.indent (lexer.cursor.advance 1)
  let scalar := .scalar (String.ofList text) (if isLiteral then .literal else .other)
  some (({ lexer with cursor := behind }.push scalar).allowKey true)

def takeToken (lexer : Lexer) (fuel : Nat) : Option Lexer :=
  let cursor := lexer.cursor
  let atMark := cursor.column == 0 && atDocumentMark cursor.rest
  match cursor.rest with
  | [] => none
  | '%' :: _ => if cursor.column == 0 then lexer.takeDirective else none
  | '[' :: _ => lexer.openFlow .flowSequenceStart
  | '\x7b' :: _ => lexer.openFlow .flowMappingStart
  | ']' :: _ => lexer.closeFlow .flowSequenceEnd
  | '\x7d' :: _ => lexer.closeFlow .flowMappingEnd
  | ',' :: _ => lexer.takeComma
  | '-' :: rest =>
      if atMark then lexer.takeMark .documentStart
      else if atGap rest then lexer.takeEntry
      else lexer.takePlain fuel
  | '.' :: _ => if atMark then lexer.takeMark .documentEnd else lexer.takePlain fuel
  | '?' :: rest => if lexer.inFlow || atGap rest then lexer.takeKey else lexer.takePlain fuel
  | ':' :: rest => if lexer.inFlow || atGap rest then lexer.takeValue else lexer.takePlain fuel
  | '*' :: _ => lexer.takeName .alias
  | '&' :: _ => lexer.takeName .anchor
  | '!' :: _ => lexer.takeTag
  | '|' :: _ => if lexer.inFlow then none else lexer.takeBlock true
  | '>' :: _ => if lexer.inFlow then none else lexer.takeBlock false
  | '\'' :: _ => lexer.takeQuoted (Scalar.readSingle fuel {})
  | '"' :: _ => lexer.takeQuoted (Scalar.readDouble fuel {})
  | c :: _ => if isGap c || isIndicator c then none else lexer.takePlain fuel

/-- The gaps that may stand between two tokens here: no tabs where a key may begin a line. -/
def isPassed (lexer : Lexer) (c : Char) : Bool :=
  c == ' ' || ((lexer.inFlow || !lexer.keyAllowed) && c == '\t')

/-- A byte order mark may begin a line. -/
def skipByteOrderMark (cursor : Cursor) : Cursor :=
  if cursor.column == 0 && cursor.rest.head? == some '\ufeff' then cursor.advance 1 else cursor

/-- Passes gaps, comments and line ends. A key may begin each line that is not in brackets. -/
def skipToToken : Nat → Lexer → Lexer
  | 0, lexer => lexer
  | fuel + 1, lexer =>
      let cursor := ((skipByteOrderMark lexer.cursor).skipWhile lexer.isPassed).skipComment
      if cursor.rest.head?.any isBreak then
        skipToToken fuel
          { lexer with
            cursor := cursor.skipBreak
            keyAllowed := lexer.keyAllowed || !lexer.inFlow }
      else { lexer with cursor := cursor }

/-- Cuts what is left of a text. Each token takes at least one character. -/
def run : Nat → Lexer → Option (List Token)
  | 0, _ => none
  | fuel + 1, lexer =>
      let lexer := lexer.skipToToken fuel
      let lexer := lexer.closeBlocks lexer.cursor.column
      if lexer.cursor.rest.isEmpty then do
        let lexer ← (lexer.closeBlocks (-1)).dropKey
        some lexer.tokens.reverse
      else do run fuel (← lexer.takeToken fuel)

end Lexer

def Token.scan (text : String) : Option (List Token) := do
  let chars := text.toList
  guard (chars.all isAllowed)
  Lexer.run (chars.length + 2) { cursor := .start chars }

end EffectModel.Yaml
