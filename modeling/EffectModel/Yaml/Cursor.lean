namespace EffectModel.Yaml

def isGap (c : Char) : Bool := c == ' ' || c == '\t'

def isBreak (c : Char) : Bool :=
  c == '\n' || c == '\r' || c == '\x85' || c == '\u2028' || c == '\u2029'

def atGap : List Char → Bool
  | [] => true
  | c :: _ => isGap c || isBreak c

def atBreak : List Char → Bool
  | [] => true
  | c :: _ => isBreak c

/-- The characters that may stand in a document at all. -/
def isAllowed (c : Char) : Bool :=
  c == '\t' || c == '\n' || c == '\r' || c == '\x85'
    || (0x20 ≤ c.toNat && c.toNat ≤ 0x7E)
    || (0xA0 ≤ c.toNat && c.toNat ≤ 0xFFFD)
    || 0x10000 ≤ c.toNat

/-- The characters that are written as they are; a byte order mark is not. -/
def isPrintable (c : Char) : Bool :=
  c == '\n'
    || (0x20 ≤ c.toNat && c.toNat ≤ 0x7E)
    || (0xA0 ≤ c.toNat && c.toNat ≤ 0xFFFD && c.toNat != 0xFEFF)
    || 0x10000 ≤ c.toNat

def isWord (c : Char) : Bool := c.isAlphanum || c == '-' || c == '_'

/-- The characters that stand for structure where collections are written in brackets. -/
def isFlowIndicator (c : Char) : Bool :=
  c == ',' || c == '[' || c == ']' || c == '{' || c == '}'

/-- The characters that no plain scalar begins with; the last three of them may begin one when
something follows them closely. -/
def isIndicator (c : Char) : Bool :=
  isFlowIndicator c || "#&*!|>'\"%@`-?:".toList.contains c

/-- Whether a text goes on with a line that marks the start or the end of a document. -/
def atDocumentMark : List Char → Bool
  | '-' :: '-' :: '-' :: rest => atGap rest
  | '.' :: '.' :: '.' :: rest => atGap rest
  | _ => false

structure Cursor where
  rest : List Char
  line : Nat
  column : Nat
  /-- The number of bytes that have been passed. -/
  index : Nat
  deriving Repr

namespace Cursor

def start (chars : List Char) : Cursor := ⟨chars, 0, 0, 0⟩

/-- The bytes up to a number of characters ahead. -/
def bytesAhead (cursor : Cursor) (count : Nat) : Nat :=
  ((cursor.rest.take count).map Char.utf8Size).foldr (· + ·) 0

def advance (cursor : Cursor) (count : Nat) : Cursor :=
  { cursor with
    rest := cursor.rest.drop count
    column := cursor.column + count
    index := cursor.index + cursor.bytesAhead count }

/-- Passes the end of a line. It counts as a line feed, unless it is a line or a paragraph
separator; a carriage return and a line feed together are one end. -/
def readBreak (cursor : Cursor) : List Char × Cursor :=
  let next (written : List Char) (count : Nat) : List Char × Cursor :=
    (written,
      { rest := cursor.rest.drop count
        line := cursor.line + 1
        column := 0
        index := cursor.index + cursor.bytesAhead count })
  match cursor.rest with
  | '\r' :: '\n' :: _ => next ['\n'] 2
  | c :: _ =>
      if c == '\u2028' || c == '\u2029' then next [c] 1
      else if isBreak c then next ['\n'] 1
      else ([], cursor)
  | [] => ([], cursor)

def skipBreak (cursor : Cursor) : Cursor := cursor.readBreak.2

def skipWhile (cursor : Cursor) (kind : Char → Bool) : Cursor :=
  cursor.advance (cursor.rest.takeWhile kind).length

def takeWhile (cursor : Cursor) (kind : Char → Bool) : List Char × Cursor :=
  (cursor.rest.takeWhile kind, cursor.skipWhile kind)

def skipComment (cursor : Cursor) : Cursor :=
  match cursor.rest with
  | '#' :: _ => cursor.skipWhile (fun c => !isBreak c)
  | _ => cursor

end Cursor

end EffectModel.Yaml
