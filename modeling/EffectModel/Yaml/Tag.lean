import EffectModel.Json.Reader
import EffectModel.Yaml.Cursor

namespace EffectModel.Yaml

/-- The full name of a type, as the octets that it is made of. -/
abbrev Uri := List UInt8

def Uri.ofAscii (text : String) : Uri := text.toList.map (fun c => UInt8.ofNat c.toNat)

/-- The part of a name that counts: it ends in front of the first octet that is nought. -/
def Uri.untilNought (uri : Uri) : Uri := uri.takeWhile (· != 0)

/-- A tag as it is written: a handle, which stands for how the name begins, and the rest of the
name. A name that is written out in full has no handle. -/
structure Tag where
  handle : List Char
  suffix : Uri
  deriving DecidableEq, Repr

inductive Directive where
  | version (major minor : Nat)
  | handle (handle : List Char) (start : Uri)
  deriving DecidableEq, Repr

/-- The characters of a name. Where no brackets can be meant, it may hold some of those too. -/
def isUriPart (withBrackets : Bool) (c : Char) : Bool :=
  isWord c || ";/?:@&=+$.!~*'()".toList.contains c || (withBrackets && ",[]".toList.contains c)

/-- The number of octets of a character that are still to come after one of them, if that one may
stand where so many are awaited. -/
def awaitedAfter (awaited octet : Nat) : Option Nat :=
  match awaited with
  | awaited + 1 => if 0x80 ≤ octet ∧ octet < 0xC0 then some awaited else none
  | 0 =>
      if octet < 0x80 then some 0
      else if octet < 0xC0 then none
      else if octet < 0xE0 then some 1
      else if octet < 0xF0 then some 2
      else if octet < 0xF8 then some 3
      else none

/-- Reads as much of a name as there is. A percent sign and two hexadecimal digits write an octet,
and all octets of a character have to be written like that. -/
def readUri (withBrackets : Bool) : Nat → List Char → Option (Uri × List Char)
  | awaited, '%' :: high :: low :: rest => do
      let octet ← Json.hexNumber [high, low]
      let (further, behind) ← readUri withBrackets (← awaitedAfter awaited octet) rest
      some (UInt8.ofNat octet :: further, behind)
  | 0, c :: rest =>
      if c == '%' then none
      else if isUriPart withBrackets c then do
        let (further, behind) ← readUri withBrackets 0 rest
        some (UInt8.ofNat c.toNat :: further, behind)
      else some ([], c :: rest)
  | 0, [] => some ([], [])
  | _ + 1, _ => none

def readWholeUri (withBrackets : Bool) (chars : List Char) : Option (Uri × List Char) := do
  let (uri, behind) ← readUri withBrackets 0 chars
  guard (!uri.isEmpty)
  some (uri.untilNought, behind)

/-- Reads an exclamation mark, the word behind it, and the second mark that may close the word. -/
def readHandle : List Char → Option (List Char × Bool × List Char)
  | '!' :: rest =>
      let word := rest.takeWhile isWord
      match rest.dropWhile isWord with
      | '!' :: behind => some (word, true, behind)
      | behind => some (word, false, behind)
  | _ => none

def closedHandle (word : List Char) : List Char := '!' :: (word ++ ['!'])

def primaryHandle : List Char := ['!']

/-- Reads a tag. A mark with nothing behind it is a name of its own. -/
def readTag : List Char → Option (Tag × List Char)
  | '!' :: '<' :: rest => do
      let (uri, behind) ← readWholeUri true rest
      match behind with
      | '>' :: behind => some (⟨[], uri⟩, behind)
      | _ => none
  | chars => do
      let (word, isClosed, rest) ← readHandle chars
      if isClosed then
        let (suffix, behind) ← readWholeUri false rest
        some (⟨closedHandle word, suffix⟩, behind)
      else
        let (uri, behind) ← readUri false 0 rest
        let suffix := (Uri.ofAscii (String.ofList word) ++ uri).untilNought
        some (if suffix.isEmpty then ⟨[], Uri.ofAscii "!"⟩ else ⟨primaryHandle, suffix⟩, behind)

def readVersionNumber (chars : List Char) : Option (Nat × List Char) := do
  let digits := chars.takeWhile Char.isDigit
  guard (!digits.isEmpty && digits.length ≤ 9)
  some (digits.foldl (fun value digit => 10 * value + (digit.toNat - '0'.toNat)) 0,
    chars.dropWhile Char.isDigit)

def readVersionDirective (chars : List Char) : Option (Directive × List Char) := do
  let (major, rest) ← readVersionNumber chars
  match rest with
  | '.' :: rest => do
      let (minor, behind) ← readVersionNumber rest
      some (.version major minor, behind)
  | _ => none

def readHandleDirective (chars : List Char) : Option (Directive × List Char) := do
  let (word, isClosed, rest) ← readHandle chars
  guard (isClosed || word.isEmpty)
  guard (rest.head?.any isGap)
  let (start, behind) ← readWholeUri true (rest.dropWhile isGap)
  guard (atGap behind)
  some (.handle (if isClosed then closedHandle word else primaryHandle) start, behind)

/-- Reads a directive from behind its percent sign. Nothing but a comment may follow it on its
line. -/
def readDirective (chars : List Char) : Option (Directive × List Char) := do
  let rest := chars.dropWhile isWord
  guard (atGap rest)
  let value := rest.dropWhile isGap
  let (directive, behind) ←
    match String.ofList (chars.takeWhile isWord) with
    | "YAML" => readVersionDirective value
    | "TAG" => readHandleDirective value
    | _ => none
  let behind := behind.dropWhile isGap
  let lineEnd := if behind.head? == some '#' then behind.dropWhile (!isBreak ·) else behind
  guard (atBreak lineEnd)
  some (directive, lineEnd)

end EffectModel.Yaml
