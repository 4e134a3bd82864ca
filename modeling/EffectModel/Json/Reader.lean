import EffectModel.Json.Basic

/-! Reading a JSON text. The grammar is the strict one: no comments, no trailing commas, no leading
zeros, no control characters in strings, and nothing but white space after the value. -/
namespace EffectModel.Json

def isSpace (c : Char) : Bool := c == ' ' || c == '\n' || c == '\t' || c == '\r'

def skipSpace (chars : List Char) : List Char := chars.dropWhile isSpace

/-- A unit of a string literal: a character as it stands, or a UTF-16 code unit from an escape. -/
inductive Piece where
  | plain (c : Char)
  | unit (code : Nat)
  deriving DecidableEq, Repr

def hexDigit (c : Char) : Option Nat :=
  if '0' ≤ c ∧ c ≤ '9' then some (c.toNat - '0'.toNat)
  else if 'a' ≤ c ∧ c ≤ 'f' then some (c.toNat - 'a'.toNat + 10)
  else if 'A' ≤ c ∧ c ≤ 'F' then some (c.toNat - 'A'.toNat + 10)
  else none

def hexNumber (digits : List Char) : Option Nat :=
  digits.foldlM (fun value digit => (hexDigit digit).map (16 * value + ·)) 0

def unescape : Char → Option Char
  | '"' => some '"'
  | '\\' => some '\\'
  | '/' => some '/'
  | 'b' => some '\x08'
  | 'f' => some '\x0c'
  | 'n' => some '\n'
  | 'r' => some '\r'
  | 't' => some '\t'
  | _ => none

/-- Reads a string literal from behind its opening quote to behind its closing one. -/
def readPieces : List Char → Option (List Piece × List Char)
  | [] => none
  | '"' :: rest => some ([], rest)
  | '\\' :: 'u' :: a :: b :: c :: d :: rest => do
      let code ← hexNumber [a, b, c, d]
      let (pieces, rest) ← readPieces rest
      some (.unit code :: pieces, rest)
  | '\\' :: letter :: rest => do
      let c ← unescape letter
      let (pieces, rest) ← readPieces rest
      some (.plain c :: pieces, rest)
  | c :: rest => do
      guard (0x20 ≤ c.toNat)
      let (pieces, rest) ← readPieces rest
      some (.plain c :: pieces, rest)

/-- The text of a string literal; code units beyond the basic plane have to come in pairs. -/
def joinPieces : List Piece → Option (List Char)
  | [] => some []
  | .plain c :: rest => (joinPieces rest).map (c :: ·)
  | .unit high :: .unit low :: rest =>
      if 0xD800 ≤ high ∧ high < 0xDC00 then
        if 0xDC00 ≤ low ∧ low < 0xE000 then
          let code := 0x10000 + (high - 0xD800) * 0x400 + (low - 0xDC00)
          (joinPieces rest).map (Char.ofNat code :: ·)
        else none
      else if 0xDC00 ≤ high ∧ high < 0xE000 then none
      else (joinPieces (.unit low :: rest)).map (Char.ofNat high :: ·)
  | .unit code :: rest =>
      if 0xD800 ≤ code ∧ code < 0xE000 then none
      else (joinPieces rest).map (Char.ofNat code :: ·)

/-- A string literal, read from behind its opening quote: its text, if it holds one. -/
def readText (chars : List Char) : Option (Option String × List Char) :=
  (readPieces chars).map (fun (pieces, rest) => ((joinPieces pieces).map String.ofList, rest))

def decimal (digits : List Char) : Nat :=
  digits.foldl (fun value digit => 10 * value + (digit.toNat - '0'.toNat)) 0

def readDigits (chars : List Char) : Option (List Char × List Char) :=
  match chars.takeWhile Char.isDigit with
  | [] => none
  | digits => some (digits, chars.dropWhile Char.isDigit)

def readFraction : List Char → Option (Option (List Char) × List Char)
  | '.' :: rest => (readDigits rest).map (fun (digits, rest) => (some digits, rest))
  | chars => some (none, chars)

def readExponent : List Char → Option (Option Int × List Char)
  | letter :: rest =>
      if letter == 'e' || letter == 'E' then
        let (negative, rest) :=
          match rest with
          | '-' :: rest => (true, rest)
          | '+' :: rest => (false, rest)
          | _ => (false, rest)
        (readDigits rest).map (fun (digits, rest) =>
          let magnitude : Int := decimal digits
          (some (if negative then -magnitude else magnitude), rest))
      else some (none, letter :: rest)
  | [] => some (none, [])

def readUnsigned (negative : Bool) (chars : List Char) : Option (Json × List Char) := do
  let (whole, rest) ← readDigits chars
  guard (whole.head? ≠ some '0' ∨ whole.length = 1)
  let (fraction, rest) ← readFraction rest
  let (exponent, rest) ← readExponent rest
  match fraction, exponent with
  | none, none =>
      let value := decimal whole
      if negative then
        if value = 0 then some (.real 0 0, rest) else some (.int (-(value : Int)), rest)
      else some (.int value, rest)
  | _, _ =>
      let behind := fraction.getD []
      some (.real (decimal (whole ++ behind)) (exponent.getD 0 - behind.length), rest)

def readNumber : List Char → Option (Json × List Char)
  | '-' :: rest => readUnsigned true rest
  | chars => readUnsigned false chars

/-- The object with these fields, if every key holds a text. -/
def ofFields (fields : List (Option String × Json)) : Json :=
  match fields.mapM (fun (name, value) => name.map (·, value)) with
  | some named => .record named
  | none => .garbled

mutual

/-- Reads a value and gives what follows it. The fuel bounds the number of steps; twice the length
of the text is enough. -/
def readValue : Nat → List Char → Option (Json × List Char)
  | 0, _ => none
  | fuel + 1, chars =>
      match skipSpace chars with
      | '[' :: rest =>
          match skipSpace rest with
          | ']' :: rest => some (.list [], rest)
          | rest => (readItems fuel rest).map (fun (items, rest) => (.list items, rest))
      | '{' :: rest =>
          match skipSpace rest with
          | '}' :: rest => some (.record [], rest)
          | rest => (readFields fuel rest).map (fun (fields, rest) => (ofFields fields, rest))
      | '"' :: rest =>
          (readText rest).map (fun (found, rest) => (found.elim .garbled .text, rest))
      | 'n' :: 'u' :: 'l' :: 'l' :: rest => some (.null, rest)
      | 't' :: 'r' :: 'u' :: 'e' :: rest => some (.bool true, rest)
      | 'f' :: 'a' :: 'l' :: 's' :: 'e' :: rest => some (.bool false, rest)
      | rest => readNumber rest

def readItems : Nat → List Char → Option (List Json × List Char)
  | 0, _ => none
  | fuel + 1, chars => do
      let (item, rest) ← readValue fuel chars
      match skipSpace rest with
      | ',' :: rest =>
          let (items, rest) ← readItems fuel rest
          some (item :: items, rest)
      | ']' :: rest => some ([item], rest)
      | _ => none

def readFields : Nat → List Char → Option (List (Option String × Json) × List Char)
  | 0, _ => none
  | fuel + 1, chars =>
      match skipSpace chars with
      | '"' :: rest => do
          let (name, rest) ← readText rest
          match skipSpace rest with
          | ':' :: rest =>
              let (value, rest) ← readValue fuel rest
              match skipSpace rest with
              | ',' :: rest =>
                  let (fields, rest) ← readFields fuel rest
                  some ((name, value) :: fields, rest)
              | '}' :: rest => some ([(name, value)], rest)
              | _ => none
          | _ => none
      | _ => none

end

/-- The value that a text writes, or nothing when the text is not JSON. -/
def parse (text : String) : Option Json :=
  let chars := text.toList
  match readValue (2 * chars.length + 2) chars with
  | some (json, rest) => if (skipSpace rest).isEmpty then some json else none
  | none => none

end EffectModel.Json
