import EffectModel.Yaml.Cursor
import EffectModel.Yaml.Plain

namespace EffectModel.Yaml

inductive Spelling where
  | plain
  | single
  | double
  | literal
  deriving DecidableEq, Repr

namespace Spelling

/-- Whether two neighbours in a text are of two kinds. -/
def hasPair (first second : Char → Bool) : List Char → Bool
  | a :: b :: rest => (first a && second b) || hasPair first second (b :: rest)
  | _ => false

/-- Whether what follows the first character of a plain scalar would end it or begin a comment. -/
def hasIndicator : List Char → Bool
  | a :: b :: rest =>
      (b == ':' && atGap rest) || (b == '#' && atGap [a]) || hasIndicator (b :: rest)
  | _ => false

def startsStructure : List Char → Bool
  | '-' :: '-' :: '-' :: _ => true
  | '.' :: '.' :: '.' :: _ => true
  | c :: rest =>
      isFlowIndicator c || "#&*!|>'\"%@\x60".toList.contains c
        || ((c == '-' || c == '?' || c == ':') && atGap rest)
  | [] => false

def isSpace (c : Char) : Bool := c == ' '

def needsEscapes (chars : List Char) : Bool :=
  chars.any (!isPrintable ·) || hasPair isSpace isBreak chars

def allowsPlain (chars : List Char) : Bool :=
  !(startsStructure chars || hasIndicator chars || needsEscapes chars || chars.any isBreak
    || chars.head?.any isSpace || chars.getLast?.any isSpace)

def allowsSingle (chars : List Char) : Bool :=
  !(needsEscapes chars || hasPair isBreak isSpace chars)

def allowsBlock (chars : List Char) : Bool :=
  !(chars.isEmpty || needsEscapes chars || chars.getLast?.any isSpace)

def ofText (text : String) : Spelling :=
  let chars := text.toList
  if chars.contains '\n' then if allowsBlock chars then .literal else .double
  else if !Plain.isAmbiguous text && allowsPlain chars then .plain
  else if allowsSingle chars then .single
  else .double

end Spelling

def shortEscape? : Char → Option Char
  | '\x00' => some '0'
  | '\x07' => some 'a'
  | '\x08' => some 'b'
  | '\t' => some 't'
  | '\n' => some 'n'
  | '\x0b' => some 'v'
  | '\x0c' => some 'f'
  | '\r' => some 'r'
  | '\x1b' => some 'e'
  | '"' => some '"'
  | '\\' => some '\\'
  | '\x85' => some 'N'
  | '\xa0' => some '_'
  | '\u2028' => some 'L'
  | '\u2029' => some 'P'
  | _ => none

def hexDigits : Nat → Nat → List Char
  | 0, _ => []
  | length + 1, value =>
      hexDigits length (value / 16) ++ [(Nat.digitChar (value % 16)).toUpper]

def escape (c : Char) : List Char :=
  match shortEscape? c with
  | some letter => ['\\', letter]
  | none =>
      if c.toNat ≤ 0xFF then '\\' :: 'x' :: hexDigits 2 c.toNat
      else if c.toNat ≤ 0xFFFF then '\\' :: 'u' :: hexDigits 4 c.toNat
      else '\\' :: 'U' :: hexDigits 8 c.toNat

def writeDoubled (c : Char) : List Char :=
  if !isPrintable c || isBreak c || c == '"' || c == '\\' then escape c else [c]

/-- The characters at the front of a line inside of a scalar. -/
def margin (indent : Nat) : List Char := List.replicate indent ' '

/-- A text between single quotes. A quote is written twice, and so is a line feed that would be
folded otherwise; lines go on behind a margin. -/
def writeSingle (indent : Nat) (afterBreak : Bool) : List Char → List Char
  | [] => if afterBreak then margin indent else []
  | c :: rest =>
      if isBreak c then
        (if c == '\n' && !afterBreak then ['\n'] else []) ++ c :: writeSingle indent true rest
      else
        (if afterBreak then margin indent else []) ++ (if c == '\'' then ['\'', '\''] else [c])
          ++ writeSingle indent false rest

def writeLines (indent : Nat) (afterBreak : Bool) : List Char → List Char
  | [] => []
  | c :: rest =>
      if isBreak c then c :: writeLines indent true rest
      else (if afterBreak then margin indent else []) ++ c :: writeLines indent false rest

/-- How much deeper than what is around it a block lies. -/
def indentStep : Nat := 2

/-- What is written behind the mark of a block: the indentation, if it cannot be seen from the first
line, and whether the line ends at the end are kept, dropped, or just one. -/
def blockHeader (chars : List Char) : List Char :=
  let increment :=
    if chars.head?.any (fun c => c == ' ' || isBreak c) then Nat.toDigits 10 indentStep else []
  let chomping :=
    match chars.reverse with
    | last :: before =>
        if !isBreak last then ['-']
        else if before.isEmpty || before.head?.any isBreak then ['+']
        else []
    | [] => ['-']
  increment ++ chomping

def writeText (indent : Nat) (text : String) : String :=
  let chars := text.toList
  match Spelling.ofText text with
  | .plain => text
  | .single => String.ofList ('\'' :: (writeSingle indent false chars ++ ['\'']))
  | .double => String.ofList ('"' :: (chars.flatMap writeDoubled ++ ['"']))
  | .literal => String.ofList ('|' :: (blockHeader chars ++ '\n' :: writeLines indent true chars))

/-- A character as a scalar; it is always quoted. -/
def writeChar (indent : Nat) (c : Char) : String :=
  String.ofList <|
    if Spelling.allowsSingle [c] then '\'' :: (writeSingle indent false [c] ++ ['\''])
    else '"' :: (writeDoubled c ++ ['"'])

/-- A scalar at the end of its line. The last line of a block has ended already. -/
def endLine (scalar : String) : String :=
  if scalar.toList.getLast?.any isBreak then scalar else scalar ++ "\n"

end EffectModel.Yaml
