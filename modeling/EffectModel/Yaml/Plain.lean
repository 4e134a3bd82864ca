import EffectModel.Json.Reader

namespace EffectModel.Yaml.Plain

def isNull (text : String) : Bool := ["", "~", "null", "Null", "NULL"].contains text

def readBool (text : String) : Option Bool :=
  if ["true", "True", "TRUE"].contains text then some true
  else if ["false", "False", "FALSE"].contains text then some false
  else none

def readDigits (base : Nat) (digits : List Char) : Option Nat :=
  if digits.isEmpty then none
  else
    digits.foldlM
      (fun value digit =>
        ((Json.hexDigit digit).filter (· < base)).map (base * value + ·)) 0

/-- Whether digits begin with a zero that is not the only one. Such digits are a text. -/
def hasLeadingZero (digits : List Char) : Bool :=
  1 < digits.length && digits.head? == some '0' && digits.all Char.isDigit

/-- A number without a sign: hexadecimal, octal or binary behind a mark, and decimal otherwise. -/
def readMagnitude : List Char → Option Nat
  | '0' :: 'x' :: digits => readDigits 16 digits
  | '0' :: 'o' :: digits => readDigits 8 digits
  | '0' :: 'b' :: digits => readDigits 2 digits
  | digits => if hasLeadingZero digits then none else readDigits 10 digits

def splitSign : List Char → Option Char × List Char
  | '+' :: rest => (some '+', rest)
  | '-' :: rest => (some '-', rest)
  | rest => (none, rest)

/-- A whole number that is written without a minus sign, not even for nought. -/
def readNat (text : String) : Option Nat :=
  let (sign, rest) := splitSign text.toList
  if sign == some '-' then none else readMagnitude rest

def readInt (text : String) : Option Int :=
  let (sign, rest) := splitSign text.toList
  (readMagnitude rest).map fun magnitude =>
    if sign == some '-' then -(magnitude : Int) else magnitude

def readExponent : List Char → Option Int
  | [] => some 0
  | mark :: rest => do
      guard (mark == 'e' || mark == 'E')
      let (sign, digits) := splitSign rest
      let magnitude ← readDigits 10 digits
      some (if sign == some '-' then -(magnitude : Int) else magnitude)

/-- A decimal number as digits times a power of ten. The point may stand at either end. -/
def readDecimal (chars : List Char) : Option (Nat × Int) := do
  let whole := chars.takeWhile Char.isDigit
  let (fraction, behind) :=
    match chars.dropWhile Char.isDigit with
    | '.' :: rest => (rest.takeWhile Char.isDigit, rest.dropWhile Char.isDigit)
    | rest => ([], rest)
  let digits ← readDigits 10 (whole ++ fraction)
  let exponent ← readExponent behind
  some (digits, exponent - fraction.length)

/-- Whether a scalar is a number with a fraction or an exponent, within the range of doubles, or
one of the words for infinity and for no number. -/
def isReal (text : String) : Bool :=
  let (sign, rest) := splitSign text.toList
  let word := String.ofList rest
  [".inf", ".Inf", ".INF"].contains word
    || (sign.isNone && [".nan", ".NaN", ".NAN"].contains word)
    || (readDecimal rest).any (fun (digits, exponent) => Decimal.isFinite digits exponent)

def isHeld (value : Int) : Bool := -Int.pow 2 127 ≤ value && value < Int.pow 2 128

/-- Whether a text has to be quoted so that it is not taken for something else. -/
def isAmbiguous (text : String) : Bool :=
  isNull text || (readBool text).isSome || (readInt text).any isHeld || isReal text
    || hasLeadingZero (splitSign text.toList).2

end EffectModel.Yaml.Plain
