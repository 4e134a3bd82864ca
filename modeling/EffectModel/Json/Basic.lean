namespace EffectModel

/-- A JSON value. `garbled` stands for a string or an object that is well formed but holds no text,
because an escape in it or in one of its keys is half of a surrogate pair. -/
inductive Json where
  | null
  | bool (value : Bool)
  | int (value : Int)
  /-- A number with a fraction or an exponent, or minus zero: digits times a power of ten. -/
  | real (digits : Nat) (exponent : Int)
  | text (value : String)
  | list (items : List Json)
  | record (fields : List (String × Json))
  | garbled
  deriving Repr, BEq, Inhabited

namespace Json

/-- Puts a field in front of those with greater keys, unless there is one with its key already. -/
def insertField (field : String × Json) : List (String × Json) → List (String × Json)
  | [] => [field]
  | first :: rest =>
      if field.1 == first.1 then first :: rest
      else if field.1 < first.1 then field :: first :: rest
      else first :: insertField field rest

mutual

/-- The value with one field for each key of an object, in the order of the keys: of repeated fields
the last counts. -/
def settle : Json → Json
  | .list items => .list (settleItems items)
  | .record fields => .record (settleFields fields)
  | json => json

def settleItems : List Json → List Json
  | [] => []
  | item :: rest => item.settle :: settleItems rest

def settleFields : List (String × Json) → List (String × Json)
  | [] => []
  | (name, value) :: rest => insertField (name, value.settle) (settleFields rest)

end

mutual

def depth : Json → Nat
  | .list items => itemsDepth items + 1
  | .record fields => fieldsDepth fields + 1
  | _ => 0

def itemsDepth : List Json → Nat
  | [] => 0
  | item :: rest => max item.depth (itemsDepth rest)

def fieldsDepth : List (String × Json) → Nat
  | [] => 0
  | (_, value) :: rest => max value.depth (fieldsDepth rest)

end

end Json

namespace Decimal

/-- From here on numbers are rounded to infinity: half a step above the greatest double. -/
def bound : Nat := Nat.pow 2 1024 - Nat.pow 2 970

def isFinite (digits : Nat) (exponent : Int) : Bool :=
  let magnitude := ((Nat.toDigits 10 digits).length : Int) + exponent
  if digits = 0 ∨ magnitude < 300 then true
  else if 310 < magnitude then false
  else digits * Nat.pow 10 exponent.toNat < bound * Nat.pow 10 (-exponent).toNat

/-- A whole number with the 53 binary digits of a double. A half goes to the even neighbour. -/
def rounded (value : Nat) : Nat :=
  let unit := Nat.pow 2 (value.log2 + 1 - 53)
  let quotient := value / unit
  let excess := 2 * (value % unit)
  let isUp := unit < excess || (excess == unit && quotient % 2 == 1)
  (if isUp then quotient + 1 else quotient) * unit

/-- As many leading digits as fit into 64 bits, with the power of ten that goes with them. -/
def leading (digits : Nat) (exponent : Int) : Nat × Int :=
  if digits < UInt64.size then (digits, exponent) else leading (digits / 10) (exponent + 1)
termination_by digits
decreasing_by
  simp only [UInt64.size] at *
  omega

/-- Whether a number stays finite when it is rounded step by step: first its leading digits and the
power of ten, then their product. The power has to be a finite double itself. -/
def isFiniteStepwise (digits : Nat) (exponent : Int) : Bool :=
  let (digits, exponent) := leading digits exponent
  if digits = 0 ∨ exponent < 0 then true
  else if 308 < exponent then false
  else rounded digits * rounded (Nat.pow 10 exponent.toNat) < bound

end Decimal

end EffectModel
