import EffectModel.Json.Basic

/-! Content that comes before the tag that tells how to read it. It is held in memory until then,
which not all of JSON can be, and some of it may be written more loosely. -/
namespace EffectModel.Json

mutual

def isHoldable : Nat → Json → Bool
  | _, .int value => Decimal.isFiniteStepwise value.natAbs 0
  | _, .real digits exponent => Decimal.isFiniteStepwise digits exponent
  | _, .garbled => false
  | 0, .list _ => false
  | levels + 1, .list items => areItemsHoldable levels items
  | 0, .record _ => false
  | levels + 1, .record fields => areFieldsHoldable levels fields
  | _, .null => true
  | _, .bool _ => true
  | _, .text _ => true

def areItemsHoldable : Nat → List Json → Bool
  | _, [] => true
  | levels, item :: rest => item.isHoldable levels && areItemsHoldable levels rest

def areFieldsHoldable : Nat → List (String × Json) → Bool
  | _, [] => true
  | levels, (_, value) :: rest => value.isHoldable levels && areFieldsHoldable levels rest

end

/-- A list with the name of a tag in the place of its number. -/
def namedTag (names : List String) : List Json → Json
  | [.int number, content] =>
      .list [(number.toNat?.bind (names[·]?)).elim (.int number) .text, content]
  | items => .list items

/-- An object with `null` for the empty object that its only key may have for it. -/
def voidChoice : List (String × Json) → Json
  | [(name, .record [])] => .record [(name, .null)]
  | fields => .record fields

mutual

/-- Held content as it would be written behind its tag. Inside of it a tag at the front of a list
may be given by its number among these names, and the only key of an object may have an empty
object for `null`. No other form that can be read looks like either of them. -/
def released (names : List String) : Json → Json
  | .list items => namedTag names (releasedItems names items)
  | .record fields => voidChoice (releasedFields names fields)
  | json => json

def releasedItems (names : List String) : List Json → List Json
  | [] => []
  | item :: rest => item.released names :: releasedItems names rest

def releasedFields (names : List String) : List (String × Json) → List (String × Json)
  | [] => []
  | (name, value) :: rest => (name, value.released names) :: releasedFields names rest

end

end EffectModel.Json
