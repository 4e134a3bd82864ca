import EffectModel.Json.Held

/-! Taking typed values out of JSON. A reading is given the number of levels of nesting that may
still be opened; it gives nothing when the value has another form than the one it reads. -/
namespace EffectModel.Json

/-- How a value of a type is read, with a number of levels of nesting to spend. -/
abbrev Reading (α : Type) := Nat → Json → Option α

def textLevels : Nat := 127

/-- Reads a value that is already in memory, however deep it is. -/
def Reading.whole {α : Type} (reading : Reading α) (json : Json) : Option α :=
  reading json.depth json

def asText : Reading String
  | _, .text value => some value
  | _, _ => none

def asBool : Reading Bool
  | _, .bool value => some value
  | _, _ => none

def asChar : Reading Char
  | _, .text value =>
      match value.toList with
      | [c] => some c
      | _ => none
  | _, _ => none

def asIntWithin (least greatest : Int) : Reading Int
  | _, .int value => if least ≤ value ∧ value ≤ greatest then some value else none
  | _, _ => none

def asInt64 : Reading Int64 := fun levels json =>
  (asIntWithin (-Int.pow 2 63) (Int.pow 2 63 - 1) levels json).map Int64.ofInt

def asUInt64 : Reading UInt64 := fun levels json =>
  (asIntWithin 0 (Int.pow 2 64 - 1) levels json).map (fun value => UInt64.ofNat value.toNat)

def asUInt32 : Reading UInt32 := fun levels json =>
  (asIntWithin 0 (Int.pow 2 32 - 1) levels json).map (fun value => UInt32.ofNat value.toNat)

def asOption {α : Type} (reading : Reading α) : Reading (Option α)
  | _, .null => some none
  | levels, json => (reading levels json).map some

def asList {α : Type} (item : Reading α) : Reading (List α)
  | levels + 1, .list items => items.mapM (item levels)
  | _, _ => none

def ofOption {α : Type} (form : α → Json) (found : Option α) : Json := found.elim .null form

/-- One of a number of names, alone or as the only key of an object whose value is `null`. -/
def asChoice {α : Type} (table : List (String × α)) : Reading α
  | _, .text name => table.lookup name
  | _ + 1, .record [(name, .null)] => table.lookup name
  | _, _ => none

inductive Slot where
  | given (value : Json)
  /-- The object has no such key. -/
  | missing
  /-- The list of fields ends before it. -/
  | cutOff
  deriving Repr

namespace Slot

variable {α : Type}

def required (slot : Slot) (read : Json → Option α) : Option α :=
  match slot with
  | .given value => read value
  | _ => none

def withDefault (slot : Slot) (default : α) (read : Json → Option α) : Option α :=
  match slot with
  | .given value => read value
  | _ => some default

/-- A field that an object may leave out, but not a list of fields. -/
def optional (slot : Slot) (read : Json → Option (Option α)) : Option (Option α) :=
  match slot with
  | .given value => read value
  | .missing => some none
  | .cutOff => none

end Slot

/-- The fields of a record in their declared order. An object may have further keys, but each of
these names at most once; a list gives the fields one after the other, and no more than there
are. -/
def slots (names : List String) : Json → Option (List Slot)
  | .record fields =>
      if names.any (fun name => 1 < fields.countP (fun field => field.1 == name)) then none
      else some (names.map (fun name => (fields.lookup name).elim .missing .given))
  | .list items =>
      if names.length < items.length then none
      else some (items.map .given ++ List.replicate (names.length - items.length) .cutOff)
  | _ => none

/-- A record with these field names, opened at the cost of one level. -/
def asRecord {α : Type} (names : List String) (build : Nat → List Slot → Option α) : Reading α
  | levels + 1, json => (slots names json).bind (build levels)
  | 0, _ => none

def standsBefore (first second : String) (fields : List (String × Json)) : Bool :=
  ((fields.map Prod.fst).find? (fun name => name == first || name == second)) == some first

/-- A variant given by one of a number of names as its tag and, for most tags, by a content. In an
object either may come first, but content that comes before its tag is held until the tag is known.
A list has the tag as a plain text in front of the content. -/
def asTagged {α : Type} (tag content : String) (names : List String)
    (build : Nat → String → Option Json → Option α) : Reading α
  | levels + 1, .record fields => do
      let entries ← slots [tag, content] (.record fields)
      let name (tagValue : Json) := asChoice (names.map (fun name => (name, name))) levels tagValue
      match entries with
      | [.given tagValue, .given value] =>
          if standsBefore tag content fields then build levels (← name tagValue) (some value)
          else
            guard (value.isHoldable levels)
            build levels (← name tagValue) (some (value.released names))
      | [.given tagValue, _] => build levels (← name tagValue) none
      | _ => none
  | levels + 1, .list [.text name, value] =>
      if names.contains name then build levels name (some value) else none
  | _, _ => none

end EffectModel.Json
