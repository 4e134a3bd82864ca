import EffectModel.Yaml.Document
import EffectModel.Yaml.Library
import EffectModel.Yaml.Writer

namespace EffectModel.Yaml

section Writing

def Word.spelling : Word → String
  | .bool value => toString value
  | .number value => toString value

def writeField (indent : Nat) (name scalar : String) : String :=
  endLine (String.ofList (margin indent) ++ name ++ ": " ++ scalar)

/-- A field that holds a list of texts. The dashes stand right below the name. -/
def writeListField (indent : Nat) (name : String) (texts : List String) : String :=
  if texts.isEmpty then writeField indent name "[]"
  else
    let item (text : String) :=
      endLine (String.ofList (margin indent) ++ "- " ++ writeText (indent + indentStep) text)
    String.ofList (margin indent) ++ name ++ ":\n" ++ String.join (texts.map item)

def Entry.write (indent : Nat) : Entry → String
  | ⟨name, .text text⟩ => writeField indent name (writeText (indent + indentStep) text)
  | ⟨name, .char c⟩ => writeField indent name (writeChar (indent + indentStep) c)
  | ⟨name, .word word⟩ => writeField indent name word.spelling
  | ⟨name, .texts texts⟩ => writeListField indent name texts

def Part.write : Part → String
  | .field entry => entry.write 0
  | .block name entries => name ++ ":\n" ++ String.join (entries.map (Entry.write indentStep))

def writeParts (parts : List Part) : String := String.join (parts.map Part.write)

end Writing

/-- A node of a document, and the root in which its aliases are found. -/
structure Place where
  root : Node
  node : Node

namespace Place

def resolve (place : Place) : Option Node := place.root.resolve place.node

/-- Any scalar is a text, whatever else it may stand for. -/
def asText (place : Place) : Option String := do
  match ← place.resolve with
  | .scalar text _ _ => some text
  | _ => none

/-- The text of a scalar that may stand for something else: a plain one, or a literal block with the
right tag. -/
def asWord (tag : String) (place : Place) : Option String := do
  match ← place.resolve with
  | .scalar text .plain _ => some text
  | .scalar text .literal uri => if uri == some (Uri.ofAscii tag) then some text else none
  | _ => none

def asBool (place : Place) : Option Bool := do
  Plain.readBool (← place.asWord "tag:yaml.org,2002:bool")

def asNatUpTo (greatest : Nat) (place : Place) : Option Nat := do
  let value ← Plain.readNat (← place.asWord "tag:yaml.org,2002:int")
  if value ≤ greatest then some value else none

/-- Whether nothing is written where a collection is expected. -/
def isVoid : Node → Bool
  | .scalar text style _ => text.isEmpty && style == .plain
  | _ => false

def items (place : Place) : Option (List Place) := do
  let node ← place.resolve
  match node with
  | .sequence items => some (items.map (Place.mk place.root))
  | _ => if isVoid node then some [] else none

def fields (place : Place) : Option (List (String × Place)) := do
  let node ← place.resolve
  match node with
  | .mapping entries =>
      entries.mapM fun (key, value) =>
        (Place.mk place.root key).asText.map (·, Place.mk place.root value)
  | _ => if isVoid node then some [] else none

end Place

def library : Library where
  Node := Place
  write := writeParts
  parse text := (Node.parse text).map fun root => ⟨root, root⟩
  asText := Place.asText
  asBool := Place.asBool
  asNatUpTo := Place.asNatUpTo
  items := Place.items
  fields := Place.fields

end EffectModel.Yaml
