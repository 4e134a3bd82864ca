/-! A library that writes YAML documents and reads them: what is handed to it, what is asked of it, and
what is relied upon. -/
namespace EffectModel.Yaml

inductive Word where
  | bool (value : Bool)
  | number (value : Nat)
  deriving DecidableEq, Repr

inductive Value where
  | text (value : String)
  | char (value : Char)
  | word (value : Word)
  | texts (values : List String)
  deriving DecidableEq, Repr

structure Entry where
  name : String
  value : Value
  deriving DecidableEq, Repr

/-- A part of a document: a field, or further fields under a name. -/
inductive Part where
  | field (entry : Entry)
  | block (name : String) (entries : List Entry)
  deriving DecidableEq, Repr

/-- Whether a text is like the names of fields: a few small letters and underscores. -/
def isFieldName (name : String) : Bool :=
  !name.isEmpty && name.length ≤ 128 && name.toList.all (fun c => c.isLower || c == '_')

namespace Part

def name : Part → String
  | field entry => entry.name
  | block name _ => name

/-- Whether all names in a part are like those of fields. A name stands for some field at least. -/
def isNamed : Part → Bool
  | field entry => isFieldName entry.name
  | block name entries =>
      isFieldName name && !entries.isEmpty && entries.all (fun entry => isFieldName entry.name)

end Part

/-- What a library does. Which value a node stands for depends on the type that is asked for, so that
nodes are only known by what is read from them. -/
structure Library where
  Node : Type
  write : List Part → String
  parse : String → Option Node
  asText : Node → Option String
  asBool : Node → Option Bool
  /-- A whole number up to a bound. -/
  asNatUpTo : Nat → Node → Option Nat
  items : Node → Option (List Node)
  fields : Node → Option (List (String × Node))

namespace Library

variable (library : Library)

def asChar (node : library.Node) : Option Char := do
  match (← library.asText node).toList with
  | [c] => some c
  | _ => none

def asUInt32 (node : library.Node) : Option UInt32 :=
  (library.asNatUpTo (UInt32.size - 1) node).map UInt32.ofNat

def asUInt64 (node : library.Node) : Option UInt64 :=
  (library.asNatUpTo (UInt64.size - 1) node).map UInt64.ofNat

def asTexts (node : library.Node) : Option (List String) := do
  (← library.items node).mapM library.asText

/-- The fields of a record, which may have further keys, but each of these names at most once. -/
def fieldsOf (names : List String) (node : library.Node) :
    Option (List (String × library.Node)) := do
  let fields ← library.fields node
  guard (!names.any fun name => 1 < fields.countP (fun field => field.1 == name))
  some fields

/-- The nodes that stand for values and for blocks in a document with a given root. -/
structure Image where
  value : library.Node → Value → library.Node
  block : library.Node → List Entry → library.Node

variable {library}

def Image.entry (image : library.Image) (root : library.Node) (entry : Entry) :
    String × library.Node :=
  (entry.name, image.value root entry.value)

def Image.part (image : library.Image) (root : library.Node) : Part → String × library.Node
  | .field entry => image.entry root entry
  | .block name entries => (name, image.block root entries)

/-- What is written is read again: documents have their parts and blocks their fields, numbers and
truth values are told from texts, and whatever a text is made of, it is quoted or escaped unless it
reads back as itself. -/
structure IsReliable (library : Library) (image : library.Image) : Prop where
  document : ∀ parts : List Part, parts ≠ [] → (∀ part ∈ parts, part.isNamed = true) →
    ∃ root, library.parse (library.write parts) = some root ∧
      library.fields root = some (parts.map (image.part root))
  block : ∀ (root : library.Node) (entries : List Entry),
    library.fields (image.block root entries) = some (entries.map (image.entry root))
  text : ∀ (root : library.Node) (text : String),
    library.asText (image.value root (.text text)) = some text
  char : ∀ (root : library.Node) (c : Char),
    library.asText (image.value root (.char c)) = some (String.singleton c)
  bool : ∀ (root : library.Node) (value : Bool),
    library.asBool (image.value root (.word (.bool value))) = some value
  number : ∀ (root : library.Node) (value greatest : Nat), value ≤ greatest →
    library.asNatUpTo greatest (image.value root (.word (.number value))) = some value
  texts : ∀ (root : library.Node) (texts : List String),
    library.items (image.value root (.texts texts)) =
      some (texts.map fun text => image.value root (.text text))

end Library

/-- The value of a field, or its default where the field is missing. -/
def field {Node α : Type} (fields : List (String × Node)) (name : String) (default : α)
    (read : Node → Option α) : Option α :=
  match fields.lookup name with
  | some node => read node
  | none => some default

end EffectModel.Yaml
