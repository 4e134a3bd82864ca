import EffectModel.Yaml.Lexer

namespace EffectModel.Yaml

inductive Node where
  | scalar (text : String) (style : ScalarStyle) (tag : Option Uri)
  | sequence (items : List Node)
  | mapping (entries : List (Node × Node))
  /-- A node with the number of its anchor. -/
  | anchored (anchor : Nat) (node : Node)
  | alias (anchor : Nat)
  deriving Repr, Inhabited

namespace Node

def empty : Node := .scalar "" .plain none

mutual

/-- The node with an anchor. Of several that have its number the one that begins last counts. -/
def find? (anchor : Nat) : Node → Option Node
  | .scalar _ _ _ => none
  | .sequence items => findInItems? anchor items
  | .mapping entries => findInEntries? anchor entries
  | .anchored number node =>
      (node.find? anchor).or (if number = anchor then some node else none)
  | .alias _ => none

def findInItems? (anchor : Nat) : List Node → Option Node
  | [] => none
  | item :: rest => (findInItems? anchor rest).or (item.find? anchor)

def findInEntries? (anchor : Nat) : List (Node × Node) → Option Node
  | [] => none
  | (key, value) :: rest =>
      ((findInEntries? anchor rest).or (value.find? anchor)).or (key.find? anchor)

end

/-- A node of a document without its anchor; an alias gives the node that it stands for. -/
def resolve (root : Node) : Node → Option Node
  | .alias anchor => root.find? anchor
  | .anchored _ node => some node
  | node => some node

end Node

structure Assembly where
  tokens : List Token
  /-- What the handles of tags stand for; the first entry counts. -/
  handles : List (List Char × Uri) := []
  /-- The names of anchors, each with the number of its latest anchor. -/
  anchors : List (List Char × Nat) := []

/-- A step that puts tokens together, unless they do not fit. -/
abbrev Assembler := StateT Assembly Option

namespace Assembler

def peek : Assembler (Option Token) := return (← get).tokens.head?

def skip : Assembler Unit :=
  modify fun assembly => { assembly with tokens := assembly.tokens.drop 1 }

def skipIf (token : Token) : Assembler Bool := do
  if (← peek) == some token then
    skip
    return true
  else return false

def expect (token : Token) : Assembler Unit := do
  guard (← skipIf token)

def numberOf (name : List Char) : Assembler Nat := do
  StateT.lift ((← get).anchors.lookup name)

/-- Numbers a new anchor by the names that there are. -/
def addAnchor (name : List Char) : Assembler Nat := do
  let anchors := (← get).anchors
  let number := anchors.length
  let others := anchors.filter (fun anchor => anchor.1 != name)
  modify fun assembly => { assembly with anchors := (name, number) :: others }
  return number

def fullName (tag : Tag) : Assembler Uri := do
  if tag.handle.isEmpty then return tag.suffix
  else return (← StateT.lift ((← get).handles.lookup tag.handle)) ++ tag.suffix

def takeProperties : Assembler (Option (List Char) × Option Tag) := do
  match (← get).tokens with
  | .anchor name :: .tag tag :: _ | .tag tag :: .anchor name :: _ => do
      skip
      skip
      return (some name, some tag)
  | .anchor name :: _ => do
      skip
      return (some name, none)
  | .tag tag :: _ => do
      skip
      return (none, some tag)
  | _ => return (none, none)

mutual

/-- Reads a node. Blocks are only expected outside of brackets, and only the key or the value of a
block may be a sequence that has no block of its own. -/
def readNode : Nat → Bool → Bool → Assembler Node
  | 0, _, _ => failure
  | fuel + 1, inBlock, isEntry => do
      match ← peek with
      | some (.alias name) => do
          skip
          return .alias (← numberOf name)
      | _ => do
          let (anchor, tag) ← takeProperties
          let number ← anchor.mapM addAnchor
          let uri ← tag.mapM fullName
          let hasProperties := anchor.isSome || tag.isSome
          let content ← readContent fuel inBlock isEntry hasProperties uri
          return number.elim content (fun number => .anchored number content)

/-- Reads what follows the anchor and the tag of a node; after one of them it may be missing. -/
def readContent : Nat → Bool → Bool → Bool → Option Uri → Assembler Node
  | 0, _, _, _, _ => failure
  | fuel + 1, inBlock, isEntry, hasProperties, uri => do
      match ← peek, inBlock, isEntry with
      | some .blockEntry, _, true => return .sequence (← readBareItems fuel)
      | some (.scalar text style), _, _ => do
          skip
          return .scalar text style uri
      | some .flowSequenceStart, _, _ => do
          skip
          return .sequence (← readFlowItems fuel true)
      | some .flowMappingStart, _, _ => do
          skip
          return .mapping (← readFlowEntries fuel true)
      | some .blockSequenceStart, true, _ => do
          skip
          return .sequence (← readBlockItems fuel)
      | some .blockMappingStart, true, _ => do
          skip
          return .mapping (← readBlockEntries fuel)
      | _, _, _ => do
          guard hasProperties
          return .scalar "" .plain uri

def readUnless : Nat → List Token → Bool → Bool → Assembler Node
  | 0, _, _, _ => failure
  | fuel + 1, ends, inBlock, isEntry => do
      if (← peek).any ends.contains then return .empty
      else readNode fuel inBlock isEntry

def readBlockItems : Nat → Assembler (List Node)
  | 0 => failure
  | fuel + 1 => do
      if ← skipIf .blockEnd then return []
      else do
        expect .blockEntry
        let item ← readUnless fuel [.blockEntry, .blockEnd] true false
        return item :: (← readBlockItems fuel)

/-- Reads items that have no block of their own. -/
def readBareItems : Nat → Assembler (List Node)
  | 0 => failure
  | fuel + 1 => do
      if ← skipIf .blockEntry then do
        let item ← readUnless fuel [.blockEntry, .key, .value, .blockEnd] true false
        return item :: (← readBareItems fuel)
      else return []

def readBlockEntries : Nat → Assembler (List (Node × Node))
  | 0 => failure
  | fuel + 1 => do
      if ← skipIf .blockEnd then return []
      else do
        expect .key
        let key ← readUnless fuel [.key, .value, .blockEnd] true true
        let value ←
          if ← skipIf .value then readUnless fuel [.key, .value, .blockEnd] true true
          else pure .empty
        return (key, value) :: (← readBlockEntries fuel)

def readFlowValue : Nat → Token → Assembler Node
  | 0, _ => failure
  | fuel + 1, finish => do
      if ← skipIf .value then readUnless fuel [.flowEntry, finish] false false
      else return .empty

/-- Reads the items between square brackets. An item may be a single key and its value; where that
key is missing, the token in its place is passed. -/
def readFlowItems : Nat → Bool → Assembler (List Node)
  | 0, _ => failure
  | fuel + 1, isFirst => do
      if ← skipIf .flowSequenceEnd then return []
      else do
        unless isFirst do
          expect .flowEntry
        if ← skipIf .flowSequenceEnd then return []
        else if ← skipIf .key then do
          let isMissing := (← peek).any [Token.value, .flowEntry, .flowSequenceEnd].contains
          let key ← if isMissing then do
              skip
              pure .empty
            else readNode fuel false false
          let value ← readFlowValue fuel .flowSequenceEnd
          return .mapping [(key, value)] :: (← readFlowItems fuel false)
        else do
          let item ← readNode fuel false false
          return item :: (← readFlowItems fuel false)

/-- Reads the keys and values between braces. A key without a mark in front of it has no value. -/
def readFlowEntries : Nat → Bool → Assembler (List (Node × Node))
  | 0, _ => failure
  | fuel + 1, isFirst => do
      if ← skipIf .flowMappingEnd then return []
      else do
        unless isFirst do
          expect .flowEntry
        if ← skipIf .flowMappingEnd then return []
        else if ← skipIf .key then do
          let key ← readUnless fuel [.value, .flowEntry, .flowMappingEnd] false false
          let value ← readFlowValue fuel .flowMappingEnd
          return (key, value) :: (← readFlowEntries fuel false)
        else do
          let key ← readNode fuel false false
          return (key, .empty) :: (← readFlowEntries fuel false)

end

/-- The handles that have a meaning of their own, unless a directive gives them another one. -/
def standardHandles : List (List Char × Uri) :=
  [(primaryHandle, Uri.ofAscii "!"), (closedHandle [], Uri.ofAscii "tag:yaml.org,2002:")]

def isReadable (major minor : Nat) : Bool := major == 1 && (minor == 1 || minor == 2)

/-- Takes in the directives at the front. The version may be given once, and each handle may be
given one meaning. -/
def takeDirectives (hasVersion : Bool) (handles : List (List Char × Uri)) :
    List Token → Option (List (List Char × Uri) × List Token)
  | .directive (.version major minor) :: rest =>
      if hasVersion || !isReadable major minor then none else takeDirectives true handles rest
  | .directive (.handle handle start) :: rest =>
      if (handles.lookup handle).isSome then none
      else takeDirectives hasVersion ((handle, start) :: handles) rest
  | tokens => some (handles, tokens)

def endsDocument : List Token → Bool
  | [] => true
  | .directive _ :: _ => true
  | token :: _ => token == .documentStart || token == .documentEnd

def readDocument (tokens : List Token) : Option Node := do
  let (handles, rest) ← takeDirectives false [] tokens
  let hasDirectives := rest.length < tokens.length
  let isMarked := rest.head? == some .documentStart
  guard (isMarked || !hasDirectives)
  let content := if isMarked then rest.drop 1 else rest
  if isMarked && endsDocument content then
    guard (content.all (· == .documentEnd))
    some .empty
  else
    let assembly : Assembly := { tokens := content, handles := handles ++ standardHandles }
    let (node, behind) ← (readNode (5 * (content.length + 1)) true false).run assembly
    guard (behind.tokens.all (· == .documentEnd))
    some node

end Assembler

/-- The node of the document in a text. A text without a document counts as an empty one. -/
def Node.parse (text : String) : Option Node := do
  let tokens ← Token.scan text
  if tokens.isEmpty then some .empty else Assembler.readDocument tokens

end EffectModel.Yaml
