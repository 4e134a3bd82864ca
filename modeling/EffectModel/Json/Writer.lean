import EffectModel.Json.Basic

namespace EffectModel.Json

def hexLetter (digit : Nat) : Char :=
  if digit < 10 then Char.ofNat ('0'.toNat + digit) else Char.ofNat ('a'.toNat + (digit - 10))

def escape (c : Char) : List Char :=
  if c == '"' then ['\\', '"']
  else if c == '\\' then ['\\', '\\']
  else if c == '\x08' then ['\\', 'b']
  else if c == '\x0c' then ['\\', 'f']
  else if c == '\n' then ['\\', 'n']
  else if c == '\r' then ['\\', 'r']
  else if c == '\t' then ['\\', 't']
  else if c.toNat < 0x20 then
    ['\\', 'u', '0', '0', hexLetter (c.toNat / 16), hexLetter (c.toNat % 16)]
  else [c]

def quote (text : String) : List Char :=
  '"' :: text.toList.flatMap escape ++ ['"']

/-- How the parts of a value are set apart. -/
structure Layout where
  /-- What stands before an item at a nesting level, and before the bracket that closes one. -/
  line : Nat → List Char
  /-- What stands between a key and its value. -/
  colon : List Char

/-- Everything on one line, without spaces. -/
def Layout.compact : Layout where
  line _ := []
  colon := [':']

/-- An item a line, indented by two spaces for each level. -/
def Layout.indented : Layout where
  line level := '\n' :: List.replicate (2 * level) ' '
  colon := [':', ' ']

mutual

def write (layout : Layout) : Nat → Json → List Char
  | _, .null => ['n', 'u', 'l', 'l']
  | _, .bool true => ['t', 'r', 'u', 'e']
  | _, .bool false => ['f', 'a', 'l', 's', 'e']
  | _, .int value => (toString value).toList
  | _, .real digits exponent => (toString digits).toList ++ 'e' :: (toString exponent).toList
  | _, .text value => quote value
  | _, .list [] => ['[', ']']
  | level, .list (item :: rest) =>
      '[' :: layout.line (level + 1) ++ write layout (level + 1) item
        ++ writeItems layout (level + 1) rest ++ layout.line level ++ [']']
  | _, .record [] => ['{', '}']
  | level, .record ((name, value) :: rest) =>
      '{' :: layout.line (level + 1) ++ quote name ++ layout.colon
        ++ write layout (level + 1) value
        ++ writeFields layout (level + 1) rest ++ layout.line level ++ ['}']
  | _, .garbled => ['"', '\\', 'u', 'd', '8', '0', '0', '"']

def writeItems (layout : Layout) : Nat → List Json → List Char
  | _, [] => []
  | level, item :: rest =>
      ',' :: layout.line level ++ write layout level item ++ writeItems layout level rest

def writeFields (layout : Layout) : Nat → List (String × Json) → List Char
  | _, [] => []
  | level, (name, value) :: rest =>
      ',' :: layout.line level ++ quote name ++ layout.colon ++ write layout level value
        ++ writeFields layout level rest

end

def compact (json : Json) : String := String.ofList (write .compact 0 json)

def indented (json : Json) : String := String.ofList (write .indented 0 json)

end EffectModel.Json
