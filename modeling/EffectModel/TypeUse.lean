/-! A use of a type: the name that is written, its generic arguments, the nullable marker, and the
declaration it refers to where that is known. A use may leave arguments out, so its arity and the
number of its arguments are kept apart. -/
namespace EffectModel

structure DeclId where
  text : String
  deriving DecidableEq, Repr, Inhabited

namespace DeclId

/-- What stands behind the last dot, or everything when there is none. -/
def simpleName (id : DeclId) : String :=
  String.ofList (id.text.toList.reverse.takeWhile (· ≠ '.')).reverse

/-- What stands before the last dot, or nothing when there is none. -/
def enclosing (id : DeclId) : String :=
  String.ofList ((id.text.toList.reverse.dropWhile (· ≠ '.')).drop 1).reverse

def order (first second : DeclId) : Ordering := compare first.text second.text

end DeclId

inductive TypeKind where
  | void
  | classType
  | interfaceType
  | structType
  | enumType
  | typeParameter
  | array
  | error
  deriving DecidableEq, Repr, Inhabited

namespace TypeKind

def all : List TypeKind :=
  [void, classType, interfaceType, structType, enumType, typeParameter, array, error]

def name : TypeKind → String
  | void => "void"
  | classType => "class"
  | interfaceType => "interface"
  | structType => "struct"
  | enumType => "enum"
  | typeParameter => "type_parameter"
  | array => "array"
  | error => "error"

end TypeKind

/-- A use of a type. Its `scope` is the namespace of the type, empty at the top. -/
structure TypeUse where
  name : String
  scope : String
  kind : TypeKind
  args : List TypeUse
  arity : UInt64
  nullable : Bool
  declaration : Option DeclId
  deriving Repr, Inhabited

namespace TypeUse

mutual

def decideEq : (first second : TypeUse) → Decidable (first = second)
  | ⟨name, scope, kind, args, arity, nullable, declaration⟩,
    ⟨name₂, scope₂, kind₂, args₂, arity₂, nullable₂, declaration₂⟩ =>
      match decideEqAll args args₂ with
      | isTrue sameArgs =>
          if same : name = name₂ ∧ scope = scope₂ ∧ kind = kind₂ ∧ arity = arity₂ ∧
              nullable = nullable₂ ∧ declaration = declaration₂ then
            isTrue (by obtain ⟨rfl, rfl, rfl, rfl, rfl, rfl⟩ := same; rw [sameArgs])
          else isFalse (by intro equal; injection equal; exact same (by simp [*]))
      | isFalse different => isFalse (by intro equal; injection equal; contradiction)

def decideEqAll : (first second : List TypeUse) → Decidable (first = second)
  | [], [] => isTrue rfl
  | [], _ :: _ => isFalse (by simp)
  | _ :: _, [] => isFalse (by simp)
  | head :: tail, head₂ :: tail₂ =>
      match decideEq head head₂ with
      | isTrue sameHead =>
          match decideEqAll tail tail₂ with
          | isTrue sameTail => isTrue (by rw [sameHead, sameTail])
          | isFalse different => isFalse (by intro equal; injection equal; contradiction)
      | isFalse different => isFalse (by intro equal; injection equal; contradiction)

end

instance : DecidableEq TypeUse := decideEq

def named (name : String) (kind : TypeKind) : TypeUse where
  name
  scope := ""
  kind
  args := []
  arity := 0
  nullable := false
  declaration := none

def void : TypeUse := named "void" .void

def generic (name : String) (kind : TypeKind) (args : List TypeUse) : TypeUse :=
  { named name kind with args, arity := UInt64.ofNat args.length }

/-- The places for arguments, filled or not. -/
def slotCount (use : TypeUse) : Nat := max use.arity.toNat use.args.length

def isError (use : TypeUse) : Bool := use.kind == .error

def isGeneric (use : TypeUse) : Bool := 0 < use.slotCount

/-- Whether an argument is missing or could not be understood. -/
def hasUnresolvedArgs (use : TypeUse) : Bool :=
  use.args.length < use.arity.toNat || use.args.any isError

def withoutNullable (use : TypeUse) : TypeUse := { use with nullable := false }

def qualifiedName (use : TypeUse) : String :=
  if use.scope.isEmpty then use.name else use.scope ++ "." ++ use.name

/-- The argument list of a use, with a question mark in every place that holds none. -/
def angled (shown : List String) (arity : Nat) : String :=
  if shown.isEmpty && arity == 0 then ""
  else "<" ++ ", ".intercalate (shown ++ List.replicate (arity - shown.length) "?") ++ ">"

mutual

/-- A type expression in which every use is written with its label. -/
def render (label : TypeUse → String) : TypeUse → String
  | ⟨name, scope, kind, args, arity, nullable, declaration⟩ =>
      label ⟨name, scope, kind, args, arity, nullable, declaration⟩
        ++ angled (renderAll label args) arity.toNat
        ++ if nullable then "?" else ""

def renderAll (label : TypeUse → String) : List TypeUse → List String
  | [] => []
  | use :: rest => render label use :: renderAll label rest

end

def display (use : TypeUse) : String := render name use

/-- What tells two types apart: the declaration, where it is known, and else the type expression
with qualified names. -/
def identity (use : TypeUse) : String :=
  match use.declaration with
  | some id => id.text
  | none => render qualifiedName use

end TypeUse

end EffectModel
