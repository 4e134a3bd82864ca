import EffectModel.TypeUse

namespace EffectModel

inductive AnnotationValue where
  | text (value : String)
  | bool (value : Bool)
  | int (value : Int64)
  | type (use : TypeUse)
  | list (items : List AnnotationValue)
  | null
  deriving Repr, Inhabited

namespace AnnotationValue

mutual

def decideEq : (first second : AnnotationValue) → Decidable (first = second)
  | text a, text b => decidable_of_iff (a = b) (by simp)
  | bool a, bool b => decidable_of_iff (a = b) (by simp)
  | int a, int b => decidable_of_iff (a = b) (by simp)
  | type a, type b => decidable_of_iff (a = b) (by simp)
  | list a, list b =>
      match decideEqAll a b with
      | isTrue same => isTrue (by rw [same])
      | isFalse different => isFalse (by intro equal; injection equal; contradiction)
  | null, null => isTrue rfl
  | text _, bool _ | text _, int _ | text _, type _ | text _, list _ | text _, null => isFalse nofun
  | bool _, text _ | bool _, int _ | bool _, type _ | bool _, list _ | bool _, null => isFalse nofun
  | int _, text _ | int _, bool _ | int _, type _ | int _, list _ | int _, null => isFalse nofun
  | type _, text _ | type _, bool _ | type _, int _ | type _, list _ | type _, null => isFalse nofun
  | list _, text _ | list _, bool _ | list _, int _ | list _, type _ | list _, null => isFalse nofun
  | null, text _ | null, bool _ | null, int _ | null, type _ | null, list _ => isFalse nofun

def decideEqAll : (first second : List AnnotationValue) → Decidable (first = second)
  | [], [] => isTrue rfl
  | [], _ :: _ => isFalse (by simp)
  | _ :: _, [] => isFalse (by simp)
  | head :: tail, head₂ :: tail₂ =>
      match decideEq head head₂ with
      | isTrue sameHead =>
          match decideEqAll tail tail₂ with
          | isTrue sameTail => isTrue (by rw [sameHead, sameTail])
          | isFalse different => isFalse (by intro equal; injection equal; contradiction)
      | isFalse different => isFalse (by intro equal; injection equal; contradiction)

end

instance : DecidableEq AnnotationValue := decideEq

def texts (values : List String) : AnnotationValue := .list (values.map .text)

def text? : AnnotationValue → Option String
  | text value => some value
  | _ => none

def bool? : AnnotationValue → Option Bool
  | bool value => some value
  | _ => none

def int? : AnnotationValue → Option Int64
  | int value => some value
  | _ => none

/-- A whole number that is neither negative nor too large for 32 bits. -/
def uint32? : AnnotationValue → Option UInt32
  | int value =>
      if 0 ≤ value.toInt ∧ value.toInt < Int.pow 2 32 then some (UInt32.ofNat value.toInt.toNat) else none
  | _ => none

def type? : AnnotationValue → Option TypeUse
  | type use => some use
  | _ => none

/-- A list all of whose items can be read; a value that is no list counts as a list of one, and
null as none. -/
def listOf? {α : Type} (item : AnnotationValue → Option α) : AnnotationValue → Option (List α)
  | list items => items.mapM item
  | null => none
  | scalar => (item scalar).map ([·])

end AnnotationValue

structure NamedArgument where
  name : String
  value : AnnotationValue
  deriving DecidableEq, Repr, Inhabited

structure Annotation where
  kind : String
  typeArgs : List TypeUse
  args : List AnnotationValue
  named : List NamedArgument
  deriving DecidableEq, Repr, Inhabited

namespace Annotation

def bare (kind : String) : Annotation := ⟨kind, [], [], []⟩

/-- The ending that the kind of an annotation may carry or leave out. -/
def conventionalEnding : String := "Attribute"

/-- Whether an annotation is of a kind, its conventional ending left aside. -/
def isKind (note : Annotation) (kind : String) : Bool :=
  note.kind == kind || note.kind == kind ++ conventionalEnding

def namedValue (note : Annotation) (name : String) : Option AnnotationValue :=
  (note.named.find? (fun argument => argument.name == name)).map NamedArgument.value

/-- The type an annotation refers to: its first type argument, else its first positional argument
if that is a type, else the argument with the given name if that is a type. -/
def typeReference (note : Annotation) (key : String) : Option TypeUse :=
  note.typeArgs[0]?
    <|> note.args[0]?.bind AnnotationValue.type?
    <|> (note.namedValue key).bind AnnotationValue.type?

def usableReference (note : Annotation) (key : String) : Option TypeUse :=
  (note.typeReference key).filter (fun use => !use.isError)

end Annotation

end EffectModel
