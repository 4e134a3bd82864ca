import EffectModel.Json.Record
import EffectModel.Snapshot

namespace EffectModel

open Json

def DeclId.toJson (id : DeclId) : Json := .text id.text

def DeclId.ofJson : Reading DeclId := fun levels json => (asText levels json).map DeclId.mk

def TypeKind.toJson (kind : TypeKind) : Json := .text kind.name

def TypeKind.ofJson : Reading TypeKind := asChoice (all.map (fun kind => (kind.name, kind)))

namespace TypeUse

mutual

def toJson : TypeUse → Json
  | ⟨name, scope, kind, args, arity, nullable, declaration⟩ =>
      .record [
        ("name", .text name), ("namespace", .text scope), ("kind", kind.toJson),
        ("type_args", .list (allToJson args)), ("arity", .int arity.toNat),
        ("nullable", .bool nullable), ("declaration", ofOption DeclId.toJson declaration)]

def allToJson : List TypeUse → List Json
  | [] => []
  | use :: rest => toJson use :: allToJson rest

end

def fields : List String :=
  ["name", "namespace", "kind", "type_args", "arity", "nullable", "declaration"]

/-- Reads the fields of a type use, given how its arguments are read. -/
def ofSlots (readArgs : Json → Option (List TypeUse)) (levels : Nat) :
    List Slot → Option TypeUse
  | [name, scope, kind, args, arity, nullable, declaration] => do
      some
        { name := ← name.required (asText levels)
          scope := ← scope.withDefault "" (asText levels)
          kind := ← kind.required (TypeKind.ofJson levels)
          args := ← args.withDefault [] readArgs
          arity := ← arity.withDefault 0 (asUInt64 levels)
          nullable := ← nullable.withDefault false (asBool levels)
          declaration := ← declaration.withDefault none (asOption DeclId.ofJson levels) }
  | _ => none

/-- A type use takes one level of nesting, and the list of its arguments another one. -/
def ofJson : Reading TypeUse
  | 0 => fun _ => none
  | 1 => asRecord fields (ofSlots (fun _ => none)) 1
  | levels + 2 =>
      asRecord fields (ofSlots (asList (fun _ => ofJson levels) (levels + 1))) (levels + 2)

end TypeUse

namespace AnnotationValue

mutual

def toJson : AnnotationValue → Json
  | text value => .record [("kind", .text "str"), ("value", .text value)]
  | bool value => .record [("kind", .text "bool"), ("value", .bool value)]
  | int value => .record [("kind", .text "int"), ("value", .int value.toInt)]
  | type use => .record [("kind", .text "type"), ("value", use.toJson)]
  | list items => .record [("kind", .text "array"), ("value", .list (allToJson items))]
  | null => .record [("kind", .text "null")]

def allToJson : List AnnotationValue → List Json
  | [] => []
  | item :: rest => toJson item :: allToJson rest

end

/-- The tags of the kinds of values, in the order in which they are numbered. -/
def kinds : List String := ["str", "bool", "int", "type", "array", "null"]

def ofParts (readItems : Json → Option (List AnnotationValue)) (levels : Nat) (kind : String)
    (content : Option Json) : Option AnnotationValue :=
  match kind, content with
  | "str", some value => (asText levels value).map text
  | "bool", some value => (asBool levels value).map bool
  | "int", some value => (asInt64 levels value).map int
  | "type", some value => (TypeUse.ofJson levels value).map type
  | "array", some value => (readItems value).map list
  | "null", none => some null
  | "null", some .null => some null
  | _, _ => none

/-- A value takes one level of nesting, and the list of its items another one. -/
def ofJson : Reading AnnotationValue
  | 0 => fun _ => none
  | 1 => asTagged "kind" "value" kinds (ofParts (fun _ => none)) 1
  | levels + 2 =>
      let readItems := asList (fun _ => ofJson levels) (levels + 1)
      asTagged "kind" "value" kinds (ofParts readItems) (levels + 2)

end AnnotationValue

namespace NamedArgument

def toJson (argument : NamedArgument) : Json :=
  .record [("name", .text argument.name), ("value", argument.value.toJson)]

def ofJson : Reading NamedArgument := asRecord ["name", "value"] fun levels slots =>
  match slots with
  | [name, value] => do
      some ⟨← name.required (asText levels), ← value.required (AnnotationValue.ofJson levels)⟩
  | _ => none

end NamedArgument

namespace Annotation

def toJson (note : Annotation) : Json :=
  .record [
    ("kind", .text note.kind),
    ("type_args", .list (note.typeArgs.map TypeUse.toJson)),
    ("args", .list (note.args.map AnnotationValue.toJson)),
    ("named", .list (note.named.map NamedArgument.toJson))]

def ofJson : Reading Annotation :=
  asRecord ["kind", "type_args", "args", "named"] fun levels slots =>
    match slots with
    | [kind, typeArgs, args, named] => do
        some
          { kind := ← kind.required (asText levels)
            typeArgs := ← typeArgs.withDefault [] (asList TypeUse.ofJson levels)
            args := ← args.withDefault [] (asList AnnotationValue.ofJson levels)
            named := ← named.withDefault [] (asList NamedArgument.ofJson levels) }
    | _ => none

end Annotation

def DeclKind.toJson (kind : DeclKind) : Json := .text kind.name

def DeclKind.ofJson : Reading DeclKind := asChoice (all.map (fun kind => (kind.name, kind)))

def Access.toJson (access : Access) : Json := .text access.name

def Access.ofJson : Reading Access := asChoice (all.map (fun access => (access.name, access)))

namespace Parameter

def toJson (parameter : Parameter) : Json :=
  .record [
    ("name", .text parameter.name), ("ty", parameter.type.toJson),
    ("default", ofOption .text parameter.default)]

def ofJson : Reading Parameter := asRecord ["name", "ty", "default"] fun levels slots =>
  match slots with
  | [name, type, default] => do
      some
        { name := ← name.required (asText levels)
          type := ← type.required (TypeUse.ofJson levels)
          default := ← default.withDefault none (asOption asText levels) }
  | _ => none

end Parameter

namespace Method

def toJson (method : Method) : Json :=
  .record [
    ("name", .text method.name), ("return_type", method.returnType.toJson),
    ("parameters", .list (method.parameters.map Parameter.toJson)),
    ("is_static", .bool method.isStatic), ("accessibility", method.access.toJson)]

def ofJson : Reading Method :=
  asRecord ["name", "return_type", "parameters", "is_static", "accessibility"] fun levels slots =>
    match slots with
    | [name, returnType, parameters, isStatic, access] => do
        some
          { name := ← name.required (asText levels)
            returnType := ← returnType.required (TypeUse.ofJson levels)
            parameters := ← parameters.withDefault [] (asList Parameter.ofJson levels)
            isStatic := ← isStatic.withDefault false (asBool levels)
            access := ← access.withDefault .isPublic (Access.ofJson levels) }
    | _ => none

end Method

namespace Property

def toJson (property : Property) : Json :=
  .record [
    ("name", .text property.name), ("ty", property.type.toJson),
    ("readable", .bool property.readable), ("is_static", .bool property.isStatic)]

def ofJson : Reading Property :=
  asRecord ["name", "ty", "readable", "is_static"] fun levels slots =>
    match slots with
    | [name, type, readable, isStatic] => do
        some
          { name := ← name.required (asText levels)
            type := ← type.required (TypeUse.ofJson levels)
            readable := ← readable.withDefault true (asBool levels)
            isStatic := ← isStatic.withDefault false (asBool levels) }
    | _ => none

end Property

namespace Declaration

def toJson (declaration : Declaration) : Json :=
  .record [
    ("id", declaration.id.toJson), ("name", .text declaration.name),
    ("namespace", .text declaration.scope), ("kind", declaration.kind.toJson),
    ("accessibility", declaration.access.toJson),
    ("annotations", .list (declaration.annotations.map Annotation.toJson)),
    ("methods", .list (declaration.methods.map Method.toJson)),
    ("properties", .list (declaration.properties.map Property.toJson)),
    ("base_types", .list (declaration.baseTypes.map TypeUse.toJson))]

def fields : List String :=
  ["id", "name", "namespace", "kind", "accessibility", "annotations", "methods", "properties",
    "base_types"]

def ofJson : Reading Declaration := asRecord fields fun levels slots =>
  match slots with
  | [id, name, scope, kind, access, annotations, methods, properties, baseTypes] => do
      some
        { id := ← id.required (DeclId.ofJson levels)
          name := ← name.required (asText levels)
          scope := ← scope.withDefault "" (asText levels)
          kind := ← kind.required (DeclKind.ofJson levels)
          access := ← access.withDefault .isPublic (Access.ofJson levels)
          annotations := ← annotations.withDefault [] (asList Annotation.ofJson levels)
          methods := ← methods.withDefault [] (asList Method.ofJson levels)
          properties := ← properties.withDefault [] (asList Property.ofJson levels)
          baseTypes := ← baseTypes.withDefault [] (asList TypeUse.ofJson levels) }
  | _ => none

end Declaration

namespace Snapshot

inductive LoadError where
  /-- There is no such file, or it holds no text. -/
  | unreadable
  | malformed
  | invalid (fault : Fault)
  deriving DecidableEq, Repr

def documentOf (declarations : List Declaration) : Json :=
  .record [("declarations", .list (declarations.map Declaration.toJson))]

def readDocument : Reading (List Declaration) := asRecord ["declarations"] fun levels slots =>
  match slots with
  | [declarations] => declarations.required (asList Declaration.ofJson levels)
  | _ => none

def ofDeclarations (declarations : List Declaration) : Except LoadError Snapshot :=
  match ofList declarations with
  | .ok snapshot => .ok snapshot
  | .error fault => .error (.invalid fault)

def load (parse : String → Option Json) (text : String) : Except LoadError Snapshot :=
  match (parse text).bind (readDocument textLevels) with
  | some declarations => ofDeclarations declarations
  | none => .error .malformed

/-- Loads a snapshot from the content of a file, if there is one. -/
def loadBytes (parse : String → Option Json) (content : Option ByteArray) :
    Except LoadError Snapshot :=
  match content.bind String.fromUTF8? with
  | some found => load parse found
  | none => .error .unreadable

def document (write : Json → String) (snapshot : Snapshot) : String :=
  write (documentOf snapshot.declarations)

end Snapshot

end EffectModel
