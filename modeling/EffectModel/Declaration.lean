import EffectModel.Annotation
import EffectModel.Fault

namespace EffectModel

inductive DeclKind where
  | classDecl
  | interfaceDecl
  | structDecl
  | recordDecl
  | enumDecl
  deriving DecidableEq, Repr, Inhabited

namespace DeclKind

def all : List DeclKind := [classDecl, interfaceDecl, structDecl, recordDecl, enumDecl]

def name : DeclKind → String
  | classDecl => "class"
  | interfaceDecl => "interface"
  | structDecl => "struct"
  | recordDecl => "record"
  | enumDecl => "enum"

/-- The kind of a use of such a declaration; a record is a class. -/
def typeKind : DeclKind → TypeKind
  | classDecl | recordDecl => .classType
  | interfaceDecl => .interfaceType
  | structDecl => .structType
  | enumDecl => .enumType

end DeclKind

inductive Access where
  | isPublic
  | isInternal
  | isProtected
  | isPrivate
  deriving DecidableEq, Repr

instance : Inhabited Access := ⟨.isPublic⟩

namespace Access

def all : List Access := [isPublic, isInternal, isProtected, isPrivate]

def name : Access → String
  | isPublic => "public"
  | isInternal => "internal"
  | isProtected => "protected"
  | isPrivate => "private"

end Access

structure Parameter where
  name : String
  type : TypeUse
  default : Option String
  deriving DecidableEq, Repr, Inhabited

structure Method where
  name : String
  returnType : TypeUse
  parameters : List Parameter
  isStatic : Bool
  access : Access
  deriving DecidableEq, Repr, Inhabited

def Method.returning (name : String) (returnType : TypeUse) : Method where
  name
  returnType
  parameters := []
  isStatic := false
  access := .isPublic

structure Property where
  name : String
  type : TypeUse
  readable : Bool
  isStatic : Bool
  deriving DecidableEq, Repr, Inhabited

def Property.holding (name : String) (type : TypeUse) : Property where
  name
  type
  readable := true
  isStatic := false

structure Declaration where
  id : DeclId
  name : String
  scope : String
  kind : DeclKind
  access : Access
  annotations : List Annotation
  methods : List Method
  properties : List Property
  baseTypes : List TypeUse
  deriving DecidableEq, Repr, Inhabited

namespace Declaration

/-- An empty public class whose name and namespace are those of its identity. -/
def ofId (id : DeclId) : Declaration where
  id
  name := id.simpleName
  scope := id.enclosing
  kind := .classDecl
  access := .isPublic
  annotations := []
  methods := []
  properties := []
  baseTypes := []

def isInterface (declaration : Declaration) : Bool := declaration.kind == .interfaceDecl

def annotationsOf (declaration : Declaration) (kind : String) : List Annotation :=
  declaration.annotations.filter (fun note => note.isKind kind)

def hasAnnotation (declaration : Declaration) (kind : String) : Bool :=
  declaration.annotations.any (fun note => note.isKind kind)

/-- The one annotation of a kind, if there is any; a second one is a fault. -/
def singleAnnotation (declaration : Declaration) (kind : String) :
    Except Fault (Option Annotation) :=
  match declaration.annotationsOf kind with
  | [] => .ok none
  | [note] => .ok (some note)
  | _ => .error ((Cause.repeatedAnnotation kind).blame declaration.id)

def baseClass (declaration : Declaration) : Option TypeUse :=
  declaration.baseTypes.find? (fun base => base.kind == .classType)

def instanceMethods (declaration : Declaration) : List Method :=
  declaration.methods.filter (fun method => !method.isStatic)

def readableProperties (declaration : Declaration) : List Property :=
  declaration.properties.filter (fun property => property.readable && !property.isStatic)

def asTypeUse (declaration : Declaration) : TypeUse :=
  { TypeUse.named declaration.name declaration.kind.typeKind with
    scope := declaration.scope
    declaration := some declaration.id }

end Declaration

end EffectModel
