import EffectModel.TypeUse

/-! What can be wrong with a declaration. A fault blames one declaration; its kind tells whether an
annotation is at fault or what the annotation leads to. -/
namespace EffectModel

inductive FaultKind where
  | configuration
  | resolution
  deriving DecidableEq, Repr, Inhabited

def FaultKind.name : FaultKind → String
  | .configuration => "configuration"
  | .resolution => "resolution"

structure Fault where
  kind : FaultKind
  declaration : DeclId
  message : String
  deriving DecidableEq, Repr, Inhabited

def Fault.display (fault : Fault) : String :=
  "[" ++ fault.kind.name ++ "] " ++ fault.declaration.text ++ ": " ++ fault.message

/-- Everything the library finds fault with. -/
inductive Cause where
  | repeatedDeclaration
  | repeatedAnnotation (kind : String)
  | noTarget
  | unknownTarget (written : String)
  | namelessTarget (target : DeclId)
  | unknownWrapped (written : String)
  | unclassified (method written : String)
  | notARuntime
  | noReference
  | unknownReference (written : String)
  | emptyReference (target : DeclId)
  | cycle (path : List DeclId)
  | contested (interface first second : String)
  | noProduction
  | unknownProduction (written : String)
  | unresolvedProduction (id : DeclId)
  | outsideSnapshot
  deriving DecidableEq, Repr

namespace Cause

/-- A reference that cannot be used is a matter of configuration; a signature that cannot be lifted
and a walk that contradicts itself are matters of resolution. -/
def kind : Cause → FaultKind
  | unknownWrapped _ | unclassified _ _ | cycle _ | contested _ _ _ => .resolution
  | _ => .configuration

def cycleOpening : String := "circular module reference"

def targetOpening : String := "effects module annotation must reference a valid target type"

def wrappedOpening : String :=
  "asynchronous value-returning methods must declare their wrapped type"

def referenceOpening : String :=
  "module reference annotation must reference a resolvable declaration"

def productionOpening : String :=
  "test runtime annotation must reference a resolved production runtime"

def pathText (path : List DeclId) : String := " -> ".intercalate (path.map DeclId.text)

def message : Cause → String
  | repeatedDeclaration => "declaration appears more than once in the snapshot"
  | repeatedAnnotation kind => s!"annotation '{kind}' may appear at most once"
  | noTarget => targetOpening
  | unknownTarget written => s!"{targetOpening} ('{written}' does not resolve)"
  | namelessTarget target => s!"{targetOpening} ('{target.text}' has no usable name)"
  | unknownWrapped written => s!"{wrappedOpening} (found '{written}')"
  | unclassified method written => s!"method '{method}': {wrappedOpening} (found '{written}')"
  | notARuntime => "declaration is not marked as a composition root"
  | noReference => referenceOpening
  | unknownReference written => s!"{referenceOpening} ('{written}' does not resolve)"
  | emptyReference target => s!"{referenceOpening} ('{target.text}' declares no modules)"
  | cycle path => s!"{cycleOpening}: {pathText path}"
  | contested interface first second =>
      s!"capability interface '{interface}' is produced by two different target types: "
        ++ s!"'{first}' and '{second}'"
  | noProduction => productionOpening
  | unknownProduction written => s!"{productionOpening} ('{written}' does not resolve)"
  | unresolvedProduction id => s!"{productionOpening} ('{id.text}' was not resolved)"
  | outsideSnapshot => "declaration is not part of the snapshot"

def blame (cause : Cause) (declaration : DeclId) : Fault :=
  ⟨cause.kind, declaration, cause.message⟩

end Cause

/-- The value that was found, or the fault that its absence is. -/
@[macro_inline] def orFault {α : Type} (found : Option α) (fault : Fault) : Except Fault α :=
  match found with
  | some value => .ok value
  | none => .error fault

end EffectModel
