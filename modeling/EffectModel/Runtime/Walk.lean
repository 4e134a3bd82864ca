import EffectModel.Module.Build

/-! Walking the references of a composition root, depth first. Each declaration that is reached
opens once, gives its capabilities and then its own references; two targets may not share an
interface, and no declaration may lead back to one that is still open. -/
namespace EffectModel

/-- One dependency of a runtime, and the interface through which it is asked for. -/
structure Capability where
  interface : String
  property : String
  parameter : String
  dependency : TypeUse
  deriving DecidableEq, Repr, Inhabited

namespace Capability

def ofModule (effectModule : EffectModule) : Capability where
  interface := effectModule.identifiers.interface
  property := effectModule.identifiers.property
  parameter := effectModule.identifiers.parameter
  dependency := effectModule.targetType

/-- What tells the dependencies of two capabilities apart. -/
def identity (capability : Capability) : String := capability.dependency.identity

end Capability

/-- A composition root with all capabilities it needs. -/
structure Runtime where
  declaration : DeclId
  name : String
  scope : String
  access : Access
  capabilities : List Capability
  deriving DecidableEq, Repr, Inhabited

namespace Runtime

def capability? (runtime : Runtime) (interface : String) : Option Capability :=
  runtime.capabilities.find? (fun capability => capability.interface == interface)

def interfaces (runtime : Runtime) : List String :=
  runtime.capabilities.map Capability.interface

end Runtime

structure Walk where
  root : DeclId
  /-- The declarations that are open, the root first. -/
  stack : List DeclId
  /-- The declarations that have been closed. -/
  expanded : List DeclId := []
  capabilities : List Capability := []
  /-- The interfaces of the capabilities, each with the identity of what it depends on. -/
  dependencies : List (String × String) := []
  deriving Repr

namespace Walk

def start (root : DeclId) : Walk := { root, stack := [root] }

/-- The open declarations from the first occurrence of one, and this one again. -/
def cyclePath (walk : Walk) (closing : DeclId) : List DeclId :=
  walk.stack.dropWhile (· ≠ closing) ++ [closing]

/-- Takes a capability in. One whose interface is known is passed over if it depends on the same
type, and is a fault otherwise. -/
def absorb (walk : Walk) (capability : Capability) : Except Fault Walk :=
  match walk.dependencies.lookup capability.interface with
  | none =>
      .ok
        { walk with
          capabilities := walk.capabilities ++ [capability]
          dependencies := (capability.interface, capability.identity) :: walk.dependencies }
  | some known =>
      if known = capability.identity then .ok walk
      else
        .error ((Cause.contested capability.interface known capability.identity).blame walk.root)

def enter (walk : Walk) (id : DeclId) : Walk := { walk with stack := walk.stack ++ [id] }

def leave (walk : Walk) (id : DeclId) : Walk :=
  { walk with stack := walk.stack.dropLast, expanded := id :: walk.expanded }

variable (settings : Settings) (snapshot : Snapshot)

def referenced (owner : Declaration) (note : Annotation) : Except Fault Declaration := do
  let reference ← orFault (note.usableReference settings.vocabulary.targetKey)
    (Cause.noReference.blame owner.id)
  orFault (snapshot.resolve reference) ((Cause.unknownReference reference.display).blame owner.id)

def references (owner : Declaration) : List Annotation :=
  owner.annotationsOf settings.vocabulary.usesKind

def contributes (declaration : Declaration) : Bool :=
  EffectModule.isMarked settings declaration
    || declaration.hasAnnotation settings.vocabulary.usesKind

def follow (visit : Walk → Declaration → Except Fault Walk) (owner : Declaration) (walk : Walk) :
    Except Fault Walk :=
  (references settings owner).foldlM (fun walk note => do
    visit walk (← referenced settings snapshot owner note)) walk

/-- Opens a declaration and takes in the capabilities of its own modules. -/
def openUp (walk : Walk) (declaration : Declaration) : Except Fault Walk := do
  let modules ← EffectModule.buildAll settings snapshot declaration
  (modules.map Capability.ofModule).foldlM absorb (walk.enter declaration.id)

/-- Visits a declaration. The fuel bounds how deep visits lie one inside the other. -/
def visit : Nat → Walk → Declaration → Except Fault Walk
  | 0, walk, declaration =>
      .error ((Cause.cycle (walk.cyclePath declaration.id)).blame walk.root)
  | fuel + 1, walk, declaration =>
      if declaration.id ∈ walk.expanded then .ok walk
      else if declaration.id ∈ walk.stack then
        .error ((Cause.cycle (walk.cyclePath declaration.id)).blame walk.root)
      else if !contributes settings declaration then
        .error ((Cause.emptyReference declaration.id).blame walk.root)
      else do
        let opened ← openUp settings snapshot walk declaration
        let walked ← follow settings snapshot (visit fuel) declaration opened
        .ok (walked.leave declaration.id)

/-- The whole walk from a root. The declarations that are open at a time are distinct, so their
number bounds the depth. -/
def ofRoot (root : Declaration) : Except Fault Walk :=
  follow settings snapshot (visit settings snapshot (snapshot.declarations.length + 1)) root
    (start root.id)

end Walk

namespace Runtime

variable (settings : Settings) (snapshot : Snapshot)

def isMarked (declaration : Declaration) : Bool :=
  declaration.hasAnnotation settings.vocabulary.runtimeKind

def aggregate (root : Declaration) : Except Fault Runtime :=
  if isMarked settings root then
    (Walk.ofRoot settings snapshot root).map (fun walk =>
      ⟨root.id, root.name, root.scope, root.access, walk.capabilities⟩)
  else .error (Cause.notARuntime.blame root.id)

end Runtime

end EffectModel
