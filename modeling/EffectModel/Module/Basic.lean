import EffectModel.Lifting.Classification

namespace EffectModel

/-- A parameter of an effect, with its type also in writing. -/
structure EffectParameter where
  name : String
  written : String
  type : TypeUse
  default : Option String
  deriving DecidableEq, Repr, Inhabited

/-- An effect: a method of the target under a name of its own. -/
structure Effect where
  name : String
  source : String
  strategy : Strategy
  produced : Produced
  /-- The produced type in writing. -/
  producedText : String
  /-- The result of the effect in writing. -/
  resultText : String
  parameters : List EffectParameter
  deriving DecidableEq, Repr, Inhabited

def Effect.isRenamed (effect : Effect) : Bool := effect.name ≠ effect.source

structure RecordCollection where
  property : String
  element : TypeUse
  deriving DecidableEq, Repr, Inhabited

structure Identifiers where
  interface : String
  property : String
  parameter : String
  deriving DecidableEq, Repr, Inhabited

structure EffectModule where
  name : String
  container : DeclId
  containerName : String
  containerScope : String
  containerAccess : Access
  targetType : TypeUse
  target : DeclId
  identifiers : Identifiers
  effects : List Effect
  instrumented : Bool
  isPersistenceContext : Bool
  recordCollections : List RecordCollection
  deriving DecidableEq, Repr, Inhabited

namespace EffectModule

def effect? (effectModule : EffectModule) (name : String) : Option Effect :=
  effectModule.effects.find? (fun effect => effect.name == name)

def sources (effectModule : EffectModule) : List String :=
  effectModule.effects.map Effect.source

end EffectModule

end EffectModel
