import EffectModel.Declaration
import EffectModel.Lifting.Shape

namespace EffectModel

/-- How a method becomes an effect: whether it is awaited, and what becomes of its result. -/
inductive Strategy where
  | asyncVoid
  | asyncNullable
  | asyncValue
  | syncVoid
  | syncNullable
  | syncValue
  deriving DecidableEq, Repr, Inhabited

namespace Strategy

def all : List Strategy :=
  [asyncVoid, asyncNullable, asyncValue, syncVoid, syncNullable, syncValue]

def name : Strategy → String
  | asyncVoid => "AsyncVoid"
  | asyncNullable => "AsyncNullableToOption"
  | asyncValue => "AsyncValue"
  | syncVoid => "SyncVoid"
  | syncNullable => "SyncNullableToOption"
  | syncValue => "SyncValue"

def isAsync : Strategy → Bool
  | asyncVoid | asyncNullable | asyncValue => true
  | _ => false

def isVoid : Strategy → Bool
  | asyncVoid | syncVoid => true
  | _ => false

def isNullable : Strategy → Bool
  | asyncNullable | syncNullable => true
  | _ => false

def order (first second : Strategy) : Ordering :=
  compare (all.idxOf first) (all.idxOf second)

end Strategy

/-- The type an effect produces: nothing of interest, a value, or a value that may be absent. -/
inductive Produced where
  | unit
  | value (use : TypeUse)
  | optional (use : TypeUse)
  deriving DecidableEq, Repr, Inhabited

namespace Produced

def asTypeUse (rules : LiftingRules) : Produced → TypeUse
  | unit => .named rules.unitType .structType
  | value use => use
  | optional inner => .generic rules.optionType .structType [inner]

def display (rules : LiftingRules) (produced : Produced) : String :=
  (produced.asTypeUse rules).display

end Produced

structure Classification where
  strategy : Strategy
  produced : Produced
  deriving DecidableEq, Repr, Inhabited

/-- The result of the effect: a nullable strategy makes its value optional. -/
def Classification.effectResult (classification : Classification) : Produced :=
  match classification.produced with
  | .value inner => if classification.strategy.isNullable then .optional inner else .value inner
  | produced => produced

namespace LiftingRules

/-- The classification of a declared return type, unless it is awaited for something unknown. -/
def classify? (rules : LiftingRules) (declared : TypeUse) : Option Classification :=
  match rules.shape declared with
  | ⟨.async, .void⟩ => some ⟨.asyncVoid, .unit⟩
  | ⟨.async, .nullable inner⟩ => some ⟨.asyncNullable, .optional inner⟩
  | ⟨.async, .value inner⟩ => some ⟨.asyncValue, .value inner⟩
  | ⟨.async, .unresolved⟩ => none
  | ⟨.sync, .void⟩ => some ⟨.syncVoid, .unit⟩
  | ⟨.sync, .nullable inner⟩ => some ⟨.syncNullable, .value inner⟩
  | ⟨.sync, .value _⟩ => some ⟨.syncValue, .value declared⟩
  | ⟨.sync, .unresolved⟩ => some ⟨.syncValue, .value declared⟩

def classify (rules : LiftingRules) (owner : DeclId) (declared : TypeUse) :
    Except Fault Classification :=
  orFault (rules.classify? declared) ((Cause.unknownWrapped declared.display).blame owner)

def classifyMethod (rules : LiftingRules) (owner : DeclId) (method : Method) :
    Except Fault Classification :=
  orFault (rules.classify? method.returnType)
    ((Cause.unclassified method.name method.returnType.display).blame owner)

end LiftingRules

end EffectModel
