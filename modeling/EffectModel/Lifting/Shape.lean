import EffectModel.Settings.Basic
import EffectModel.TypeUse

/-! The shape of a return type: whether it is awaited, and what it carries. Only the structure of
the written type is looked at. -/
namespace EffectModel

inductive Synchrony where
  | sync
  | async
  deriving DecidableEq, Repr

/-- What a method gives back once it has been awaited. -/
inductive ValueShape where
  | void
  | value (use : TypeUse)
  | nullable (use : TypeUse)
  | unresolved
  deriving DecidableEq, Repr

structure ReturnShape where
  synchrony : Synchrony
  value : ValueShape
  deriving DecidableEq, Repr

namespace LiftingRules

/-- A wrapper that is awaited; it takes one argument at the most. -/
def isAwaited (rules : LiftingRules) (use : TypeUse) : Bool :=
  !use.isError && rules.asyncWrappers.contains use.name && use.slotCount ≤ 1

def isVoid (rules : LiftingRules) (use : TypeUse) : Bool :=
  use.kind == .void || rules.voidNames.contains use.name

def isNullableWrapper (rules : LiftingRules) (use : TypeUse) : Bool :=
  rules.nullableWrappers.contains use.name && use.isGeneric

/-- What a type carries. A nullable wrapper and a nullable marker both come off. -/
def carried (rules : LiftingRules) (use : TypeUse) : ValueShape :=
  if rules.isVoid use then .void
  else if rules.isNullableWrapper use then
    if use.hasUnresolvedArgs then .unresolved
    else
      match use.args with
      | inner :: _ => .nullable inner.withoutNullable
      | [] => .unresolved
  else if use.isError then .unresolved
  else if use.nullable then .nullable use.withoutNullable
  else .value use

/-- What a wrapper carries once it has been awaited: nothing when it takes no argument. -/
def awaited (rules : LiftingRules) (wrapper : TypeUse) : ValueShape :=
  if !wrapper.isGeneric then .void
  else if wrapper.hasUnresolvedArgs then .unresolved
  else
    match wrapper.args with
    | inner :: _ => rules.carried inner
    | [] => .unresolved

def shape (rules : LiftingRules) (declared : TypeUse) : ReturnShape :=
  if rules.isAwaited declared then ⟨.async, rules.awaited declared⟩
  else ⟨.sync, rules.carried declared⟩

end LiftingRules

end EffectModel
