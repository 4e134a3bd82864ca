import EffectModel.Fault
import Mathlib.Data.List.Infix

/-! What a message tells of its cause. Main statement: the opening of the messages about cycles stands
over no other cause. -/
namespace EffectModel

namespace Cause

variable {cause : Cause}

def isCycle : Cause → Bool
  | cycle _ => true
  | _ => false

theorem isCycle_iff : cause.isCycle = true ↔ ∃ path, cause = .cycle path := by
  cases cause <;> simp [isCycle]

theorem isCycle_eq_false (configuration : cause.kind = .configuration) : cause.isCycle = false := by
  cases cause with
  | cycle path => cases configuration
  | _ => rfl

/-- The opening of a message about anything else differs within two characters. -/
private theorem take_message_ne (other : cause.isCycle = false) :
    cause.message.toList.take 2 ≠ cycleOpening.toList.take 2 := by
  unfold message
  cases cause with
  | cycle path => simp [isCycle] at other
  | _ => simp [targetOpening, wrappedOpening, referenceOpening, productionOpening, cycleOpening,
      toString]

theorem opening_prefix_message_iff :
    cycleOpening.toList <+: cause.message.toList ↔ cause.isCycle = true := by
  constructor
  · intro opens
    by_contra other
    apply take_message_ne (Bool.eq_false_iff.mpr other)
    obtain ⟨rest, same⟩ := opens
    rw [← same]
    rfl
  · intro cyclic
    obtain ⟨path, rfl⟩ := isCycle_iff.mp cyclic
    unfold message
    simp [toString]

end Cause

/-- Whether a message begins as those about cycles do. -/
def Fault.tellsOfCycle (fault : Fault) : Prop :=
  Cause.cycleOpening.toList <+: fault.message.toList

/-- Whether a declaration is to blame for a fault that is no cycle. -/
def Fault.IsOwn (fault : Fault) (id : DeclId) : Prop :=
  ∃ cause : Cause, cause.isCycle = false ∧ cause.blame id = fault

/-- Whether a declaration is to blame for a fault of its annotations. -/
def Fault.IsMisconfigured (fault : Fault) (id : DeclId) : Prop :=
  ∃ cause : Cause, cause.kind = .configuration ∧ cause.blame id = fault

theorem Fault.tellsOfCycle_blame_iff {cause : Cause} {id : DeclId} :
    (cause.blame id).tellsOfCycle ↔ cause.isCycle = true :=
  Cause.opening_prefix_message_iff

namespace Fault

variable {fault : Fault} {id : DeclId}

theorem IsOwn.not_tellsOfCycle (own : fault.IsOwn id) : ¬ fault.tellsOfCycle := by
  obtain ⟨cause, other, rfl⟩ := own
  simp [tellsOfCycle_blame_iff, other]

theorem IsOwn.declaration_eq (own : fault.IsOwn id) : fault.declaration = id := by
  obtain ⟨_, _, rfl⟩ := own
  rfl

theorem IsMisconfigured.kind_eq (misconfigured : fault.IsMisconfigured id) :
    fault.kind = .configuration := by
  obtain ⟨_, kind, rfl⟩ := misconfigured
  exact kind

theorem IsMisconfigured.isOwn (misconfigured : fault.IsMisconfigured id) : fault.IsOwn id := by
  obtain ⟨cause, kind, same⟩ := misconfigured
  exact ⟨cause, Cause.isCycle_eq_false kind, same⟩

end Fault

end EffectModel
