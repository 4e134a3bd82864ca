import EffectModel.Proofs.Sharing
import EffectModel.Proofs.Walk.Parallel

namespace EffectModel.Shares

open Walk

variable {settings : Settings} {known : Set DeclId} {snapshot snapshot' : Snapshot}
variable {owner found root : Declaration} {note : Annotation}

theorem annotation_of_reference (listed : note ∈ references settings owner) :
    note ∈ owner.annotations :=
  List.mem_of_mem_filter listed

variable (shares : Shares known snapshot snapshot')
include shares

theorem referenced_eq (kept : Kept known snapshot owner)
    (listed : note ∈ references settings owner) :
    referenced settings snapshot owner note = referenced settings snapshot' owner note := by
  unfold referenced
  cases usable : note.usableReference settings.vocabulary.targetKey with
  | none => rfl
  | some use =>
    have mentioned : use ∈ owner.typeUses :=
      Declaration.mem_typeUses_of_annotation (annotation_of_reference listed) usable
    simp only [orFault, bind, Except.bind, shares.resolve_eq kept mentioned]

theorem openUp_eq (kept : Kept known snapshot found) (walk : Walk) :
    openUp settings snapshot walk found = openUp settings snapshot' walk found := by
  rw [openUp, openUp, shares.buildAll_eq kept]

theorem meet_eq (kept : Kept known snapshot owner) (listed : note ∈ references settings owner)
    (walk : Walk) :
    meet settings snapshot walk owner note = meet settings snapshot' walk owner note := by
  rw [meet, meet, ← shares.referenced_eq kept listed]
  cases led : referenced settings snapshot owner note with
  | error fault => rfl
  | ok found =>
    have keptFound : Kept known snapshot found :=
      shares.kept_of_destination kept (annotation_of_reference listed)
        (referenced_eq_ok_iff.mp led)
    simp only [bind, Except.bind, shares.openUp_eq keptFound]

/-- Walks over both snapshots keep to what is shared, and go side by side there. -/
theorem parallel : Parallel settings snapshot snapshot'
    (fun owner owner' => owner = owner' ∧ Kept known snapshot owner) := by
  refine ⟨fun ⟨same, _⟩ => same ▸ rfl, ?_⟩
  rintro owner _ ⟨rfl, kept⟩
  refine List.forall₂_same.mpr fun note listed walk => ?_
  rw [← shares.meet_eq kept listed]
  cases met : meet settings snapshot walk owner note with
  | error fault => exact .fault fault
  | ok result =>
    cases result with
    | none => exact .value .none
    | some entry =>
      have led := (meet_eq_some_iff.mp met).1
      have keptFound := shares.kept_of_destination kept (annotation_of_reference listed) led
      exact .value (.some ⟨⟨rfl, keptFound⟩, rfl⟩)

theorem ofRoot_eq (kept : Kept known snapshot root) :
    ofRoot settings snapshot root = ofRoot settings snapshot' root :=
  shares.parallel.ofRoot_eq ⟨rfl, kept⟩

theorem aggregate_eq (kept : Kept known snapshot root) :
    Runtime.aggregate settings snapshot root = Runtime.aggregate settings snapshot' root := by
  rw [Runtime.aggregate, Runtime.aggregate, shares.ofRoot_eq kept]

end EffectModel.Shares
