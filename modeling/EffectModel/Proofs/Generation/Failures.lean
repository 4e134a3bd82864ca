import EffectModel.Proofs.Generation.SingleEntry

/-! The failures of a run, told apart by declaration and stage. Main statement: a declaration fails
once at a stage, if it fails there at all. -/
namespace EffectModel

variable {settings : Settings} {snapshot : Snapshot} {output : Output} {failure : Failure}
variable {id : DeclId} {stage other : Stage} {fault : Fault}

namespace Output

/-- The failures of a declaration at a stage. -/
def failuresOf (output : Output) (id : DeclId) (stage : Stage) : List Failure :=
  output.failures.filter (fun failure => failure.declaration == id && failure.stage == stage)

theorem mem_failuresOf_iff : failure ∈ output.failuresOf id stage ↔
    failure ∈ output.failures ∧ failure.declaration = id ∧ failure.stage = stage := by
  simp [failuresOf]

theorem failuresOf_eq_nil_iff :
    output.failuresOf id stage = [] ↔ ∀ fault, ⟨id, stage, fault⟩ ∉ output.failures := by
  rw [List.eq_nil_iff_forall_not_mem]
  constructor
  · exact fun none fault member => none _ (mem_failuresOf_iff.mpr ⟨member, rfl, rfl⟩)
  · rintro none ⟨id, stage, fault⟩ member
    obtain ⟨listed, rfl, rfl⟩ := mem_failuresOf_iff.mp member
    exact none fault listed

theorem failuresOf_eq_filter_about : output.failuresOf id stage =
    (output.about id).failures.filter (fun failure => failure.stage == stage) := by
  simp [failuresOf, about, List.filter_filter, Bool.and_comm]

end Output

namespace Generation

theorem length_entrusted_le_one : (entrusted settings snapshot stage id).length ≤ 1 :=
  (List.length_filter_le _ _).trans Option.length_toList_le

theorem length_failed_le {α : Type} {build : Declaration → Except Fault α}
    {declarations : List Declaration} :
    (failed stage (outcomes build declarations)).length ≤ declarations.length :=
  (List.length_filterMap_le _ _).trans_eq (List.length_map _)

theorem filter_stage_failed {α : Type} {build : Declaration → Except Fault α}
    {declarations : List Declaration} :
    (failed other (outcomes build declarations)).filter (fun failure => failure.stage == stage) =
      if other = stage then failed other (outcomes build declarations) else [] := by
  split
  case isTrue same =>
    rw [List.filter_eq_self]
    intro failure member
    obtain ⟨_, _, _, _, recorded⟩ := mem_failed_iff.mp member
    simp [recorded, same]
  case isFalse different =>
    rw [List.filter_eq_nil_iff]
    intro failure member
    obtain ⟨_, _, _, _, recorded⟩ := mem_failed_iff.mp member
    simp [recorded, different]

/-- Each stage builds at most once from what bears an identity, so that it fails at most once. -/
theorem length_failuresOf_run : ((run settings snapshot).failuresOf id stage).length ≤ 1 := by
  rw [Output.failuresOf_eq_filter_about, about_run]
  simp only [assemble, List.filter_append, filter_stage_failed]
  cases stage <;> simpa using length_failed_le.trans length_entrusted_le_one

theorem failuresOf_run_eq (recorded : ⟨id, stage, fault⟩ ∈ (run settings snapshot).failures) :
    (run settings snapshot).failuresOf id stage = [⟨id, stage, fault⟩] := by
  have member : ⟨id, stage, fault⟩ ∈ (run settings snapshot).failuresOf id stage :=
    Output.mem_failuresOf_iff.mpr ⟨recorded, rfl, rfl⟩
  obtain ⟨only, single⟩ := List.length_eq_one_iff.mp
    (length_failuresOf_run.antisymm (List.length_pos_of_mem member))
  rw [single, List.mem_singleton] at member
  rw [single, member]

end Generation

end EffectModel
