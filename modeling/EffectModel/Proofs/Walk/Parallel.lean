import EffectModel.Proofs.Walk.Course

/-! Walks over two snapshots, side by side. Main statement: where the references of related
declarations are met alike, the walks from related roots come to the same end. -/
namespace EffectModel.Walk

variable {settings : Settings} {snapshot snapshot' : Snapshot}
variable {related : Declaration → Declaration → Prop} {walk opened : Walk}
variable {owner owner' found root root' : Declaration} {notes notes' : List Annotation}
variable {fault : Fault} {outcome : Except Fault Walk}
variable {result : Except Fault (Option (Declaration × Walk))}

/-- References that are met alike: both halt their walks by one fault, both are passed over, or both
open related declarations, and the walks go on from the same state. -/
abbrev MetAlike (related : Declaration → Declaration → Prop) :
    (first second : Except Fault (Option (Declaration × Walk))) → Prop :=
  Alike (Option.Rel fun entry entry' => related entry.1 entry'.1 ∧ entry.2 = entry'.2)

/-- References of two owners that correspond one by one, and are met alike wherever the walks
stand. -/
def Alongside (settings : Settings) (snapshot snapshot' : Snapshot)
    (related : Declaration → Declaration → Prop) (owner owner' : Declaration) :
    (notes notes' : List Annotation) → Prop :=
  List.Forall₂ fun note note' => ∀ walk, MetAlike related
    (meet settings snapshot walk owner note) (meet settings snapshot' walk owner' note')

/-- Two snapshots in which related declarations lead walks the same way. -/
structure Parallel (settings : Settings) (snapshot snapshot' : Snapshot)
    (related : Declaration → Declaration → Prop) : Prop where
  id_eq : ∀ {owner owner'}, related owner owner' → owner.id = owner'.id
  alongside : ∀ {owner owner'}, related owner owner' →
    Alongside settings snapshot snapshot' related owner owner' (references settings owner)
      (references settings owner')

namespace MetAlike

theorem eq_of_halted (alike : MetAlike related (.error fault) result) : result = .error fault := by
  cases alike
  rfl

theorem eq_of_passed (alike : MetAlike related (.ok none) result) : result = .ok none := by
  cases alike with
  | value same =>
    cases same
    rfl

theorem exists_of_opened (alike : MetAlike related (.ok (some (found, opened))) result) :
    ∃ found', related found found' ∧ result = .ok (some (found', opened)) := by
  cases alike with
  | value same =>
    cases same with
    | some both =>
      obtain ⟨same, rfl⟩ := both
      exact ⟨_, same, rfl⟩

end MetAlike

namespace Parallel

variable (parallel : Parallel settings snapshot snapshot' related)
include parallel

/-- The induction is over the course on the one side; the references on the other side keep up with
it. -/
theorem course (course : Course settings snapshot walk owner notes outcome)
    (alongside : Alongside settings snapshot snapshot' related owner owner' notes notes') :
    Course settings snapshot' walk owner' notes' outcome := by
  induction course generalizing owner' notes' with
  | done =>
    cases alongside
    exact .done
  | halted met =>
    cases alongside with
    | cons alike _ => exact .halted (met ▸ alike _).eq_of_halted
  | passed met after ih =>
    cases alongside with
    | cons alike rest => exact .passed (met ▸ alike _).eq_of_passed (ih rest)
  | lost met below ih =>
    cases alongside with
    | cons alike _ =>
      obtain ⟨found', same, met'⟩ := (met ▸ alike _).exists_of_opened
      exact .lost met' (ih (parallel.alongside same))
  | closed met below after ihBelow ihAfter =>
    cases alongside with
    | cons alike rest =>
      obtain ⟨found', same, met'⟩ := (met ▸ alike _).exists_of_opened
      refine .closed met' (ihBelow (parallel.alongside same)) ?_
      rw [← parallel.id_eq same]
      exact ihAfter rest

/-- The depth that the walks are given differs with the snapshots, and makes no difference. -/
theorem ofRoot_eq (same : related root root') :
    ofRoot settings snapshot root = ofRoot settings snapshot' root' := by
  have course := parallel.course (course_ofAnyRoot settings snapshot root) (parallel.alongside same)
  rw [parallel.id_eq same] at course
  exact (ofAnyRoot_eq_iff.mpr course).symm

end Parallel

end EffectModel.Walk
