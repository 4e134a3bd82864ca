import EffectModel.Proofs.Walk.Halt
import Mathlib.Data.List.Chain

/-! The trail of a walk: what is open at a time leads from the root, reference by reference, to where
the walk stands. Main statement: a reference back into the trail closes a circle. -/
namespace EffectModel.Walk

section Definitions

variable (settings : Settings) (snapshot : Snapshot)

/-- Whether a declaration with the first identity has a reference that leads to one with the
second. -/
def Refers (first second : DeclId) : Prop :=
  ∃ owner ∈ snapshot.declarations, ∃ found, owner.id = first ∧ found.id = second ∧
    Leads settings snapshot owner found

/-- A circle of references, which comes back to where it begins and meets nothing else twice. -/
structure Circle (path : List DeclId) : Prop where
  long : 2 ≤ path.length
  closed : path.head? = path.getLast?
  distinct : path.dropLast.Nodup
  linked : path.IsChain (Refers settings snapshot)

/-- What is open when a walk from a root stands at an owner. -/
structure Trail (root : Declaration) (walk : Walk) (owner : Declaration) : Prop where
  held : owner ∈ snapshot.declarations
  origin : walk.root = root.id
  begins : walk.stack.head? = some root.id
  ends : walk.stack.getLast? = some owner.id
  distinct : walk.stack.Nodup
  linked : walk.stack.IsChain (Refers settings snapshot)

end Definitions

variable {settings : Settings} {snapshot : Snapshot} {walk opened walked : Walk} {closing : DeclId}
variable {root owner found : Declaration} {note : Annotation} {before after : List DeclId}

theorem cyclePath_eq (split : walk.stack = before ++ closing :: after) (fresh : closing ∉ before) :
    walk.cyclePath closing = closing :: after ++ [closing] := by
  have skipped : ∀ id ∈ before, decide (id ≠ closing) = true := by
    intro id member
    exact decide_eq_true fun same => fresh (same ▸ member)
  rw [cyclePath, split, List.dropWhile_append_of_pos skipped, List.dropWhile_cons_of_neg (by simp)]

namespace Trail

theorem start (present : root ∈ snapshot.declarations) :
    Trail settings snapshot root (Walk.start root.id) root :=
  ⟨present, rfl, rfl, rfl, List.nodup_singleton _, .singleton _⟩

variable (trail : Trail settings snapshot root walk owner)
include trail

theorem refers (leads : Leads settings snapshot owner found) :
    Refers settings snapshot owner.id found.id :=
  ⟨owner, trail.held, found, rfl, rfl, leads⟩

theorem of_meet (listed : note ∈ references settings owner)
    (met : meet settings snapshot walk owner note = .ok (some (found, opened))) :
    Trail settings snapshot root opened found := by
  have leads : Leads settings snapshot owner found :=
    leads_iff.mpr ⟨note, listed, (meet_eq_some_iff.mp met).1⟩
  have longer : opened.stack = walk.stack ++ [found.id] := stack_of_meet met
  refine ⟨leads.mem, (root_of_meet met).trans trail.origin, ?_, ?_,
    nodup_stack_of_meet met trail.distinct, ?_⟩
  · rw [longer, List.head?_append, trail.begins]
    rfl
  · rw [longer, List.getLast?_concat]
  · rw [longer, List.isChain_append]
    refine ⟨trail.linked, .singleton _, ?_⟩
    intro last isLast first isFirst
    cases Option.mem_unique isLast trail.ends
    cases isFirst
    exact trail.refers leads

/-- Behind a declaration that was opened and closed, the same is open. -/
theorem of_leave
    (met : meet settings snapshot walk owner note = .ok (some (found, opened)))
    (below : Course settings snapshot opened found (references settings found) (.ok walked)) :
    Trail settings snapshot root (walked.leave found.id) owner := by
  have restored : (walked.leave found.id).stack = walk.stack :=
    stack_of_leave met below.stack_eq
  have origin : (walked.leave found.id).root = root.id :=
    (below.root_eq.trans (root_of_meet met)).trans trail.origin
  exact ⟨trail.held, origin, restored ▸ trail.begins, restored ▸ trail.ends,
    restored ▸ trail.distinct, restored ▸ trail.linked⟩

/-- A reference back to what is open closes a circle, which is the trail from there on. -/
theorem circle (leads : Leads settings snapshot owner found) (entered : found.id ∈ walk.stack) :
    Circle settings snapshot (walk.cyclePath found.id) ∧
      (walk.cyclePath found.id).head? = some found.id := by
  obtain ⟨before, after, split, fresh⟩ := List.eq_append_cons_of_mem entered
  have suffix : found.id :: after <:+ walk.stack := ⟨before, split.symm⟩
  have last : (found.id :: after).getLast? = some owner.id := by
    rw [← trail.ends, split, List.getLast?_append_of_ne_nil _ (List.cons_ne_nil _ _)]
  rw [cyclePath_eq split fresh]
  refine ⟨⟨by simp, ?_, ?_, ?_⟩, rfl⟩
  · rw [List.getLast?_concat]
    rfl
  · rw [List.dropLast_concat]
    exact trail.distinct.sublist suffix.sublist
  · rw [List.isChain_append]
    refine ⟨trail.linked.suffix suffix, .singleton _, ?_⟩
    intro id isLast id' isFirst
    cases Option.mem_unique isLast last
    cases isFirst
    exact trail.refers leads

end Trail

end EffectModel.Walk
