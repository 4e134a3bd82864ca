import EffectModel.Proofs.Runtime.Capabilities

/-! When a root is composed, told by what its references unfold to. Main statement: the walk of a
root, which the snapshot need not hold, ends exactly where its references unfold to declarations
that none of them halts at, that agree on their interfaces and do not bear the identity of the root;
what they offer is then what the root is composed of. -/
namespace EffectModel

open Walk

variable {settings : Settings} {snapshot : Snapshot} {root owner origin : Declaration}
variable {walk opened walked final : Walk} {note : Annotation} {notes : List Annotation}
variable {forest order order' inner heard : List Declaration} {runtime : Runtime}

namespace Walk

variable (settings snapshot) in
/-- What a root needs of all that its references unfold to, for its walk to end. -/
structure Unfolds (root : Declaration) (order : List Declaration) : Prop where
  led : ∀ note ∈ references settings root, ∃ found,
    destination settings snapshot note = some found
  unfolding : Unfolding settings snapshot (destinations settings snapshot root) order
  sound : ∀ declaration ∈ order, Sound settings snapshot declaration
  apart : root.id ∉ order.map Declaration.id
  agree : Agree (order.flatMap (offered settings snapshot))

theorem map_destination_eq
    (led : ∀ note ∈ notes, ∃ found, destination settings snapshot note = some found) :
    notes.map (destination settings snapshot) =
      (notes.filterMap (destination settings snapshot)).map some := by
  induction notes with
  | nil => rfl
  | cons note rest ih =>
    obtain ⟨found, leads⟩ := led note List.mem_cons_self
    rw [List.map_cons, List.filterMap_cons, leads, List.map_cons,
      ih fun other member => led other (List.mem_cons_of_mem _ member)]

/-- The induction is over the unfolding. What is opened on the way to a declaration stands before it
and not below it, so that no reference leads back to what is open. -/
theorem Unfolding.course (unfolding : Unfolding settings snapshot forest order)
    (leads : notes.map (destination settings snapshot) = forest.map some)
    (sound : ∀ declaration ∈ order, Sound settings snapshot declaration)
    (fresh : ∀ declaration ∈ order, declaration.id ∉ walk.stack)
    (gathered : Gathered settings snapshot walk heard)
    (agree : Agree ((heard ++ order).flatMap (offered settings snapshot))) :
    ∃ final, Course settings snapshot walk owner notes (.ok final) := by
  induction unfolding generalizing walk owner notes heard with
  | nil =>
    cases List.map_eq_nil_iff.mp leads
    exact ⟨walk, .done⟩
  | @cons origin forest inner outer below after ihBelow ihAfter =>
    obtain ⟨note, rest, rfl, led, leadsAfter⟩ := List.map_eq_cons_iff.mp leads
    -- behind the origin and all below it, the walk goes on as far as the rest unfolds
    have goesOn : ∀ {next : Walk}, Gathered settings snapshot next (heard ++ origin :: inner) →
        next.stack = walk.stack → ∃ final, Course settings snapshot next owner rest (.ok final) := by
      intro next gatheredNext restored
      apply ihAfter leadsAfter _ _ gatheredNext
      · exact agree.of_declarations (by simp)
      · exact fun declaration member => sound declaration (by simp [member])
      · exact fun declaration member => restored ▸ fresh declaration (by simp [member])
    by_cases known : origin.id ∈ walk.expanded
    · obtain ⟨member, _, inner', unfolding', heardBelow, _⟩ :=
        gathered.entire (mem_of_destination led) known
      cases unfolding'.unique below
      obtain ⟨final, course⟩ := goesOn
        (gathered.append_of_subset (List.cons_subset.mpr ⟨member, heardBelow⟩)) rfl
      exact ⟨final, .passed (meet_eq_none_iff.mpr ⟨origin, led, known⟩) course⟩
    · have own : Sound settings snapshot origin := sound origin (by simp)
      obtain ⟨opened, met⟩ : ∃ opened, meet settings snapshot walk owner note =
          .ok (some (origin, opened)) :=
        gathered.exists_meet led own known (fresh origin (by simp)) (agree.of_declarations (by simp))
      obtain ⟨walked, course⟩ : ∃ walked, Course settings snapshot opened origin
          (references settings origin) (.ok walked) := by
        apply ihBelow (map_destination_eq own.led) _ _ (gathered.of_meet met)
        · exact agree.of_declarations
            (by simpa using List.subset_append_left (heard ++ [origin] ++ inner) outer)
        · exact fun declaration member => sound declaration (by simp [member])
        · exact below.fresh_of_meet met fun declaration member => fresh declaration (by simp [member])
      obtain ⟨final, courseAfter⟩ := goesOn (gathered.of_closed met course below)
        (stack_of_leave met course.stack_eq)
      exact ⟨final, .closed met course courseAfter⟩

/-- A walk that ends has gathered what its root needs. -/
theorem exists_unfolds_of_ofRoot (success : ofRoot settings snapshot root = .ok final) :
    ∃ order, Unfolds settings snapshot root order ∧
      final.capabilities =
        keepFirst Capability.interface (order.flatMap (offered settings snapshot)) := by
  have course := ofAnyRoot_eq_iff.mp success
  obtain ⟨order, gathers⟩ := course.gathers (.start root.id)
  have holds : final.Holds (order.flatMap (offered settings snapshot)) := gathers.gathered.holds
  refine ⟨order, ⟨gathers.led, gathers.unfolding, ?_, ?_, holds.agree⟩, holds.kept⟩
  · intro declaration member
    exact (gathers.entire (gathers.unfolding.mem_iff_reaches.mp member)).sound
  · have apart : final.stack.Disjoint final.expanded := course.disjoint (by simp [start])
    rw [course.stack_eq] at apart
    exact fun member => apart (List.mem_singleton_self root.id) (gathers.closed member)

theorem Unfolds.exists_ofRoot (unfolds : Unfolds settings snapshot root order) :
    ∃ final, ofRoot settings snapshot root = .ok final := by
  have fresh : ∀ declaration ∈ order, declaration.id ∉ (start root.id).stack := by
    intro declaration member entered
    exact unfolds.apart (List.mem_singleton.mp entered ▸ List.mem_map_of_mem member)
  obtain ⟨final, course⟩ := unfolds.unfolding.course (map_destination_eq unfolds.led)
    unfolds.sound fresh (.start root.id) unfolds.agree
  exact ⟨final, ofAnyRoot_eq_iff.mpr course⟩

end Walk

/-- A root is composed of what the declarations that its references unfold to offer, the first
capability for each interface, and cannot be composed otherwise. -/
theorem Runtime.aggregate_eq_ok_iff_unfolds : aggregate settings snapshot root = .ok runtime ↔
    isMarked settings root = true ∧ ∃ order, Unfolds settings snapshot root order ∧
      ⟨root.id, root.name, root.scope, root.access,
        keepFirst Capability.interface (order.flatMap (offered settings snapshot))⟩ = runtime := by
  rw [aggregate_eq_ok_iff]
  apply and_congr_right
  intro _
  constructor
  · rintro ⟨walk, walked, rfl⟩
    obtain ⟨order, unfolds, kept⟩ := exists_unfolds_of_ofRoot walked
    exact ⟨order, unfolds, by rw [kept]⟩
  · rintro ⟨order, unfolds, rfl⟩
    obtain ⟨walk, walked⟩ := unfolds.exists_ofRoot
    obtain ⟨order', unfolds', kept⟩ := exists_unfolds_of_ofRoot walked
    exact ⟨walk, walked, by rw [kept, unfolds'.unfolding.unique unfolds.unfolding]⟩

namespace Runtime

variable {declaration : Declaration} {capability : Capability}

theorem sound_of_aggregate (success : aggregate settings snapshot root = .ok runtime)
    (reaches : Reaches settings snapshot root declaration) :
    Sound settings snapshot declaration := by
  obtain ⟨_, order, unfolds, _⟩ := aggregate_eq_ok_iff_unfolds.mp success
  exact unfolds.sound declaration (unfolds.unfolding.mem_iff_reaches.mpr reaches)

theorem mem_capabilities_iff (success : aggregate settings snapshot root = .ok runtime) :
    capability ∈ runtime.capabilities ↔ ∃ declaration,
      Reaches settings snapshot root declaration ∧
        capability ∈ offered settings snapshot declaration := by
  obtain ⟨_, order, unfolds, rfl⟩ := aggregate_eq_ok_iff_unfolds.mp success
  rw [mem_keepFirst_offered_iff unfolds.agree]
  exact exists_congr fun _ => and_congr_left fun _ => unfolds.unfolding.mem_iff_reaches

theorem interfaces_nodup (success : aggregate settings snapshot root = .ok runtime) :
    runtime.interfaces.Nodup := by
  obtain ⟨_, order, _, rfl⟩ := aggregate_eq_ok_iff_unfolds.mp success
  exact keepFirst_keys_nodup _ _

theorem capability?_eq_some_iff (success : aggregate settings snapshot root = .ok runtime)
    {interface : String} : runtime.capability? interface = some capability ↔
      capability ∈ runtime.capabilities ∧ capability.interface = interface :=
  find?_eq_some_iff_of_nodup (interfaces_nodup success)

end Runtime

end EffectModel
