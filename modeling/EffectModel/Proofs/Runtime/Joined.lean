import EffectModel.Proofs.Runtime.Unfolded

namespace EffectModel

open Walk

variable {settings : Settings} {snapshot : Snapshot} {first second root : Declaration}
variable {order order₁ order₂ : List Declaration} {runtime one other : Runtime}

/-- A root with the references of one root and then those of another. No reference sets them apart:
they bear one identity, or the snapshot holds all three of them. -/
structure Joins (settings : Settings) (snapshot : Snapshot) (first second root : Declaration) :
    Prop where
  references : references settings root = references settings first ++ references settings second
  marked : Runtime.isMarked settings root = true
  markedFirst : Runtime.isMarked settings first = true
  markedSecond : Runtime.isMarked settings second = true
  alike : first.id = root.id ∧ second.id = root.id ∨
    first ∈ snapshot.declarations ∧ second ∈ snapshot.declarations ∧ root ∈ snapshot.declarations

theorem capabilities_append : keepFirst Capability.interface
      ((order₁ ++ order₂).flatMap (offered settings snapshot)) =
    keepFirst Capability.interface (order₁.flatMap (offered settings snapshot)) ++
      (keepFirst Capability.interface (order₂.flatMap (offered settings snapshot))).filter
        (fun capability => capability.interface ∉
          (keepFirst Capability.interface (order₁.flatMap (offered settings snapshot))).map
            Capability.interface) := by
  rw [List.flatMap_append, keepFirst_append]
  simp only [mem_keys_keepFirst]

namespace Joins

variable (joins : Joins settings snapshot first second root)
include joins

theorem destinations_eq : destinations settings snapshot root =
    destinations settings snapshot first ++ destinations settings snapshot second := by
  rw [destinations, joins.references, List.filterMap_append]
  rfl

theorem apart_iff
    (unfolding₁ : Unfolding settings snapshot (destinations settings snapshot first) order₁)
    (unfolding₂ : Unfolding settings snapshot (destinations settings snapshot second) order₂) :
    root.id ∉ (order₁ ++ order₂).map Declaration.id ↔
      first.id ∉ order₁.map Declaration.id ∧ second.id ∉ order₂.map Declaration.id := by
  rcases joins.alike with ⟨same₁, same₂⟩ | ⟨held₁, held₂, held⟩
  · rw [same₁, same₂, List.map_append, List.mem_append, not_or]
  · have unfolding := unfolding₁.append unfolding₂
    rw [← joins.destinations_eq] at unfolding
    exact iff_of_true (unfolding.id_notMem held)
      ⟨unfolding₁.id_notMem held₁, unfolding₂.id_notMem held₂⟩

/-- The joined root needs what both need, and that both agree on the interfaces they share. -/
theorem unfolds_append_iff
    (unfolding₁ : Unfolding settings snapshot (destinations settings snapshot first) order₁)
    (unfolding₂ : Unfolding settings snapshot (destinations settings snapshot second) order₂) :
    Unfolds settings snapshot root (order₁ ++ order₂) ↔
      Unfolds settings snapshot first order₁ ∧ Unfolds settings snapshot second order₂ ∧
        Compatible (order₁.flatMap (offered settings snapshot))
          (order₂.flatMap (offered settings snapshot)) := by
  have unfolding := unfolding₁.append unfolding₂
  rw [← joins.destinations_eq] at unfolding
  constructor
  · rintro ⟨led, _, sound, apart, agree⟩
    rw [joins.references, List.forall_mem_append] at led
    rw [List.forall_mem_append] at sound
    rw [joins.apart_iff unfolding₁ unfolding₂] at apart
    rw [List.flatMap_append, agree_append_iff] at agree
    exact ⟨⟨led.1, unfolding₁, sound.1, apart.1, agree.1⟩,
      ⟨led.2, unfolding₂, sound.2, apart.2, agree.2.1⟩, agree.2.2⟩
  · rintro ⟨one, other, compatible⟩
    refine ⟨?_, unfolding, List.forall_mem_append.mpr ⟨one.sound, other.sound⟩,
      (joins.apart_iff unfolding₁ unfolding₂).mpr ⟨one.apart, other.apart⟩, ?_⟩
    · rw [joins.references]
      exact List.forall_mem_append.mpr ⟨one.led, other.led⟩
    · rw [List.flatMap_append]
      exact agree_append_iff.mpr ⟨one.agree, other.agree, compatible⟩

theorem exists_unfolds (unfolds : Unfolds settings snapshot root order) :
    ∃ order₁ order₂, Unfolds settings snapshot first order₁ ∧
      Unfolds settings snapshot second order₂ ∧
      Compatible (order₁.flatMap (offered settings snapshot))
        (order₂.flatMap (offered settings snapshot)) ∧ order₁ ++ order₂ = order := by
  have unfolding := unfolds.unfolding
  rw [joins.destinations_eq] at unfolding
  obtain ⟨order₁, order₂, unfolding₁, unfolding₂, rfl⟩ := unfolding_append_iff.mp unfolding
  obtain ⟨one, other, compatible⟩ := (joins.unfolds_append_iff unfolding₁ unfolding₂).mp unfolds
  exact ⟨order₁, order₂, one, other, compatible, rfl⟩

/-- References to what the first root reaches anyway add nothing that is not there. -/
theorem exists_unfolds_of_reached (unfolds : Unfolds settings snapshot first order)
    (known : ∀ note ∈ Walk.references settings second, ∃ found,
      destination settings snapshot note = some found ∧ Reaches settings snapshot first found) :
    ∃ again, Unfolds settings snapshot root (order ++ again) ∧ again ⊆ order := by
  have reached : ∀ found ∈ destinations settings snapshot second, found ∈ order := by
    intro found leads
    obtain ⟨note, listed, led⟩ := leads_iff.mp leads
    obtain ⟨same, led', reaches⟩ := known note listed
    cases led.symm.trans led'
    exact unfolds.unfolding.mem_iff_reaches.mpr reaches
  obtain ⟨again, unfolding⟩ := exists_unfolding_of_forall fun found leads =>
    exists_unfolding_of_acc (unfolds.unfolding.acc_of_mem (reached found leads))
  have within : again ⊆ order := by
    intro declaration member
    rcases unfolding.mem_iff.mp member with leads | ⟨middle, leads, further⟩
    · exact reached declaration leads
    · have reaches := unfolds.unfolding.mem_iff_reaches.mp (reached middle leads)
      exact unfolds.unfolding.mem_iff_reaches.mpr (reaches.trans further)
  have apart : second.id ∉ again.map Declaration.id := by
    rcases joins.alike with ⟨same₁, same₂⟩ | ⟨_, held, _⟩
    · rw [same₂, ← same₁]
      exact fun member => unfolds.apart (List.map_subset _ within member)
    · exact unfolding.id_notMem held
  have agree : Agree ((order ++ again).flatMap (offered settings snapshot)) :=
    unfolds.agree.of_declarations (List.append_subset.mpr ⟨List.Subset.refl _, within⟩)
  rw [List.flatMap_append, agree_append_iff] at agree
  refine ⟨again, (joins.unfolds_append_iff unfolds.unfolding unfolding).mpr ⟨unfolds, ?_, ?_⟩, within⟩
  · refine ⟨?_, unfolding, fun _ member => unfolds.sound _ (within member), apart, agree.2.1⟩
    intro note listed
    obtain ⟨found, led, _⟩ := known note listed
    exact ⟨found, led⟩
  · exact agree.2.2

end Joins

/-- A root with the references of two others is composed exactly where both are and they agree on
the interfaces that they share. It has the capabilities of the first and then the new ones of the
second, so that references which are added at the end never change what comes before; and references
to what is reached anyway change nothing. -/
theorem aggregate_of_joins (joins : Joins settings snapshot first second root) :
    ((∃ runtime, Runtime.aggregate settings snapshot root = .ok runtime) ↔
      ∃ one other, Runtime.aggregate settings snapshot first = .ok one ∧
        Runtime.aggregate settings snapshot second = .ok other ∧
        Compatible one.capabilities other.capabilities) ∧
    (∀ runtime one other, Runtime.aggregate settings snapshot root = .ok runtime →
      Runtime.aggregate settings snapshot first = .ok one →
      Runtime.aggregate settings snapshot second = .ok other →
        runtime.capabilities = one.capabilities ++ other.capabilities.filter
          (fun capability => capability.interface ∉ one.interfaces)) ∧
    (∀ runtime, Runtime.aggregate settings snapshot root = .ok runtime →
      ∃ one, Runtime.aggregate settings snapshot first = .ok one ∧
        one.capabilities <+: runtime.capabilities) ∧
    ∀ one, Runtime.aggregate settings snapshot first = .ok one →
      (∀ note ∈ references settings second, ∃ found,
        destination settings snapshot note = some found ∧ Reaches settings snapshot first found) →
      ∃ runtime, Runtime.aggregate settings snapshot root = .ok runtime ∧
        runtime.capabilities = one.capabilities := by
  simp only [Runtime.aggregate_eq_ok_iff_unfolds, joins.marked, joins.markedFirst,
    joins.markedSecond, true_and]
  refine ⟨⟨?_, ?_⟩, ?_, ?_, ?_⟩
  · rintro ⟨_, order, unfolds, rfl⟩
    obtain ⟨order₁, order₂, unfolds₁, unfolds₂, compatible, rfl⟩ := joins.exists_unfolds unfolds
    exact ⟨_, _, ⟨order₁, unfolds₁, rfl⟩, ⟨order₂, unfolds₂, rfl⟩,
      (compatible_keepFirst_iff unfolds₁.agree unfolds₂.agree).mpr compatible⟩
  · rintro ⟨_, _, ⟨order₁, unfolds₁, rfl⟩, ⟨order₂, unfolds₂, rfl⟩, compatible⟩
    rw [compatible_keepFirst_iff unfolds₁.agree unfolds₂.agree] at compatible
    exact ⟨_, _, (joins.unfolds_append_iff unfolds₁.unfolding unfolds₂.unfolding).mpr
      ⟨unfolds₁, unfolds₂, compatible⟩, rfl⟩
  · rintro _ _ _ ⟨order, unfolds, rfl⟩ ⟨order₁, unfolds₁, rfl⟩ ⟨order₂, unfolds₂, rfl⟩
    obtain ⟨order₁', order₂', unfolds₁', unfolds₂', _, rfl⟩ := joins.exists_unfolds unfolds
    cases unfolds₁.unfolding.unique unfolds₁'.unfolding
    cases unfolds₂.unfolding.unique unfolds₂'.unfolding
    exact capabilities_append
  · rintro _ ⟨order, unfolds, rfl⟩
    obtain ⟨order₁, order₂, unfolds₁, _, _, rfl⟩ := joins.exists_unfolds unfolds
    exact ⟨_, ⟨order₁, unfolds₁, rfl⟩, _, capabilities_append.symm⟩
  · rintro _ ⟨order, unfolds, rfl⟩ known
    obtain ⟨again, joined, within⟩ := joins.exists_unfolds_of_reached unfolds known
    refine ⟨_, ⟨order ++ again, joined, rfl⟩, ?_⟩
    dsimp only
    rw [List.flatMap_append]
    apply keepFirst_append_of_known
    exact fun capability member => List.mem_map_of_mem (flatMap_offered_subset within member)

namespace Sample

/-- The root of the diamond with its first reference alone. -/
def clockOnlyRoot : Declaration :=
  declared "App.Root" .classDecl [.bare "Runtime", pointing "Uses" "App.Clock"]

/-- The root of the diamond with its other references. -/
def mailFirstRoot : Declaration :=
  declared "App.Root" .classDecl
    [.bare "Runtime", pointing "Uses" "App.Mail", pointing "Uses" "App.Clock"]

theorem joins_diamond : Joins {} diamond clockOnlyRoot mailFirstRoot diamondRoot where
  references := by decide +kernel
  marked := by decide +kernel
  markedFirst := by decide +kernel
  markedSecond := by decide +kernel
  alike := .inl ⟨rfl, rfl⟩

end Sample

theorem aggregate_of_joins_diamond :
    Joins {} Sample.diamond Sample.clockOnlyRoot Sample.mailFirstRoot Sample.diamondRoot ∧
      ∃ runtime one other,
        Runtime.aggregate {} Sample.diamond Sample.diamondRoot = .ok runtime ∧
        Runtime.aggregate {} Sample.diamond Sample.clockOnlyRoot = .ok one ∧
        Runtime.aggregate {} Sample.diamond Sample.mailFirstRoot = .ok other ∧
        one.interfaces = ["IHasClock"] ∧ other.interfaces = ["IHasMail", "IHasClock"] ∧
        runtime.capabilities = one.capabilities ++
          other.capabilities.filter (fun capability => capability.interface ∉ one.interfaces) := by
  have offers : (Runtime.aggregate {} Sample.diamond Sample.clockOnlyRoot).map Runtime.interfaces =
      .ok ["IHasClock"] := by decide +kernel
  have offers' : (Runtime.aggregate {} Sample.diamond Sample.mailFirstRoot).map Runtime.interfaces =
      .ok ["IHasMail", "IHasClock"] := by decide +kernel
  have together : (Runtime.aggregate {} Sample.diamond Sample.diamondRoot).map Runtime.interfaces =
      .ok ["IHasClock", "IHasMail"] := by decide +kernel
  obtain ⟨one, success, interfaces⟩ := map_eq_ok_iff.mp offers
  obtain ⟨other, success', interfaces'⟩ := map_eq_ok_iff.mp offers'
  obtain ⟨runtime, composed, _⟩ := map_eq_ok_iff.mp together
  exact ⟨Sample.joins_diamond, runtime, one, other, composed, success, success', interfaces,
    interfaces', (aggregate_of_joins Sample.joins_diamond).2.1 runtime one other composed success
      success'⟩

end EffectModel
