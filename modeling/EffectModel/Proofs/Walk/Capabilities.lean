import EffectModel.Proofs.FirstOccurrence
import EffectModel.Proofs.Outcome
import EffectModel.Runtime.Walk

/-! What a walk has taken in. Main statement: it holds the first capability for each interface it
has met, and the index of interfaces says what each of them depends on. -/
namespace EffectModel.Walk

variable {settings : Settings} {snapshot : Snapshot} {walk next : Walk} {declaration : Declaration}
variable {capability other : Capability} {met capabilities : List Capability}

/-- The same stage of a walk, whatever it has taken in meanwhile. -/
structure SamePlace (walk next : Walk) : Prop where
  root : next.root = walk.root
  stack : next.stack = walk.stack
  expanded : next.expanded = walk.expanded

theorem SamePlace.refl (walk : Walk) : SamePlace walk walk := ⟨rfl, rfl, rfl⟩

theorem SamePlace.trans {later : Walk} (first : SamePlace walk next)
    (second : SamePlace next later) : SamePlace walk later :=
  ⟨second.root.trans first.root, second.stack.trans first.stack,
    second.expanded.trans first.expanded⟩

/-- A capability taken in for the first time. -/
def added (walk : Walk) (capability : Capability) : Walk :=
  { walk with
    capabilities := walk.capabilities ++ [capability]
    dependencies := (capability.interface, capability.identity) :: walk.dependencies }

theorem absorb_eq_ok_iff : walk.absorb capability = .ok next ↔
    walk.dependencies.lookup capability.interface = none ∧ walk.added capability = next ∨
      walk.dependencies.lookup capability.interface = some capability.identity ∧ walk = next := by
  cases found : walk.dependencies.lookup capability.interface with
  | none => simp [absorb, found, added]
  | some known =>
    by_cases same : known = capability.identity
    · simp [absorb, found, same]
    · simp [absorb, found, same]

theorem absorb_samePlace (success : walk.absorb capability = .ok next) : SamePlace walk next := by
  rcases absorb_eq_ok_iff.mp success with ⟨_, rfl⟩ | ⟨_, rfl⟩
  · exact ⟨rfl, rfl, rfl⟩
  · exact .refl _

theorem absorbAll_samePlace (success : capabilities.foldlM absorb walk = .ok next) :
    SamePlace walk next := by
  induction capabilities generalizing walk with
  | nil => cases success; exact .refl _
  | cons capability rest ih =>
    rw [List.foldlM_cons, bind_eq_ok_iff] at success
    obtain ⟨middle, first, remaining⟩ := success
    exact (absorb_samePlace first).trans (ih remaining)

/-- What a walk holds after it has met some capabilities, those it passed over among them. -/
structure Holds (walk : Walk) (met : List Capability) : Prop where
  kept : walk.capabilities = keepFirst Capability.interface met
  indexed : walk.dependencies =
    (walk.capabilities.map (fun capability => (capability.interface, capability.identity))).reverse
  agreed : ∀ capability ∈ met,
    walk.dependencies.lookup capability.interface = some capability.identity

theorem Holds.start (root : DeclId) : (start root).Holds [] :=
  ⟨rfl, rfl, by simp⟩

theorem Holds.enter (holds : walk.Holds met) (id : DeclId) : (walk.enter id).Holds met :=
  ⟨holds.kept, holds.indexed, holds.agreed⟩

theorem Holds.leave (holds : walk.Holds met) (id : DeclId) : (walk.leave id).Holds met :=
  ⟨holds.kept, holds.indexed, holds.agreed⟩

/-- Meeting again what was met changes nothing. -/
theorem Holds.append_of_subset (holds : walk.Holds met) (known : capabilities ⊆ met) :
    walk.Holds (met ++ capabilities) := by
  refine ⟨?_, holds.indexed, ?_⟩
  · rw [keepFirst_append_of_known, holds.kept]
    exact fun capability member => List.mem_map_of_mem (known member)
  · intro capability member
    rcases List.mem_append.mp member with old | again
    · exact holds.agreed capability old
    · exact holds.agreed capability (known again)

theorem Holds.lookup_eq_none_iff (holds : walk.Holds met) {interface : String} :
    walk.dependencies.lookup interface = none ↔ interface ∉ met.map Capability.interface := by
  rw [List.lookup_eq_none_iff, holds.indexed, ← mem_keys_keepFirst, ← holds.kept]
  constructor
  · intro missing member
    obtain ⟨capability, held, rfl⟩ := List.mem_map.mp member
    simpa using missing (capability.interface, capability.identity)
      (List.mem_reverse.mpr (List.mem_map.mpr ⟨capability, held, rfl⟩))
  · intro absent entry listed
    obtain ⟨capability, held, rfl⟩ := List.mem_map.mp (List.mem_reverse.mp listed)
    simpa using fun same : interface = capability.interface =>
      absent (same ▸ List.mem_map_of_mem held)

/-- What is known of an interface is what some capability with it depends on. -/
theorem Holds.exists_of_lookup (holds : walk.Holds met) {interface known : String}
    (found : walk.dependencies.lookup interface = some known) :
    ∃ capability ∈ met, capability.interface = interface ∧ capability.identity = known := by
  have listed : interface ∈ met.map Capability.interface := by
    by_contra absent
    rw [holds.lookup_eq_none_iff.mpr absent] at found
    cases found
  obtain ⟨capability, member, rfl⟩ := List.mem_map.mp listed
  exact ⟨capability, member, rfl, Option.some.inj ((holds.agreed _ member).symm.trans found)⟩

theorem Holds.absorb (holds : walk.Holds met) (success : walk.absorb capability = .ok next) :
    next.Holds (met ++ [capability]) := by
  rcases absorb_eq_ok_iff.mp success with ⟨unknown, rfl⟩ | ⟨known, rfl⟩
  · have new := holds.lookup_eq_none_iff.mp unknown
    refine ⟨?_, ?_, ?_⟩
    · rw [keepFirst_concat_of_new new, ← holds.kept]
      rfl
    · simp [added, holds.indexed]
    · intro other member
      rcases List.mem_append.mp member with old | same
      · have different : other.interface ≠ capability.interface :=
          fun same => new (same ▸ List.mem_map_of_mem old)
        rw [added, List.lookup_cons, beq_eq_false_iff_ne.mpr different]
        exact holds.agreed other old
      · cases List.mem_singleton.mp same
        simp [added]
  · refine ⟨?_, holds.indexed, ?_⟩
    · rw [keepFirst_append_of_known, holds.kept]
      intro other member
      cases List.mem_singleton.mp member
      obtain ⟨earlier, held, same, _⟩ := holds.exists_of_lookup known
      exact same ▸ List.mem_map_of_mem held
    · intro other member
      rcases List.mem_append.mp member with old | same
      · exact holds.agreed other old
      · cases List.mem_singleton.mp same
        exact known

theorem Holds.absorbAll (holds : walk.Holds met)
    (success : capabilities.foldlM Walk.absorb walk = .ok next) :
    next.Holds (met ++ capabilities) := by
  induction capabilities generalizing walk met with
  | nil => cases success; simpa using holds
  | cons capability rest ih =>
    rw [List.foldlM_cons, bind_eq_ok_iff] at success
    obtain ⟨middle, first, remaining⟩ := success
    simpa [List.append_assoc] using ih (holds.absorb first) remaining

/-- A capability is only refused for one with its interface that depends on something else. -/
theorem Holds.absorb_total (holds : walk.Holds met)
    (agree : ∀ other ∈ met, other.interface = capability.interface →
      other.identity = capability.identity) : ∃ next, walk.absorb capability = .ok next := by
  cases found : walk.dependencies.lookup capability.interface with
  | none => exact ⟨_, absorb_eq_ok_iff.mpr (.inl ⟨found, rfl⟩)⟩
  | some known =>
    obtain ⟨other, held, same, identity⟩ := holds.exists_of_lookup found
    rw [← identity, agree other held same] at found
    exact ⟨walk, absorb_eq_ok_iff.mpr (.inr ⟨found, rfl⟩)⟩

/-- Capabilities that agree on what their interfaces depend on. -/
def Agree (capabilities : List Capability) : Prop :=
  ∀ first ∈ capabilities, ∀ second ∈ capabilities, first.interface = second.interface →
    first.identity = second.identity

/-- Capabilities that agree with others on what their interfaces depend on. -/
def Compatible (first second : List Capability) : Prop :=
  ∀ capability ∈ first, ∀ other ∈ second, capability.interface = other.interface →
    capability.identity = other.identity

theorem Agree.of_subset (agree : Agree met) (known : capabilities ⊆ met) : Agree capabilities :=
  fun first held second held' => agree first (known held) second (known held')

theorem agree_append_iff :
    Agree (met ++ capabilities) ↔ Agree met ∧ Agree capabilities ∧ Compatible met capabilities := by
  constructor
  · intro agree
    refine ⟨agree.of_subset (List.subset_append_left _ _),
      agree.of_subset (List.subset_append_right _ _), ?_⟩
    exact fun first held second held' =>
      agree first (List.mem_append_left _ held) second (List.mem_append_right _ held')
  · rintro ⟨agree, agree', compatible⟩ first held second held' same
    rcases List.mem_append.mp held with old | new <;>
      rcases List.mem_append.mp held' with old' | new'
    · exact agree first old second old' same
    · exact compatible first old second new' same
    · exact (compatible second old' first new same.symm).symm
    · exact agree' first new second new' same

/-- Of capabilities that agree, those that are kept speak for the others with their interfaces. -/
theorem compatible_keepFirst_iff (agree : Agree met) (agree' : Agree capabilities) :
    Compatible (keepFirst Capability.interface met) (keepFirst Capability.interface capabilities) ↔
      Compatible met capabilities := by
  constructor
  · intro compatible first held second held' same
    obtain ⟨one, kept, known⟩ := List.mem_map.mp
      (mem_keys_keepFirst.mpr (List.mem_map_of_mem (f := Capability.interface) held))
    obtain ⟨other, kept', known'⟩ := List.mem_map.mp
      (mem_keys_keepFirst.mpr (List.mem_map_of_mem (f := Capability.interface) held'))
    calc first.identity
      _ = one.identity := agree first held one (mem_of_mem_keepFirst kept) known.symm
      _ = other.identity := compatible one kept other kept' (known.trans (same.trans known'.symm))
      _ = second.identity := agree' other (mem_of_mem_keepFirst kept') second held' known'
  · exact fun compatible first held second held' =>
      compatible first (mem_of_mem_keepFirst held) second (mem_of_mem_keepFirst held')

theorem Holds.agree (holds : walk.Holds met) : Agree met := by
  intro first held second held' same
  have known := holds.agreed first held
  rw [same, holds.agreed second held'] at known
  exact (Option.some.inj known).symm

theorem Holds.absorbAll_total (holds : walk.Holds met) (agree : Agree (met ++ capabilities)) :
    ∃ next, capabilities.foldlM Walk.absorb walk = .ok next := by
  induction capabilities generalizing walk met with
  | nil => exact ⟨walk, rfl⟩
  | cons capability rest ih =>
    have alike : ∀ other ∈ met, other.interface = capability.interface →
        other.identity = capability.identity :=
      fun other held => agree other (by simp [held]) capability (by simp)
    obtain ⟨middle, first⟩ := holds.absorb_total alike
    obtain ⟨next, remaining⟩ := ih (holds.absorb first) (by simpa using agree)
    exact ⟨next, bind_eq_ok_iff.mpr ⟨middle, first, remaining⟩⟩

section OpenUp

variable (settings snapshot) in
/-- The capabilities of the modules of a declaration; none where one of them cannot be built. -/
def offered (declaration : Declaration) : List Capability :=
  ((EffectModule.buildAll settings snapshot declaration).toOption.getD []).map Capability.ofModule

variable {modules : List EffectModule}

theorem offered_eq (built : EffectModule.buildAll settings snapshot declaration = .ok modules) :
    offered settings snapshot declaration = modules.map Capability.ofModule := by
  simp [offered, built, Except.toOption]

theorem flatMap_offered_subset {declarations known : List Declaration}
    (part : declarations ⊆ known) :
    declarations.flatMap (offered settings snapshot) ⊆ known.flatMap (offered settings snapshot) := by
  intro capability member
  obtain ⟨declaration, listed, offers⟩ := List.mem_flatMap.mp member
  exact List.mem_flatMap.mpr ⟨declaration, part listed, offers⟩

theorem Agree.of_declarations {declarations known : List Declaration}
    (agree : Agree (known.flatMap (offered settings snapshot))) (part : declarations ⊆ known) :
    Agree (declarations.flatMap (offered settings snapshot)) :=
  agree.of_subset (flatMap_offered_subset part)

theorem openUp_eq_ok_iff : openUp settings snapshot walk declaration = .ok next ↔
    (∃ modules, EffectModule.buildAll settings snapshot declaration = .ok modules) ∧
      (offered settings snapshot declaration).foldlM absorb (walk.enter declaration.id) =
        .ok next := by
  rw [openUp, bind_eq_ok_iff]
  constructor
  · rintro ⟨modules, built, success⟩
    exact ⟨⟨modules, built⟩, offered_eq built ▸ success⟩
  · rintro ⟨⟨modules, built⟩, success⟩
    exact ⟨modules, built, offered_eq built ▸ success⟩

theorem openUp_samePlace (success : openUp settings snapshot walk declaration = .ok next) :
    SamePlace (walk.enter declaration.id) next :=
  absorbAll_samePlace (openUp_eq_ok_iff.mp success).2

theorem Holds.openUp (holds : walk.Holds met)
    (success : openUp settings snapshot walk declaration = .ok next) :
    next.Holds (met ++ offered settings snapshot declaration) :=
  (holds.enter declaration.id).absorbAll (openUp_eq_ok_iff.mp success).2

theorem Holds.openUp_total (holds : walk.Holds met)
    (built : ∃ modules, EffectModule.buildAll settings snapshot declaration = .ok modules)
    (agree : Agree (met ++ offered settings snapshot declaration)) :
    ∃ next, Walk.openUp settings snapshot walk declaration = .ok next := by
  obtain ⟨next, success⟩ := (holds.enter declaration.id).absorbAll_total agree
  exact ⟨next, openUp_eq_ok_iff.mpr ⟨built, success⟩⟩

end OpenUp

end EffectModel.Walk
