import EffectModel.Proofs.Module.Identifiers
import EffectModel.Proofs.Walk.Capabilities

namespace EffectModel

section Definitions

/-- The names of a module. Its identifiers are those that its property gives. -/
structure EffectModule.IsNamed (settings : Settings) (built : EffectModule) : Prop where
  name : ∃ c ∈ built.name.toList, Text.isBlank c = false
  property : Text.IsTrimmed built.identifiers.property
  interface : built.identifiers.interface =
    settings.naming.capabilityPrefix ++ built.identifiers.property
  parameter : built.identifiers.parameter = Naming.camelCase built.identifiers.property
  parameter_ne : built.identifiers.parameter ≠ ""

/-- Two modules agree in all that they owe to their target, and give one capability. -/
structure EffectModule.Coincides (first second : EffectModule) : Prop where
  identifiers : first.identifiers = second.identifiers
  targetType : first.targetType = second.targetType
  isPersistenceContext : first.isPersistenceContext = second.isPersistenceContext
  recordCollections : first.recordCollections = second.recordCollections
  capability : Capability.ofModule first = Capability.ofModule second

/-- A capability of a module that some annotation in a snapshot makes. -/
def Capability.IsMade (settings : Settings) (snapshot : Snapshot) (capability : Capability) : Prop :=
  ∃ container note built, EffectModule.build settings snapshot container note = .ok built ∧
    ofModule built = capability

end Definitions

namespace EffectModule

variable {settings : Settings} {snapshot : Snapshot} {container container' : Declaration}
variable {note note' : Annotation} {built other : EffectModule} {target : Declaration}
variable {walk : Walk} {met : List Capability}

theorem exists_solid_givenName {name : String} (given : givenName settings note = some name) :
    ∃ c ∈ name.toList, Text.isBlank c = false := by
  have solid : Text.allBlank name = false := by
    simpa using (Option.filter_eq_some_iff.mp given).2
  simpa [Text.allBlank] using solid

theorem isNamed_of_build (success : build settings snapshot container note = .ok built) :
    built.IsNamed settings := by
  obtain ⟨target, effects, _, named, _, rfl⟩ := build_eq_ok_iff.mp success
  have trimmed : Text.IsTrimmed (propertyName settings target) := Text.isTrimmed_trim named
  constructor
  case name =>
    change ∃ c ∈ ((givenName settings note).getD (propertyName settings target)).toList, _
    cases given : givenName settings note with
    | none =>
      obtain ⟨c, opens, solid⟩ := trimmed.first
      exact ⟨c, List.mem_of_head? opens, solid⟩
    | some name => exact exists_solid_givenName given
  case property => exact trimmed
  case interface => rfl
  case parameter => rfl
  case parameter_ne => exact Naming.camelCase_ne_empty named

theorem coincides_of_build (success : build settings snapshot container note = .ok built)
    (success' : build settings snapshot container' note' = .ok other)
    (same : built.target = other.target) : built.Coincides other := by
  obtain ⟨target, _, targeted, _, _, rfl⟩ := build_eq_ok_iff.mp success
  obtain ⟨target', _, targeted', _, _, rfl⟩ := build_eq_ok_iff.mp success'
  obtain rfl : target = target' :=
    Snapshot.eq_of_id_eq (mem_of_targetOf targeted) (mem_of_targetOf targeted') same
  exact ⟨rfl, rfl, rfl, rfl, rfl⟩

theorem target_eq_of_identity_eq (success : build settings snapshot container note = .ok built)
    (success' : build settings snapshot container' note' = .ok other)
    (same : (Capability.ofModule built).identity = (Capability.ofModule other).identity) :
    built.target = other.target := by
  rw [Capability.identity_ofModule_of_build success,
    Capability.identity_ofModule_of_build success'] at same
  exact congrArg DeclId.mk same

/-- A capability that a walk passes over is one that it has kept. -/
theorem mem_capabilities_of_absorb (success : build settings snapshot container note = .ok built)
    (holds : walk.Holds met) (made : ∀ capability ∈ met, capability.IsMade settings snapshot)
    (absorbed : walk.absorb (Capability.ofModule built) = .ok walk) :
    Capability.ofModule built ∈ walk.capabilities := by
  rcases Walk.absorb_eq_ok_iff.mp absorbed with ⟨_, grown⟩ | ⟨known, _⟩
  · have same : walk.capabilities ++ [Capability.ofModule built] = walk.capabilities :=
      congrArg Walk.capabilities grown
    simp at same
  · obtain ⟨earlier, member, sameInterface, _⟩ := holds.exists_of_lookup known
    have listed : earlier.interface ∈ walk.capabilities.map Capability.interface := by
      rw [holds.kept, mem_keys_keepFirst]
      exact List.mem_map_of_mem member
    obtain ⟨kept, held, sameInterface'⟩ := List.mem_map.mp listed
    have met' : kept ∈ met := mem_of_mem_keepFirst (holds.kept ▸ held)
    obtain ⟨container', note', other, success', rfl⟩ := made kept met'
    have agreed := holds.agreed _ met'
    rw [sameInterface', sameInterface, known, Option.some_inj] at agreed
    have same : built.target = other.target := target_eq_of_identity_eq success success' agreed
    exact (coincides_of_build success success' same).capability ▸ held

/-- A module is named. Two modules of one target coincide, so that what a walk passes over is what it
has kept; two modules of different targets do not depend on the same, whatever their names are. -/
theorem identity_of_build (success : build settings snapshot container note = .ok built) :
    built.IsNamed settings ∧
      (∀ container' note' other, build settings snapshot container' note' = .ok other →
        (built.target = other.target → built.Coincides other) ∧
        (built.target ≠ other.target →
          (Capability.ofModule built).identity ≠ (Capability.ofModule other).identity)) ∧
      ∀ walk met, Walk.Holds walk met →
        (∀ capability ∈ met, capability.IsMade settings snapshot) →
        walk.absorb (Capability.ofModule built) = .ok walk →
        Capability.ofModule built ∈ walk.capabilities := by
  refine ⟨isNamed_of_build success, fun container' note' other success' => ⟨?_, ?_⟩, ?_⟩
  · exact coincides_of_build success success'
  · intro apart same
    exact apart (target_eq_of_identity_eq success success' same)
  · intro walk met holds made absorbed
    exact mem_capabilities_of_absorb success holds made absorbed

end EffectModule

namespace Sample

/-- Two interfaces of one name. -/
def timer : Declaration := { Declaration.ofId ⟨"App.ITimer"⟩ with kind := .interfaceDecl }

def oldTimer : Declaration := { timer with id := ⟨"Old.ITimer"⟩, scope := "Old" }

/-- The annotation of a timer that gives its module another name. -/
def stopping : Annotation :=
  { targeting timer with named := [⟨"name", .text "Stopwatch"⟩, ⟨"instrumented", .bool false⟩] }

def timing : Declaration :=
  { Declaration.ofId ⟨"App.Timing"⟩ with
    annotations := [targeting timer, stopping, targeting oldTimer] }

def timers : Snapshot where
  declarations := [timer, oldTimer, timing]
  distinct := by decide +kernel

end Sample

open EffectModule (build identity_of_build)

theorem identity_of_build_timers :
    ∃ first second third,
      build {} Sample.timers Sample.timing (Sample.targeting Sample.timer) = .ok first ∧
      build {} Sample.timers Sample.timing Sample.stopping = .ok second ∧
      build {} Sample.timers Sample.timing (Sample.targeting Sample.oldTimer) = .ok third ∧
      second.name = "Stopwatch" ∧ first.IsNamed {} ∧ first.Coincides second ∧
      first.identifiers = third.identifiers ∧
      (Capability.ofModule first).identity ≠ (Capability.ofModule third).identity ∧
      ∃ walk, Walk.absorb walk (Capability.ofModule second) = .ok walk ∧
        Capability.ofModule second ∈ walk.capabilities := by
  have made : [Sample.targeting Sample.timer, Sample.stopping, Sample.targeting Sample.oldTimer].map
      (fun note => (build {} Sample.timers Sample.timing note).map
        (fun built => (built.name, built.target, built.identifiers))) =
      [.ok ("Timer", Sample.timer.id, ⟨"IHasTimer", "Timer", "timer"⟩),
        .ok ("Stopwatch", Sample.timer.id, ⟨"IHasTimer", "Timer", "timer"⟩),
        .ok ("Timer", Sample.oldTimer.id, ⟨"IHasTimer", "Timer", "timer"⟩)] := by decide +kernel
  simp only [List.map_cons, List.map_nil, List.cons.injEq, and_true, map_eq_ok_iff,
    Prod.mk.injEq] at made
  obtain ⟨⟨first, success, _, target, identifiers⟩, ⟨second, success', name, target', _⟩,
    third, success'', _, target'', identifiers''⟩ := made
  obtain ⟨named, others, _⟩ := identity_of_build success
  have coincides : first.Coincides second :=
    (others _ _ second success').1 (target.trans target'.symm)
  have apart : first.target ≠ third.target := by
    rw [target, target'']
    decide
  have differ : (Capability.ofModule first).identity ≠ (Capability.ofModule third).identity :=
    (others _ _ third success'').2 apart
  -- a walk that has met the first module passes over the second one
  have holds : ((Walk.start ⟨"App.Root"⟩).added (Capability.ofModule first)).Holds
      ([] ++ [Capability.ofModule first]) :=
    (Walk.Holds.start _).absorb (Walk.absorb_eq_ok_iff.mpr (.inl ⟨rfl, rfl⟩))
  have known : ((Walk.start ⟨"App.Root"⟩).added (Capability.ofModule first)).absorb
      (Capability.ofModule second) = .ok _ :=
    Walk.absorb_eq_ok_iff.mpr (.inr ⟨by simp [Walk.added, coincides.capability], rfl⟩)
  have made : ∀ capability ∈ [] ++ [Capability.ofModule first],
      capability.IsMade {} Sample.timers := by
    intro capability member
    exact ⟨_, _, first, success, (List.mem_singleton.mp member).symm⟩
  obtain ⟨_, _, absorbs⟩ := identity_of_build success'
  exact ⟨first, second, third, success, success', success'', name, named, coincides,
    identifiers.trans identifiers''.symm, differ, _, known, absorbs _ _ holds made known⟩

end EffectModel
