import EffectModel.Proofs.Generation.Failures
import EffectModel.Proofs.Generation.Locality
import EffectModel.Proofs.Runtime.Unfolded

/-! The modules of a run and its runtimes. The walk of a root builds the modules of what it reaches
by itself. Main statement: they are the ones that the run gives, and a root that reaches a declaration
whose modules fail is not composed. -/
namespace EffectModel

open Walk

variable {settings : Settings} {snapshot : Snapshot} {root declaration : Declaration}
variable {runtime : Runtime} {capability : Capability} {effectModule : EffectModule}

/-- A runtime of an output that offers what the modules of the output give, for all that its root
reaches. -/
structure BuiltFrom (settings : Settings) (snapshot : Snapshot) (output : Output)
    (root : Declaration) (runtime : Runtime) : Prop where
  rooted : snapshot.lookup runtime.declaration = some root
  given : ∀ capability ∈ runtime.capabilities, ∃ effectModule ∈ output.modules,
    Capability.ofModule effectModule = capability ∧
      ∃ container, Reaches settings snapshot root container ∧
        container.id = effectModule.container
  unfailing : ∀ declaration, Reaches settings snapshot root declaration →
    output.failuresOf declaration.id .moduleStage = []
  taken : ∀ declaration, Reaches settings snapshot root declaration →
    ∀ effectModule ∈ output.modules, effectModule.container = declaration.id →
      ∃ capability, runtime.capability? effectModule.identifiers.interface = some capability ∧
        capability.dependency = effectModule.targetType

namespace Generation

theorem mem_modulesOf_iff {output : Output} {id : DeclId} :
    effectModule ∈ output.modulesOf id ↔
      effectModule ∈ output.modules ∧ effectModule.container = id := by
  simp [Output.modulesOf]

theorem offered_eq_modulesOf (held : declaration ∈ snapshot.declarations) :
    offered settings snapshot declaration =
      ((run settings snapshot).modulesOf declaration.id).map Capability.ofModule := by
  rw [modulesOf_run held, offered]

theorem failuresOf_moduleStage_eq_nil_iff (held : declaration ∈ snapshot.declarations) :
    (run settings snapshot).failuresOf declaration.id .moduleStage = [] ↔
      ∃ modules, EffectModule.buildAll settings snapshot declaration = .ok modules := by
  simp only [Output.failuresOf_eq_nil_iff, mem_failures_of_moduleStage held]
  cases EffectModule.buildAll settings snapshot declaration <;> simp

theorem builtFrom_of_aggregate (looked : snapshot.lookup runtime.declaration = some root)
    (success : Runtime.aggregate settings snapshot root = .ok runtime) :
    BuiltFrom settings snapshot (run settings snapshot) root runtime := by
  refine ⟨looked, ?_, ?_, ?_⟩
  · intro capability member
    obtain ⟨container, reaches, offers⟩ := (Runtime.mem_capabilities_iff success).mp member
    rw [offered_eq_modulesOf reaches.mem] at offers
    obtain ⟨effectModule, listed, same⟩ := List.mem_map.mp offers
    obtain ⟨given, contained⟩ := mem_modulesOf_iff.mp listed
    exact ⟨effectModule, given, same, container, reaches, contained.symm⟩
  · intro declaration reaches
    rw [failuresOf_moduleStage_eq_nil_iff reaches.mem]
    exact (Runtime.sound_of_aggregate success reaches).built
  · intro declaration reaches effectModule given contained
    have offers : Capability.ofModule effectModule ∈ offered settings snapshot declaration := by
      rw [offered_eq_modulesOf reaches.mem]
      exact List.mem_map_of_mem (mem_modulesOf_iff.mpr ⟨given, contained⟩)
    have member := (Runtime.mem_capabilities_iff success).mpr ⟨declaration, reaches, offers⟩
    exact ⟨_, (Runtime.capability?_eq_some_iff success).mpr ⟨member, rfl⟩, rfl⟩

/-- What cannot be composed is recorded as a failure and leaves no runtime. -/
theorem failuresOf_runtimeStage_eq {fault : Fault} (held : root ∈ snapshot.declarations)
    (marked : Runtime.isMarked settings root = true)
    (failed : Runtime.aggregate settings snapshot root = .error fault) :
    (∀ runtime ∈ (run settings snapshot).runtimes, runtime.declaration ≠ root.id) ∧
      (run settings snapshot).failuresOf root.id .runtimeStage =
        [⟨root.id, .runtimeStage, fault⟩] := by
  have looked := Snapshot.lookup_id held
  constructor
  · intro runtime member same
    have success := mem_runtimes_iff.mp ⟨member, same⟩
    rw [runtimeFor_of_lookup looked, failed] at success
    cases success
  · exact failuresOf_run_eq ((mem_failures_of_runtimeStage looked marked).mpr failed)

end Generation

/-- The runtimes of a run offer what its modules give: each capability comes from a module whose
container is reached, nothing that is reached has failed as a container, and every module of what is
reached is taken in. A root that reaches a failed container has no runtime, but one failure. -/
theorem run_stages_agree (settings : Settings) (snapshot : Snapshot) :
    ∃ output, Generation.runUnless settings snapshot (fun _ => false) = some output ∧
      (∀ runtime ∈ output.runtimes, ∃ root, BuiltFrom settings snapshot output root runtime) ∧
      ∀ root ∈ snapshot.declarations, Runtime.isMarked settings root = true →
        ∀ declaration, Reaches settings snapshot root declaration →
          output.failuresOf declaration.id .moduleStage ≠ [] →
            (∀ runtime ∈ output.runtimes, runtime.declaration ≠ root.id) ∧
              ∃ fault, output.failuresOf root.id .runtimeStage =
                [⟨root.id, .runtimeStage, fault⟩] := by
  refine ⟨_, Generation.runUnless_never, ?_, ?_⟩
  · intro runtime member
    obtain ⟨root, looked, success⟩ :=
      Generation.runtimeFor_eq_ok_iff.mp (Generation.mem_runtimes_iff.mp ⟨member, rfl⟩)
    exact ⟨root, Generation.builtFrom_of_aggregate looked success⟩
  · intro root held marked declaration reaches failing
    cases composed : Runtime.aggregate settings snapshot root with
    | ok runtime =>
      have built := (Runtime.sound_of_aggregate composed reaches).built
      exact (failing ((Generation.failuresOf_moduleStage_eq_nil_iff reaches.mem).mpr built)).elim
    | error fault =>
      obtain ⟨absent, recorded⟩ := Generation.failuresOf_runtimeStage_eq held marked composed
      exact ⟨absent, fault, recorded⟩

namespace Sample

def faultyClock : Declaration :=
  declared "App.Clock" .classDecl [pointing "EffectsModule" "App.Missing"]

/-- A root that refers to a module without a target, and a test root that doubles it. -/
def faulty : Snapshot where
  declarations := [faultyClock, clockRoot, clockTest]
  distinct := by decide +kernel

end Sample

theorem run_stages_agree_clock :
    (∃ output, Generation.runUnless {} Sample.clock (fun _ => false) = some output ∧
      ∃ runtime ∈ output.runtimes, runtime.interfaces = ["IHasClock"] ∧
        ∃ root, BuiltFrom {} Sample.clock output root runtime) ∧
    ∃ output, Generation.runUnless {} Sample.faulty (fun _ => false) = some output ∧
      Reaches {} Sample.faulty Sample.clockRoot Sample.faultyClock ∧
      output.failuresOf Sample.faultyClock.id .moduleStage ≠ [] ∧
      (∀ runtime ∈ output.runtimes, runtime.declaration ≠ Sample.clockRoot.id) ∧
      ∃ fault, output.failuresOf Sample.clockRoot.id .runtimeStage =
        [⟨Sample.clockRoot.id, .runtimeStage, fault⟩] := by
  constructor
  · obtain ⟨output, ended, built, _⟩ := run_stages_agree {} Sample.clock
    refine ⟨output, ended, ?_⟩
    have offers : output.runtimes.map Runtime.interfaces = [["IHasClock"]] := by
      rw [Generation.runUnless_eq_some ended]
      decide +kernel
    obtain ⟨runtime, single, interfaces⟩ := List.map_eq_singleton_iff.mp offers
    have member : runtime ∈ output.runtimes := by simp [single]
    exact ⟨runtime, member, interfaces, built runtime member⟩
  · obtain ⟨output, ended, _, halted⟩ := run_stages_agree {} Sample.faulty
    have leads : Sample.faultyClock ∈ destinations {} Sample.faulty Sample.clockRoot := by
      decide +kernel
    have failing : output.failuresOf Sample.faultyClock.id .moduleStage ≠ [] := by
      rw [Generation.runUnless_eq_some ended]
      decide +kernel
    obtain ⟨absent, recorded⟩ := halted Sample.clockRoot (by decide +kernel) (by decide +kernel)
      Sample.faultyClock (.single leads) failing
    exact ⟨output, ended, .single leads, failing, absent, recorded⟩

end EffectModel
