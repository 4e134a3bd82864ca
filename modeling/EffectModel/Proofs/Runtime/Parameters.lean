import EffectModel.Proofs.Naming
import EffectModel.Proofs.Runtime.Capabilities

namespace EffectModel

variable {settings : Settings} {snapshot : Snapshot} {root : Declaration} {runtime : Runtime}
variable {walk : Walk} {order : List Declaration} {capability : Capability}

namespace Walk

theorem Gathers.parameter_eq
    (gathers : Gathers settings snapshot (start root.id) [] (references settings root) walk order)
    (member : capability ∈ walk.capabilities) :
    capability.parameter = Naming.camelCase capability.property := by
  obtain ⟨target, _, rfl⟩ := gathers.exists_target member
  rfl

/-- The properties of a runtime have different names, and so have its parameters, unless two
properties differ in the case of a leading part alone. -/
theorem parameters_of_aggregate (present : root ∈ snapshot.declarations)
    (success : Runtime.aggregate settings snapshot root = .ok runtime) :
    runtime.capabilities.Pairwise (fun first second =>
        first.property ≠ second.property ∧
          (first.parameter = second.parameter →
            Naming.DifferInCase first.property second.property)) ∧
      ((runtime.capabilities.map (fun offered => Text.lowerAll offered.property.toList)).Nodup →
        (runtime.capabilities.map Capability.parameter).Nodup) := by
  obtain ⟨_, walk, walked, rfl⟩ := Runtime.aggregate_eq_ok_iff.mp success
  obtain ⟨order, gathers⟩ := exists_gathers_of_ofRoot present walked
  have differ : ∀ first ∈ walk.capabilities, ∀ second ∈ walk.capabilities,
      first.parameter = second.parameter →
        Naming.DifferInCase first.property second.property := by
    intro first member second member' same
    rw [gathers.parameter_eq member, gathers.parameter_eq member'] at same
    exact Naming.differInCase_of_camelCase_eq same
  constructor
  · have properties : walk.capabilities.Pairwise (fun first second =>
        first.property ≠ second.property) := List.pairwise_map.mp gathers.properties_nodup
    apply properties.imp_of_mem
    intro first second member member' apart
    exact ⟨apart, differ first member second member'⟩
  · intro distinct
    apply nodup_map_of_finer distinct
    intro first member second member' same
    exact Naming.lowerAll_eq_of_differInCase (differ first member second member' same)

end Walk

namespace Sample

def clocksRoot : Declaration :=
  declared "App.Root" .classDecl [.bare "Runtime", pointing "Uses" "App.Clocks"]

/-- A root whose modules are of an interface and of a class, with one name but for a capital. -/
def clocks : Snapshot where
  declarations :=
    [declared "App.IClock" .interfaceDecl [], declared "App.clock" .classDecl [],
      declared "App.Clocks" .classDecl
        [pointing "EffectsModule" "App.IClock", pointing "EffectsModule" "App.clock"],
      clocksRoot]
  distinct := by decide +kernel

end Sample

/-- A runtime may take two capabilities under one parameter. -/
theorem exists_shared_parameter : ¬ ∀ (settings : Settings) (snapshot : Snapshot)
    (root : Declaration) (runtime : Runtime), settings.check = .ok () →
      root ∈ snapshot.declarations → Runtime.aggregate settings snapshot root = .ok runtime →
        (runtime.capabilities.map Capability.parameter).Nodup := by
  intro distinct
  have offers : (Runtime.aggregate {} Sample.clocks Sample.clocksRoot).map
      (fun runtime => runtime.capabilities.map Capability.parameter) = .ok ["clock", "clock"] := by
    decide +kernel
  obtain ⟨runtime, success, parameters⟩ := map_eq_ok_iff.mp offers
  have accepted : ({} : Settings).check = .ok () := by decide +kernel
  have twice : ["clock", "clock"].Nodup :=
    parameters ▸ distinct {} _ _ runtime accepted (by decide +kernel) success
  exact absurd twice (by decide)

theorem parameters_of_aggregate_diamond :
    Sample.diamondRoot ∈ Sample.diamond.declarations ∧
      ∃ runtime, Runtime.aggregate {} Sample.diamond Sample.diamondRoot = .ok runtime ∧
        runtime.capabilities.map Capability.property = ["Clock", "Mail"] ∧
        (runtime.capabilities.map Capability.parameter).Nodup := by
  have present : Sample.diamondRoot ∈ Sample.diamond.declarations := by decide +kernel
  have offers : (Runtime.aggregate {} Sample.diamond Sample.diamondRoot).map
      (fun runtime => runtime.capabilities.map Capability.property) = .ok ["Clock", "Mail"] := by
    decide +kernel
  obtain ⟨runtime, success, properties⟩ := map_eq_ok_iff.mp offers
  have apart : (runtime.capabilities.map
      (fun offered => Text.lowerAll offered.property.toList)).Nodup := by
    have lowered : (["Clock", "Mail"].map (fun name => Text.lowerAll name.toList)).Nodup := by
      decide +kernel
    rw [← properties, List.map_map] at lowered
    exact lowered
  exact ⟨present, runtime, success, properties,
    (Walk.parameters_of_aggregate present success).2 apart⟩

end EffectModel
