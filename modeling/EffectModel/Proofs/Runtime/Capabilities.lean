import EffectModel.Proofs.Walk.Gathered

namespace EffectModel

open Walk

variable {settings : Settings} {snapshot : Snapshot} {root declaration : Declaration}
variable {runtime : Runtime} {walk : Walk} {capability other : Capability}
variable {order listed : List Declaration}

namespace Runtime

theorem aggregate_eq_ok_iff : aggregate settings snapshot root = .ok runtime ↔
    isMarked settings root = true ∧ ∃ walk, ofRoot settings snapshot root = .ok walk ∧
      ⟨root.id, root.name, root.scope, root.access, walk.capabilities⟩ = runtime := by
  cases marked : isMarked settings root with
  | false => simp [aggregate, marked]
  | true => simp [aggregate, marked, map_eq_ok_iff]

end Runtime

namespace Walk

theorem exists_gathers_of_ofRoot (present : root ∈ snapshot.declarations)
    (success : ofRoot settings snapshot root = .ok walk) : ∃ order,
      Gathers settings snapshot (start root.id) [] (references settings root) walk order :=
  ((ofRoot_eq_iff present).mp success).gathers (.start root.id)

theorem mem_offered_iff : capability ∈ offered settings snapshot declaration ↔
    ∃ modules, EffectModule.buildAll settings snapshot declaration = .ok modules ∧
      ∃ effectModule ∈ modules, Capability.ofModule effectModule = capability := by
  cases built : EffectModule.buildAll settings snapshot declaration with
  | error _ => simp [offered, built, Except.toOption]
  | ok modules => simp [offered_eq built]

theorem exists_target_of_offered (offers : capability ∈ offered settings snapshot declaration) :
    ∃ target ∈ snapshot.declarations, capability = Capability.ofTarget settings target := by
  obtain ⟨_, built, _, member, rfl⟩ := mem_offered_iff.mp offers
  obtain ⟨_, _, made⟩ := exists_of_mapM_eq_ok built member
  obtain ⟨target, held, _, same⟩ := Capability.ofModule_of_build made
  exact ⟨target, held, same⟩

/-- What depends on the same declaration is the same capability, whichever module gives it. -/
theorem eq_of_identity_eq (offers : capability ∈ offered settings snapshot root)
    (offers' : other ∈ offered settings snapshot declaration)
    (same : capability.identity = other.identity) : capability = other := by
  obtain ⟨target, held, rfl⟩ := exists_target_of_offered offers
  obtain ⟨target', held', rfl⟩ := exists_target_of_offered offers'
  rw [Capability.identity_ofTarget_inj held held' same]

/-- Capabilities that agree on their interfaces depend on one declaration for each, so that none of
them is lost. -/
theorem mem_keepFirst_offered_iff (agree : Agree (order.flatMap (offered settings snapshot))) :
    capability ∈ keepFirst Capability.interface (order.flatMap (offered settings snapshot)) ↔
      ∃ declaration ∈ order, capability ∈ offered settings snapshot declaration := by
  rw [mem_keepFirst_iff, List.mem_flatMap]
  intro first met second met' same
  obtain ⟨_, _, offers⟩ := List.mem_flatMap.mp met
  obtain ⟨_, _, offers'⟩ := List.mem_flatMap.mp met'
  exact eq_of_identity_eq offers offers' (agree first met second met' same)

section Finished

variable (gathers : Gathers settings snapshot (start root.id) [] (references settings root) walk order)
include gathers

theorem Gathers.entire (reaches : Reaches settings snapshot root declaration) :
    Entire settings snapshot walk.expanded order declaration := by
  have member : declaration ∈ order := gathers.unfolding.mem_iff_reaches.mpr reaches
  exact gathers.gathered.entire reaches.mem (gathers.closed (List.mem_map_of_mem member))

theorem Gathers.capabilities_eq : walk.capabilities = keepFirst Capability.interface
      ((keepFirst Declaration.id order).flatMap (offered settings snapshot)) := by
  have held : order ⊆ snapshot.declarations := gathers.gathered.held
  rw [gathers.gathered.holds.kept, List.nil_append, keepFirst_flatMap_keepFirst]
  exact fun first member second member' =>
    Snapshot.eq_of_id_eq (held member) (held member')

theorem Gathers.mem_capabilities_iff :
    capability ∈ walk.capabilities ↔ ∃ declaration,
      Reaches settings snapshot root declaration ∧
        capability ∈ offered settings snapshot declaration := by
  have holds : walk.Holds (order.flatMap (offered settings snapshot)) := gathers.gathered.holds
  rw [holds.kept, mem_keepFirst_offered_iff holds.agree]
  exact exists_congr fun _ => and_congr_left fun _ => gathers.unfolding.mem_iff_reaches

theorem Gathers.interfaces_nodup :
    (walk.capabilities.map Capability.interface).Nodup := by
  rw [gathers.gathered.holds.kept]
  exact keepFirst_keys_nodup _ _

theorem Gathers.exists_target (member : capability ∈ walk.capabilities) :
    ∃ target ∈ snapshot.declarations, capability = Capability.ofTarget settings target := by
  obtain ⟨_, _, offers⟩ := gathers.mem_capabilities_iff.mp member
  exact exists_target_of_offered offers

theorem Gathers.properties_nodup :
    (walk.capabilities.map Capability.property).Nodup := by
  apply nodup_map_of_finer gathers.interfaces_nodup
  intro first member second member' same
  obtain ⟨target, _, rfl⟩ := gathers.exists_target member
  obtain ⟨target', _, rfl⟩ := gathers.exists_target member'
  exact congrArg (Naming.capabilityInterface settings.naming.capabilityPrefix) same

theorem Gathers.dependencies_nodup :
    (walk.capabilities.map (fun capability => capability.dependency.declaration)).Nodup := by
  apply nodup_map_of_finer gathers.interfaces_nodup
  intro first member second member' same
  obtain ⟨target, held, rfl⟩ := gathers.exists_target member
  obtain ⟨target', held', rfl⟩ := gathers.exists_target member'
  rw [Snapshot.eq_of_id_eq held held' (Option.some.inj same)]

end Finished

variable (settings snapshot) in
/-- The declarations that a root reaches, each where a walk over its references, depth first,
discovers it. -/
def Discovers (root : Declaration) (listed : List Declaration) : Prop :=
  ∃ order, Unfolding settings snapshot (destinations settings snapshot root) order ∧
    keepFirst Declaration.id order = listed

theorem Discovers.unique {listed' : List Declaration}
    (first : Discovers settings snapshot root listed)
    (second : Discovers settings snapshot root listed') : listed = listed' := by
  obtain ⟨_, unfolding, rfl⟩ := first
  obtain ⟨_, unfolding', rfl⟩ := second
  rw [unfolding.unique unfolding']

/-- A runtime offers what the modules of the declarations that it reaches give: the declarations are
taken as a depth first walk discovers them, the root left out, the modules of each in their order,
and of the capabilities with one interface the first. -/
theorem capabilities_of_aggregate (present : root ∈ snapshot.declarations)
    (success : Runtime.aggregate settings snapshot root = .ok runtime) :
    ∃ listed, Discovers settings snapshot root listed ∧
      (∀ other, Discovers settings snapshot root other → other = listed) ∧
      (∀ declaration, declaration ∈ listed ↔ Reaches settings snapshot root declaration) ∧
      root ∉ listed ∧
      (∀ declaration ∈ listed, ∃ modules,
        EffectModule.buildAll settings snapshot declaration = .ok modules) ∧
      runtime.capabilities =
        keepFirst Capability.interface (listed.flatMap (offered settings snapshot)) ∧
      (∀ capability, capability ∈ runtime.capabilities ↔ ∃ declaration,
        Reaches settings snapshot root declaration ∧
          capability ∈ offered settings snapshot declaration) ∧
      (runtime.capabilities.map Capability.interface).Nodup ∧
      (runtime.capabilities.map Capability.property).Nodup ∧
      (runtime.capabilities.map (fun capability => capability.dependency.declaration)).Nodup := by
  obtain ⟨_, walk, walked, rfl⟩ := Runtime.aggregate_eq_ok_iff.mp success
  obtain ⟨order, gathers⟩ := exists_gathers_of_ofRoot present walked
  have discovers : Discovers settings snapshot root (keepFirst Declaration.id order) :=
    ⟨order, gathers.unfolding, rfl⟩
  have listed : ∀ declaration, declaration ∈ keepFirst Declaration.id order ↔
      Reaches settings snapshot root declaration := by
    intro declaration
    rw [← gathers.unfolding.mem_iff_reaches]
    apply mem_keepFirst_iff
    exact fun first member second member' =>
      Snapshot.eq_of_id_eq (gathers.gathered.held member) (gathers.gathered.held member')
  refine ⟨_, discovers, fun other second => second.unique discovers, listed, ?_, ?_,
    gathers.capabilities_eq, fun capability => gathers.mem_capabilities_iff,
    gathers.interfaces_nodup, gathers.properties_nodup, gathers.dependencies_nodup⟩
  · intro member
    exact gathers.unfolding.not_reaches_self (.inl rfl) ((listed root).mp member)
  · intro declaration member
    exact (gathers.entire ((listed declaration).mp member)).sound.built

end Walk

namespace Sample

/-- An annotation of a kind that points to the declaration with an identity. -/
def pointing (kind target : String) : Annotation :=
  { Annotation.bare kind with typeArgs := [(Declaration.ofId ⟨target⟩).asTypeUse] }

def declared (id : String) (kind : DeclKind) (annotations : List Annotation) : Declaration :=
  { Declaration.ofId ⟨id⟩ with kind, annotations }

/-- A root that refers to a module directly, through another one, and directly again. -/
def diamondRoot : Declaration :=
  declared "App.Root" .classDecl [.bare "Runtime", pointing "Uses" "App.Clock",
    pointing "Uses" "App.Mail", pointing "Uses" "App.Clock"]

def diamond : Snapshot where
  declarations :=
    [declared "App.IClock" .interfaceDecl [], declared "App.IMail" .interfaceDecl [],
      declared "App.Clock" .classDecl [pointing "EffectsModule" "App.IClock"],
      declared "App.Mail" .classDecl [pointing "EffectsModule" "App.IMail",
        pointing "EffectsModule" "App.IClock", pointing "Uses" "App.Clock"],
      diamondRoot]
  distinct := by decide +kernel

end Sample

theorem capabilities_of_aggregate_diamond :
    Sample.diamondRoot ∈ Sample.diamond.declarations ∧
      ∃ runtime, Runtime.aggregate {} Sample.diamond Sample.diamondRoot = .ok runtime ∧
        runtime.interfaces = ["IHasClock", "IHasMail"] ∧
        ∃ listed, Discovers {} Sample.diamond Sample.diamondRoot listed ∧
          runtime.capabilities =
            keepFirst Capability.interface (listed.flatMap (offered {} Sample.diamond)) := by
  have present : Sample.diamondRoot ∈ Sample.diamond.declarations := by decide +kernel
  have offers : (Runtime.aggregate {} Sample.diamond Sample.diamondRoot).map Runtime.interfaces =
      .ok ["IHasClock", "IHasMail"] := by decide +kernel
  obtain ⟨runtime, success, interfaces⟩ := map_eq_ok_iff.mp offers
  obtain ⟨listed, discovers, _, _, _, _, collected, _⟩ := capabilities_of_aggregate present success
  exact ⟨present, runtime, success, interfaces, listed, discovers, collected⟩

end EffectModel
