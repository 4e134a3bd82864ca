import EffectModel.Proofs.Generation.Agreement
import EffectModel.Proofs.Module.Fault
import EffectModel.Proofs.Runtime.Circle

namespace EffectModel

open Walk

variable {settings : Settings} {snapshot : Snapshot} {output : Output}
variable {root owner declaration : Declaration} {note : Annotation} {fault : Fault}

/-- A reference of an owner leads nowhere, and the owner is told so. -/
structure Misled (settings : Settings) (snapshot : Snapshot) (owner : Declaration)
    (fault : Fault) : Prop where
  blamed : fault.declaration = owner.id
  kind : fault.kind = .configuration
  reference : ∃ note ∈ references settings owner,
    destination settings snapshot note = none ∧
      referenced settings snapshot owner note = .error fault

theorem Walk.misled_of_referenced (listed : note ∈ references settings owner)
    (failed : referenced settings snapshot owner note = .error fault) :
    Misled settings snapshot owner fault := by
  have misconfigured := isMisconfigured_of_referenced failed
  refine ⟨misconfigured.isOwn.declaration_eq, misconfigured.kind_eq, note, listed, ?_, failed⟩
  cases led : destination settings snapshot note with
  | none => rfl
  | some found =>
    rw [referenced_eq_ok_iff.mpr led] at failed
    cases failed

/-- Where the fault of a root comes from, if it is not the root's own. -/
inductive Inherited (settings : Settings) (snapshot : Snapshot) (root : Declaration)
    (fault : Fault) : Prop where
  | modules {found : Declaration} (reaches : Reaches settings snapshot root found)
      (unbuilt : EffectModule.buildAll settings snapshot found = .error fault)
  | reference {owner : Declaration} (reaches : Reaches settings snapshot root owner)
      (misled : Misled settings snapshot owner fault)

theorem fault_of_ofRoot (present : root ∈ snapshot.declarations)
    (failed : ofRoot settings snapshot root = .error fault) :
    fault.declaration = root.id ∨ Inherited settings snapshot root fault := by
  obtain ⟨walk, owner, note, ⟨trail, heard, stands⟩, listed, met⟩ :=
    exists_halt_of_ofRoot present failed
  rcases fault_of_meet met with ⟨found, _, _, rfl⟩ | ⟨_, _, rfl⟩ | unresolved | ⟨found, led, unbuilt⟩
  · exact .inl trail.origin
  · exact .inl trail.origin
  · have misled : Misled settings snapshot owner fault := misled_of_referenced listed unresolved
    rcases stands.within with rfl | reaches
    · exact .inl misled.blamed
    · exact .inr (.reference reaches misled)
  · have leads : Leads settings snapshot owner found := leads_iff.mpr ⟨note, listed, led⟩
    exact .inr (.modules (stands.reaches leads) unbuilt)

theorem fault_of_aggregate (present : root ∈ snapshot.declarations)
    (failed : Runtime.aggregate settings snapshot root = .error fault) :
    fault.declaration = root.id ∨ Inherited settings snapshot root fault := by
  rcases Runtime.aggregate_eq_error_iff.mp failed with ⟨_, halted⟩ | ⟨_, rfl⟩
  · exact fault_of_ofRoot present halted
  · exact .inl rfl

/-- A fault of a stage is laid to the charge of the right declaration. -/
def Attributed (settings : Settings) (snapshot : Snapshot) (output : Output)
    (declaration : Declaration) (fault : Fault) : Stage → Prop
  | .moduleStage => fault.declaration = declaration.id ∧
      (fault.kind = .resolution ↔
        ∃ note, EffectModule.FirstFailing settings snapshot declaration note ∧
          ∃ target method, EffectModule.StoppedBy settings snapshot note target method)
  | .runtimeStage => fault.declaration = declaration.id ∨
      ∃ found, Reaches settings snapshot declaration found ∧ fault.declaration = found.id ∧
        (⟨found.id, .moduleStage, fault⟩ ∈ output.failures ∨ Misled settings snapshot found fault)
  | .testRuntimeStage => fault.declaration = declaration.id ∧ fault.kind = .configuration

namespace Generation

theorem attributed_of_buildAll
    (failed : EffectModule.buildAll settings snapshot declaration = .error fault) :
    Attributed settings snapshot output declaration fault .moduleStage :=
  ⟨(EffectModule.isOwn_of_buildAll failed).declaration_eq, EffectModule.kind_of_buildAll failed⟩

/-- What a root inherits from the modules of another declaration, the run records for that one too. -/
theorem attributed_of_aggregate (held : declaration ∈ snapshot.declarations)
    (failed : Runtime.aggregate settings snapshot declaration = .error fault) :
    Attributed settings snapshot (run settings snapshot) declaration fault .runtimeStage := by
  rcases fault_of_aggregate held failed with own | inherited
  · exact .inl own
  · right
    cases inherited with
    | @modules found reaches unbuilt =>
      have blamed := (EffectModule.isOwn_of_buildAll unbuilt).declaration_eq
      have recorded : ⟨found.id, .moduleStage, fault⟩ ∈ (run settings snapshot).failures :=
        (mem_failures_of_moduleStage reaches.mem).mpr unbuilt
      exact ⟨found, reaches, blamed, .inl recorded⟩
    | @reference owner reaches misled => exact ⟨owner, reaches, misled.blamed, .inr misled⟩

theorem attributed_of_double {find : DeclId → Option Runtime}
    (failed : TestRuntime.double settings snapshot find declaration = .error fault) :
    Attributed settings snapshot output declaration fault .testRuntimeStage := by
  obtain ⟨kind, blamed⟩ := TestRuntime.fault_of_double failed
  exact ⟨blamed, kind⟩

end Generation

/-- Every failure of a run is one of a declaration of the snapshot, and its fault is laid to the right
charge; and wherever an annotation of a declaration makes no module, there is such a failure. -/
theorem run_attributes (settings : Settings) (snapshot : Snapshot) :
    ∃ output, Generation.runUnless settings snapshot (fun _ => false) = some output ∧
      (∀ failure ∈ output.failures, ∃ declaration ∈ snapshot.declarations,
        declaration.id = failure.declaration ∧
          Attributed settings snapshot output declaration failure.fault failure.stage) ∧
      ∀ declaration ∈ snapshot.declarations, ∀ note,
        EffectModule.FirstFailing settings snapshot declaration note →
          ∃ fault, ⟨declaration.id, .moduleStage, fault⟩ ∈ output.failures := by
  refine ⟨_, Generation.runUnless_never, ?_, ?_⟩
  · intro ⟨id, stage, fault⟩ recorded
    have held : ∀ {stage declaration},
        declaration ∈ Generation.entrusted settings snapshot stage id →
          declaration ∈ snapshot.declarations ∧ declaration.id = id :=
      fun trusted => Snapshot.lookup_some (Generation.mem_entrusted_iff.mp trusted).1
    rcases Generation.mem_failures_iff.mp recorded with
      ⟨rfl, declaration, trusted, failed⟩ | ⟨rfl, declaration, trusted, failed⟩ |
        ⟨rfl, declaration, trusted, failed⟩
    · obtain ⟨present, same⟩ := held trusted
      exact ⟨declaration, present, same, Generation.attributed_of_buildAll failed⟩
    · obtain ⟨present, same⟩ := held trusted
      exact ⟨declaration, present, same, Generation.attributed_of_aggregate present failed⟩
    · obtain ⟨present, same⟩ := held trusted
      exact ⟨declaration, present, same, Generation.attributed_of_double failed⟩
  · intro declaration held note failing
    obtain ⟨fault, _, unbuilt⟩ := failing.buildAll_eq
    exact ⟨fault, (Generation.mem_failures_of_moduleStage held).mpr unbuilt⟩

namespace Sample

/-- A method of the clock is awaited for something that its type leaves out. -/
def vagueClock : Declaration :=
  { declared "App.IClock" .interfaceDecl [] with
    methods := [Method.returning "Now" { TypeUse.named "Task" .classType with arity := 1 }] }

/-- A root with a module that a method of its target stops, and a test root that doubles it. -/
def vague : Snapshot where
  declarations := [vagueClock, clockModule, clockRoot, clockTest]
  distinct := by decide +kernel

def vagueFault : Fault := (Cause.unclassified "Now" "Task<?>").blame ⟨"App.Clock"⟩

end Sample

theorem run_attributes_vague :
    ∃ output, Generation.runUnless {} Sample.vague (fun _ => false) = some output ∧
      output.failures.map (fun failure => (failure.declaration, failure.fault.declaration)) =
        [(⟨"App.Clock"⟩, ⟨"App.Clock"⟩), (⟨"App.Root"⟩, ⟨"App.Clock"⟩),
          (⟨"App.Spec"⟩, ⟨"App.Spec"⟩)] ∧
      ⟨⟨"App.Root"⟩, .runtimeStage, Sample.vagueFault⟩ ∈ output.failures ∧
      Attributed {} Sample.vague output Sample.clockRoot Sample.vagueFault .runtimeStage ∧
      ⟨⟨"App.Clock"⟩, .moduleStage, Sample.vagueFault⟩ ∈ output.failures ∧
      Attributed {} Sample.vague output Sample.clockModule Sample.vagueFault .moduleStage ∧
      ∃ note, EffectModule.FirstFailing {} Sample.vague Sample.clockModule note ∧
        ∃ fault, ⟨Sample.clockModule.id, .moduleStage, fault⟩ ∈ output.failures := by
  obtain ⟨output, ended, attributed, failing⟩ := run_attributes {} Sample.vague
  have rootHeld : Sample.clockRoot ∈ Sample.vague.declarations := by decide +kernel
  have containerHeld : Sample.clockModule ∈ Sample.vague.declarations := by decide +kernel
  have root : ⟨⟨"App.Root"⟩, .runtimeStage, Sample.vagueFault⟩ ∈ output.failures := by
    rw [Generation.runUnless_eq_some ended]
    decide +kernel
  have container : ⟨⟨"App.Clock"⟩, .moduleStage, Sample.vagueFault⟩ ∈ output.failures := by
    rw [Generation.runUnless_eq_some ended]
    decide +kernel
  have rootCharged :
      Attributed {} Sample.vague output Sample.clockRoot Sample.vagueFault .runtimeStage := by
    obtain ⟨declaration, held, same, charged⟩ := attributed _ root
    cases Snapshot.eq_of_id_eq held rootHeld same
    exact charged
  have containerCharged :
      Attributed {} Sample.vague output Sample.clockModule Sample.vagueFault .moduleStage := by
    obtain ⟨declaration, held, same, charged⟩ := attributed _ container
    cases Snapshot.eq_of_id_eq held containerHeld same
    exact charged
  obtain ⟨note, first, _⟩ := containerCharged.2.mp rfl
  refine ⟨output, ended, ?_, root, rootCharged, container, containerCharged, note, first,
    failing Sample.clockModule containerHeld note first⟩
  rw [Generation.runUnless_eq_some ended]
  decide +kernel

end EffectModel
