import EffectModel.Proofs.Cause
import EffectModel.Proofs.Lookup
import EffectModel.Proofs.Outcome
import EffectModel.Runtime.Walk

namespace EffectModel

namespace EffectModule

variable {settings : Settings} {snapshot : Snapshot} {container target : Declaration}
variable {note : Annotation} {built : EffectModule} {modules : List EffectModule} {fault : Fault}

theorem targetOf_eq_ok_iff : targetOf settings snapshot container note = .ok target ↔
    destination settings snapshot note = some target ∧ target.kind ≠ .enumDecl := by
  simp only [targetOf, bind_eq_ok_iff, orFault_eq_ok_iff, Option.filter_eq_some_iff, destination,
    Option.bind_eq_some_iff, decide_eq_true_eq]
  constructor
  · rintro ⟨use, usable, resolved, kind⟩
    exact ⟨⟨use, usable, resolved⟩, kind⟩
  · rintro ⟨⟨use, usable, resolved⟩, kind⟩
    exact ⟨use, usable, resolved, kind⟩

theorem mem_of_targetOf (targeted : targetOf settings snapshot container note = .ok target) :
    target ∈ snapshot.declarations :=
  mem_of_destination (targetOf_eq_ok_iff.mp targeted).1

/-- A module is built from a target that has a name to offer and methods that can be lifted. -/
theorem build_eq_ok_iff : build settings snapshot container note = .ok built ↔
    ∃ target effects, targetOf settings snapshot container note = .ok target ∧
      propertyName settings target ≠ "" ∧
      effectsOf settings container.id target (MethodFilter.ofAnnotation note
        settings.vocabulary.includeKey settings.vocabulary.excludeKey) = .ok effects ∧
      ofTarget settings snapshot container note target effects = built := by
  simp only [build, bind_eq_ok_iff]
  constructor
  · rintro ⟨target, found, success⟩
    by_cases nameless : propertyName settings target = ""
    · simp [nameless] at success
    · simp only [String.isEmpty_iff, nameless, if_false, bind_eq_ok_iff] at success
      obtain ⟨effects, lifted, same⟩ := success
      exact ⟨target, effects, found, nameless, lifted, Except.ok.inj same⟩
  · rintro ⟨target, effects, found, named, lifted, rfl⟩
    refine ⟨target, found, ?_⟩
    simp only [String.isEmpty_iff, named, if_false, bind_eq_ok_iff]
    exact ⟨effects, lifted, rfl⟩

/-- A module fails by its target, for want of a name, or by a method. -/
theorem build_eq_error_iff : build settings snapshot container note = .error fault ↔
    targetOf settings snapshot container note = .error fault ∨
      ∃ target, targetOf settings snapshot container note = .ok target ∧
        (propertyName settings target = "" ∧
            (Cause.namelessTarget target.id).blame container.id = fault ∨
          propertyName settings target ≠ "" ∧
            effectsOf settings container.id target (MethodFilter.ofAnnotation note
              settings.vocabulary.includeKey settings.vocabulary.excludeKey) = .error fault) := by
  simp only [build, bind_eq_error_iff]
  apply or_congr_right
  apply exists_congr
  intro target
  apply and_congr_right
  intro _
  by_cases nameless : propertyName settings target = ""
  · simp [nameless]
  · simp [nameless, bind_eq_error_iff]

theorem container_of_build (success : build settings snapshot container note = .ok built) :
    built.container = container.id := by
  obtain ⟨_, _, _, _, _, rfl⟩ := build_eq_ok_iff.mp success
  rfl

theorem container_of_buildAll (success : buildAll settings snapshot container = .ok modules)
    (member : built ∈ modules) : built.container = container.id := by
  obtain ⟨_, _, made⟩ := exists_of_mapM_eq_ok success member
  exact container_of_build made

theorem buildAll_of_unmarked (unmarked : isMarked settings container = false) :
    buildAll settings snapshot container = .ok [] := by
  have none : container.annotationsOf settings.vocabulary.moduleKind = [] := by
    simpa [Declaration.annotationsOf, isMarked, Declaration.hasAnnotation] using unmarked
  rw [buildAll, none]
  rfl

section Faults

theorem isMisconfigured_of_targetOf
    (failed : targetOf settings snapshot container note = .error fault) :
    fault.IsMisconfigured container.id := by
  rcases bind_eq_error_iff.mp failed with unusable | ⟨_, _, unresolved⟩
  · exact ⟨_, rfl, (orFault_eq_error_iff.mp unusable).2⟩
  · exact ⟨_, rfl, (orFault_eq_error_iff.mp unresolved).2⟩

theorem isOwn_of_effectOf {owner : DeclId} {method : Method}
    (failed : effectOf settings owner method = .error fault) : fault.IsOwn owner := by
  rcases bind_eq_error_iff.mp failed with unclassified | ⟨_, _, impossible⟩
  · exact ⟨_, rfl, (orFault_eq_error_iff.mp unclassified).2⟩
  · cases impossible

theorem isOwn_of_effectsOf {owner : DeclId} {filter : MethodFilter}
    (failed : effectsOf settings owner target filter = .error fault) : fault.IsOwn owner := by
  rcases bind_eq_error_iff.mp failed with lifting | ⟨_, _, impossible⟩
  · obtain ⟨_, _, halted⟩ := exists_of_mapM_eq_error lifting
    exact isOwn_of_effectOf halted
  · cases impossible

/-- The container of an annotation is to blame for a module that cannot be built. -/
theorem isOwn_of_build (failed : build settings snapshot container note = .error fault) :
    fault.IsOwn container.id := by
  rcases build_eq_error_iff.mp failed with untargeted | ⟨target, _, ⟨_, same⟩ | ⟨_, unlifted⟩⟩
  · exact (isMisconfigured_of_targetOf untargeted).isOwn
  · exact ⟨_, rfl, same⟩
  · exact isOwn_of_effectsOf unlifted

theorem isOwn_of_buildAll (failed : buildAll settings snapshot container = .error fault) :
    fault.IsOwn container.id := by
  obtain ⟨_, _, halted⟩ := exists_of_mapM_eq_error failed
  exact isOwn_of_build halted

end Faults

end EffectModule

namespace Capability

variable {settings : Settings} {snapshot : Snapshot} {container target first second : Declaration}
variable {note : Annotation} {built : EffectModule}

/-- The capability of every module with a target, whichever container and annotation it is from. -/
def ofTarget (settings : Settings) (target : Declaration) : Capability where
  interface :=
    (EffectModule.identifiersOf settings (EffectModule.propertyName settings target)).interface
  property :=
    (EffectModule.identifiersOf settings (EffectModule.propertyName settings target)).property
  parameter :=
    (EffectModule.identifiersOf settings (EffectModule.propertyName settings target)).parameter
  dependency := target.asTypeUse

theorem ofModule_of_build
    (success : EffectModule.build settings snapshot container note = .ok built) :
    ∃ target ∈ snapshot.declarations, built.target = target.id ∧
      ofModule built = ofTarget settings target := by
  obtain ⟨target, _, targeted, _, _, rfl⟩ := EffectModule.build_eq_ok_iff.mp success
  exact ⟨target, EffectModule.mem_of_targetOf targeted, rfl, rfl⟩

theorem identity_ofTarget : (ofTarget settings target).identity = target.id.text := rfl

theorem identity_ofModule_of_build
    (success : EffectModule.build settings snapshot container note = .ok built) :
    (ofModule built).identity = built.target.text := by
  obtain ⟨target, _, targeted, same⟩ := ofModule_of_build success
  rw [same, identity_ofTarget, targeted]

theorem identity_ofTarget_inj (held : first ∈ snapshot.declarations)
    (held' : second ∈ snapshot.declarations)
    (same : (ofTarget settings first).identity = (ofTarget settings second).identity) :
    first = second := by
  apply Snapshot.eq_of_id_eq held held'
  rw [identity_ofTarget, identity_ofTarget] at same
  exact congrArg DeclId.mk same

end Capability

end EffectModel
