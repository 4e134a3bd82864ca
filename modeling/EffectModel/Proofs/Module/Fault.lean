import EffectModel.Proofs.Module.Build

namespace EffectModel.EffectModule

section Definitions

variable (settings : Settings) (snapshot : Snapshot)

/-- A method keeps an annotation from making a module of its target: the target is there and has a
name to offer, the method is to become an effect, and its result is awaited for something unknown.
An enumeration is no target. -/
structure StoppedBy (note : Annotation) (target : Declaration) (method : Method) : Prop where
  led : destination settings snapshot note = some target
  offers : target.kind ≠ .enumDecl
  named : propertyName settings target ≠ ""
  declared : method ∈ target.methods
  ofInstance : method.isStatic = false
  visible : method.access = .isPublic
  kept : (MethodFilter.ofAnnotation note settings.vocabulary.includeKey
    settings.vocabulary.excludeKey).keeps method.name = true
  unliftable : settings.lifting.classify? method.returnType = none

/-- The first annotation of a container that makes no module. -/
structure FirstFailing (container : Declaration) (note : Annotation) : Prop where
  first : ∃ before after,
    container.annotationsOf settings.vocabulary.moduleKind = before ++ note :: after ∧
      ∀ earlier ∈ before, ∃ built, build settings snapshot container earlier = .ok built
  fails : ∃ fault, build settings snapshot container note = .error fault

end Definitions

variable {settings : Settings} {snapshot : Snapshot} {container target : Declaration}
variable {note : Annotation} {method : Method} {filter : MethodFilter} {owner : DeclId}
variable {fault : Fault}

theorem mem_keptMethods_iff : method ∈ keptMethods target filter ↔
    method ∈ target.methods ∧ method.isStatic = false ∧ method.access = .isPublic ∧
      filter.keeps method.name = true := by
  simp only [keptMethods, Declaration.instanceMethods, List.mem_filter, Bool.not_eq_true',
    Bool.and_eq_true, beq_iff_eq, and_assoc]

theorem effectOf_eq_error_iff : effectOf settings owner method = .error fault ↔
    settings.lifting.classify? method.returnType = none ∧
      (Cause.unclassified method.name method.returnType.display).blame owner = fault := by
  simp [effectOf, LiftingRules.classifyMethod, bind_eq_error_iff]

theorem effectsOf_eq_error_iff : effectsOf settings owner target filter = .error fault ↔
    (keptMethods target filter).mapM (effectOf settings owner) = .error fault := by
  simp [effectsOf, bind_eq_error_iff]

theorem exists_unliftable (failed : effectsOf settings owner target filter = .error fault) :
    fault.kind = .resolution ∧ ∃ method ∈ keptMethods target filter,
      settings.lifting.classify? method.returnType = none := by
  obtain ⟨method, kept, halted⟩ := exists_of_mapM_eq_error (effectsOf_eq_error_iff.mp failed)
  obtain ⟨unliftable, rfl⟩ := effectOf_eq_error_iff.mp halted
  exact ⟨rfl, method, kept, unliftable⟩

theorem effectsOf_ne_ok {effects : List Effect} (kept : method ∈ keptMethods target filter)
    (unliftable : settings.lifting.classify? method.returnType = none) :
    effectsOf settings owner target filter ≠ .ok effects := by
  intro success
  obtain ⟨initial, lifted, _⟩ := bind_eq_ok_iff.mp success
  obtain ⟨_, _, made⟩ := exists_value_of_mapM_eq_ok lifted kept
  rw [effectOf_eq_error_iff.mpr ⟨unliftable, rfl⟩] at made
  cases made

namespace StoppedBy

variable (stopped : StoppedBy settings snapshot note target method)
include stopped

theorem mem_keptMethods : method ∈ keptMethods target (MethodFilter.ofAnnotation note
    settings.vocabulary.includeKey settings.vocabulary.excludeKey) :=
  mem_keptMethods_iff.mpr ⟨stopped.declared, stopped.ofInstance, stopped.visible, stopped.kept⟩

/-- An annotation that a method stops makes no module of its target, in whichever container. -/
theorem exists_fault (container : Declaration) : ∃ fault,
    build settings snapshot container note = .error fault ∧ fault.kind = .resolution := by
  cases lifted : effectsOf settings container.id target (MethodFilter.ofAnnotation note
      settings.vocabulary.includeKey settings.vocabulary.excludeKey) with
  | ok effects => exact (effectsOf_ne_ok stopped.mem_keptMethods stopped.unliftable lifted).elim
  | error fault =>
    have targeted : targetOf settings snapshot container note = .ok target :=
      targetOf_eq_ok_iff.mpr ⟨stopped.led, stopped.offers⟩
    have failed := build_eq_error_iff.mpr (.inr ⟨target, targeted, .inr ⟨stopped.named, lifted⟩⟩)
    exact ⟨fault, failed, (exists_unliftable lifted).1⟩

end StoppedBy

theorem stoppedBy_of_effectsOf
    (targeted : targetOf settings snapshot container note = .ok target)
    (named : propertyName settings target ≠ "")
    (unlifted : effectsOf settings container.id target (MethodFilter.ofAnnotation note
      settings.vocabulary.includeKey settings.vocabulary.excludeKey) = .error fault) :
    ∃ method, StoppedBy settings snapshot note target method := by
  obtain ⟨led, offers⟩ := targetOf_eq_ok_iff.mp targeted
  obtain ⟨_, method, kept, unliftable⟩ := exists_unliftable unlifted
  obtain ⟨declared, ofInstance, visible, kept⟩ := mem_keptMethods_iff.mp kept
  exact ⟨method, led, offers, named, declared, ofInstance, visible, kept, unliftable⟩

/-- A module that is not built is a matter of resolution where a method stops it. -/
theorem kind_of_build (failed : build settings snapshot container note = .error fault) :
    fault.kind = .resolution ↔ ∃ target method, StoppedBy settings snapshot note target method := by
  constructor
  · intro resolution
    rcases build_eq_error_iff.mp failed with untargeted | ⟨target, targeted, cause⟩
    · rw [(isMisconfigured_of_targetOf untargeted).kind_eq] at resolution
      cases resolution
    · rcases cause with ⟨_, rfl⟩ | ⟨named, unlifted⟩
      · cases resolution
      · exact ⟨target, stoppedBy_of_effectsOf targeted named unlifted⟩
  · rintro ⟨target, method, stopped⟩
    obtain ⟨other, halted, resolution⟩ := stopped.exists_fault container
    cases failed.symm.trans halted
    exact resolution

theorem FirstFailing.buildAll_eq (failing : FirstFailing settings snapshot container note) :
    ∃ fault, build settings snapshot container note = .error fault ∧
      buildAll settings snapshot container = .error fault := by
  obtain ⟨⟨before, after, split, passed⟩, fault, failed⟩ := failing
  exact ⟨fault, failed, mapM_eq_error_iff.mpr ⟨before, note, after, split, passed, failed⟩⟩

theorem exists_firstFailing (failed : buildAll settings snapshot container = .error fault) :
    ∃ note, FirstFailing settings snapshot container note ∧
      build settings snapshot container note = .error fault := by
  obtain ⟨before, note, after, split, passed, halted⟩ := mapM_eq_error_iff.mp failed
  exact ⟨note, ⟨⟨before, after, split, passed⟩, fault, halted⟩, halted⟩

/-- The fault of a container is a matter of resolution exactly where a method stops the first of its
modules that is not built. -/
theorem kind_of_buildAll (failed : buildAll settings snapshot container = .error fault) :
    fault.kind = .resolution ↔ ∃ note, FirstFailing settings snapshot container note ∧
      ∃ target method, StoppedBy settings snapshot note target method := by
  constructor
  · intro resolution
    obtain ⟨note, failing, halted⟩ := exists_firstFailing failed
    exact ⟨note, failing, (kind_of_build halted).mp resolution⟩
  · rintro ⟨note, failing, stopped⟩
    obtain ⟨other, halted, same⟩ := failing.buildAll_eq
    cases failed.symm.trans same
    exact (kind_of_build halted).mpr stopped

end EffectModel.EffectModule
