import EffectModel.Proofs.Module.Build
import EffectModel.Proofs.Walk.Course

/-! Where a walk comes to a fault, and what the fault is. Main statements: a course that halts does so
at a reference of a declaration it stands at, and the fault is that of the reference, of the root or
of what the reference leads to. -/
namespace EffectModel.Walk

variable {settings : Settings} {snapshot : Snapshot} {walk : Walk}
variable {owner found declaration : Declaration} {note : Annotation} {notes : List Annotation}
variable {fault : Fault} {capability : Capability} {capabilities : List Capability}

theorem isOwn_of_absorb (failed : walk.absorb capability = .error fault) :
    fault.IsOwn walk.root := by
  cases known : walk.dependencies.lookup capability.interface with
  | none => simp [absorb, known] at failed
  | some identity =>
    by_cases same : identity = capability.identity
    · simp [absorb, known, same] at failed
    · simp only [absorb, known, same, if_false, Except.error.injEq] at failed
      exact ⟨_, rfl, failed⟩

theorem isOwn_of_absorbAll (failed : capabilities.foldlM absorb walk = .error fault) :
    fault.IsOwn walk.root := by
  induction capabilities generalizing walk with
  | nil => cases failed
  | cons capability rest ih =>
    rw [List.foldlM_cons, bind_eq_error_iff] at failed
    rcases failed with first | ⟨middle, taken, remaining⟩
    · exact isOwn_of_absorb first
    · rw [← (absorb_samePlace taken).root]
      exact ih remaining

/-- What is opened fails by its own modules, or on account of the root. -/
theorem fault_of_openUp (failed : openUp settings snapshot walk declaration = .error fault) :
    EffectModule.buildAll settings snapshot declaration = .error fault ∨ fault.IsOwn walk.root := by
  rcases bind_eq_error_iff.mp failed with unbuilt | ⟨_, _, refused⟩
  · exact .inl unbuilt
  · have own : fault.IsOwn (walk.enter declaration.id).root := isOwn_of_absorbAll refused
    exact .inr own

theorem isMisconfigured_of_referenced
    (failed : referenced settings snapshot owner note = .error fault) :
    fault.IsMisconfigured owner.id := by
  rcases bind_eq_error_iff.mp failed with unusable | ⟨_, _, unresolved⟩
  · exact ⟨_, rfl, (orFault_eq_error_iff.mp unusable).2⟩
  · exact ⟨_, rfl, (orFault_eq_error_iff.mp unresolved).2⟩

/-- A reference halts a walk as it leads to what is still open, on account of the root, as it leads
nowhere, or by the modules of the declaration that it leads to. -/
theorem fault_of_meet (met : meet settings snapshot walk owner note = .error fault) :
    (∃ found, destination settings snapshot note = some found ∧ found.id ∈ walk.stack ∧
        (Cause.cycle (walk.cyclePath found.id)).blame walk.root = fault) ∨
      fault.IsOwn walk.root ∨ referenced settings snapshot owner note = .error fault ∨
        ∃ found, destination settings snapshot note = some found ∧
          EffectModule.buildAll settings snapshot found = .error fault := by
  rcases meet_eq_error_iff.mp met with unresolved | ⟨found, led, _, cause⟩
  · exact .inr (.inr (.inl unresolved))
  · rcases cause with ⟨entered, same⟩ | ⟨_, _, same⟩ | ⟨_, _, failed⟩
    · exact .inl ⟨found, led, entered, same⟩
    · exact .inr (.inl ⟨_, rfl, same⟩)
    · rcases fault_of_openUp failed with unbuilt | own
      · exact .inr (.inr (.inr ⟨found, led, unbuilt⟩))
      · exact .inr (.inl own)

/-- What holds where a course begins, and is handed on into what is opened and past what is closed,
holds at the reference that halts it. -/
theorem Course.halting {Keeps : Walk → Declaration → Prop}
    (into : ∀ {walk opened owner found note}, Keeps walk owner →
      note ∈ references settings owner →
      meet settings snapshot walk owner note = .ok (some (found, opened)) → Keeps opened found)
    (past : ∀ {walk opened walked owner found note}, Keeps walk owner →
      note ∈ references settings owner →
      meet settings snapshot walk owner note = .ok (some (found, opened)) →
      Course settings snapshot opened found (references settings found) (.ok walked) →
      Keeps (walked.leave found.id) owner)
    (course : Course settings snapshot walk owner notes (.error fault)) (keeps : Keeps walk owner)
    (listed : notes ⊆ references settings owner) :
    ∃ walk owner note, Keeps walk owner ∧ note ∈ references settings owner ∧
      meet settings snapshot walk owner note = .error fault := by
  generalize ended : Except.error fault = outcome at course
  induction course with
  | done => cases ended
  | halted met =>
    cases ended
    exact ⟨_, _, _, keeps, listed List.mem_cons_self, met⟩
  | passed met after ih => exact ih keeps (List.cons_subset.mp listed).2 ended
  | lost met below ih =>
    exact ih (into keeps (listed List.mem_cons_self) met) (List.Subset.refl _) ended
  | closed met below after ihBelow ihAfter =>
    exact ihAfter (past keeps (listed List.mem_cons_self) met below)
      (List.cons_subset.mp listed).2 ended

end EffectModel.Walk
