import EffectModel.Proofs.Runtime.Capabilities
import EffectModel.Proofs.Walk.Trail

namespace EffectModel

open Walk

variable {settings : Settings} {snapshot : Snapshot} {root owner found first second : Declaration}
variable {note : Annotation} {notes : List Annotation} {walk opened walked : Walk}
variable {heard : List Declaration}
variable {fault : Fault} {outcome : Except Fault Walk} {capability other : Capability}
variable {effectModule : EffectModule} {modules : List EffectModule}

/-- What a root needs of the declarations it reaches to be composed of their modules. -/
structure Composable (settings : Settings) (snapshot : Snapshot) (root : Declaration) : Prop where
  marked : Runtime.isMarked settings root = true
  led : ∀ declaration, declaration = root ∨ Reaches settings snapshot root declaration →
    ∀ note ∈ references settings declaration, ∃ found,
      destination settings snapshot note = some found
  contributes : ∀ declaration, Reaches settings snapshot root declaration →
    contributes settings declaration = true
  built : ∀ declaration, Reaches settings snapshot root declaration →
    ∃ modules, EffectModule.buildAll settings snapshot declaration = .ok modules
  acyclic : ∀ declaration, declaration = root ∨ Reaches settings snapshot root declaration →
    ¬ Reaches settings snapshot declaration declaration
  uncontested : ∀ first second, Reaches settings snapshot root first →
    Reaches settings snapshot root second → ∀ modules modules',
      EffectModule.buildAll settings snapshot first = .ok modules →
      EffectModule.buildAll settings snapshot second = .ok modules' →
      ∀ effectModule ∈ modules, ∀ other ∈ modules',
        effectModule.identifiers.interface = other.identifiers.interface →
          effectModule.target = other.target

theorem identity_ofModule (built : EffectModule.buildAll settings snapshot owner = .ok modules)
    (member : effectModule ∈ modules) :
    (Capability.ofModule effectModule).identity = effectModule.target.text := by
  obtain ⟨_, _, made⟩ := exists_of_mapM_eq_ok built member
  exact Capability.identity_ofModule_of_build made

variable (settings snapshot) in
/-- Where a walk from a root stands at an owner: all it has heard of is reached from the root, and
all that is open leads to the owner. -/
structure Stands (root : Declaration) (walk : Walk) (owner : Declaration)
    (heard : List Declaration) : Prop where
  gathered : Gathered settings snapshot walk heard
  reached : ∀ declaration ∈ heard, Reaches settings snapshot root declaration
  within : owner = root ∨ Reaches settings snapshot root owner
  leading : ∀ id ∈ walk.stack, ∃ declaration ∈ snapshot.declarations, declaration.id = id ∧
    (declaration = owner ∨ Reaches settings snapshot declaration owner)

namespace Stands

theorem start (present : root ∈ snapshot.declarations) :
    Stands settings snapshot root (Walk.start root.id) root [] := by
  refine ⟨.start root.id, by simp, .inl rfl, ?_⟩
  intro id entered
  exact ⟨root, present, (List.mem_singleton.mp entered).symm, .inl rfl⟩

variable (stands : Stands settings snapshot root walk owner heard)
include stands

theorem reaches (leads : Leads settings snapshot owner found) :
    Reaches settings snapshot root found := by
  rcases stands.within with rfl | further
  · exact .single leads
  · exact further.tail leads

/-- What an owner leads to closes a circle where it is still open. -/
theorem circle (leads : Leads settings snapshot owner found) (entered : found.id ∈ walk.stack) :
    Reaches settings snapshot found found := by
  obtain ⟨declaration, held, same, back⟩ := stands.leading found.id entered
  cases Snapshot.eq_of_id_eq held leads.mem same
  rcases back with rfl | back
  · exact .single leads
  · exact back.tail leads

theorem of_meet (listed : note ∈ references settings owner)
    (met : meet settings snapshot walk owner note = .ok (some (found, opened))) :
    Stands settings snapshot root opened found (heard ++ [found]) := by
  have leads : Leads settings snapshot owner found :=
    leads_iff.mpr ⟨note, listed, (meet_eq_some_iff.mp met).1⟩
  refine ⟨stands.gathered.of_meet met, ?_, .inr (stands.reaches leads), ?_⟩
  · intro declaration member
    rcases List.mem_append.mp member with old | new
    · exact stands.reached declaration old
    · exact List.mem_singleton.mp new ▸ stands.reaches leads
  · intro id entered
    rw [stack_of_meet met] at entered
    rcases List.mem_append.mp entered with outer | inner
    · obtain ⟨declaration, held, same, further⟩ := stands.leading id outer
      refine ⟨declaration, held, same, .inr ?_⟩
      rcases further with rfl | further
      · exact .single leads
      · exact further.tail leads
    · exact ⟨found, leads.mem, (List.mem_singleton.mp inner).symm, .inl rfl⟩

/-- Behind a declaration that was opened and closed, the walk stands at its owner again. -/
theorem of_leave (listed : note ∈ references settings owner)
    (met : meet settings snapshot walk owner note = .ok (some (found, opened)))
    (below : Course settings snapshot opened found (references settings found) (.ok walked)) :
    ∃ more, Stands settings snapshot root (walked.leave found.id) owner (heard ++ more) := by
  have leads : Leads settings snapshot owner found :=
    leads_iff.mpr ⟨note, listed, (meet_eq_some_iff.mp met).1⟩
  have course : Course settings snapshot walk owner [note] (.ok (walked.leave found.id)) :=
    .closed met below .done
  obtain ⟨more, gathers⟩ := course.gathers stands.gathered
  refine ⟨more, gathers.gathered, ?_, stands.within, ?_⟩
  · intro declaration member
    rcases List.mem_append.mp member with old | new
    · exact stands.reached declaration old
    · have led : destination settings snapshot note = some found := (meet_eq_some_iff.mp met).1
      rcases gathers.unfolding.mem_iff.mp new with first | ⟨origin, first, further⟩
      · simp only [List.filterMap_cons, led, List.filterMap_nil, List.mem_singleton] at first
        exact first ▸ stands.reaches leads
      · simp only [List.filterMap_cons, led, List.filterMap_nil, List.mem_singleton] at first
        exact (stands.reaches leads).trans (first ▸ further)
  · rw [stack_of_leave met below.stack_eq]
    exact stands.leading

end Stands

/-- A walk from a root that comes to a fault stands at the reference that halts it, and what is open
there is its trail. -/
theorem exists_halt_of_ofRoot (present : root ∈ snapshot.declarations)
    (failed : ofRoot settings snapshot root = .error fault) :
    ∃ walk owner note, (Trail settings snapshot root walk owner ∧
        ∃ heard, Stands settings snapshot root walk owner heard) ∧
      note ∈ references settings owner ∧ meet settings snapshot walk owner note = .error fault := by
  have course := (ofRoot_eq_iff present).mp failed
  refine course.halting ?_ ?_ ⟨.start present, [], .start present⟩ (List.Subset.refl _)
  · rintro walk opened owner found note ⟨trail, heard, stands⟩ listed met
    exact ⟨trail.of_meet listed met, _, stands.of_meet listed met⟩
  · rintro walk opened walked owner found note ⟨trail, heard, stands⟩ listed met below
    obtain ⟨more, further⟩ := stands.of_leave listed met below
    exact ⟨trail.of_leave met below, _, further⟩

/-- What a root needs of the declarations it reaches for nothing but a circle to stop its walk. -/
structure Unhindered (settings : Settings) (snapshot : Snapshot) (root : Declaration) : Prop where
  led : ∀ declaration, declaration = root ∨ Reaches settings snapshot root declaration →
    ∀ note ∈ references settings declaration, ∃ found,
      destination settings snapshot note = some found
  contributes : ∀ declaration, Reaches settings snapshot root declaration →
    Walk.contributes settings declaration = true
  built : ∀ declaration, Reaches settings snapshot root declaration →
    ∃ modules, EffectModule.buildAll settings snapshot declaration = .ok modules
  uncontested : ∀ first second, Reaches settings snapshot root first →
    Reaches settings snapshot root second → ∀ modules modules',
      EffectModule.buildAll settings snapshot first = .ok modules →
      EffectModule.buildAll settings snapshot second = .ok modules' →
      ∀ effectModule ∈ modules, ∀ other ∈ modules',
        effectModule.identifiers.interface = other.identifiers.interface →
          effectModule.target = other.target

theorem Composable.unhindered (composable : Composable settings snapshot root) :
    Unhindered settings snapshot root :=
  ⟨composable.led, composable.contributes, composable.built, composable.uncontested⟩

namespace Unhindered

variable (unhindered : Unhindered settings snapshot root)
include unhindered

theorem identity_eq (reaches : Reaches settings snapshot root first)
    (reaches' : Reaches settings snapshot root second)
    (offers : capability ∈ offered settings snapshot first)
    (offers' : other ∈ offered settings snapshot second)
    (same : capability.interface = other.interface) : capability.identity = other.identity := by
  obtain ⟨modules, built, effectModule, member, rfl⟩ := mem_offered_iff.mp offers
  obtain ⟨modules', built', effectModule', member', rfl⟩ := mem_offered_iff.mp offers'
  rw [identity_ofModule built member, identity_ofModule built' member',
    unhindered.uncontested first second reaches reaches' modules modules' built built'
      effectModule member effectModule' member' same]

theorem agree (reached : ∀ declaration ∈ heard, Reaches settings snapshot root declaration) :
    Agree (heard.flatMap (offered settings snapshot)) := by
  intro capability met other met' same
  obtain ⟨declaration, present, offers⟩ := List.mem_flatMap.mp met
  obtain ⟨declaration', present', offers'⟩ := List.mem_flatMap.mp met'
  exact unhindered.identity_eq (reached declaration present) (reached declaration' present')
    offers offers' same

/-- A reference that halts a walk which nothing else stops leads to what is still open. -/
theorem circle_of_meet (stands : Stands settings snapshot root walk owner heard)
    (listed : note ∈ references settings owner)
    (halted : meet settings snapshot walk owner note = .error fault) :
    ∃ found, Leads settings snapshot owner found ∧ found.id ∈ walk.stack ∧
      (Cause.cycle (walk.cyclePath found.id)).blame walk.root = fault := by
  rcases meet_eq_error_iff.mp halted with unresolved | ⟨found, led, _, cause⟩
  · obtain ⟨found, led⟩ := unhindered.led owner stands.within note listed
    rw [referenced_eq_ok_iff.mpr led] at unresolved
    cases unresolved
  · have leads : Leads settings snapshot owner found := leads_iff.mpr ⟨note, listed, led⟩
    have reaches : Reaches settings snapshot root found := stands.reaches leads
    rcases cause with ⟨entered, same⟩ | ⟨_, gives, _⟩ | ⟨_, _, failed⟩
    · exact ⟨found, leads, entered, same⟩
    · rw [unhindered.contributes found reaches] at gives
      cases gives
    · have agree : Agree ((heard ++ [found]).flatMap (offered settings snapshot)) := by
        apply unhindered.agree
        intro declaration member
        rcases List.mem_append.mp member with old | new
        · exact stands.reached declaration old
        · exact List.mem_singleton.mp new ▸ reaches
      rw [List.flatMap_append, List.flatMap_singleton] at agree
      obtain ⟨next, success⟩ :=
        stands.gathered.holds.openUp_total (unhindered.built found reaches) agree
      rw [success] at failed
      cases failed

end Unhindered

namespace Composable

variable (composable : Composable settings snapshot root)
include composable

theorem meet_ne_error (stands : Stands settings snapshot root walk owner heard)
    (listed : note ∈ references settings owner) :
    meet settings snapshot walk owner note ≠ .error fault := by
  intro halted
  obtain ⟨found, leads, entered, _⟩ :=
    composable.unhindered.circle_of_meet stands listed halted
  exact composable.acyclic found (.inr (stands.reaches leads)) (stands.circle leads entered)

/-- The walk of a composable root ends, and its runtime is composed. -/
theorem aggregate_total (present : root ∈ snapshot.declarations) :
    ∃ runtime, Runtime.aggregate settings snapshot root = .ok runtime := by
  cases walked : ofRoot settings snapshot root with
  | error fault =>
    obtain ⟨_, _, _, ⟨_, heard, stands⟩, listed, met⟩ := exists_halt_of_ofRoot present walked
    exact (composable.meet_ne_error stands listed met).elim
  | ok walk =>
    exact ⟨_, Runtime.aggregate_eq_ok_iff.mpr ⟨composable.marked, walk, walked, rfl⟩⟩

end Composable

theorem Composable.of_aggregate {runtime : Runtime} (present : root ∈ snapshot.declarations)
    (success : Runtime.aggregate settings snapshot root = .ok runtime) :
    Composable settings snapshot root := by
  obtain ⟨marked, walk, walked, _⟩ := Runtime.aggregate_eq_ok_iff.mp success
  obtain ⟨order, gathers⟩ := exists_gathers_of_ofRoot present walked
  have sound : ∀ declaration, Reaches settings snapshot root declaration →
      Sound settings snapshot declaration := fun _ reaches => (gathers.entire reaches).sound
  refine ⟨marked, ?_, fun declaration reaches => (sound declaration reaches).contributes,
    fun declaration reaches => (sound declaration reaches).built,
    fun declaration within => gathers.unfolding.not_reaches_self within, ?_⟩
  · rintro declaration (rfl | reaches)
    · exact gathers.led
    · exact (sound declaration reaches).led
  · intro first second reaches reaches' modules modules' built built' effectModule member other
      member' same
    have agree : Agree (order.flatMap (offered settings snapshot)) :=
      gathers.gathered.holds.agree
    have offers : ∀ {declaration modules effectModule},
        Reaches settings snapshot root declaration →
        EffectModule.buildAll settings snapshot declaration = .ok modules →
        effectModule ∈ modules →
        Capability.ofModule effectModule ∈ order.flatMap (offered settings snapshot) := by
      intro declaration modules effectModule reaches built member
      exact List.mem_flatMap.mpr ⟨declaration, gathers.unfolding.mem_iff_reaches.mpr reaches,
        mem_offered_iff.mpr ⟨modules, built, effectModule, member, rfl⟩⟩
    have identity := agree _ (offers reaches built member) _ (offers reaches' built' member') same
    rw [identity_ofModule built member, identity_ofModule built' member'] at identity
    exact congrArg DeclId.mk identity

/-- A runtime is composed exactly where its root and all that it reaches allow it, in whatever order
they refer to each other. -/
theorem aggregate_ok_iff_composable (present : root ∈ snapshot.declarations) :
    (∃ runtime, Runtime.aggregate settings snapshot root = .ok runtime) ↔
      Composable settings snapshot root := by
  constructor
  · rintro ⟨runtime, success⟩
    exact .of_aggregate present success
  · intro composable
    exact composable.aggregate_total present

namespace Sample

def circleRoot : Declaration :=
  declared "App.Root" .classDecl [.bare "Runtime", pointing "Uses" "App.Clock"]

/-- A root with two declarations below it that refer to each other. -/
def circle : Snapshot where
  declarations := [circleRoot, declared "App.Clock" .classDecl [pointing "Uses" "App.Mail"],
    declared "App.Mail" .classDecl [pointing "Uses" "App.Clock"]]
  distinct := by decide +kernel

end Sample

theorem aggregate_ok_iff_composable_samples :
    (Sample.diamondRoot ∈ Sample.diamond.declarations ∧
      Composable {} Sample.diamond Sample.diamondRoot) ∧
    (Sample.circleRoot ∈ Sample.circle.declarations ∧
      ¬ Composable {} Sample.circle Sample.circleRoot) := by
  constructor
  · have present : Sample.diamondRoot ∈ Sample.diamond.declarations := by decide +kernel
    have offers : (Runtime.aggregate {} Sample.diamond Sample.diamondRoot).map Runtime.interfaces =
        .ok ["IHasClock", "IHasMail"] := by decide +kernel
    obtain ⟨runtime, success, _⟩ := map_eq_ok_iff.mp offers
    exact ⟨present, (aggregate_ok_iff_composable present).mp ⟨runtime, success⟩⟩
  · have present : Sample.circleRoot ∈ Sample.circle.declarations := by decide +kernel
    have halted : (Runtime.aggregate {} Sample.circle Sample.circleRoot).toOption = none := by
      decide +kernel
    refine ⟨present, fun composable => ?_⟩
    obtain ⟨runtime, success⟩ := (aggregate_ok_iff_composable present).mpr composable
    rw [success] at halted
    cases halted

end EffectModel
