import EffectModel.Proofs.Runtime.Composable

namespace EffectModel

open Walk

variable {settings : Settings} {snapshot : Snapshot} {root owner found : Declaration}
variable {note : Annotation} {walk : Walk} {heard : List Declaration} {fault : Fault}
variable {path : List DeclId}

/-- A fault that shows a root a circle among the references that it follows. -/
structure ShowsCircle (settings : Settings) (snapshot : Snapshot) (root : Declaration)
    (fault : Fault) (path : List DeclId) : Prop where
  kind : fault.kind = .resolution
  blamed : fault.declaration = root.id
  message : fault.message =
    Cause.cycleOpening ++ ": " ++ " -> ".intercalate (path.map DeclId.text)
  circle : Circle settings snapshot path
  within : ∃ first ∈ snapshot.declarations, path.head? = some first.id ∧
    (first = root ∨ Reaches settings snapshot root first)

namespace Runtime

theorem aggregate_eq_error_iff : aggregate settings snapshot root = .error fault ↔
    isMarked settings root = true ∧ ofRoot settings snapshot root = .error fault ∨
      isMarked settings root = false ∧ Cause.notARuntime.blame root.id = fault := by
  cases marked : isMarked settings root with
  | false => simp [aggregate, marked]
  | true => simp [aggregate, marked, map_eq_error_iff]

end Runtime

theorem Walk.Trail.showsCircle (trail : Trail settings snapshot root walk owner)
    (stands : Stands settings snapshot root walk owner heard)
    (leads : Leads settings snapshot owner found) (entered : found.id ∈ walk.stack) :
    ShowsCircle settings snapshot root ((Cause.cycle (walk.cyclePath found.id)).blame walk.root)
      (walk.cyclePath found.id) := by
  obtain ⟨circle, begins⟩ := trail.circle leads entered
  refine ⟨rfl, trail.origin, ?_, circle, found, leads.mem, begins, .inr (stands.reaches leads)⟩
  rfl

theorem showsCircle_of_ofRoot (present : root ∈ snapshot.declarations)
    (failed : ofRoot settings snapshot root = .error fault) (tells : fault.tellsOfCycle) :
    ∃ path, ShowsCircle settings snapshot root fault path := by
  obtain ⟨walk, owner, note, ⟨trail, heard, stands⟩, listed, met⟩ :=
    exists_halt_of_ofRoot present failed
  rcases fault_of_meet met with ⟨found, led, entered, rfl⟩ | own | unresolved | ⟨_, _, unbuilt⟩
  · exact ⟨_, trail.showsCircle stands (leads_iff.mpr ⟨note, listed, led⟩) entered⟩
  · exact (own.not_tellsOfCycle tells).elim
  · exact ((isMisconfigured_of_referenced unresolved).isOwn.not_tellsOfCycle tells).elim
  · exact ((EffectModule.isOwn_of_buildAll unbuilt).not_tellsOfCycle tells).elim

theorem Unhindered.showsCircle_of_ofRoot (unhindered : Unhindered settings snapshot root)
    (present : root ∈ snapshot.declarations)
    (failed : ofRoot settings snapshot root = .error fault) :
    ∃ path, ShowsCircle settings snapshot root fault path := by
  obtain ⟨walk, owner, note, ⟨trail, heard, stands⟩, listed, met⟩ :=
    exists_halt_of_ofRoot present failed
  obtain ⟨found, leads, entered, rfl⟩ := unhindered.circle_of_meet stands listed met
  exact ⟨_, trail.showsCircle stands leads entered⟩

/-- A message that begins as those about cycles do shows its root a circle that is there; and a root
that leads into a circle is shown one, unless something else is wrong with what it reaches. -/
theorem aggregate_showsCircle (present : root ∈ snapshot.declarations) :
    (∀ fault, Runtime.aggregate settings snapshot root = .error fault →
      Cause.cycleOpening.toList <+: fault.message.toList →
        ∃ path, ShowsCircle settings snapshot root fault path) ∧
    (Runtime.isMarked settings root = true → Unhindered settings snapshot root →
      (∃ declaration, (declaration = root ∨ Reaches settings snapshot root declaration) ∧
        Reaches settings snapshot declaration declaration) →
      ∃ fault path, Runtime.aggregate settings snapshot root = .error fault ∧
        ShowsCircle settings snapshot root fault path) := by
  constructor
  · intro fault failed opens
    rcases Runtime.aggregate_eq_error_iff.mp failed with ⟨_, halted⟩ | ⟨_, rfl⟩
    · exact showsCircle_of_ofRoot present halted opens
    · exact absurd opens (Fault.IsOwn.not_tellsOfCycle ⟨_, rfl, rfl⟩)
  · rintro marked unhindered ⟨declaration, within, circular⟩
    cases walked : ofRoot settings snapshot root with
    | ok walk =>
      have success := Runtime.aggregate_eq_ok_iff.mpr ⟨marked, walk, walked, rfl⟩
      exact ((Composable.of_aggregate present success).acyclic declaration within circular).elim
    | error fault =>
      obtain ⟨path, shows⟩ := unhindered.showsCircle_of_ofRoot present walked
      exact ⟨fault, path, Runtime.aggregate_eq_error_iff.mpr (.inl ⟨marked, walked⟩), shows⟩

namespace Sample

def circleClock : Declaration :=
  declared "App.Clock" .classDecl [pointing "EffectsModule" "App.IClock",
    pointing "Uses" "App.Mail"]

def circleMail : Declaration := declared "App.Mail" .classDecl [pointing "Uses" "App.Clock"]

/-- The root of a circle in which one of the declarations gives a module. -/
def givingCircle : Snapshot where
  declarations := [circleRoot, declared "App.IClock" .interfaceDecl [], circleClock, circleMail]
  distinct := by decide +kernel

theorem circular_givingCircle : Reaches {} givingCircle circleRoot circleClock ∧
    Reaches {} givingCircle circleClock circleClock := by
  have first : circleClock ∈ destinations {} givingCircle circleRoot := by decide +kernel
  have second : circleMail ∈ destinations {} givingCircle circleClock := by decide +kernel
  have third : circleClock ∈ destinations {} givingCircle circleMail := by decide +kernel
  exact ⟨.single first, .tail (.single second) third⟩

theorem unhindered_givingCircle : Unhindered {} givingCircle circleRoot := by
  have reached : ∀ declaration, Reaches {} givingCircle circleRoot declaration →
      declaration ∈ [circleClock, circleMail] :=
    fun _ => Reaches.mem_of_closed (by decide +kernel) (by decide +kernel)
  have led : ∀ declaration ∈ [circleRoot, circleClock, circleMail],
      ∀ note ∈ references {} declaration, (destination {} givingCircle note).isSome := by
    decide +kernel
  have gives : ∀ declaration ∈ [circleClock, circleMail], contributes {} declaration = true := by
    decide +kernel
  have built : ∀ declaration ∈ [circleClock, circleMail],
      (EffectModule.buildAll {} givingCircle declaration).map (List.map EffectModule.target) =
        .ok (if declaration = circleClock then [⟨"App.IClock"⟩] else []) := by decide +kernel
  refine ⟨?_, fun declaration reaches => gives declaration (reached declaration reaches), ?_, ?_⟩
  · intro declaration within note listed
    apply Option.isSome_iff_exists.mp
    apply led declaration _ note listed
    rcases within with rfl | reaches
    · exact List.mem_cons_self
    · exact List.mem_cons_of_mem _ (reached declaration reaches)
  · intro declaration reaches
    obtain ⟨modules, success, _⟩ := map_eq_ok_iff.mp (built declaration (reached declaration reaches))
    exact ⟨modules, success⟩
  · intro first second reaches reaches' modules modules' success success' one member other member' _
    have targets : ∀ {declaration modules}, Reaches {} givingCircle circleRoot declaration →
        EffectModule.buildAll {} givingCircle declaration = .ok modules →
        ∀ effectModule ∈ modules, effectModule.target = ⟨"App.IClock"⟩ := by
      intro declaration modules reaches success effectModule member
      have known := built declaration (reached declaration reaches)
      rw [success] at known
      have listed := List.mem_map_of_mem (f := EffectModule.target) member
      rw [Except.ok.inj known] at listed
      split at listed
      · exact List.mem_singleton.mp listed
      · cases listed
    rw [targets reaches success one member, targets reaches' success' other member']

end Sample

theorem aggregate_showsCircle_clock :
    Sample.circleRoot ∈ Sample.givingCircle.declarations ∧
      Unhindered {} Sample.givingCircle Sample.circleRoot ∧
      ∃ fault path, Runtime.aggregate {} Sample.givingCircle Sample.circleRoot = .error fault ∧
        Cause.cycleOpening.toList <+: fault.message.toList ∧
        fault.message = "circular module reference: App.Clock -> App.Mail -> App.Clock" ∧
        ShowsCircle {} Sample.givingCircle Sample.circleRoot fault path := by
  have present : Sample.circleRoot ∈ Sample.givingCircle.declarations := by decide +kernel
  have marked : Runtime.isMarked {} Sample.circleRoot = true := by decide +kernel
  obtain ⟨reached, circular⟩ := Sample.circular_givingCircle
  obtain ⟨fault, _, failed, shown⟩ := (aggregate_showsCircle present).2 marked
    Sample.unhindered_givingCircle ⟨Sample.circleClock, .inr reached, circular⟩
  have told : Runtime.aggregate {} Sample.givingCircle Sample.circleRoot =
      .error ((Cause.cycle [⟨"App.Clock"⟩, ⟨"App.Mail"⟩, ⟨"App.Clock"⟩]).blame ⟨"App.Root"⟩) := by
    decide +kernel
  have same := Except.error.inj (failed.symm.trans told)
  have opens : Cause.cycleOpening.toList <+: fault.message.toList := by
    rw [same]
    exact Fault.tellsOfCycle_blame_iff.mpr rfl
  obtain ⟨path, shows⟩ := (aggregate_showsCircle present).1 fault failed opens
  exact ⟨present, Sample.unhindered_givingCircle, fault, path, failed, opens, same ▸ rfl, shows⟩

end EffectModel
