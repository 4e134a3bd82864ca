import EffectModel.Proofs.Reannotated
import EffectModel.Proofs.Runtime.Unfolded

namespace EffectModel

open Walk

/-- A declaration with the annotations of another one in some order, and else the same. -/
def Declaration.Rearranges (declaration other : Declaration) : Prop :=
  ∃ notes, declaration.annotations.Perm notes ∧ { declaration with annotations := notes } = other

/-- The same declarations in the same order, each with its annotations in some order. -/
abbrev Snapshot.Rearranges : Snapshot → Snapshot → Prop :=
  Snapshot.Corresponds Declaration.Rearranges

namespace Declaration.Rearranges

variable {settings : Settings} {declaration other : Declaration}

theorem symm (same : declaration.Rearranges other) : other.Rearranges declaration := by
  obtain ⟨_, perm, rfl⟩ := same
  exact ⟨_, perm.symm, rfl⟩

theorem reannotates (same : declaration.Rearranges other) : declaration.Reannotates other := by
  obtain ⟨notes, _, other⟩ := same
  exact ⟨notes, other⟩

theorem id_eq (same : declaration.Rearranges other) : declaration.id = other.id :=
  same.reannotates.id_eq

theorem annotationsOf_perm (same : declaration.Rearranges other) (kind : String) :
    (declaration.annotationsOf kind).Perm (other.annotationsOf kind) := by
  obtain ⟨_, perm, rfl⟩ := same
  exact perm.filter _

theorem hasAnnotation_eq (same : declaration.Rearranges other) (kind : String) :
    declaration.hasAnnotation kind = other.hasAnnotation kind := by
  obtain ⟨_, perm, rfl⟩ := same
  exact perm.any_eq

theorem contributes_eq (same : declaration.Rearranges other) :
    contributes settings declaration = contributes settings other :=
  contributes_congr same.hasAnnotation_eq

end Declaration.Rearranges

namespace Snapshot.Rearranges

variable {settings : Settings} {snapshot snapshot' : Snapshot} {root root' : Declaration}
variable {declaration other found : Declaration} {modules : List EffectModule}
variable {capability : Capability} {order order' : List Declaration} {note : Annotation}

theorem symm (rearranged : snapshot.Rearranges snapshot') : snapshot'.Rearranges snapshot :=
  Corresponds.symm rearranged fun same => same.symm

variable (rearranged : snapshot.Rearranges snapshot')
include rearranged

theorem exists_buildAll (same : declaration.Rearranges other)
    (built : EffectModule.buildAll settings snapshot declaration = .ok modules) :
    ∃ modules', EffectModule.buildAll settings snapshot' other = .ok modules' ∧
      modules.Perm modules' := by
  have alike : EffectModule.build settings snapshot declaration =
      EffectModule.build settings snapshot' other :=
    funext fun note => Corresponds.build_eq rearranged (fun same => same.reannotates) same.reannotates
  rw [EffectModule.buildAll, alike] at built
  exact exists_perm_of_mapM_eq_ok (same.annotationsOf_perm _) built

theorem mem_offered (same : declaration.Rearranges other)
    (offers : capability ∈ offered settings snapshot declaration) :
    capability ∈ offered settings snapshot' other := by
  obtain ⟨modules, built, effectModule, member, rfl⟩ := mem_offered_iff.mp offers
  obtain ⟨modules', built', perm⟩ := rearranged.exists_buildAll same built
  exact mem_offered_iff.mpr ⟨modules', built', effectModule, perm.subset member, rfl⟩

theorem exists_destination (led : destination settings snapshot note = some found) :
    ∃ found', destination settings snapshot' note = some found' ∧ found.Rearranges found' := by
  have related := Corresponds.destination_rel rearranged (fun same => same.reannotates) settings note
  rw [led] at related
  generalize destination settings snapshot' note = led' at related
  cases related with
  | some alike => exact ⟨_, rfl, alike⟩

theorem exists_leads (same : declaration.Rearranges other)
    (leads : Leads settings snapshot declaration found) :
    ∃ found', found.Rearranges found' ∧ Leads settings snapshot' other found' := by
  obtain ⟨note, listed, led⟩ := leads_iff.mp leads
  obtain ⟨found', led', alike⟩ := rearranged.exists_destination led
  exact ⟨found', alike, leads_iff.mpr ⟨note, (same.annotationsOf_perm _).subset listed, led'⟩⟩

theorem exists_reaches (same : declaration.Rearranges other)
    (reaches : Reaches settings snapshot declaration found) :
    ∃ found', found.Rearranges found' ∧ Reaches settings snapshot' other found' := by
  induction reaches with
  | single leads =>
    obtain ⟨found', alike, leads'⟩ := rearranged.exists_leads same leads
    exact ⟨found', alike, .single leads'⟩
  | tail _ leads ih =>
    obtain ⟨middle, alike, reaches'⟩ := ih
    obtain ⟨found', alike', leads'⟩ := rearranged.exists_leads alike leads
    exact ⟨found', alike', reaches'.tail leads'⟩

theorem acc (same : declaration.Rearranges other)
    (founded : Acc (fun later earlier => Leads settings snapshot earlier later) declaration) :
    Acc (fun later earlier => Leads settings snapshot' earlier later) other := by
  induction founded generalizing other with
  | intro declaration _ ih =>
    refine .intro _ fun found' leads' => ?_
    obtain ⟨found, alike, leads⟩ := rearranged.symm.exists_leads same.symm leads'
    exact ih found leads alike.symm

theorem led (same : declaration.Rearranges other)
    (each : ∀ note ∈ references settings declaration, ∃ found,
      destination settings snapshot note = some found) :
    ∀ note ∈ references settings other, ∃ found,
      destination settings snapshot' note = some found := by
  intro note listed
  obtain ⟨found, led⟩ := each note ((same.annotationsOf_perm _).symm.subset listed)
  obtain ⟨found', led', _⟩ := rearranged.exists_destination led
  exact ⟨found', led'⟩

theorem sound (same : declaration.Rearranges other)
    (whole : Sound settings snapshot declaration) : Sound settings snapshot' other := by
  obtain ⟨modules, built⟩ := whole.built
  obtain ⟨modules', built', _⟩ := rearranged.exists_buildAll same built
  exact ⟨same.contributes_eq ▸ whole.contributes, ⟨modules', built'⟩, rearranged.led same whole.led⟩

/-- What a root unfolds to is offered by what its rearranged root unfolds to. -/
theorem mem_offered_of_unfolds (same : root.Rearranges root')
    (unfolds : Unfolds settings snapshot root order)
    (unfolds' : Unfolds settings snapshot' root' order')
    (offers : ∃ declaration ∈ order, capability ∈ offered settings snapshot declaration) :
    ∃ declaration ∈ order', capability ∈ offered settings snapshot' declaration := by
  obtain ⟨declaration, member, offers⟩ := offers
  obtain ⟨other, alike, reaches⟩ :=
    rearranged.exists_reaches same (unfolds.unfolding.mem_iff_reaches.mp member)
  exact ⟨other, unfolds'.unfolding.mem_iff_reaches.mpr reaches, rearranged.mem_offered alike offers⟩

theorem exists_unfolds (same : root.Rearranges root')
    (unfolds : Unfolds settings snapshot root order) :
    ∃ order', Unfolds settings snapshot' root' order' := by
  have founded : Acc (fun later earlier => Leads settings snapshot earlier later) root :=
    .intro _ unfolds.unfolding.acc
  obtain ⟨order', unfolding⟩ := exists_unfolding_of_acc (rearranged.acc same founded)
  have stems : ∀ other ∈ order', ∃ declaration ∈ order, declaration.Rearranges other := by
    intro other member
    obtain ⟨declaration, alike, reaches⟩ :=
      rearranged.symm.exists_reaches same.symm (unfolding.mem_iff_reaches.mp member)
    exact ⟨declaration, unfolds.unfolding.mem_iff_reaches.mpr reaches, alike.symm⟩
  refine ⟨order', rearranged.led same unfolds.led, unfolding, ?_, ?_, ?_⟩
  · intro other member
    obtain ⟨declaration, listed, alike⟩ := stems other member
    exact rearranged.sound alike (unfolds.sound declaration listed)
  · intro circular
    obtain ⟨other, member, sameId⟩ := List.mem_map.mp circular
    obtain ⟨declaration, listed, alike⟩ := stems other member
    rw [← same.id_eq, ← alike.id_eq] at sameId
    exact unfolds.apart (List.mem_map.mpr ⟨declaration, listed, sameId⟩)
  · apply unfolds.agree.of_subset
    intro capability offers
    obtain ⟨other, member, offers⟩ := List.mem_flatMap.mp offers
    obtain ⟨declaration, listed, alike⟩ := stems other member
    exact List.mem_flatMap.mpr ⟨declaration, listed, rearranged.symm.mem_offered alike.symm offers⟩

theorem exists_aggregate (same : root.Rearranges root') {runtime : Runtime}
    (success : Runtime.aggregate settings snapshot root = .ok runtime) :
    ∃ runtime', Runtime.aggregate settings snapshot' root' = .ok runtime' := by
  obtain ⟨marked, order, unfolds, _⟩ := Runtime.aggregate_eq_ok_iff_unfolds.mp success
  obtain ⟨order', unfolds'⟩ := rearranged.exists_unfolds same unfolds
  have marked' : Runtime.isMarked settings root' = true := by
    rw [Runtime.isMarked, ← same.hasAnnotation_eq]
    exact marked
  exact ⟨_, Runtime.aggregate_eq_ok_iff_unfolds.mpr ⟨marked', order', unfolds', rfl⟩⟩

theorem capabilities_perm (same : root.Rearranges root')
    (unfolds : Unfolds settings snapshot root order)
    (unfolds' : Unfolds settings snapshot' root' order') :
    (keepFirst Capability.interface (order.flatMap (offered settings snapshot))).Perm
      (keepFirst Capability.interface (order'.flatMap (offered settings snapshot'))) := by
  rw [List.perm_ext_iff_of_nodup (keepFirst_keys_nodup _ _).of_map (keepFirst_keys_nodup _ _).of_map]
  intro capability
  rw [mem_keepFirst_offered_iff unfolds.agree, mem_keepFirst_offered_iff unfolds'.agree]
  constructor
  · exact rearranged.mem_offered_of_unfolds same unfolds unfolds'
  · exact rearranged.symm.mem_offered_of_unfolds same.symm unfolds' unfolds

end Snapshot.Rearranges

variable {settings : Settings} {snapshot snapshot' : Snapshot} {root root' : Declaration}

/-- The order of annotations, at a root and wherever its references lead, decides nothing about its
runtime but the order of the capabilities. -/
theorem aggregate_of_rearranges (rearranged : snapshot.Rearranges snapshot')
    (same : root.Rearranges root') :
    ((∃ runtime, Runtime.aggregate settings snapshot root = .ok runtime) ↔
      ∃ runtime', Runtime.aggregate settings snapshot' root' = .ok runtime') ∧
    ∀ runtime runtime', Runtime.aggregate settings snapshot root = .ok runtime →
      Runtime.aggregate settings snapshot' root' = .ok runtime' →
        runtime.capabilities.Perm runtime'.capabilities ∧
          { runtime with capabilities := runtime'.capabilities } = runtime' := by
  refine ⟨⟨?_, ?_⟩, ?_⟩
  · rintro ⟨runtime, success⟩
    exact rearranged.exists_aggregate same success
  · rintro ⟨runtime', success'⟩
    exact rearranged.symm.exists_aggregate same.symm success'
  · intro runtime runtime' success success'
    obtain ⟨_, order, unfolds, rfl⟩ := Runtime.aggregate_eq_ok_iff_unfolds.mp success
    obtain ⟨_, order', unfolds', rfl⟩ := Runtime.aggregate_eq_ok_iff_unfolds.mp success'
    refine ⟨rearranged.capabilities_perm same unfolds unfolds', ?_⟩
    obtain ⟨_, _, rfl⟩ := same
    rfl

namespace Sample

def rearrangedRoot : Declaration :=
  declared "App.Root" .classDecl [pointing "Uses" "App.Mail", pointing "Uses" "App.Clock",
    .bare "Runtime", pointing "Uses" "App.Clock"]

/-- The diamond with the annotations of its root and of one of its modules in another order. -/
def rearrangedDiamond : Snapshot where
  declarations :=
    [declared "App.IClock" .interfaceDecl [], declared "App.IMail" .interfaceDecl [],
      declared "App.Clock" .classDecl [pointing "EffectsModule" "App.IClock"],
      declared "App.Mail" .classDecl [pointing "Uses" "App.Clock",
        pointing "EffectsModule" "App.IMail", pointing "EffectsModule" "App.IClock"],
      rearrangedRoot]
  distinct := by decide +kernel

theorem rearranges_root : diamondRoot.Rearranges rearrangedRoot :=
  ⟨_, by decide +kernel, rfl⟩

theorem rearranges_diamond : diamond.Rearranges rearrangedDiamond :=
  .cons ⟨_, .refl _, rfl⟩ <| .cons ⟨_, .refl _, rfl⟩ <| .cons ⟨_, .refl _, rfl⟩ <|
    .cons ⟨_, by decide +kernel, rfl⟩ <| .cons rearranges_root .nil

end Sample

theorem aggregate_of_rearranges_diamond :
    Sample.diamond.Rearranges Sample.rearrangedDiamond ∧
      Sample.diamondRoot.Rearranges Sample.rearrangedRoot ∧
      ∃ runtime runtime',
        Runtime.aggregate {} Sample.diamond Sample.diamondRoot = .ok runtime ∧
        Runtime.aggregate {} Sample.rearrangedDiamond Sample.rearrangedRoot = .ok runtime' ∧
        runtime.interfaces = ["IHasClock", "IHasMail"] ∧
        runtime'.interfaces = ["IHasMail", "IHasClock"] ∧
        runtime.capabilities.Perm runtime'.capabilities := by
  have offers : (Runtime.aggregate {} Sample.diamond Sample.diamondRoot).map Runtime.interfaces =
      .ok ["IHasClock", "IHasMail"] := by decide +kernel
  have offers' : (Runtime.aggregate {} Sample.rearrangedDiamond Sample.rearrangedRoot).map
      Runtime.interfaces = .ok ["IHasMail", "IHasClock"] := by decide +kernel
  obtain ⟨runtime, success, interfaces⟩ := map_eq_ok_iff.mp offers
  obtain ⟨runtime', success', interfaces'⟩ := map_eq_ok_iff.mp offers'
  have perm := (aggregate_of_rearranges Sample.rearranges_diamond Sample.rearranges_root).2
    runtime runtime' success success'
  exact ⟨Sample.rearranges_diamond, Sample.rearranges_root, runtime, runtime', success, success',
    interfaces, interfaces', perm.1⟩

end EffectModel
