import EffectModel.Proofs.Generation.Locality
import EffectModel.Proofs.Respelled

namespace EffectModel

open Walk

variable {settings : Settings} {snapshot snapshot' : Snapshot} {walk : Walk}
variable {declaration other found found' root root' testRoot testRoot' : Declaration}
variable {note note' : Annotation} {kind : String}

namespace Declaration.Respells

theorem isMarkedFor_eq {key : String} (same : declaration.Respells key other) (stage : Stage) :
    Generation.isMarkedFor settings stage declaration = Generation.isMarkedFor settings stage other := by
  cases stage <;> exact same.hasAnnotation_eq _

theorem singleAnnotation_alike {key : String} (same : declaration.Respells key other)
    (kind : String) : Alike (Option.Rel (Respelling key))
      (declaration.singleAnnotation kind) (other.singleAnnotation kind) := by
  have respelled := same.annotationsOf_respells kind
  unfold singleAnnotation
  rw [← same.reannotates.id_eq]
  generalize declaration.annotationsOf kind = notes at respelled
  generalize other.annotationsOf kind = notes' at respelled
  cases respelled with
  | nil => exact .value .none
  | cons first rest =>
    cases rest with
    | nil => exact .value (.some first)
    | cons second further => exact .fault _

end Declaration.Respells

namespace Snapshot.Respells

variable (respells : snapshot.Respells settings.vocabulary.targetKey snapshot')
include respells

theorem openUp_eq (same : found.Respells settings.vocabulary.targetKey found') :
    openUp settings snapshot walk found = openUp settings snapshot' walk found' := by
  rw [openUp, openUp, respells.buildAll_eq same, same.reannotates.id_eq]

theorem resolve_rel (use : TypeUse) :
    Option.Rel (Declaration.Respells settings.vocabulary.targetKey) (snapshot.resolve use)
      (snapshot'.resolve use) :=
  Corresponds.resolve_rel respells (fun same => same.reannotates) use

theorem referenced_alike (same : declaration.Respells settings.vocabulary.targetKey other)
    (respelled : Respelling settings.vocabulary.targetKey note note') :
    Alike (Declaration.Respells settings.vocabulary.targetKey)
      (referenced settings snapshot declaration note)
      (referenced settings snapshot' other note') := by
  unfold referenced
  rw [← same.reannotates.id_eq, ← respelled.usableReference_eq]
  refine (Alike.refl _).bind fun {use _} named => ?_
  cases named
  exact .of_rel (respells.resolve_rel use) _

theorem metAlike (same : declaration.Respells settings.vocabulary.targetKey other)
    (respelled : Respelling settings.vocabulary.targetKey note note') :
    MetAlike (Declaration.Respells settings.vocabulary.targetKey)
      (meet settings snapshot walk declaration note) (meet settings snapshot' walk other note') := by
  refine (respells.referenced_alike same respelled).bind fun {found found'} alike => ?_
  rw [← alike.reannotates.id_eq, ← contributes_congr alike.hasAnnotation_eq,
    ← respells.openUp_eq alike]
  split
  · exact .value .none
  split
  · exact .fault _
  split
  · exact .fault _
  cases openUp settings snapshot walk found with
  | error fault => exact .fault fault
  | ok opened => exact .value (.some ⟨alike, rfl⟩)

theorem parallel : Parallel settings snapshot snapshot'
    (Declaration.Respells settings.vocabulary.targetKey) := by
  refine ⟨fun same => same.reannotates.id_eq, ?_⟩
  intro owner owner' same
  exact List.Forall₂.imp (fun _ _ respelled walk => respells.metAlike same respelled)
    (same.annotationsOf_respells _)

theorem aggregate_eq (same : root.Respells settings.vocabulary.targetKey root') :
    Runtime.aggregate settings snapshot root = Runtime.aggregate settings snapshot' root' := by
  have walked := respells.parallel.ofRoot_eq same
  have marked : Runtime.isMarked settings root = Runtime.isMarked settings root' :=
    same.hasAnnotation_eq _
  unfold Runtime.aggregate
  rw [walked, marked]
  obtain ⟨_, _, rfl⟩ := same
  rfl

theorem productionOf_eq (same : testRoot.Respells settings.vocabulary.targetKey testRoot') :
    TestRuntime.productionOf settings snapshot testRoot =
      TestRuntime.productionOf settings snapshot' testRoot' := by
  apply Alike.eq
  unfold TestRuntime.productionOf
  rw [← same.reannotates.id_eq]
  refine (same.singleAnnotation_alike _).bind fun single => ?_
  refine (Alike.of_rel single _).bind fun respelled => ?_
  rw [respelled.usableReference_eq]
  refine (Alike.refl _).bind fun {use _} named => ?_
  cases named
  exact (Alike.of_rel (respells.resolve_rel use) _).bind fun found => .value found.reannotates.id_eq

theorem double_eq (find : DeclId → Option Runtime)
    (same : testRoot.Respells settings.vocabulary.targetKey testRoot') :
    TestRuntime.double settings snapshot find testRoot =
      TestRuntime.double settings snapshot' find testRoot' := by
  unfold TestRuntime.double
  rw [respells.productionOf_eq same]
  obtain ⟨_, _, rfl⟩ := same
  rfl

theorem marked_respells (stage : Stage) :
    List.Forall₂ (Declaration.Respells settings.vocabulary.targetKey)
      (Generation.marked settings snapshot stage) (Generation.marked settings snapshot' stage) := by
  rw [Generation.marked_eq_filter, Generation.marked_eq_filter]
  exact List.rel_filter (fun _ _ same => Bool.eq_iff_iff.mp (same.isMarkedFor_eq stage)) respells

end Snapshot.Respells

namespace Generation

theorem outcomes_eq {α : Type} {build build' : Declaration → Except Fault α}
    {declarations declarations' : List Declaration} {key : String}
    (respelled : List.Forall₂ (Declaration.Respells key) declarations declarations')
    (same : ∀ {declaration other}, declaration.Respells key other →
      build declaration = build' other) :
    built (outcomes build declarations) = built (outcomes build' declarations') ∧
      ∀ stage, failed stage (outcomes build declarations) =
        failed stage (outcomes build' declarations') := by
  induction respelled with
  | nil => exact ⟨rfl, fun _ => rfl⟩
  | @cons declaration other rest rest' alike _ ih =>
    obtain ⟨values, failures⟩ := ih
    constructor
    · rw [built_cons, built_cons, same alike, values]
    · intro stage
      have alone : failed stage (outcomes build [declaration]) =
          failed stage (outcomes build' [other]) := by
        simp only [failed, outcomes, List.map_cons, List.map_nil, same alike,
          List.filterMap_cons, alike.reannotates.id_eq]
      rw [failed_cons declaration rest, failed_cons other rest', alone, failures]

end Generation

namespace Snapshot.Respells

theorem run_eq (respells : snapshot.Respells settings.vocabulary.targetKey snapshot') :
    Generation.run settings snapshot = Generation.run settings snapshot' := by
  obtain ⟨modules, modulesFailed⟩ := Generation.outcomes_eq
    (respells.marked_respells .moduleStage) respells.buildAll_eq
  obtain ⟨runtimes, runtimesFailed⟩ := Generation.outcomes_eq
    (respells.marked_respells .runtimeStage) respells.aggregate_eq
  have doubled := fun find => Generation.outcomes_eq
    (respells.marked_respells .testRuntimeStage) (respells.double_eq find)
  simp only [Generation.run, Generation.assemble, modules, modulesFailed, runtimes, runtimesFailed,
    (doubled _).1, (doubled _).2]

end Snapshot.Respells

/-- Runs over two snapshots, one of which has the types of any number of its annotations respelled,
have the same output. -/
theorem run_of_respells (settings : Settings) {snapshot snapshot' : Snapshot}
    (respells : snapshot.Respells settings.vocabulary.targetKey snapshot') :
    ∃ output, Generation.runUnless settings snapshot (fun _ => false) = some output ∧
      Generation.runUnless settings snapshot' (fun _ => false) = some output := by
  refine ⟨_, Generation.runUnless_never, ?_⟩
  rw [Generation.runUnless_never, respells.run_eq]

namespace Sample

/-- An annotation that refers to its target by a named argument, behind others. -/
def naming (kind target : String) (others : List NamedArgument) : Annotation :=
  { Annotation.bare kind with
    named := others ++ [⟨"target", .type (Declaration.ofId ⟨target⟩).asTypeUse⟩] }

/-- A root with one module, and a test root that doubles it, all of which name their targets. -/
def spelled : Snapshot where
  declarations := [declared "App.IClock" .interfaceDecl [],
    declared "App.Clock" .classDecl [naming "EffectsModule" "App.IClock" [⟨"name", .text "Time"⟩]],
    declared "App.Root" .classDecl [.bare "Runtime", naming "Uses" "App.Clock" []],
    declared "App.Spec" .classDecl [naming "TestRuntime" "App.Root" []]]
  distinct := by decide +kernel

/-- An annotation that refers to its target by its positional argument. -/
def placing (kind target : String) (others : List NamedArgument) : Annotation :=
  { Annotation.bare kind with
    args := [.type (Declaration.ofId ⟨target⟩).asTypeUse], named := others }

/-- The same with the module's target in its place, and the others as type arguments. -/
def respelled : Snapshot where
  declarations := [declared "App.IClock" .interfaceDecl [],
    declared "App.Clock" .classDecl [placing "EffectsModule" "App.IClock" [⟨"name", .text "Time"⟩]],
    clockRoot, clockTest]
  distinct := by decide +kernel

theorem respells_spelled : spelled.Respells "target" respelled := by
  have module : Respelling "target"
      (naming "EffectsModule" "App.IClock" [⟨"name", .text "Time"⟩])
      (placing "EffectsModule" "App.IClock" [⟨"name", .text "Time"⟩]) :=
    .positional _ [⟨"name", .text "Time"⟩] [] _ (by simp)
  have uses : Respelling "target" (naming "Uses" "App.Clock" []) (pointing "Uses" "App.Clock") :=
    .generic _ [] [] _ (by simp)
  have doubles : Respelling "target" (naming "TestRuntime" "App.Root" [])
      (pointing "TestRuntime" "App.Root") :=
    .generic _ [] [] _ (by simp)
  refine .cons ⟨_, .nil, rfl⟩ (.cons ⟨_, .cons module .nil, rfl⟩ (.cons ⟨_, ?_, rfl⟩
    (.cons ⟨_, .cons doubles .nil, rfl⟩ .nil)))
  exact .cons (.same _) (.cons uses .nil)

end Sample

theorem run_of_respells_clock : Sample.spelled.Respells "target" Sample.respelled ∧
    ∃ output, Generation.runUnless {} Sample.spelled (fun _ => false) = some output ∧
      Generation.runUnless {} Sample.respelled (fun _ => false) = some output ∧
      output.modules.map EffectModule.name = ["Time"] ∧
      output.runtimes.map Runtime.interfaces = [["IHasClock"]] ∧
      output.testRuntimes.map TestRuntime.production = [⟨"App.Root"⟩] ∧ output.failures = [] := by
  obtain ⟨output, ended, ended'⟩ := run_of_respells {} Sample.respells_spelled
  refine ⟨Sample.respells_spelled, output, ended, ended', ?_⟩
  rw [Generation.runUnless_eq_some ended]
  decide +kernel

end EffectModel
