import EffectModel.Proofs.Generation.Accounting
import EffectModel.Proofs.Walk.Sharing

/-! What an output holds about an identity depends on the declarations that are mentioned, directly
or through others, and on nothing else. Main statement: runs over two snapshots that agree on these
hold the same about it. -/
namespace EffectModel

namespace Shares

variable {settings : Settings} {known : Set DeclId} {snapshot snapshot' : Snapshot}
variable {declaration testRoot : Declaration} {id production : DeclId} {stage : Stage}
variable {find find' : DeclId → Option Runtime}

theorem outcomes_congr {α : Type} {build build' : Declaration → Except Fault α}
    {declarations : List Declaration}
    (same : ∀ declaration ∈ declarations, build declaration = build' declaration) :
    Generation.outcomes build declarations = Generation.outcomes build' declarations :=
  List.map_congr_left fun declaration member => by rw [same declaration member]

theorem kept_of_entrusted (member : id ∈ known)
    (trusted : declaration ∈ Generation.entrusted settings snapshot stage id) :
    Kept known snapshot declaration :=
  .of_lookup member (Generation.mem_entrusted_iff.mp trusted).1

variable (shares : Shares known snapshot snapshot')
include shares

theorem productionOf_eq (kept : Kept known snapshot testRoot) :
    TestRuntime.productionOf settings snapshot testRoot =
      TestRuntime.productionOf settings snapshot' testRoot := by
  unfold TestRuntime.productionOf
  cases single : testRoot.singleAnnotation settings.vocabulary.testRuntimeKind with
  | error fault => rfl
  | ok named =>
    cases named with
    | none => rfl
    | some note =>
      cases usable : note.usableReference settings.vocabulary.targetKey with
      | none => simp only [orFault, bind, Except.bind, usable]
      | some use =>
        have mentioned : use ∈ testRoot.typeUses :=
          Declaration.mem_typeUses_of_annotation (Declaration.mem_annotations_of_single single) usable
        simp only [orFault, bind, Except.bind, usable, shares.resolve_eq kept mentioned]

theorem production_mem (kept : Kept known snapshot testRoot)
    (named : TestRuntime.productionOf settings snapshot testRoot = .ok production) :
    production ∈ known := by
  obtain ⟨note, single, found, led, rfl⟩ := TestRuntime.productionOf_eq_ok_iff.mp named
  exact (shares.kept_of_destination kept (Declaration.mem_annotations_of_single single) led).member

theorem entrusted_eq (member : id ∈ known) : Generation.entrusted settings snapshot stage id =
    Generation.entrusted settings snapshot' stage id := by
  rw [Generation.entrusted, Generation.entrusted, shares.agreed id member]

theorem findRuntime_eq (member : id ∈ known) :
    findRuntime (Generation.run settings snapshot).runtimes id =
      findRuntime (Generation.run settings snapshot').runtimes id := by
  rw [Generation.findRuntime_run, Generation.findRuntime_run, ← shares.entrusted_eq member,
    outcomes_congr]
  exact fun _ trusted => shares.aggregate_eq (kept_of_entrusted member trusted)

theorem double_eq (kept : Kept known snapshot testRoot) :
    TestRuntime.double settings snapshot
        (findRuntime (Generation.run settings snapshot).runtimes) testRoot =
      TestRuntime.double settings snapshot'
        (findRuntime (Generation.run settings snapshot').runtimes) testRoot := by
  rw [TestRuntime.double_congr fun id named =>
    shares.findRuntime_eq (shares.production_mem kept named)]
  rw [TestRuntime.double, TestRuntime.double, shares.productionOf_eq kept]

theorem about_eq (member : id ∈ known) : (Generation.run settings snapshot).about id =
    (Generation.run settings snapshot').about id := by
  rw [Generation.about_run, Generation.about_run, ← shares.entrusted_eq member,
    ← shares.entrusted_eq member, ← shares.entrusted_eq member]
  congr 1
  · exact outcomes_congr fun _ trusted => shares.buildAll_eq (kept_of_entrusted member trusted)
  · exact outcomes_congr fun _ trusted =>
      shares.aggregate_eq (kept_of_entrusted member trusted)
  · exact outcomes_congr fun _ trusted => shares.double_eq (kept_of_entrusted member trusted)

end Shares

variable {settings : Settings} {snapshot snapshot' : Snapshot} {id : DeclId}

/-- All that an identity mentions, directly or through others, is shared where both snapshots agree
on it. -/
theorem Shares.of_mentioned (agreed : ∀ other,
      Relation.ReflTransGen (fun id other => other ∈ snapshot.mentions id) id other →
        snapshot.lookup other = snapshot'.lookup other) :
    Shares {other | Relation.ReflTransGen (fun id other => other ∈ snapshot.mentions id) id other}
      snapshot snapshot' :=
  ⟨agreed, fun _ mentioned _ further => mentioned.tail further⟩

/-- Runs over two snapshots hold the same about each of some identities if the snapshots agree on
them and no declaration with one of them mentions any other; so they do about one identity if the
snapshots agree on all that it mentions, directly or through others. -/
theorem run_about_eq (settings : Settings) (snapshot snapshot' : Snapshot) :
    ∃ output output',
      Generation.runUnless settings snapshot (fun _ => false) = some output ∧
      Generation.runUnless settings snapshot' (fun _ => false) = some output' ∧
      (∀ known : Set DeclId, (∀ id ∈ known, snapshot.lookup id = snapshot'.lookup id) →
        (∀ id ∈ known, ∀ other ∈ snapshot.mentions id, other ∈ known) →
          ∀ id ∈ known, output.about id = output'.about id) ∧
      ∀ id, (∀ other,
        Relation.ReflTransGen (fun id other => other ∈ snapshot.mentions id) id other →
          snapshot.lookup other = snapshot'.lookup other) → output.about id = output'.about id := by
  refine ⟨_, _, Generation.runUnless_never, Generation.runUnless_never, ?_, ?_⟩
  · intro known agreed closed id member
    exact Shares.about_eq ⟨agreed, closed⟩ member
  · intro id agreed
    exact (Shares.of_mentioned agreed).about_eq .refl

namespace Sample

def clockModule : Declaration :=
  declared "App.Clock" .classDecl [pointing "EffectsModule" "App.IClock"]

def clockRoot : Declaration :=
  declared "App.Root" .classDecl [.bare "Runtime", pointing "Uses" "App.Clock"]

def clockTest : Declaration :=
  declared "App.Spec" .classDecl [pointing "TestRuntime" "App.Root"]

/-- A root with one module, and a test root that doubles it. -/
def clock : Snapshot where
  declarations := [declared "App.IClock" .interfaceDecl [], clockModule, clockRoot, clockTest]
  distinct := by decide +kernel

/-- The same declarations in another order, and among them one that refers to nothing. -/
def brokenClock : Snapshot where
  declarations := [declared "App.Broken" .classDecl [pointing "EffectsModule" "App.Missing"],
    clockTest, clockRoot, clockModule, declared "App.IClock" .interfaceDecl []]
  distinct := by decide +kernel

def clockIds : List DeclId := [⟨"App.IClock"⟩, ⟨"App.Clock"⟩, ⟨"App.Root"⟩, ⟨"App.Spec"⟩]

end Sample

theorem run_about_eq_clock :
    ∃ output output',
      Generation.runUnless {} Sample.clock (fun _ => false) = some output ∧
      Generation.runUnless {} Sample.brokenClock (fun _ => false) = some output' ∧
      output.failures = [] ∧ output'.failures ≠ [] ∧
      ∀ id ∈ Sample.clockIds, output.about id = output'.about id := by
  obtain ⟨output, output', ended, ended', same, _⟩ :=
    run_about_eq {} Sample.clock Sample.brokenClock
  have agreed : ∀ id ∈ Sample.clockIds,
      Sample.clock.lookup id = Sample.brokenClock.lookup id := by decide +kernel
  have closed : ∀ id ∈ Sample.clockIds, ∀ other ∈ Sample.clock.mentions id,
      other ∈ Sample.clockIds := by decide +kernel
  refine ⟨output, output', ended, ended', ?_, ?_, same {id | id ∈ Sample.clockIds} agreed closed⟩
  · rw [Generation.runUnless_eq_some ended]
    decide +kernel
  · rw [Generation.runUnless_eq_some ended']
    decide +kernel

end EffectModel
