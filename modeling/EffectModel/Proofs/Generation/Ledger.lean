import EffectModel.Proofs.Generation.Doubling

/-! What becomes of the declarations that are marked for a stage. Main statement: each of them gives
all its models or fails once, and the output of a run holds what they give and how they fail in the
order of the snapshot. -/
namespace EffectModel

open Generation

variable {settings : Settings} {snapshot : Snapshot} {output : Output} {declaration : Declaration}
variable {id : DeclId} {fault : Fault}

/-- An account of a stage: every declaration stands once in it, with what it gives or with why it
fails, and both lists keep the order of the declarations. -/
structure Account {α : Type} (build : Declaration → Except Fault α)
    (declarations : List Declaration) where
  given : List (Declaration × α)
  failed : List (Declaration × Fault)
  complete : (given.map Prod.fst ++ failed.map Prod.fst).Perm declarations
  givenInOrder : (given.map Prod.fst).Sublist declarations
  failedInOrder : (failed.map Prod.fst).Sublist declarations
  built : ∀ entry ∈ given, build entry.1 = .ok entry.2
  halted : ∀ entry ∈ failed, build entry.1 = .error entry.2

namespace Account

variable {α : Type} {build : Declaration → Except Fault α} {declarations : List Declaration}

/-- The failures that an account of a stage comes to. -/
def failures (account : Account build declarations) (stage : Stage) : List Failure :=
  account.failed.map (fun entry => ⟨entry.1.id, stage, entry.2⟩)

def nil : Account build [] where
  given := []
  failed := []
  complete := .nil
  givenInOrder := .slnil
  failedInOrder := .slnil
  built := by simp
  halted := by simp

def give {value : α} (rest : Account build declarations) (success : build declaration = .ok value) :
    Account build (declaration :: declarations) where
  given := (declaration, value) :: rest.given
  failed := rest.failed
  complete := rest.complete.cons declaration
  givenInOrder := rest.givenInOrder.cons_cons declaration
  failedInOrder := rest.failedInOrder.cons declaration
  built := by simpa [success] using rest.built
  halted := rest.halted

def fail (rest : Account build declarations) (failure : build declaration = .error fault) :
    Account build (declaration :: declarations) where
  given := rest.given
  failed := (declaration, fault) :: rest.failed
  complete := List.perm_middle.trans (rest.complete.cons declaration)
  givenInOrder := rest.givenInOrder.cons declaration
  failedInOrder := rest.failedInOrder.cons_cons declaration
  built := rest.built
  halted := by simpa [failure] using rest.halted

end Account

/-- The number of models that an output has of a declaration at a stage. -/
def Output.modelCount (output : Output) (id : DeclId) : Stage → Nat
  | .moduleStage => (output.about id).modules.length
  | .runtimeStage => (output.about id).runtimes.length
  | .testRuntimeStage => (output.about id).testRuntimes.length

/-- The number of models that a declaration gives at a stage unless it fails: one for each of its
module annotations, and one runtime or test runtime. -/
def modelsDue (settings : Settings) (declaration : Declaration) : Stage → Nat
  | .moduleStage => (declaration.annotationsOf settings.vocabulary.moduleKind).length
  | .runtimeStage | .testRuntimeStage => 1

/-- An output that accounts for the declarations of a snapshot at every stage. -/
structure Accounted (settings : Settings) (snapshot : Snapshot) (output : Output) : Prop where
  /-- What the stages come to, in the order of the snapshot. -/
  stages : ∃ (modules : Account (EffectModule.buildAll settings snapshot)
      (snapshot.declarations.filter (isMarkedFor settings .moduleStage)))
    (runtimes : Account (Runtime.aggregate settings snapshot)
      (snapshot.declarations.filter (isMarkedFor settings .runtimeStage)))
    (testRuntimes : Account (TestRuntime.double settings snapshot (findRuntime output.runtimes))
      (snapshot.declarations.filter (isMarkedFor settings .testRuntimeStage))),
    output.modules = modules.given.flatMap Prod.snd ∧
      (∀ entry ∈ modules.given, List.Forall₂ (fun note effectModule =>
          EffectModule.build settings snapshot entry.1 note = .ok effectModule)
        (entry.1.annotationsOf settings.vocabulary.moduleKind) entry.2) ∧
      output.runtimes = runtimes.given.map Prod.snd ∧
      output.testRuntimes = testRuntimes.given.map Prod.snd ∧
      output.failures = modules.failures .moduleStage ++ runtimes.failures .runtimeStage ++
        testRuntimes.failures .testRuntimeStage
  /-- What is marked for a stage gives all its models and no failure, or one failure and no model. -/
  marked : ∀ stage, ∀ declaration ∈ snapshot.declarations,
    isMarkedFor settings stage declaration = true →
      0 < modelsDue settings declaration stage ∧
          output.modelCount declaration.id stage = modelsDue settings declaration stage ∧
          output.failuresOf declaration.id stage = [] ∨
        output.modelCount declaration.id stage = 0 ∧
          ∃ fault, output.failuresOf declaration.id stage = [⟨declaration.id, stage, fault⟩]
  /-- Nothing else gives a model or a failure. -/
  unmarked : ∀ stage id, (∀ declaration ∈ snapshot.declarations,
      isMarkedFor settings stage declaration = true → declaration.id ≠ id) →
    output.modelCount id stage = 0 ∧ output.failuresOf id stage = []

namespace Generation

variable {stage : Stage}

/-- A stage comes to what an account of its declarations comes to. -/
theorem exists_account {α : Type} (build : Declaration → Except Fault α) (stage : Stage)
    (declarations : List Declaration) : ∃ account : Account build declarations,
      built (outcomes build declarations) = account.given.map Prod.snd ∧
        failed stage (outcomes build declarations) = account.failures stage := by
  induction declarations with
  | nil => exact ⟨.nil, rfl, rfl⟩
  | cons declaration rest ih =>
    obtain ⟨account, values, failures⟩ := ih
    rw [built_cons, values, failed_cons, failures]
    cases result : build declaration with
    | ok value =>
      refine ⟨account.give result, ?_, ?_⟩
      · simp [Except.toOption, Account.give]
      · simp [failed, outcomes, result, Account.failures, Account.give]
    | error fault =>
      refine ⟨account.fail result, ?_, ?_⟩
      · simp [Except.toOption, Account.fail]
      · simp [failed, outcomes, result, Account.failures, Account.fail]

variable (settings snapshot) in
/-- How many models a stage makes of a declaration, or why it fails. -/
def tally (declaration : Declaration) : Stage → Except Fault Nat
  | .moduleStage => (EffectModule.buildAll settings snapshot declaration).map List.length
  | .runtimeStage => (Runtime.aggregate settings snapshot declaration).map (fun _ => 1)
  | .testRuntimeStage => (TestRuntime.double settings snapshot
      (findRuntime (run settings snapshot).runtimes) declaration).map (fun _ => 1)

theorem modelsDue_pos (marked : isMarkedFor settings stage declaration = true) :
    0 < modelsDue settings declaration stage := by
  cases stage with
  | moduleStage =>
    obtain ⟨note, listed, marks⟩ := List.any_eq_true.mp marked
    exact List.length_pos_of_mem (List.mem_filter.mpr ⟨listed, marks⟩)
  | runtimeStage | testRuntimeStage => exact Nat.one_pos

theorem modelsDue_of_tally {count : Nat}
    (success : tally settings snapshot declaration stage = .ok count) :
    modelsDue settings declaration stage = count := by
  cases stage with
  | moduleStage =>
    obtain ⟨modules, built, rfl⟩ := map_eq_ok_iff.mp success
    exact (mapM_eq_ok_iff.mp built).length_eq
  | runtimeStage | testRuntimeStage =>
    obtain ⟨_, _, rfl⟩ := map_eq_ok_iff.mp success
    rfl

section Marked

variable (held : declaration ∈ snapshot.declarations)
variable (marked : isMarkedFor settings stage declaration = true)
include held marked

theorem modelCount_run : (run settings snapshot).modelCount declaration.id stage =
    (tally settings snapshot declaration stage).toOption.getD 0 := by
  have trusted := entrusted_of_marked (Snapshot.lookup_id held) marked
  cases stage with
  | moduleStage =>
    rw [Output.modelCount, tally]
    change ((run settings snapshot).modulesOf declaration.id).length = _
    rw [modulesOf_run held]
    cases EffectModule.buildAll settings snapshot declaration <;> rfl
  | runtimeStage =>
    simp only [Output.modelCount, about_run, assemble, trusted, built_eq_flatMap,
      List.flatMap_singleton, tally]
    cases Runtime.aggregate settings snapshot declaration <;> rfl
  | testRuntimeStage =>
    simp only [Output.modelCount, testRuntimes_about_run (Snapshot.lookup_id held) marked, tally]
    cases TestRuntime.double settings snapshot (findRuntime (run settings snapshot).runtimes)
      declaration <;> rfl

theorem mem_failures_iff_tally : ⟨declaration.id, stage, fault⟩ ∈ (run settings snapshot).failures ↔
    tally settings snapshot declaration stage = .error fault := by
  have looked := Snapshot.lookup_id held
  cases stage with
  | moduleStage => rw [mem_failures_of_moduleStage held, tally, map_eq_error_iff]
  | runtimeStage => rw [mem_failures_of_runtimeStage looked marked, tally, map_eq_error_iff]
  | testRuntimeStage => rw [mem_failures_of_testRuntimeStage looked marked, tally, map_eq_error_iff]

/-- What is marked for a stage either gives its models or fails. -/
theorem models_or_failure : 0 < modelsDue settings declaration stage ∧
      (run settings snapshot).modelCount declaration.id stage =
        modelsDue settings declaration stage ∧
      (run settings snapshot).failuresOf declaration.id stage = [] ∨
    (run settings snapshot).modelCount declaration.id stage = 0 ∧ ∃ fault,
      (run settings snapshot).failuresOf declaration.id stage = [⟨declaration.id, stage, fault⟩] := by
  rw [modelCount_run held marked, Output.failuresOf_eq_nil_iff]
  simp only [mem_failures_iff_tally held marked]
  cases result : tally settings snapshot declaration stage with
  | ok count =>
    left
    exact ⟨modelsDue_pos marked, (modelsDue_of_tally result).symm, by simp⟩
  | error fault =>
    right
    have recorded := (mem_failures_iff_tally held marked).mpr result
    exact ⟨rfl, fault, failuresOf_run_eq recorded⟩

end Marked

theorem nothing_of_unmarked (none : ∀ declaration ∈ snapshot.declarations,
      isMarkedFor settings stage declaration = true → declaration.id ≠ id) :
    (run settings snapshot).modelCount id stage = 0 ∧
      (run settings snapshot).failuresOf id stage = [] := by
  have empty : entrusted settings snapshot stage id = [] := by
    apply List.eq_nil_iff_forall_not_mem.mpr
    intro declaration trusted
    obtain ⟨looked, marks⟩ := mem_entrusted_iff.mp trusted
    obtain ⟨held, same⟩ := Snapshot.lookup_some looked
    exact none declaration held marks same
  rw [Output.failuresOf_eq_filter_about]
  simp only [about_run, assemble, List.filter_append, filter_stage_failed]
  cases stage <;>
    simp [Output.modelCount, about_run, assemble, empty, outcomes, built, failed]

theorem accounted_run (settings : Settings) (snapshot : Snapshot) :
    Accounted settings snapshot (run settings snapshot) := by
  refine ⟨?_, fun stage declaration held marks => models_or_failure held marks,
    fun stage id none => nothing_of_unmarked none⟩
  obtain ⟨modules, builtModules, failedModules⟩ := exists_account
    (EffectModule.buildAll settings snapshot) .moduleStage
    (snapshot.declarations.filter (isMarkedFor settings .moduleStage))
  obtain ⟨runtimes, builtRuntimes, failedRuntimes⟩ := exists_account
    (Runtime.aggregate settings snapshot) .runtimeStage
    (snapshot.declarations.filter (isMarkedFor settings .runtimeStage))
  obtain ⟨testRuntimes, builtTestRuntimes, failedTestRuntimes⟩ := exists_account
    (TestRuntime.double settings snapshot (findRuntime (run settings snapshot).runtimes))
    .testRuntimeStage (snapshot.declarations.filter (isMarkedFor settings .testRuntimeStage))
  refine ⟨modules, runtimes, testRuntimes, ?_, ?_, builtRuntimes, builtTestRuntimes, ?_⟩
  · rw [List.flatMap_def, ← builtModules]
    rfl
  · exact fun entry listed => mapM_eq_ok_iff.mp (modules.built entry listed)
  · rw [← failedModules, ← failedRuntimes, ← failedTestRuntimes]
    rfl

end Generation

/-- A run that comes to its end accounts for its snapshot, wherever it could have been stopped. -/
theorem run_accounts (settings : Settings) (snapshot : Snapshot) :
    (∃ output, runUnless settings snapshot (fun _ => false) = some output) ∧
      ∀ stops output, runUnless settings snapshot stops = some output →
        Accounted settings snapshot output := by
  constructor
  · exact ⟨_, runUnless_never⟩
  · intro stops output ended
    rw [runUnless_eq_some ended]
    exact accounted_run settings snapshot

namespace Sample

/-- A root that is a container as well, the second of whose modules has no target. -/
def busyRoot : Declaration :=
  declared "App.Root" .classDecl [pointing "EffectsModule" "App.IClock",
    pointing "EffectsModule" "App.Missing", .bare "Runtime", pointing "Uses" "App.Clock"]

def busy : Snapshot where
  declarations := [declared "App.IClock" .interfaceDecl [], busyRoot, clockModule, clockTest]
  distinct := by decide +kernel

end Sample

theorem run_accounts_busy :
    ∃ output, runUnless {} Sample.busy (fun _ => false) = some output ∧
      Accounted {} Sample.busy output ∧
      output.modules.map EffectModule.container = [⟨"App.Clock"⟩] ∧
      output.modelCount ⟨"App.Root"⟩ .moduleStage = 0 ∧
      output.modelCount ⟨"App.Root"⟩ .runtimeStage = 1 ∧
      output.modelCount ⟨"App.Spec"⟩ .testRuntimeStage = 1 ∧
      output.failures.map (fun failure => (failure.declaration, failure.stage)) =
        [(⟨"App.Root"⟩, .moduleStage)] := by
  obtain ⟨⟨output, ended⟩, accounts⟩ := run_accounts {} Sample.busy
  refine ⟨output, ended, accounts _ output ended, ?_⟩
  rw [runUnless_eq_some ended]
  decide +kernel

end EffectModel
