import EffectModel.Generation.Run
import EffectModel.Proofs.Runtime.Capabilities
import EffectModel.Proofs.Runtime.Test

/-! What a run gives, accounted for one identity at a time. Main statement: the part of an output
that is about an identity is what the declaration with this identity gives at each stage. -/
namespace EffectModel

variable {settings : Settings} {snapshot : Snapshot} {root : Declaration} {id : DeclId}

/-- The part of an output that is about an identity. -/
def Output.about (output : Output) (id : DeclId) : Output where
  modules := output.modulesOf id
  runtimes := output.runtimes.filter (fun runtime => runtime.declaration == id)
  testRuntimes := output.testRuntimes.filter (fun testRuntime => testRuntime.declaration == id)
  failures := output.failures.filter (fun failure => failure.declaration == id)

theorem Runtime.declaration_of_aggregate {runtime : Runtime}
    (success : aggregate settings snapshot root = .ok runtime) : runtime.declaration = root.id := by
  obtain ⟨_, _, _, rfl⟩ := aggregate_eq_ok_iff.mp success
  rfl

/-- What carries no mark of a root is composed of nothing. -/
theorem Runtime.isMarked_of_aggregate {runtime : Runtime}
    (success : aggregate settings snapshot root = .ok runtime) : isMarked settings root = true :=
  (aggregate_eq_ok_iff.mp success).1

namespace Generation

section Outcomes

variable {α β : Type} {build : Declaration → Except Fault α} {declarations : List Declaration}
variable {declaration : Declaration} {value : α} {stage : Stage} {failure : Failure}

theorem mem_built_iff : value ∈ built (outcomes build declarations) ↔
    ∃ declaration ∈ declarations, build declaration = .ok value := by
  simp only [built, outcomes, List.filterMap_map, List.mem_filterMap, Function.comp]
  apply exists_congr
  intro declaration
  apply and_congr_right
  intro _
  cases build declaration <;> simp [Except.toOption]

theorem mem_failed_iff : failure ∈ failed stage (outcomes build declarations) ↔
    ∃ declaration ∈ declarations, build declaration = .error failure.fault ∧
      failure.declaration = declaration.id ∧ failure.stage = stage := by
  simp only [failed, outcomes, List.filterMap_map, List.mem_filterMap, Function.comp]
  apply exists_congr
  intro declaration
  apply and_congr_right
  intro _
  cases build declaration with
  | ok value => simp
  | error fault =>
    obtain ⟨id, at_, because⟩ := failure
    simp only [Option.some.injEq, Failure.mk.injEq, Except.error.injEq]
    constructor
    · rintro ⟨rfl, rfl, rfl⟩
      exact ⟨rfl, rfl, rfl⟩
    · rintro ⟨rfl, rfl, rfl⟩
      exact ⟨rfl, rfl, rfl⟩

/-- What belongs to an identity, of all that some declarations give, is what the declarations with
this identity give. -/
private theorem filter_flatMap_owned {give : Declaration → List β} {owner : β → DeclId}
    (owned : ∀ declaration, ∀ item ∈ give declaration, owner item = declaration.id) (id : DeclId) :
    (declarations.flatMap give).filter (fun item => owner item == id) =
      (declarations.filter (fun declaration => declaration.id == id)).flatMap give := by
  induction declarations with
  | nil => rfl
  | cons declaration rest ih =>
    rw [List.flatMap_cons, List.filter_append, ih]
    by_cases same : declaration.id = id
    · rw [List.filter_cons_of_pos (by simp [same]), List.flatMap_cons, List.filter_eq_self.mpr]
      intro item member
      simp [owned declaration item member, same]
    · rw [List.filter_cons_of_neg (by simp [same]), List.filter_eq_nil_iff.mpr, List.nil_append]
      intro item member
      simp [owned declaration item member, same]

theorem built_eq_flatMap : built (outcomes build declarations) =
    declarations.flatMap (fun declaration => (build declaration).toOption.toList) := by
  rw [built, outcomes, List.filterMap_map, List.filterMap_eq_flatMap_toList]
  rfl

theorem filter_built {owner : α → DeclId}
    (owned : ∀ declaration value, build declaration = .ok value → owner value = declaration.id) :
    (built (outcomes build declarations)).filter (fun value => owner value == id) =
      built (outcomes build (declarations.filter (fun declaration => declaration.id == id))) := by
  rw [built_eq_flatMap, built_eq_flatMap]
  apply filter_flatMap_owned
  intro declaration value member
  cases made : build declaration with
  | error _ => simp [made, Except.toOption] at member
  | ok _ =>
    simp only [made, Except.toOption, Option.toList_some, List.mem_singleton] at member
    exact member ▸ owned declaration _ made

theorem flatten_built_eq_flatMap {build : Declaration → Except Fault (List β)} :
    (built (outcomes build declarations)).flatten =
      declarations.flatMap (fun declaration => (build declaration).toOption.getD []) := by
  rw [built_eq_flatMap, List.flatten_eq_flatMap, List.flatMap_assoc]
  congr 1
  funext declaration
  cases build declaration <;> simp [Except.toOption]

theorem filter_flatten_built {build : Declaration → Except Fault (List β)} {owner : β → DeclId}
    (owned : ∀ declaration values, build declaration = .ok values →
      ∀ value ∈ values, owner value = declaration.id) :
    (built (outcomes build declarations)).flatten.filter (fun value => owner value == id) =
      (built (outcomes build
        (declarations.filter (fun declaration => declaration.id == id)))).flatten := by
  rw [flatten_built_eq_flatMap, flatten_built_eq_flatMap]
  apply filter_flatMap_owned
  intro declaration value member
  cases made : build declaration with
  | error _ => simp [made, Except.toOption] at member
  | ok values =>
    exact owned declaration values made value (by simpa [made, Except.toOption] using member)

theorem built_cons (declaration : Declaration) (rest : List Declaration) :
    built (outcomes build (declaration :: rest)) =
      (build declaration).toOption.toList ++ built (outcomes build rest) := by
  rw [built_eq_flatMap, built_eq_flatMap, List.flatMap_cons]

theorem failed_cons (declaration : Declaration) (rest : List Declaration) :
    failed stage (outcomes build (declaration :: rest)) =
      failed stage (outcomes build [declaration]) ++ failed stage (outcomes build rest) := by
  simp only [failed, outcomes, List.map_cons, List.map_nil]
  rw [← List.filterMap_append, List.singleton_append]

theorem failed_eq_flatMap (declarations : List Declaration) :
    failed stage (outcomes build declarations) =
      declarations.flatMap (fun declaration => failed stage (outcomes build [declaration])) := by
  induction declarations with
  | nil => rfl
  | cons declaration rest ih => rw [List.flatMap_cons, ← ih, failed_cons]

theorem filter_failed :
    (failed stage (outcomes build declarations)).filter (fun failure => failure.declaration == id) =
      failed stage (outcomes build
        (declarations.filter (fun declaration => declaration.id == id))) := by
  rw [failed_eq_flatMap, failed_eq_flatMap (declarations.filter _)]
  apply filter_flatMap_owned
  intro declaration failure member
  obtain ⟨_, same, _, blamed, _⟩ := mem_failed_iff.mp member
  rw [blamed, List.mem_singleton.mp same]

end Outcomes

section Run

variable {stops : Nat → Bool} {output : Output} {stage : Stage} {production : DeclId}

/-- Whether a declaration is marked for a stage. -/
def isMarkedFor (settings : Settings) : Stage → Declaration → Bool
  | .moduleStage => EffectModule.isMarked settings
  | .runtimeStage => Runtime.isMarked settings
  | .testRuntimeStage => TestRuntime.isMarked settings

variable (settings snapshot) in
/-- The declaration with an identity, if it is marked for a stage. -/
def entrusted (stage : Stage) (id : DeclId) : List Declaration :=
  (snapshot.lookup id).toList.filter (isMarkedFor settings stage)

theorem mem_entrusted_iff {declaration : Declaration} :
    declaration ∈ entrusted settings snapshot stage id ↔
      snapshot.lookup id = some declaration ∧ isMarkedFor settings stage declaration = true := by
  rw [entrusted, List.mem_filter, Option.mem_toList]

theorem marked_eq_filter (stage : Stage) : marked settings snapshot stage =
    snapshot.declarations.filter (isMarkedFor settings stage) := by
  cases stage <;> rfl

theorem filter_marked (stage : Stage) (id : DeclId) :
    (marked settings snapshot stage).filter (fun declaration => declaration.id == id) =
      entrusted settings snapshot stage id := by
  rw [entrusted, ← Snapshot.filter_id_eq, List.filter_comm, marked_eq_filter]

theorem findRuntime_eq_head? (runtimes : List Runtime) (id : DeclId) :
    findRuntime runtimes id =
      (runtimes.filter (fun runtime => runtime.declaration == id)).head? :=
  List.head?_filter.symm

/-- The runtimes of a run are found under the identities of their roots. -/
theorem findRuntime_run : findRuntime (run settings snapshot).runtimes production =
    (built (outcomes (Runtime.aggregate settings snapshot)
      (entrusted settings snapshot .runtimeStage production))).head? := by
  rw [findRuntime_eq_head?, ← filter_marked, ← filter_built]
  · rfl
  · exact fun _ _ => Runtime.declaration_of_aggregate

/-- What an output holds about an identity is what the declaration with it gives at each stage. -/
theorem about_run (id : DeclId) : (run settings snapshot).about id =
    assemble
      (outcomes (EffectModule.buildAll settings snapshot)
        (entrusted settings snapshot .moduleStage id))
      (outcomes (Runtime.aggregate settings snapshot)
        (entrusted settings snapshot .runtimeStage id))
      (outcomes (TestRuntime.double settings snapshot (findRuntime (run settings snapshot).runtimes))
        (entrusted settings snapshot .testRuntimeStage id)) := by
  simp only [Output.about, Output.modulesOf, run, assemble, List.filter_append, filter_failed,
    filter_marked]
  rw [filter_flatten_built, filter_built, filter_built]
  · simp only [filter_marked]
  · exact fun _ _ => TestRuntime.declaration_of_double
  · exact fun _ _ => Runtime.declaration_of_aggregate
  · exact fun _ _ success _ member => EffectModule.container_of_buildAll success member

theorem stage_eq_some {α : Type} {build : Declaration → Except Fault α} {checkpoint : Nat}
    {declarations : List Declaration} {results : Outcomes α}
    (ended : Generation.stage stops build checkpoint declarations = some results) :
    results = outcomes build declarations := by
  induction declarations generalizing checkpoint results with
  | nil => exact (Option.some.inj ended).symm
  | cons declaration rest ih =>
    cases halts : stops checkpoint with
    | true => simp [Generation.stage, halts] at ended
    | false =>
      simp only [Generation.stage, halts, Bool.false_eq_true, if_false, Option.map_eq_some_iff]
        at ended
      obtain ⟨others, remaining, rfl⟩ := ended
      rw [ih remaining]
      rfl

/-- A run that is not given up comes to the same end, wherever it could have been stopped. -/
theorem runUnless_eq_some (ended : runUnless settings snapshot stops = some output) :
    output = run settings snapshot := by
  simp only [runUnless, bind, Option.bind_eq_some_iff] at ended
  obtain ⟨modules, first, runtimes, second, testRuntimes, third, same⟩ := ended
  rw [stage_eq_some first, stage_eq_some third, stage_eq_some second] at same
  exact (Option.some.inj same).symm

theorem stage_never {α : Type} {build : Declaration → Except Fault α} {checkpoint : Nat}
    {declarations : List Declaration} :
    Generation.stage (fun _ => false) build checkpoint declarations =
      some (outcomes build declarations) := by
  induction declarations generalizing checkpoint with
  | nil => rfl
  | cons declaration rest ih =>
    simp only [Generation.stage, Bool.false_eq_true, if_false, ih, Option.map_some]
    rfl

theorem runUnless_never :
    runUnless settings snapshot (fun _ => false) = some (run settings snapshot) := by
  simp only [runUnless, stage_never, bind, Option.bind_some]
  rfl

end Run

end Generation

end EffectModel
