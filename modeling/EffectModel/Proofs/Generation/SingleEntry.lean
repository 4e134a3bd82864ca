import EffectModel.Proofs.Generation.Accounting

namespace EffectModel.Generation

variable {settings : Settings} {snapshot : Snapshot} {declaration root testRoot : Declaration}
variable {id production : DeclId} {fault : Fault} {runtime : Runtime} {testRuntime : TestRuntime}
variable {modules : List EffectModule} {stage : Stage}

theorem id_of_entrusted (trusted : declaration ∈ entrusted settings snapshot stage id) :
    declaration.id = id :=
  (Snapshot.lookup_some (mem_entrusted_iff.mp trusted).1).2

theorem entrusted_of_marked (looked : snapshot.lookup id = some declaration)
    (marked : isMarkedFor settings stage declaration = true) :
    entrusted settings snapshot stage id = [declaration] := by
  simp [entrusted, looked, marked]

theorem entrusted_of_unmarked (looked : snapshot.lookup id = some declaration)
    (unmarked : isMarkedFor settings stage declaration = false) :
    entrusted settings snapshot stage id = [] := by
  simp [entrusted, looked, unmarked]

theorem mem_failed_entrusted_iff {α : Type} {build : Declaration → Except Fault α} {other : Stage} :
    ⟨id, stage, fault⟩ ∈ failed other (outcomes build (entrusted settings snapshot other id)) ↔
      stage = other ∧
        ∃ declaration ∈ entrusted settings snapshot other id, build declaration = .error fault := by
  rw [mem_failed_iff]
  constructor
  · rintro ⟨declaration, trusted, failing, _, same⟩
    exact ⟨same, declaration, trusted, failing⟩
  · rintro ⟨same, declaration, trusted, failing⟩
    exact ⟨declaration, trusted, failing, (id_of_entrusted trusted).symm, same⟩

theorem mem_failures_iff : ⟨id, stage, fault⟩ ∈ (run settings snapshot).failures ↔
    stage = .moduleStage ∧ (∃ declaration ∈ entrusted settings snapshot .moduleStage id,
        EffectModule.buildAll settings snapshot declaration = .error fault) ∨
      stage = .runtimeStage ∧ (∃ root ∈ entrusted settings snapshot .runtimeStage id,
        Runtime.aggregate settings snapshot root = .error fault) ∨
      stage = .testRuntimeStage ∧ ∃ testRoot ∈ entrusted settings snapshot .testRuntimeStage id,
        TestRuntime.double settings snapshot (findRuntime (run settings snapshot).runtimes) testRoot =
          .error fault := by
  have about : ⟨id, stage, fault⟩ ∈ (run settings snapshot).failures ↔
      ⟨id, stage, fault⟩ ∈ ((run settings snapshot).about id).failures := by
    simp [Output.about]
  rw [about, about_run]
  simp only [assemble, List.mem_append, mem_failed_entrusted_iff, or_assoc]

theorem mem_failures_of_moduleStage (held : declaration ∈ snapshot.declarations) :
    ⟨declaration.id, .moduleStage, fault⟩ ∈ (run settings snapshot).failures ↔
      EffectModule.buildAll settings snapshot declaration = .error fault := by
  have looked := Snapshot.lookup_id held
  cases marks : isMarkedFor settings .moduleStage declaration with
  | true => simp [mem_failures_iff, entrusted_of_marked looked marks]
  | false =>
    simp [mem_failures_iff, entrusted_of_unmarked looked marks,
      EffectModule.buildAll_of_unmarked marks]

theorem mem_failures_of_runtimeStage (looked : snapshot.lookup id = some root)
    (marked : Runtime.isMarked settings root = true) :
    ⟨id, .runtimeStage, fault⟩ ∈ (run settings snapshot).failures ↔
      Runtime.aggregate settings snapshot root = .error fault := by
  have trusted : entrusted settings snapshot .runtimeStage id = [root] :=
    entrusted_of_marked looked marked
  simp [mem_failures_iff, trusted]

theorem mem_failures_of_testRuntimeStage (looked : snapshot.lookup id = some testRoot)
    (marked : TestRuntime.isMarked settings testRoot = true) :
    ⟨id, .testRuntimeStage, fault⟩ ∈ (run settings snapshot).failures ↔
      TestRuntime.double settings snapshot (findRuntime (run settings snapshot).runtimes) testRoot =
        .error fault := by
  have trusted : entrusted settings snapshot .testRuntimeStage id = [testRoot] :=
    entrusted_of_marked looked marked
  simp [mem_failures_iff, trusted]

theorem modulesOf_run (held : declaration ∈ snapshot.declarations) :
    (run settings snapshot).modulesOf declaration.id =
      (EffectModule.buildAll settings snapshot declaration).toOption.getD [] := by
  have looked := Snapshot.lookup_id held
  change ((run settings snapshot).about declaration.id).modules = _
  rw [about_run, assemble, flatten_built_eq_flatMap]
  cases marks : isMarkedFor settings .moduleStage declaration with
  | true => simp [entrusted_of_marked looked marks]
  | false =>
    simp [entrusted_of_unmarked looked marks, EffectModule.buildAll_of_unmarked marks,
      Except.toOption]

theorem runtimeFor_of_lookup (looked : snapshot.lookup id = some root) :
    runtimeFor settings snapshot id = Runtime.aggregate settings snapshot root := by
  simp [runtimeFor, looked, orFault, bind, Except.bind]

theorem runtimeFor_eq_ok_iff : runtimeFor settings snapshot id = .ok runtime ↔
    ∃ root, snapshot.lookup id = some root ∧
      Runtime.aggregate settings snapshot root = .ok runtime := by
  simp only [runtimeFor, bind_eq_ok_iff, orFault_eq_ok_iff]

theorem declaration_of_runtimeFor (success : runtimeFor settings snapshot id = .ok runtime) :
    runtime.declaration = id := by
  obtain ⟨root, looked, composed⟩ := runtimeFor_eq_ok_iff.mp success
  exact (Runtime.declaration_of_aggregate composed).trans (Snapshot.lookup_some looked).2

theorem mem_runtimes_iff : runtime ∈ (run settings snapshot).runtimes ∧ runtime.declaration = id ↔
    runtimeFor settings snapshot id = .ok runtime := by
  have about : runtime ∈ (run settings snapshot).runtimes ∧ runtime.declaration = id ↔
      runtime ∈ ((run settings snapshot).about id).runtimes := by
    simp [Output.about]
  rw [about, about_run, assemble, mem_built_iff, runtimeFor_eq_ok_iff]
  apply exists_congr
  intro root
  rw [mem_entrusted_iff, and_assoc]
  apply and_congr_right
  intro _
  exact and_iff_right_of_imp Runtime.isMarked_of_aggregate

theorem findRuntime_run_eq : findRuntime (run settings snapshot).runtimes id =
    (runtimeFor settings snapshot id).toOption := by
  cases found : findRuntime (run settings snapshot).runtimes id with
  | none =>
    cases success : runtimeFor settings snapshot id with
    | error fault => rfl
    | ok runtime =>
      obtain ⟨member, same⟩ := mem_runtimes_iff.mpr success
      simpa [same] using List.find?_eq_none.mp found runtime member
  | some runtime =>
    have same : runtime.declaration = id := by simpa using List.find?_some found
    rw [mem_runtimes_iff.mp ⟨List.mem_of_find?_eq_some found, same⟩]
    rfl

theorem findRuntime_singleton (success : runtimeFor settings snapshot id = .ok runtime) :
    findRuntime [runtime] id = findRuntime (run settings snapshot).runtimes id := by
  rw [findRuntime_run_eq, success]
  simp [findRuntime, declaration_of_runtimeFor success, Except.toOption]

/-- Where the production root is named and composed, asking for a test runtime alone doubles what
the run doubles. -/
theorem testRuntimeFor_eq_double (looked : snapshot.lookup id = some testRoot)
    (named : TestRuntime.productionOf settings snapshot testRoot = .ok production)
    (success : runtimeFor settings snapshot production = .ok runtime) :
    testRuntimeFor settings snapshot id =
      TestRuntime.double settings snapshot (findRuntime (run settings snapshot).runtimes)
        testRoot := by
  have alone : testRuntimeFor settings snapshot id =
      TestRuntime.double settings snapshot (findRuntime [runtime]) testRoot := by
    simp [testRuntimeFor, looked, named, success, orFault, bind, Except.bind]
  rw [alone]
  apply TestRuntime.double_congr
  intro other named'
  cases named.symm.trans named'
  exact findRuntime_singleton success

theorem testRuntimeFor_eq_ok_iff : testRuntimeFor settings snapshot id = .ok testRuntime ↔
    ∃ testRoot, snapshot.lookup id = some testRoot ∧
      TestRuntime.double settings snapshot (findRuntime (run settings snapshot).runtimes) testRoot =
        .ok testRuntime := by
  constructor
  · intro success
    obtain ⟨testRoot, looked, further⟩ := bind_eq_ok_iff.mp success
    rw [orFault_eq_ok_iff] at looked
    obtain ⟨production, named, further⟩ := bind_eq_ok_iff.mp further
    obtain ⟨runtime, composed, _⟩ := bind_eq_ok_iff.mp further
    exact ⟨testRoot, looked, testRuntimeFor_eq_double looked named composed ▸ success⟩
  · rintro ⟨testRoot, looked, success⟩
    obtain ⟨production, runtime, named, found, _⟩ := TestRuntime.double_eq_ok_iff.mp success
    rw [findRuntime_run_eq] at found
    cases composed : runtimeFor settings snapshot production with
    | error fault => simp [composed, Except.toOption] at found
    | ok runtime => exact testRuntimeFor_eq_double looked named composed ▸ success

theorem mem_testRuntimes_iff :
    testRuntime ∈ (run settings snapshot).testRuntimes ∧ testRuntime.declaration = id ↔
      testRuntimeFor settings snapshot id = .ok testRuntime := by
  have about : testRuntime ∈ (run settings snapshot).testRuntimes ∧ testRuntime.declaration = id ↔
      testRuntime ∈ ((run settings snapshot).about id).testRuntimes := by
    simp [Output.about]
  rw [about, about_run, assemble, mem_built_iff, testRuntimeFor_eq_ok_iff]
  apply exists_congr
  intro testRoot
  rw [mem_entrusted_iff, and_assoc]
  apply and_congr_right
  intro _
  apply and_iff_right_of_imp
  intro success
  obtain ⟨production, _, named, _⟩ := TestRuntime.double_eq_ok_iff.mp success
  exact TestRuntime.isMarked_of_productionOf named

theorem exists_fault_iff (looked : snapshot.lookup id = some testRoot) :
    (∃ fault, testRuntimeFor settings snapshot id = .error fault) ↔
      ∃ fault, TestRuntime.double settings snapshot
        (findRuntime (run settings snapshot).runtimes) testRoot = .error fault := by
  have same : ∀ testRuntime, testRuntimeFor settings snapshot id = .ok testRuntime ↔
      TestRuntime.double settings snapshot (findRuntime (run settings snapshot).runtimes) testRoot =
        .ok testRuntime := by
    intro testRuntime
    rw [testRuntimeFor_eq_ok_iff, looked]
    simp
  cases alone : testRuntimeFor settings snapshot id with
  | error fault =>
    cases whole : TestRuntime.double settings snapshot
        (findRuntime (run settings snapshot).runtimes) testRoot with
    | error other => simp
    | ok testRuntime =>
      rw [(same testRuntime).mpr whole] at alone
      cases alone
  | ok testRuntime => simp [(same testRuntime).mp alone]

/-- A fault in naming the production root is found at once, whoever asks. -/
theorem testRuntimeFor_of_unnamed (looked : snapshot.lookup id = some testRoot)
    (unnamed : TestRuntime.productionOf settings snapshot testRoot = .error fault) :
    testRuntimeFor settings snapshot id = .error fault ∧
      ∀ find, TestRuntime.double settings snapshot find testRoot = .error fault := by
  constructor
  · simp [testRuntimeFor, looked, unnamed, orFault, bind, Except.bind]
  · exact fun find => TestRuntime.double_eq_error_iff.mpr (.inl unnamed)

/-- What is asked for one declaration at a time, held against an output. -/
structure SingleEntries (settings : Settings) (snapshot : Snapshot) (output : Output) : Prop where
  modules : ∀ declaration ∈ snapshot.declarations, ∀ modules,
    EffectModule.buildAll settings snapshot declaration = .ok modules ↔
      (∀ fault, ⟨declaration.id, .moduleStage, fault⟩ ∉ output.failures) ∧
        output.modulesOf declaration.id = modules
  moduleFault : ∀ declaration ∈ snapshot.declarations, ∀ fault,
    EffectModule.buildAll settings snapshot declaration = .error fault ↔
      ⟨declaration.id, .moduleStage, fault⟩ ∈ output.failures
  runtime : ∀ id runtime, runtimeFor settings snapshot id = .ok runtime ↔
    runtime ∈ output.runtimes ∧ runtime.declaration = id
  runtimeFault : ∀ id root, snapshot.lookup id = some root →
    Runtime.isMarked settings root = true → ∀ fault,
      runtimeFor settings snapshot id = .error fault ↔
        ⟨id, .runtimeStage, fault⟩ ∈ output.failures
  testRuntime : ∀ id testRuntime, testRuntimeFor settings snapshot id = .ok testRuntime ↔
    testRuntime ∈ output.testRuntimes ∧ testRuntime.declaration = id
  testRuntimeFault : ∀ id testRoot, snapshot.lookup id = some testRoot →
    TestRuntime.isMarked settings testRoot = true →
      ((∃ fault, testRuntimeFor settings snapshot id = .error fault) ↔
        ∃ fault, ⟨id, .testRuntimeStage, fault⟩ ∈ output.failures)
  /-- Both faults are the one that naming the production root ends in, if it ends in one. -/
  productionFault : ∀ id testRoot, snapshot.lookup id = some testRoot →
    TestRuntime.isMarked settings testRoot = true → ∀ fault,
      TestRuntime.productionOf settings snapshot testRoot = .error fault →
        testRuntimeFor settings snapshot id = .error fault ∧
          ∀ other, ⟨id, .testRuntimeStage, other⟩ ∈ output.failures ↔ other = fault

/-- What is asked for one declaration at a time is what a run over the whole snapshot gives. -/
theorem run_singleEntries (settings : Settings) (snapshot : Snapshot) :
    SingleEntries settings snapshot (run settings snapshot) := by
  refine ⟨?_, ?_, ?_, ?_, ?_, ?_, ?_⟩
  · intro declaration held modules
    simp only [mem_failures_of_moduleStage held, modulesOf_run held]
    cases EffectModule.buildAll settings snapshot declaration <;> simp [Except.toOption]
  · exact fun declaration held fault => (mem_failures_of_moduleStage held).symm
  · exact fun id runtime => mem_runtimes_iff.symm
  · intro id root looked marked fault
    rw [mem_failures_of_runtimeStage looked marked, runtimeFor_of_lookup looked]
  · exact fun id testRuntime => mem_testRuntimes_iff.symm
  · intro id testRoot looked marked
    simp only [mem_failures_of_testRuntimeStage looked marked, exists_fault_iff looked]
  · intro id testRoot looked marked fault unnamed
    obtain ⟨alone, doubled⟩ := testRuntimeFor_of_unnamed looked unnamed
    refine ⟨alone, fun other => ?_⟩
    rw [mem_failures_of_testRuntimeStage looked marked, doubled]
    exact ⟨fun same => (Except.error.inj same).symm, fun same => same ▸ rfl⟩

end EffectModel.Generation
