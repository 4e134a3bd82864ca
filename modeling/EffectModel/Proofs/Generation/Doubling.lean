import EffectModel.Proofs.Generation.Agreement

namespace EffectModel

variable {settings : Settings} {snapshot : Snapshot} {testRoot production : Declaration}
variable {runtime : Runtime} {testRuntime : TestRuntime} {id : DeclId}

/-- A test root names the root of a runtime that an output has. -/
structure Doubles (settings : Settings) (snapshot : Snapshot) (output : Output)
    (testRoot production : Declaration) (runtime : Runtime) : Prop where
  names : TestRuntime.Names settings snapshot testRoot production
  member : runtime ∈ output.runtimes
  rooted : runtime.declaration = production.id

theorem mem_about_testRuntimes_iff {output : Output} :
    testRuntime ∈ (output.about id).testRuntimes ↔
      testRuntime ∈ output.testRuntimes ∧ testRuntime.declaration = id := by
  simp [Output.about]

namespace Generation

theorem findRuntime_run_eq_some_iff :
    findRuntime (run settings snapshot).runtimes id = some runtime ↔
      runtime ∈ (run settings snapshot).runtimes ∧ runtime.declaration = id := by
  rw [findRuntime_run_eq, mem_runtimes_iff]
  cases runtimeFor settings snapshot id <;> simp [Except.toOption]

theorem double_run_eq_ok_iff : TestRuntime.double settings snapshot
      (findRuntime (run settings snapshot).runtimes) testRoot = .ok testRuntime ↔
    ∃ production runtime,
      Doubles settings snapshot (run settings snapshot) testRoot production runtime ∧
      ⟨testRoot.id, testRoot.name, testRoot.scope, testRoot.access, production.id,
        runtime.capabilities⟩ = testRuntime := by
  simp only [TestRuntime.double_eq_ok_iff, TestRuntime.productionOf_eq_ok_iff_names,
    findRuntime_run_eq_some_iff]
  constructor
  · rintro ⟨_, runtime, ⟨production, names, rfl⟩, ⟨member, rooted⟩, rfl⟩
    exact ⟨production, runtime, ⟨names, member, rooted⟩, by rw [rooted]⟩
  · rintro ⟨production, runtime, ⟨names, member, rooted⟩, rfl⟩
    exact ⟨_, runtime, ⟨production, names, rfl⟩, ⟨member, rooted⟩, by rw [rooted]⟩

/-- A test root gives one test runtime or none. -/
theorem testRuntimes_about_run (looked : snapshot.lookup id = some testRoot)
    (marked : TestRuntime.isMarked settings testRoot = true) :
    ((run settings snapshot).about id).testRuntimes =
      (TestRuntime.double settings snapshot (findRuntime (run settings snapshot).runtimes)
        testRoot).toOption.toList := by
  have trusted : entrusted settings snapshot .testRuntimeStage id = [testRoot] :=
    entrusted_of_marked looked marked
  simp only [about_run, assemble, trusted, built_eq_flatMap, List.flatMap_singleton]

section Outcome

variable (held : testRoot ∈ snapshot.declarations)
variable (marked : TestRuntime.isMarked settings testRoot = true)
include held marked

theorem exists_testRuntime_of_doubles
    (doubles : Doubles settings snapshot (run settings snapshot) testRoot production runtime) :
    ∃ testRuntime, ((run settings snapshot).about testRoot.id).testRuntimes = [testRuntime] ∧
      testRuntime.production = production.id ∧ testRuntime.capabilities = runtime.capabilities ∧
      (run settings snapshot).failuresOf testRoot.id .testRuntimeStage = [] := by
  have looked := Snapshot.lookup_id held
  have success := double_run_eq_ok_iff.mpr ⟨production, runtime, doubles, rfl⟩
  refine ⟨_, by rw [testRuntimes_about_run looked marked, success]; rfl, rfl, rfl, ?_⟩
  simp [Output.failuresOf_eq_nil_iff, mem_failures_of_testRuntimeStage looked marked, success]

theorem failuresOf_testRuntimeStage_eq
    (none : ¬ ∃ production runtime,
      Doubles settings snapshot (run settings snapshot) testRoot production runtime) :
    ((run settings snapshot).about testRoot.id).testRuntimes = [] ∧
      ∃ fault, (run settings snapshot).failuresOf testRoot.id .testRuntimeStage =
          [⟨testRoot.id, .testRuntimeStage, fault⟩] ∧
        fault.kind = .configuration ∧ fault.declaration = testRoot.id := by
  have looked := Snapshot.lookup_id held
  cases doubled : TestRuntime.double settings snapshot
      (findRuntime (run settings snapshot).runtimes) testRoot with
  | ok testRuntime =>
    obtain ⟨production, runtime, doubles, _⟩ := double_run_eq_ok_iff.mp doubled
    exact (none ⟨production, runtime, doubles⟩).elim
  | error fault =>
    have recorded := (mem_failures_of_testRuntimeStage looked marked).mpr doubled
    refine ⟨?_, fault, failuresOf_run_eq recorded, TestRuntime.fault_of_double doubled⟩
    rw [testRuntimes_about_run looked marked, doubled]
    rfl

end Outcome

end Generation

/-- A test root has a test runtime in a run where it names the root of one of the runtimes of the run,
and there alone. It is then the only one, of the named production root and with the capabilities of
its runtime; otherwise the run records one failure, a matter of the test root's configuration. -/
theorem run_doubles (settings : Settings) (snapshot : Snapshot) :
    ∃ output, Generation.runUnless settings snapshot (fun _ => false) = some output ∧
      ∀ testRoot ∈ snapshot.declarations, TestRuntime.isMarked settings testRoot = true →
        ((∃ testRuntime ∈ output.testRuntimes, testRuntime.declaration = testRoot.id) ↔
          ∃ production runtime, Doubles settings snapshot output testRoot production runtime) ∧
        (∀ production runtime, Doubles settings snapshot output testRoot production runtime →
          ∃ testRuntime, (output.about testRoot.id).testRuntimes = [testRuntime] ∧
            testRuntime.production = production.id ∧
            testRuntime.capabilities = runtime.capabilities ∧
            output.failuresOf testRoot.id .testRuntimeStage = []) ∧
        ((¬ ∃ production runtime, Doubles settings snapshot output testRoot production runtime) →
          ∃ fault, output.failuresOf testRoot.id .testRuntimeStage =
              [⟨testRoot.id, .testRuntimeStage, fault⟩] ∧
            fault.kind = .configuration ∧ fault.declaration = testRoot.id) := by
  refine ⟨_, Generation.runUnless_never, ?_⟩
  intro testRoot held marked
  refine ⟨⟨?_, ?_⟩, ?_, ?_⟩
  · rintro ⟨testRuntime, member, same⟩
    by_contra none
    have listed := mem_about_testRuntimes_iff.mpr ⟨member, same⟩
    rw [(Generation.failuresOf_testRuntimeStage_eq held marked none).1] at listed
    cases listed
  · rintro ⟨production, runtime, doubles⟩
    obtain ⟨testRuntime, single, _⟩ :=
      Generation.exists_testRuntime_of_doubles held marked doubles
    have listed : testRuntime ∈ [testRuntime] := List.mem_singleton_self testRuntime
    rw [← single, mem_about_testRuntimes_iff] at listed
    exact ⟨testRuntime, listed⟩
  · exact fun production runtime => Generation.exists_testRuntime_of_doubles held marked
  · exact fun none => (Generation.failuresOf_testRuntimeStage_eq held marked none).2

namespace Sample

theorem names_clockRoot (snapshot : Snapshot)
    (resolved : snapshot.resolve (Declaration.ofId ⟨"App.Root"⟩).asTypeUse = some clockRoot) :
    TestRuntime.Names {} snapshot clockTest clockRoot :=
  ⟨pointing "TestRuntime" "App.Root", _, by decide +kernel, .generic rfl, rfl, resolved⟩

end Sample

theorem run_doubles_clock :
    (∃ output, Generation.runUnless {} Sample.clock (fun _ => false) = some output ∧
      ∃ runtime, Doubles {} Sample.clock output Sample.clockTest Sample.clockRoot runtime ∧
        runtime.interfaces = ["IHasClock"] ∧
        ∃ testRuntime, (output.about Sample.clockTest.id).testRuntimes = [testRuntime] ∧
          testRuntime.capabilities = runtime.capabilities) ∧
    ∃ output, Generation.runUnless {} Sample.faulty (fun _ => false) = some output ∧
      TestRuntime.Names {} Sample.faulty Sample.clockTest Sample.clockRoot ∧
      output.testRuntimes = [] ∧
      ∃ fault, output.failuresOf Sample.clockTest.id .testRuntimeStage =
          [⟨Sample.clockTest.id, .testRuntimeStage, fault⟩] ∧ fault.kind = .configuration := by
  have marked : TestRuntime.isMarked {} Sample.clockTest = true := by decide +kernel
  constructor
  · obtain ⟨output, ended, doubled⟩ := run_doubles {} Sample.clock
    obtain ⟨_, given, _⟩ := doubled Sample.clockTest (by decide +kernel) marked
    have offers : output.runtimes.map (fun runtime => (runtime.declaration, runtime.interfaces)) =
        [(Sample.clockRoot.id, ["IHasClock"])] := by
      rw [Generation.runUnless_eq_some ended]
      decide +kernel
    obtain ⟨runtime, single, same⟩ := List.map_eq_singleton_iff.mp offers
    obtain ⟨rooted, interfaces⟩ := Prod.mk.inj same
    have doubles : Doubles {} Sample.clock output Sample.clockTest Sample.clockRoot runtime :=
      ⟨Sample.names_clockRoot Sample.clock (by decide +kernel), by simp [single], rooted⟩
    obtain ⟨testRuntime, only, _, capabilities, _⟩ := given Sample.clockRoot runtime doubles
    exact ⟨output, ended, runtime, doubles, interfaces, testRuntime, only, capabilities⟩
  · obtain ⟨output, ended, doubled⟩ := run_doubles {} Sample.faulty
    obtain ⟨_, _, halted⟩ := doubled Sample.clockTest (by decide +kernel) marked
    have empty : output.runtimes = [] ∧ output.testRuntimes = [] := by
      rw [Generation.runUnless_eq_some ended]
      decide +kernel
    have none : ¬ ∃ production runtime,
        Doubles {} Sample.faulty output Sample.clockTest production runtime := by
      rintro ⟨production, runtime, doubles⟩
      simpa [empty.1] using doubles.member
    obtain ⟨fault, recorded, kind, _⟩ := halted none
    exact ⟨output, ended, Sample.names_clockRoot Sample.faulty (by decide +kernel), empty.2, fault,
      recorded, kind⟩

end EffectModel
