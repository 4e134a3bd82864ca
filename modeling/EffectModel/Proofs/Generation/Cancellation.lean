import EffectModel.Proofs.Generation.Locality
import Mathlib.Logic.Relation

namespace EffectModel

namespace Tokens

variable {tokens next later : Tokens} {token : Nat}

/-- What is done to tokens: one more is made, with a signal of its own or with that of another, or the
signal of one is given. -/
inductive Step (tokens : Tokens) : Tokens → Prop where
  | fresh : Step tokens tokens.fresh
  | copy (token : Nat) : Step tokens (tokens.copy token)
  | cancel (token : Nat) : Step tokens (tokens.cancel token)

/-- What becomes of tokens in any number of steps. -/
abbrev Evolves : Tokens → Tokens → Prop := Relation.ReflTransGen Step

theorem isCancelled_eq_true_iff : tokens.isCancelled token = true ↔
    ∃ signal, tokens.signals[token]? = some signal ∧ tokens.given[signal]? = some true := by
  unfold isCancelled
  cases carried : tokens.signals[token]? with
  | none => simp
  | some signal => cases known : tokens.given[signal]? <;> simp [known]

/-- No step takes a signal back, or gives a token another one. -/
theorem Step.isCancelled (step : Step tokens next) (cancelled : tokens.isCancelled token = true) :
    next.isCancelled token = true := by
  obtain ⟨signal, carried, given⟩ := isCancelled_eq_true_iff.mp cancelled
  have known : signal < tokens.given.length := (List.getElem?_eq_some_iff.mp given).1
  have listed : token < tokens.signals.length := (List.getElem?_eq_some_iff.mp carried).1
  apply isCancelled_eq_true_iff.mpr
  refine ⟨signal, ?_, ?_⟩
  · cases step with
    | fresh => rw [Tokens.fresh, List.getElem?_append_left listed, carried]
    | copy other =>
      unfold Tokens.copy
      split
      · rw [List.getElem?_append_left listed, carried]
      · exact carried
    | cancel other => unfold Tokens.cancel; split <;> exact carried
  · cases step with
    | fresh => rw [Tokens.fresh, List.getElem?_append_left known, given]
    | copy other => unfold Tokens.copy; split <;> exact given
    | cancel other =>
      unfold Tokens.cancel
      split
      case h_1 other _ =>
        by_cases same : other = signal
        · simp [same, known]
        · rw [List.getElem?_set_ne same, given]
      case h_2 => exact given

theorem Evolves.isCancelled (evolves : tokens.Evolves later)
    (cancelled : tokens.isCancelled token = true) : later.isCancelled token = true := by
  induction evolves with
  | refl => exact cancelled
  | tail _ step ih => exact step.isCancelled ih

/-- A token that is cancelled at one moment is cancelled at every later one. -/
theorem isCancelled_of_le {history : Nat → Tokens} {moment other : Nat}
    (evolves : ∀ moment, (history moment).Evolves (history (moment + 1))) (order : moment ≤ other)
    (cancelled : (history moment).isCancelled token = true) :
    (history other).isCancelled token = true := by
  induction order with
  | refl => exact cancelled
  | step _ ih => exact (evolves _).isCancelled ih

end Tokens

namespace Generation

variable {settings : Settings} {snapshot : Snapshot} {stops : Nat → Bool} {output : Output}

/-- The number of times that a declaration is marked for a stage. -/
def checkpointCount (settings : Settings) (snapshot : Snapshot) : Nat :=
  (Stage.all.flatMap (fun stage =>
    snapshot.declarations.filter (isMarkedFor settings stage))).length

theorem checkpointCount_eq : checkpointCount settings snapshot =
    (marked settings snapshot .moduleStage).length + (marked settings snapshot .runtimeStage).length +
      (marked settings snapshot .testRuntimeStage).length := by
  simp only [checkpointCount, Stage.all, List.flatMap_cons, List.flatMap_nil, List.length_append,
    List.length_nil, Nat.add_zero, Nat.add_assoc, marked_eq_filter]

theorem checkpointCount_pos_iff : 0 < checkpointCount settings snapshot ↔
    ∃ declaration ∈ snapshot.declarations, ∃ stage, isMarkedFor settings stage declaration = true := by
  rw [checkpointCount, List.length_pos_iff_exists_mem]
  constructor
  · rintro ⟨declaration, listed⟩
    obtain ⟨stage, _, listed⟩ := List.mem_flatMap.mp listed
    obtain ⟨held, marked⟩ := List.mem_filter.mp listed
    exact ⟨declaration, held, stage, marked⟩
  · rintro ⟨declaration, held, stage, marked⟩
    have known : stage ∈ Stage.all := by
      cases stage <;> decide
    exact ⟨declaration, List.mem_flatMap.mpr ⟨stage, known, List.mem_filter.mpr ⟨held, marked⟩⟩⟩

theorem exists_lt_add_iff {first second : Nat} {holds : Nat → Prop} :
    (∃ place < first + second, holds place) ↔
      (∃ place < first, holds place) ∨ ∃ place < second, holds (first + place) := by
  constructor
  · rintro ⟨place, bound, found⟩
    by_cases early : place < first
    · exact .inl ⟨place, early, found⟩
    · refine .inr ⟨place - first, by omega, ?_⟩
      rwa [Nat.add_sub_cancel' (Nat.le_of_not_lt early)]
  · rintro (⟨place, bound, found⟩ | ⟨place, bound, found⟩)
    · exact ⟨place, by omega, found⟩
    · exact ⟨first + place, by omega, found⟩

/-- A stage has a checkpoint for each of its declarations, whatever is built from them. -/
theorem stage_eq_none_iff {α : Type} {build : Declaration → Except Fault α} {checkpoint : Nat}
    {declarations : List Declaration} :
    stage stops build checkpoint declarations = none ↔
      ∃ place < declarations.length, stops (checkpoint + place) = true := by
  induction declarations generalizing checkpoint with
  | nil => simp [stage]
  | cons declaration rest ih =>
    rw [List.length_cons, Nat.add_comm, exists_lt_add_iff]
    cases halts : stops checkpoint with
    | true => simp [stage, halts]
    | false => simp [stage, halts, ih, Nat.add_assoc]

/-- A stage and what follows it come to nothing where a checkpoint of the stage says so, or one that
follows; what the stage has built decides nothing about that. -/
theorem stage_bind_eq_none_iff {α β : Type} {build : Declaration → Except Fault α}
    {checkpoint : Nat} {declarations : List Declaration} {next : Outcomes α → Option β}
    {halts : Prop} (further : ∀ results, next results = none ↔ halts) :
    stage stops build checkpoint declarations >>= next = none ↔
      (∃ place < declarations.length, stops (checkpoint + place) = true) ∨ halts := by
  have own : stage stops build checkpoint declarations = none ↔ _ := stage_eq_none_iff
  rw [← own]
  cases ended : stage stops build checkpoint declarations with
  | none => simp
  | some results => simpa using further results

theorem runUnless_eq_none_iff : runUnless settings snapshot stops = none ↔
    ∃ checkpoint < checkpointCount settings snapshot, stops checkpoint = true := by
  have last : ∀ find modules runtimes,
      (do
        let testRuntimes ← stage stops (TestRuntime.double settings snapshot find)
          ((marked settings snapshot .moduleStage).length +
            (marked settings snapshot .runtimeStage).length)
          (marked settings snapshot .testRuntimeStage)
        some (assemble modules runtimes testRuntimes)) = none ↔
      ∃ place < (marked settings snapshot .testRuntimeStage).length,
        stops ((marked settings snapshot .moduleStage).length +
          (marked settings snapshot .runtimeStage).length + place) = true := by
    intro find modules runtimes
    have ends : ∀ testRuntimes, some (assemble modules runtimes testRuntimes) = none ↔ False := by
      simp
    rw [stage_bind_eq_none_iff ends, or_false]
  rw [checkpointCount_eq, exists_lt_add_iff, exists_lt_add_iff, or_assoc, runUnless,
    stage_bind_eq_none_iff fun modules => stage_bind_eq_none_iff fun runtimes => last _ _ _]
  simp only [Nat.zero_add]

theorem runUnless_of_unseen
    (unseen : ¬ ∃ checkpoint < checkpointCount settings snapshot, stops checkpoint = true) :
    runUnless settings snapshot stops = some (run settings snapshot) := by
  cases ended : runUnless settings snapshot stops with
  | none => exact (unseen (runUnless_eq_none_iff.mp ended)).elim
  | some output => rw [runUnless_eq_some ended]

/-- A run with a token, whose checkpoints look at it each at a moment of its own. -/
def runWatching (settings : Settings) (snapshot : Snapshot) (history : Nat → Tokens) (token : Nat)
    (look : Nat → Nat) : Option Output :=
  runUnless settings snapshot (fun checkpoint => (history (look checkpoint)).isCancelled token)

/-- Whatever is done to tokens as time passes, and whenever each checkpoint looks: a run comes to
nothing exactly where one of its checkpoints, as many as there are marks, finds its token cancelled,
and otherwise to what a run to the end gives. So a token that becomes cancelled at some moment stops
the runs with a checkpoint that looks no sooner, one that is cancelled beforehand stops those with a
marked declaration, and one of its own that nobody cancels stops none. -/
theorem run_cancelled_iff (settings : Settings) (snapshot : Snapshot) (history : Nat → Tokens)
    (token : Nat) (look : Nat → Nat)
    (evolves : ∀ moment, (history moment).Evolves (history (moment + 1))) :
    (runWatching settings snapshot history token look = none ↔
      ∃ checkpoint < checkpointCount settings snapshot,
        (history (look checkpoint)).isCancelled token = true) ∧
    ((¬ ∃ checkpoint < checkpointCount settings snapshot,
        (history (look checkpoint)).isCancelled token = true) →
      runWatching settings snapshot history token look = some (run settings snapshot)) ∧
    (∀ moment, (history moment).isCancelled token = true →
      (∀ earlier < moment, (history earlier).isCancelled token = false) →
        (runWatching settings snapshot history token look = none ↔
          ∃ checkpoint < checkpointCount settings snapshot, moment ≤ look checkpoint)) ∧
    ((history 0).isCancelled token = true →
      (runWatching settings snapshot history token look = none ↔
        ∃ declaration ∈ snapshot.declarations, ∃ stage,
          isMarkedFor settings stage declaration = true)) ∧
    runUnless settings snapshot (fun _ => Tokens.single.isCancelled 0) =
      some (run settings snapshot) := by
  have given : ∀ moment, (history moment).isCancelled token = true →
      (∀ earlier < moment, (history earlier).isCancelled token = false) →
      (runWatching settings snapshot history token look = none ↔
        ∃ checkpoint < checkpointCount settings snapshot, moment ≤ look checkpoint) := by
    intro moment cancelled before
    rw [runWatching, runUnless_eq_none_iff]
    apply exists_congr
    intro checkpoint
    apply and_congr_right
    intro _
    constructor
    · intro seen
      by_contra sooner
      rw [before _ (Nat.lt_of_not_le sooner)] at seen
      cases seen
    · exact fun order => Tokens.isCancelled_of_le evolves order cancelled
  refine ⟨runUnless_eq_none_iff, runUnless_of_unseen, given, ?_, runUnless_never⟩
  intro beforehand
  rw [given 0 beforehand (by simp), ← checkpointCount_pos_iff]
  constructor
  · rintro ⟨checkpoint, bound, _⟩
    exact Nat.zero_lt_of_lt bound
  · exact fun positive => ⟨0, positive, Nat.zero_le _⟩

end Generation

namespace Sample

/-- A token is copied, and then cancelled by way of its copy. -/
def cancelledCopy : Nat → Tokens
  | 0 => .single
  | 1 => Tokens.single.copy 0
  | _ + 2 => (Tokens.single.copy 0).cancel 1

theorem evolves_cancelledCopy (moment : Nat) :
    (cancelledCopy moment).Evolves (cancelledCopy (moment + 1)) := by
  match moment with
  | 0 => exact .single (.copy 0)
  | 1 => exact .single (.cancel 1)
  | _ + 2 => exact .refl

end Sample

theorem run_cancelled_iff_clock :
    (∀ moment, (Sample.cancelledCopy moment).Evolves (Sample.cancelledCopy (moment + 1))) ∧
      Generation.checkpointCount {} Sample.clock = 3 ∧
      Generation.runWatching {} Sample.clock Sample.cancelledCopy 0 id = none ∧
      Generation.runWatching {} Sample.clock Sample.cancelledCopy 0 (· / 2) =
        some (Generation.run {} Sample.clock) := by
  have evolves := Sample.evolves_cancelledCopy
  have count : Generation.checkpointCount {} Sample.clock = 3 := by decide +kernel
  refine ⟨evolves, count, ?_, ?_⟩
  · apply (Generation.run_cancelled_iff {} Sample.clock _ 0 id evolves).1.mpr
    exact ⟨2, by rw [count]; decide, rfl⟩
  · apply (Generation.run_cancelled_iff {} Sample.clock _ 0 (· / 2) evolves).2.1
    rw [count]
    decide

end EffectModel
