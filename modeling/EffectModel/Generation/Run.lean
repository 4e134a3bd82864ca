import EffectModel.Generation.Output

/-! A run over a snapshot. Each stage builds from every declaration that is marked for it, in the
order of the snapshot; what fails is recorded and keeps nothing else from being built. -/
namespace EffectModel

structure Tokens where
  /-- Whether each signal has been given. -/
  given : List Bool
  /-- The signal of each token. -/
  signals : List Nat
  deriving DecidableEq, Repr

namespace Tokens

def single : Tokens := ⟨[false], [0]⟩

def fresh (tokens : Tokens) : Tokens :=
  ⟨tokens.given ++ [false], tokens.signals ++ [tokens.given.length]⟩

/-- A further token with the signal of another one. -/
def copy (tokens : Tokens) (token : Nat) : Tokens :=
  match tokens.signals[token]? with
  | some signal => { tokens with signals := tokens.signals ++ [signal] }
  | none => tokens

def cancel (tokens : Tokens) (token : Nat) : Tokens :=
  match tokens.signals[token]? with
  | some signal => { tokens with given := tokens.given.set signal true }
  | none => tokens

def isCancelled (tokens : Tokens) (token : Nat) : Bool :=
  (tokens.signals[token]?.bind (tokens.given[·]?)).getD false

def flags (tokens : Tokens) : List Bool :=
  (List.range tokens.signals.length).map tokens.isCancelled

end Tokens

def cancelledMessage : String := "generation cycle cancelled"

namespace Generation

variable (settings : Settings) (snapshot : Snapshot)

def marked : Stage → List Declaration
  | .moduleStage => snapshot.declarations.filter (EffectModule.isMarked settings)
  | .runtimeStage => snapshot.declarations.filter (Runtime.isMarked settings)
  | .testRuntimeStage => snapshot.declarations.filter (TestRuntime.isMarked settings)

/-- What a stage made of each of its declarations. -/
abbrev Outcomes (α : Type) := List (Declaration × Except Fault α)

def built {α : Type} (outcomes : Outcomes α) : List α :=
  outcomes.filterMap (fun (_, outcome) => outcome.toOption)

def failed {α : Type} (stage : Stage) (outcomes : Outcomes α) : List Failure :=
  outcomes.filterMap (fun (declaration, outcome) =>
    match outcome with
    | .ok _ => none
    | .error fault => some ⟨declaration.id, stage, fault⟩)

def assemble (modules : Outcomes (List EffectModule)) (runtimes : Outcomes Runtime)
    (testRuntimes : Outcomes TestRuntime) : Output where
  modules := (built modules).flatten
  runtimes := built runtimes
  testRuntimes := built testRuntimes
  failures := failed .moduleStage modules ++ failed .runtimeStage runtimes
    ++ failed .testRuntimeStage testRuntimes

/-- Builds from each declaration in turn, looking before each whether to go on. The count numbers
these checkpoints over the whole run. -/
def stage {α : Type} (stops : Nat → Bool) (build : Declaration → Except Fault α) :
    Nat → List Declaration → Option (Outcomes α)
  | _, [] => some []
  | checkpoint, declaration :: rest =>
      if stops checkpoint then none
      else (stage stops build (checkpoint + 1) rest).map ((declaration, build declaration) :: ·)

/-- A run that is given up at the first checkpoint that says so, and then has no output at all. -/
def runUnless (stops : Nat → Bool) : Option Output := do
  let containers := marked settings snapshot .moduleStage
  let modules ← stage stops (EffectModule.buildAll settings snapshot) 0 containers
  let roots := marked settings snapshot .runtimeStage
  let runtimes ← stage stops (Runtime.aggregate settings snapshot) containers.length roots
  let find := findRuntime (built runtimes)
  let testRuntimes ← stage stops (TestRuntime.double settings snapshot find)
    (containers.length + roots.length) (marked settings snapshot .testRuntimeStage)
  some (assemble modules runtimes testRuntimes)

def outcomes {α : Type} (build : Declaration → Except Fault α) (declarations : List Declaration) :
    Outcomes α :=
  declarations.map (fun declaration => (declaration, build declaration))

def run : Output :=
  let modules := outcomes (EffectModule.buildAll settings snapshot)
    (marked settings snapshot .moduleStage)
  let runtimes := outcomes (Runtime.aggregate settings snapshot)
    (marked settings snapshot .runtimeStage)
  let testRuntimes := outcomes (TestRuntime.double settings snapshot (findRuntime (built runtimes)))
    (marked settings snapshot .testRuntimeStage)
  assemble modules runtimes testRuntimes

def runtimeFor (id : DeclId) : Except Fault Runtime := do
  let root ← orFault (snapshot.lookup id) (Cause.outsideSnapshot.blame id)
  Runtime.aggregate settings snapshot root

/-- The test runtime of one declaration of the snapshot, by way of its production runtime. -/
def testRuntimeFor (id : DeclId) : Except Fault TestRuntime := do
  let testRoot ← orFault (snapshot.lookup id) (Cause.outsideSnapshot.blame id)
  let productionId ← TestRuntime.productionOf settings snapshot testRoot
  let production ← runtimeFor settings snapshot productionId
  TestRuntime.double settings snapshot (findRuntime [production]) testRoot

end Generation

end EffectModel
