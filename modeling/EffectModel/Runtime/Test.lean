import EffectModel.Runtime.Walk

namespace EffectModel

structure TestRuntime where
  declaration : DeclId
  name : String
  scope : String
  access : Access
  production : DeclId
  capabilities : List Capability
  deriving DecidableEq, Repr, Inhabited

namespace TestRuntime

variable (settings : Settings) (snapshot : Snapshot)

def isMarked (declaration : Declaration) : Bool :=
  declaration.hasAnnotation settings.vocabulary.testRuntimeKind

def productionOf (testRoot : Declaration) : Except Fault DeclId := do
  let found ← testRoot.singleAnnotation settings.vocabulary.testRuntimeKind
  let note ← orFault found (Cause.noProduction.blame testRoot.id)
  let reference ← orFault (note.usableReference settings.vocabulary.targetKey)
    (Cause.noProduction.blame testRoot.id)
  let production ← orFault (snapshot.resolve reference)
    ((Cause.unknownProduction reference.display).blame testRoot.id)
  return production.id

/-- The test runtime of a test root, given the runtimes that were built. -/
def double (find : DeclId → Option Runtime) (testRoot : Declaration) :
    Except Fault TestRuntime := do
  let id ← productionOf settings snapshot testRoot
  let production ← orFault (find id) ((Cause.unresolvedProduction id).blame testRoot.id)
  .ok
    { declaration := testRoot.id
      name := testRoot.name
      scope := testRoot.scope
      access := testRoot.access
      production := production.declaration
      capabilities := production.capabilities }

end TestRuntime

def findRuntime (runtimes : List Runtime) (id : DeclId) : Option Runtime :=
  runtimes.find? (fun runtime => runtime.declaration == id)

/-- The last runtime of a list with an identity, as when later entries replace earlier ones. -/
def findLastRuntime (runtimes : List Runtime) (id : DeclId) : Option Runtime :=
  findRuntime runtimes.reverse id

end EffectModel
