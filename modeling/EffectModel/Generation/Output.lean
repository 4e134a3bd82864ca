import EffectModel.Runtime.Test

namespace EffectModel

inductive Stage where
  | moduleStage
  | runtimeStage
  | testRuntimeStage
  deriving DecidableEq, Repr, Inhabited

namespace Stage

def all : List Stage := [moduleStage, runtimeStage, testRuntimeStage]

def name : Stage → String
  | moduleStage => "module"
  | runtimeStage => "runtime"
  | testRuntimeStage => "test_runtime"

end Stage

/-- A declaration that gave nothing at a stage, and why. -/
structure Failure where
  declaration : DeclId
  stage : Stage
  fault : Fault
  deriving DecidableEq, Repr, Inhabited

structure Output where
  modules : List EffectModule := []
  runtimes : List Runtime := []
  testRuntimes : List TestRuntime := []
  failures : List Failure := []
  deriving DecidableEq, Repr, Inhabited

namespace Output

def isClean (output : Output) : Bool := output.failures.isEmpty

def runtime? (output : Output) (id : DeclId) : Option Runtime :=
  findRuntime output.runtimes id

def testRuntime? (output : Output) (id : DeclId) : Option TestRuntime :=
  output.testRuntimes.find? (fun testRuntime => testRuntime.declaration == id)

def modulesOf (output : Output) (container : DeclId) : List EffectModule :=
  output.modules.filter (fun effectModule => effectModule.container == container)

def failure? (output : Output) (id : DeclId) : Option Failure :=
  output.failures.find? (fun failure => failure.declaration == id)

end Output

end EffectModel
