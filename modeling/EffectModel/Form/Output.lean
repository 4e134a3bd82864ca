import EffectModel.Form.Module
import EffectModel.Generation.Output

namespace EffectModel

open Json

namespace FaultKind

def all : List FaultKind := [configuration, resolution]

/-- The key under which a fault of this kind is written. -/
def key : FaultKind → String
  | configuration => "Configuration"
  | resolution => "Resolution"

def toJson (kind : FaultKind) : Json := .text kind.key

def table : List (String × FaultKind) := all.map (fun kind => (kind.key, kind))

def ofJson : Reading FaultKind := asChoice table

end FaultKind

namespace Fault

def toJson (fault : Fault) : Json :=
  .record [
    (fault.kind.key, .record [
      ("declaration", fault.declaration.toJson), ("message", .text fault.message)])]

/-- Reads the parts of a fault whose kind is known. -/
def ofParts (kind : FaultKind) : Reading Fault :=
  asRecord ["declaration", "message"] fun levels slots =>
    match slots with
    | [declaration, message] => do
        some
          { kind
            declaration := ← declaration.required (DeclId.ofJson levels)
            message := ← message.required (asText levels) }
    | _ => none

/-- The kind of a fault is the only key of its object. -/
def ofJson : Reading Fault
  | levels + 1, .record [(key, parts)] => do
      let kind ← FaultKind.table.lookup key
      ofParts kind levels parts
  | _, _ => none

end Fault

namespace Capability

def toJson (capability : Capability) : Json :=
  .record [
    ("interface", .text capability.interface), ("property_name", .text capability.property),
    ("parameter_name", .text capability.parameter),
    ("dependency_type", capability.dependency.toJson)]

def ofJson : Reading Capability :=
  asRecord ["interface", "property_name", "parameter_name", "dependency_type"] fun levels slots =>
    match slots with
    | [interface, property, parameter, dependency] => do
        some
          { interface := ← interface.required (asText levels)
            property := ← property.required (asText levels)
            parameter := ← parameter.required (asText levels)
            dependency := ← dependency.required (TypeUse.ofJson levels) }
    | _ => none

end Capability

namespace Runtime

def toJson (runtime : Runtime) : Json :=
  .record [
    ("declaration", runtime.declaration.toJson), ("name", .text runtime.name),
    ("namespace", .text runtime.scope), ("accessibility", runtime.access.toJson),
    ("capabilities", .list (runtime.capabilities.map Capability.toJson))]

def fields : List String := ["declaration", "name", "namespace", "accessibility", "capabilities"]

def ofJson : Reading Runtime := asRecord fields fun levels slots =>
  match slots with
  | [declaration, name, scope, access, capabilities] => do
      some
        { declaration := ← declaration.required (DeclId.ofJson levels)
          name := ← name.required (asText levels)
          scope := ← scope.required (asText levels)
          access := ← access.required (Access.ofJson levels)
          capabilities := ← capabilities.required (asList Capability.ofJson levels) }
  | _ => none

end Runtime

namespace TestRuntime

def toJson (testRuntime : TestRuntime) : Json :=
  .record [
    ("declaration", testRuntime.declaration.toJson), ("name", .text testRuntime.name),
    ("namespace", .text testRuntime.scope), ("accessibility", testRuntime.access.toJson),
    ("production", testRuntime.production.toJson),
    ("capabilities", .list (testRuntime.capabilities.map Capability.toJson))]

def fields : List String :=
  ["declaration", "name", "namespace", "accessibility", "production", "capabilities"]

def ofJson : Reading TestRuntime := asRecord fields fun levels slots =>
  match slots with
  | [declaration, name, scope, access, production, capabilities] => do
      some
        { declaration := ← declaration.required (DeclId.ofJson levels)
          name := ← name.required (asText levels)
          scope := ← scope.required (asText levels)
          access := ← access.required (Access.ofJson levels)
          production := ← production.required (DeclId.ofJson levels)
          capabilities := ← capabilities.required (asList Capability.ofJson levels) }
  | _ => none

end TestRuntime

def Stage.toJson (stage : Stage) : Json := .text stage.name

def Stage.ofJson : Reading Stage := asChoice (all.map (fun stage => (stage.name, stage)))

namespace Failure

def toJson (failure : Failure) : Json :=
  .record [
    ("declaration", failure.declaration.toJson), ("stage", failure.stage.toJson),
    ("error", failure.fault.toJson)]

def ofJson : Reading Failure := asRecord ["declaration", "stage", "error"] fun levels slots =>
  match slots with
  | [declaration, stage, fault] => do
      some
        { declaration := ← declaration.required (DeclId.ofJson levels)
          stage := ← stage.required (Stage.ofJson levels)
          fault := ← fault.required (Fault.ofJson levels) }
  | _ => none

end Failure

namespace Output

def toJson (output : Output) : Json :=
  .record [
    ("modules", .list (output.modules.map EffectModule.toJson)),
    ("runtimes", .list (output.runtimes.map Runtime.toJson)),
    ("test_runtimes", .list (output.testRuntimes.map TestRuntime.toJson)),
    ("failures", .list (output.failures.map Failure.toJson))]

def ofJson : Reading Output :=
  asRecord ["modules", "runtimes", "test_runtimes", "failures"] fun levels slots =>
    match slots with
    | [modules, runtimes, testRuntimes, failures] => do
        some
          { modules := ← modules.required (asList EffectModule.ofJson levels)
            runtimes := ← runtimes.required (asList Runtime.ofJson levels)
            testRuntimes := ← testRuntimes.required (asList TestRuntime.ofJson levels)
            failures := ← failures.required (asList Failure.ofJson levels) }
    | _ => none

def document (write : Json → String) (output : Output) : String := write output.toJson

end Output

end EffectModel
