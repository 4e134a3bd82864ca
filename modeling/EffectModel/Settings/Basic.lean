import EffectModel.Text.Character

namespace EffectModel

/-- The names of the annotations and of their named arguments. -/
structure Vocabulary where
  moduleKind : String := "EffectsModule"
  runtimeKind : String := "Runtime"
  usesKind : String := "Uses"
  testRuntimeKind : String := "TestRuntime"
  nameKey : String := "name"
  instrumentedKey : String := "instrumented"
  includeKey : String := "include"
  excludeKey : String := "exclude"
  targetKey : String := "target"
  deriving DecidableEq, Repr, Inhabited

/-- The names that give return types their meaning, and the types effects are lifted to. -/
structure LiftingRules where
  asyncWrappers : List String := ["Task", "ValueTask"]
  nullableWrappers : List String := ["Nullable"]
  voidNames : List String := ["void", "Void"]
  unitType : String := "Unit"
  optionType : String := "Option"
  deriving DecidableEq, Repr, Inhabited

structure NamingRules where
  interfacePrefix : Char := 'I'
  capabilityPrefix : String := "IHas"
  stripAsyncSuffix : Bool := true
  deriving DecidableEq, Repr, Inhabited

structure PersistenceRules where
  contextTypes : List String := ["DbContext"]
  collectionTypes : List String := ["DbSet"]
  ancestorDepthLimit : UInt64 := 16
  deriving DecidableEq, Repr, Inhabited

structure Settings where
  version : UInt32 := 1
  vocabulary : Vocabulary := {}
  lifting : LiftingRules := {}
  naming : NamingRules := {}
  persistence : PersistenceRules := {}
  parallel : Bool := true
  deriving DecidableEq, Repr, Inhabited

inductive SettingsError where
  | outOfRange (field : String) (value least greatest : Int) (hint : String)
  | empty (field hint : String)
  | invalid (field reason : String)
  | unsupportedVersion (found : UInt32) (supported : List UInt32)
  deriving DecidableEq, Repr

def SettingsError.message : SettingsError → String
  | outOfRange field value least greatest hint =>
      s!"Invalid range for field '{field}': {value} not in {least}..={greatest}. {hint}"
  | empty field hint => s!"Field '{field}' must not be empty. {hint}"
  | invalid field reason => s!"Invalid value for field '{field}': {reason}"
  | unsupportedVersion found supported =>
      s!"Unsupported configuration version {found}. Supported versions: "
        ++ ", ".intercalate (supported.map toString)

/-- A name has to hold something else than white space. -/
def requireName (field name : String) : Except SettingsError Unit :=
  if Text.allBlank name then .error (.empty field "Provide a non-blank name") else .ok ()

def requireNoBlank (field : String) (names : List String) : Except SettingsError Unit :=
  match names.findIdx? Text.allBlank with
  | some position => .error (.invalid field s!"entry {position} is blank")
  | none => .ok ()

def requireNames (field : String) (names : List String) : Except SettingsError Unit :=
  if names.isEmpty then .error (.empty field "Provide at least one name")
  else requireNoBlank field names

def requireThat (holds : Bool) (error : SettingsError) : Except SettingsError Unit :=
  if holds then .ok () else .error error

def firstShared : List String → Option String
  | [] => none
  | name :: rest => if name ∈ rest then some name else firstShared rest

namespace Vocabulary

/-- The kinds of annotations, one for each role of a declaration. -/
def roles (names : Vocabulary) : List String :=
  [names.moduleKind, names.runtimeKind, names.usesKind, names.testRuntimeKind]

def check (names : Vocabulary) : Except SettingsError Unit := do
  requireName "annotations.module" names.moduleKind
  requireName "annotations.runtime" names.runtimeKind
  requireName "annotations.uses" names.usesKind
  requireName "annotations.test_runtime" names.testRuntimeKind
  requireName "annotations.name_key" names.nameKey
  requireName "annotations.instrumented_key" names.instrumentedKey
  requireName "annotations.include_key" names.includeKey
  requireName "annotations.exclude_key" names.excludeKey
  requireName "annotations.target_key" names.targetKey
  match firstShared names.roles with
  | some name =>
      .error (.invalid "annotations" s!"annotation name '{name}' is used for more than one role")
  | none => .ok ()

end Vocabulary

namespace LiftingRules

/-- The list of nullable wrappers may be empty, since a marker can make a type nullable as well. -/
def check (rules : LiftingRules) : Except SettingsError Unit := do
  requireNames "lifting.async_wrappers" rules.asyncWrappers
  requireNames "lifting.void_names" rules.voidNames
  requireNoBlank "lifting.nullable_wrappers" rules.nullableWrappers
  requireName "lifting.unit_type" rules.unitType
  requireName "lifting.option_type" rules.optionType
  match rules.asyncWrappers.find? (fun name => name ∈ rules.nullableWrappers) with
  | some name =>
      .error (.invalid "lifting" s!"'{name}' cannot be both an async and a nullable wrapper")
  | none => .ok ()

end LiftingRules

namespace NamingRules

def isIdentifierPart (c : Char) : Bool := Text.isAlphanumeric c || c == '_'

def check (rules : NamingRules) : Except SettingsError Unit := do
  requireThat (Text.isLetter rules.interfacePrefix)
    (.invalid "naming.interface_prefix" s!"'{rules.interfacePrefix}' is not a letter")
  requireName "naming.capability_prefix" rules.capabilityPrefix
  requireThat (rules.capabilityPrefix.toList.all isIdentifierPart)
    (.invalid "naming.capability_prefix" "must be a valid identifier prefix")

end NamingRules

namespace PersistenceRules

/-- The greatest number of ancestors that may be looked at. -/
def greatestDepth : UInt64 := 64

def check (rules : PersistenceRules) : Except SettingsError Unit := do
  requireThat (0 < rules.ancestorDepthLimit && rules.ancestorDepthLimit ≤ greatestDepth)
    (.outOfRange "ancestor_depth_limit" rules.ancestorDepthLimit.toNat 1 greatestDepth.toNat
      "Ancestor walk must visit at least the direct base type")
  requireNames "persistence.context_types" rules.contextTypes
  requireNames "persistence.collection_types" rules.collectionTypes

end PersistenceRules

namespace Settings

def supportedVersion : UInt32 := 1

def check (settings : Settings) : Except SettingsError Unit := do
  requireThat (settings.version == supportedVersion)
    (.unsupportedVersion settings.version [supportedVersion])
  settings.vocabulary.check
  settings.lifting.check
  settings.naming.check
  settings.persistence.check

end Settings

structure ValidSettings where
  settings : Settings
  checked : settings.check = .ok ()

def Settings.validate (settings : Settings) : Except SettingsError ValidSettings :=
  match checked : settings.check with
  | .ok () => .ok ⟨settings, checked⟩
  | .error fault => .error fault

end EffectModel
