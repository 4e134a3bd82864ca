import EffectModel.Module.Naming
import EffectModel.Snapshot

namespace EffectModel

structure MethodFilter where
  included : List String := []
  excluded : List String := []
  deriving DecidableEq, Repr

namespace MethodFilter

def isIncludeOnly (filter : MethodFilter) : Bool := !filter.included.isEmpty

def keeps (filter : MethodFilter) (name : String) : Bool :=
  if filter.isIncludeOnly then filter.included.contains name else !filter.excluded.contains name

def namesUnder (note : Annotation) (key : String) : List String :=
  ((note.namedValue key).bind (AnnotationValue.listOf? AnnotationValue.text?)).getD []

def ofAnnotation (note : Annotation) (includeKey excludeKey : String) : MethodFilter :=
  ⟨namesUnder note includeKey, namesUnder note excludeKey⟩

end MethodFilter

namespace PersistenceRules

/-- Whether an ancestor is a context type, looking at a number of them. An ancestor counts by its
name even when its declaration is unknown. -/
def ancestorIsContext (rules : PersistenceRules) (snapshot : Snapshot) : Nat → Option TypeUse → Bool
  | 0, _ => false
  | _, none => false
  | limit + 1, some ancestor =>
      rules.contextTypes.contains ancestor.name ||
        ancestorIsContext rules snapshot limit
          ((snapshot.resolve ancestor).bind Declaration.baseClass)

def isContext (rules : PersistenceRules) (snapshot : Snapshot) (target : Declaration) : Bool :=
  rules.contextTypes.contains target.name ||
    rules.ancestorIsContext snapshot rules.ancestorDepthLimit.toNat target.baseClass

/-- The collection a property holds: a collection type with one argument that is understood. -/
def collection? (rules : PersistenceRules) (property : Property) : Option RecordCollection :=
  if rules.collectionTypes.contains property.type.name && !property.type.hasUnresolvedArgs then
    match property.type.args with
    | [element] => some ⟨property.name, element⟩
    | _ => none
  else none

def recordCollections (rules : PersistenceRules) (target : Declaration) : List RecordCollection :=
  target.readableProperties.filterMap rules.collection?

end PersistenceRules

namespace EffectModule

variable (settings : Settings) (snapshot : Snapshot)

def isMarked (declaration : Declaration) : Bool :=
  declaration.hasAnnotation settings.vocabulary.moduleKind

/-- The declaration that a module annotation makes effects of. An enumeration has none to offer. -/
def targetOf (container : Declaration) (note : Annotation) : Except Fault Declaration := do
  let reference ← orFault (note.usableReference settings.vocabulary.targetKey)
    (Cause.noTarget.blame container.id)
  orFault ((snapshot.resolve reference).filter (fun found => found.kind ≠ .enumDecl))
    ((Cause.unknownTarget reference.display).blame container.id)

def propertyName (target : Declaration) : String :=
  Text.trim
    (Naming.withoutInterfacePrefix target.name target.isInterface settings.naming.interfacePrefix)

def identifiersOf (property : String) : Identifiers where
  interface := Naming.capabilityInterface settings.naming.capabilityPrefix property
  property
  parameter := Naming.camelCase property

def effectOf (container : DeclId) (method : Method) : Except Fault Effect := do
  let classification ← settings.lifting.classifyMethod container method
  .ok
    { name := Effect.initialName settings.naming method.name classification.strategy.isAsync
      source := method.name
      strategy := classification.strategy
      produced := classification.produced
      producedText := classification.produced.display settings.lifting
      resultText := classification.effectResult.display settings.lifting
      parameters := method.parameters.map (fun parameter =>
        ⟨parameter.name, parameter.type.display, parameter.type, parameter.default⟩) }

def keptMethods (target : Declaration) (filter : MethodFilter) : List Method :=
  target.instanceMethods.filter (fun method =>
    method.access == .isPublic && filter.keeps method.name)

def effectsOf (container : DeclId) (target : Declaration) (filter : MethodFilter) :
    Except Fault (List Effect) := do
  let initial ← (keptMethods target filter).mapM (effectOf settings container)
  .ok (Effect.restoreCollisions initial)

def givenName (note : Annotation) : Option String :=
  ((note.namedValue settings.vocabulary.nameKey).bind AnnotationValue.text?).filter
    (fun name => !Text.allBlank name)

/-- The module that an annotation of a container makes of its target, once it is known whether that
is a persistence context. -/
def describe (container : Declaration) (note : Annotation) (target : Declaration)
    (effects : List Effect) (isContext : Bool) : EffectModule :=
  { name := (givenName settings note).getD (propertyName settings target)
    container := container.id
    containerName := container.name
    containerScope := container.scope
    containerAccess := container.access
    targetType := target.asTypeUse
    target := target.id
    identifiers := identifiersOf settings (propertyName settings target)
    effects
    instrumented := ((note.namedValue settings.vocabulary.instrumentedKey).bind
      AnnotationValue.bool?).getD true
    isPersistenceContext := isContext
    recordCollections := if isContext then settings.persistence.recordCollections target else [] }

def ofTarget (container : Declaration) (note : Annotation) (target : Declaration)
    (effects : List Effect) : EffectModule :=
  describe settings container note target effects
    (settings.persistence.isContext snapshot target)

/-- The module that an annotation of a container describes, provided its target has a name to
derive identifiers from and all methods that become effects can be lifted. -/
def build (container : Declaration) (note : Annotation) : Except Fault EffectModule := do
  let target ← targetOf settings snapshot container note
  if (propertyName settings target).isEmpty then
    .error ((Cause.namelessTarget target.id).blame container.id)
  else
    let filter := MethodFilter.ofAnnotation note
      settings.vocabulary.includeKey settings.vocabulary.excludeKey
    let effects ← effectsOf settings container.id target filter
    .ok (ofTarget settings snapshot container note target effects)

/-- All modules of a declaration in the order of their annotations, or the first fault. -/
def buildAll (container : Declaration) : Except Fault (List EffectModule) :=
  (container.annotationsOf settings.vocabulary.moduleKind).mapM (build settings snapshot container)

end EffectModule

end EffectModel
