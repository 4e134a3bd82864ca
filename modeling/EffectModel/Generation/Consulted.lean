import EffectModel.Generation.Run

/-! The identities that are looked up in the snapshot while a declaration is built, and a run that
stops once a given one has been looked up. What looks them up is stated without a snapshot, so that
nothing can be known of one but by asking. -/
namespace EffectModel

/-- Steps that ask for declarations by their identities and go on with the answers. -/
inductive Inquiry (α : Type) where
  | done (result : α)
  | ask (id : DeclId) (next : Option Declaration → Inquiry α)

namespace Inquiry

variable {α β : Type}

def bind (inquiry : Inquiry α) (further : α → Inquiry β) : Inquiry β :=
  match inquiry with
  | done result => further result
  | ask id next => ask id fun found => (next found).bind further

instance : Monad Inquiry where
  pure := done
  bind := bind

def answer (lookup : DeclId → Option Declaration) : Inquiry α → α
  | done result => result
  | ask id next => (next (lookup id)).answer lookup

/-- The identities that are asked for, in turn. -/
def asked (lookup : DeclId → Option Declaration) : Inquiry α → List DeclId
  | done _ => []
  | ask id next => id :: (next (lookup id)).asked lookup

end Inquiry

/-- An inquiry that a fault ends. -/
abbrev Search := ExceptT Fault Inquiry

/-- The qualified name is asked for only where the declaration that a use names is not there. -/
def TypeUse.seek (use : TypeUse) : Inquiry (Option Declaration) :=
  match use.declaration with
  | none => .ask ⟨use.qualifiedName⟩ .done
  | some id => .ask id fun found =>
      match found with
      | some declaration => .done (some declaration)
      | none => .ask ⟨use.qualifiedName⟩ .done

namespace PersistenceRules

def seekAncestor (rules : PersistenceRules) : Nat → Option TypeUse → Inquiry Bool
  | 0, _ => pure false
  | _, none => pure false
  | limit + 1, some ancestor =>
      if rules.contextTypes.contains ancestor.name then pure true
      else do seekAncestor rules limit ((← ancestor.seek).bind Declaration.baseClass)

/-- Asks for ancestors until one tells whether a declaration is a context. -/
def seekContext (rules : PersistenceRules) (target : Declaration) : Inquiry Bool :=
  if rules.contextTypes.contains target.name then pure true
  else rules.seekAncestor rules.ancestorDepthLimit.toNat target.baseClass

end PersistenceRules

variable (settings : Settings)

namespace EffectModule

def seekTarget (container : Declaration) (note : Annotation) : Search Declaration := do
  let reference ← orFault (note.usableReference settings.vocabulary.targetKey)
    (Cause.noTarget.blame container.id)
  let found ← ExceptT.lift reference.seek
  orFault (found.filter (fun found => found.kind ≠ .enumDecl))
    ((Cause.unknownTarget reference.display).blame container.id)

/-- The ancestors of a target are asked for last, and only when nothing has failed before. -/
def seek (container : Declaration) (note : Annotation) : Search EffectModule := do
  let target ← seekTarget settings container note
  if (propertyName settings target).isEmpty then
    throw ((Cause.namelessTarget target.id).blame container.id)
  else
    let filter := MethodFilter.ofAnnotation note
      settings.vocabulary.includeKey settings.vocabulary.excludeKey
    let effects ← effectsOf settings container.id target filter
    let isContext ← ExceptT.lift (settings.persistence.seekContext target)
    return describe settings container note target effects isContext

def seekAll (container : Declaration) : Search (List EffectModule) :=
  (container.annotationsOf settings.vocabulary.moduleKind).mapM (seek settings container)

end EffectModule

namespace Walk

def seekReferenced (owner : Declaration) (note : Annotation) : Search Declaration := do
  let reference ← orFault (note.usableReference settings.vocabulary.targetKey)
    (Cause.noReference.blame owner.id)
  let found ← ExceptT.lift reference.seek
  orFault found ((Cause.unknownReference reference.display).blame owner.id)

def seekAlong (visit : Walk → Declaration → Search Walk) (owner : Declaration) (walk : Walk) :
    Search Walk :=
  (references settings owner).foldlM (fun walk note => do
    visit walk (← seekReferenced settings owner note)) walk

def seekOpen (walk : Walk) (declaration : Declaration) : Search Walk := do
  let modules ← EffectModule.seekAll settings declaration
  let opened : Except Fault Walk :=
    (modules.map Capability.ofModule).foldlM absorb (walk.enter declaration.id)
  opened

def seekVisit : Nat → Walk → Declaration → Search Walk
  | 0, walk, declaration => throw ((Cause.cycle (walk.cyclePath declaration.id)).blame walk.root)
  | fuel + 1, walk, declaration =>
      if declaration.id ∈ walk.expanded then return walk
      else if declaration.id ∈ walk.stack then
        throw ((Cause.cycle (walk.cyclePath declaration.id)).blame walk.root)
      else if !contributes settings declaration then
        throw ((Cause.emptyReference declaration.id).blame walk.root)
      else do
        let opened ← seekOpen settings walk declaration
        let walked ← seekAlong settings (seekVisit fuel) declaration opened
        return walked.leave declaration.id

def seekFrom (depth : Nat) (root : Declaration) : Search Walk :=
  seekAlong settings (seekVisit settings depth) root (start root.id)

end Walk

def TestRuntime.seekProduction (testRoot : Declaration) : Search DeclId := do
  let single ← testRoot.singleAnnotation settings.vocabulary.testRuntimeKind
  let note ← orFault single (Cause.noProduction.blame testRoot.id)
  let reference ← orFault (note.usableReference settings.vocabulary.targetKey)
    (Cause.noProduction.blame testRoot.id)
  let found ← ExceptT.lift reference.seek
  let production ← orFault found
    ((Cause.unknownProduction reference.display).blame testRoot.id)
  return production.id

namespace Generation

variable (snapshot : Snapshot)

def consulted (stage : Stage) (declaration : Declaration) : List DeclId :=
  match stage with
  | .moduleStage => (EffectModule.seekAll settings declaration).run.asked snapshot.lookup
  | .runtimeStage =>
      (Walk.seekFrom settings (snapshot.declarations.length + 1) declaration).run.asked
        snapshot.lookup
  | .testRuntimeStage =>
      (TestRuntime.seekProduction settings declaration).run.asked snapshot.lookup

/-- For each checkpoint of a run, the identities that are looked up between it and the next. -/
def consultedInTurn : List (List DeclId) :=
  Stage.all.flatMap (fun stage =>
    (marked settings snapshot stage).map (consulted settings snapshot stage))

/-- Whether an identity comes up before a checkpoint. -/
def consultedBefore (turns : List (List DeclId)) (id : DeclId) (checkpoint : Nat) : Bool :=
  (turns.take checkpoint).any (·.contains id)

/-- A run that is stopped by the first look-up of an identity, and whether there was one. -/
def runUntilConsulted (id : DeclId) : Option Output × Bool :=
  let turns := consultedInTurn settings snapshot
  (runUnless settings snapshot (consultedBefore turns id), consultedBefore turns id turns.length)

end Generation

end EffectModel
