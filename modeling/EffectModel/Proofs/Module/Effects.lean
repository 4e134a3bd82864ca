import EffectModel.Proofs.Module.Renaming
import EffectModel.Proofs.Module.Target

namespace EffectModel

section Definitions

/-- A name that an effect may have: the name of its method, or what stands before the ending of an
awaited one where endings are taken off. -/
inductive Effect.MayBeNamed (rules : NamingRules) (isAsync : Bool) (method : String) : String → Prop
    where
  | whole : MayBeNamed rules isAsync method method
  | stripped {stem : String} (async : isAsync = true) (strips : rules.stripAsyncSuffix = true)
      (ending : method = stem ++ "Async") (some : stem ≠ "") : MayBeNamed rules isAsync method stem

/-- A parameter of an effect is that of its method, with its type also in writing. -/
structure EffectParameter.Shows (parameter : Parameter) (shown : EffectParameter) : Prop where
  name : shown.name = parameter.name
  written : shown.written = parameter.type.display
  type : shown.type = parameter.type
  default : shown.default = parameter.default

/-- An effect is of a method: it is classified as the result of the method is, and its own result is
what is produced, but optional where a method that is not awaited may give nothing. -/
structure Effect.IsOf (settings : Settings) (owner : DeclId) (method : Method) (effect : Effect) :
    Prop where
  source : effect.source = method.name
  named : MayBeNamed settings.naming effect.strategy.isAsync method.name effect.name
  lifted : settings.lifting.classify owner method.returnType = .ok ⟨effect.strategy, effect.produced⟩
  parameters : List.Forall₂ EffectParameter.Shows method.parameters effect.parameters
  produced : effect.producedText = effect.produced.display settings.lifting
  result : effect.resultText = if effect.strategy = .syncNullable
    then settings.lifting.optionType ++ "<" ++ effect.producedText ++ ">" else effect.producedText

end Definitions

theorem LiftingRules.Lifts.display_effectResult {rules : LiftingRules} {declared : TypeUse}
    {classification : Classification} (lifts : rules.Lifts declared classification) :
    classification.effectResult.display rules = if classification.strategy = .syncNullable
      then rules.optionType ++ "<" ++ classification.produced.display rules ++ ">"
      else classification.produced.display rules := by
  cases lifts with
  | syncNullable => exact TypeUse.display_generic_singleton
  | _ => rfl

namespace Effect

variable {settings : Settings} {owner : DeclId} {method : Method} {before after : Effect}

theorem mayBeNamed_initialName (rules : NamingRules) (method : String) (isAsync : Bool) :
    MayBeNamed rules isAsync method (initialName rules method isAsync) := by
  unfold initialName
  split
  · next stripping =>
    obtain ⟨async, strips⟩ := Bool.and_eq_true_iff.mp stripping
    rcases Naming.withoutSuffix_cases method asyncEnding with same | ⟨some, ending⟩
    · rw [same]
      exact .whole
    · exact .stripped async strips ending some
  · exact .whole

theorem isOf_of_effectOf (made : EffectModule.effectOf settings owner method = .ok before) :
    before.IsOf settings owner method := by
  obtain ⟨classification, classified, same⟩ := bind_eq_ok_iff.mp made
  have classified := orFault_eq_ok_iff.mp classified
  cases same
  exact {
    source := rfl
    named := mayBeNamed_initialName ..
    lifted := orFault_eq_ok_iff.mpr classified
    parameters := by
      rw [List.forall₂_map_right_iff, List.forall₂_same]
      exact fun parameter _ => ⟨rfl, rfl, rfl, rfl⟩
    produced := rfl
    result := (LiftingRules.lifts_of_classify? classified).display_effectResult }

theorem IsOf.of_reverts (isOf : before.IsOf settings owner method) (reverts : Reverts before after) :
    after.IsOf settings owner method := by
  rcases reverts with rfl | rfl
  · exact isOf
  · exact { isOf with named := isOf.source ▸ .whole }

end Effect

namespace EffectModule

variable {settings : Settings} {snapshot : Snapshot} {container target : Declaration}
variable {note : Annotation} {built : EffectModule} {owner : DeclId} {effects : List Effect}

theorem isOf_of_effectsOf
    (success : effectsOf settings owner target (MethodFilter.ofAnnotation note
      settings.vocabulary.includeKey settings.vocabulary.excludeKey) = .ok effects) :
    List.Forall₂ (Effect.IsOf settings owner)
      (target.methods.filter (fun method => decide (Offered settings note method))) effects := by
  obtain ⟨initial, lifted, same⟩ := bind_eq_ok_iff.mp success
  obtain ⟨becomes, reverts, restored⟩ := Effect.restoreCollisions_eq_map initial
  rw [keptMethods_eq, mapM_eq_ok_iff] at lifted
  -- undoing collisions takes no effect away and changes nothing of one but its name
  rw [← Except.ok.inj same, restored initial (.refl _), List.forall₂_map_right_iff]
  exact lifted.imp fun method effect made => (Effect.isOf_of_effectOf made).of_reverts (reverts effect)

/-- The effects of a module are, one by one and in their order, of the methods that are offered. -/
theorem effects_of_build (success : build settings snapshot container note = .ok built) :
    ∃ target, Targets settings snapshot note target ∧ built.target = target.id ∧
      List.Forall₂ (Effect.IsOf settings container.id)
        (target.methods.filter (fun method => decide (Offered settings note method)))
        built.effects := by
  obtain ⟨target, effects, targeted, named, lifted, rfl⟩ := build_eq_ok_iff.mp success
  exact ⟨target, targets_iff.mpr ⟨targeted, named⟩, rfl, isOf_of_effectsOf lifted⟩

end EffectModule

namespace Sample

/-- An awaited method with a parameter that may be left out. -/
def posting : Method :=
  { Method.returning "PostAsync" (.generic "Task" .classType [.named "int" .structType]) with
    parameters := [⟨"amount", .named "decimal" .structType, some "0"⟩] }

/-- A method that is not awaited and may give nothing. -/
def finding : Method := .returning "Find" { TypeUse.named "Entry" .classType with nullable := true }

def ledger : Declaration :=
  { Declaration.ofId ⟨"App.ILedger"⟩ with
    kind := .interfaceDecl
    methods := [posting, { Method.returning "Open" .void with isStatic := true }, finding,
      { Method.returning "Seal" .void with access := .isPrivate }, .returning "Purge" .void] }

/-- An annotation that excludes one method; a list with anything but texts in it includes none. -/
def bookkeeping : Annotation :=
  { targeting ledger with
    named := [⟨"include", .list [.text "Find", .bool true]⟩, ⟨"exclude", .text "Purge"⟩] }

def bookkeeper : Declaration :=
  { Declaration.ofId ⟨"App.Bookkeeper"⟩ with annotations := [bookkeeping] }

def booked : Snapshot where
  declarations := [ledger, bookkeeper]
  distinct := by decide +kernel

end Sample

open EffectModule (build effects_of_build)

theorem effects_of_build_ledger :
    ∃ built, build {} Sample.booked Sample.bookkeeper Sample.bookkeeping = .ok built ∧
      ∃ post find, built.effects = [post, find] ∧
        post.IsOf {} Sample.bookkeeper.id Sample.posting ∧ post.name = "Post" ∧
        find.IsOf {} Sample.bookkeeper.id Sample.finding ∧ find.resultText = "Option<Entry>" := by
  have made : (build {} Sample.booked Sample.bookkeeper Sample.bookkeeping).map
      (fun built => (built.target, built.effects.map Effect.name,
        built.effects.map Effect.resultText)) =
      .ok (Sample.ledger.id, ["Post", "Find"], ["int", "Option<Entry>"]) := by decide +kernel
  obtain ⟨built, success, given⟩ := map_eq_ok_iff.mp made
  rw [Prod.mk.injEq, Prod.mk.injEq] at given
  obtain ⟨same', names, results⟩ := given
  obtain ⟨target, ⟨⟨use, _, leads⟩, _, _⟩, same, isOf⟩ := effects_of_build success
  obtain rfl : target = Sample.ledger :=
    Snapshot.eq_of_id_eq leads.mem (by decide +kernel) (same.symm.trans same')
  have offered : Sample.ledger.methods.filter
      (fun method => decide (EffectModule.Offered {} Sample.bookkeeping method)) =
        [Sample.posting, Sample.finding] := by decide +kernel
  rw [offered] at isOf
  obtain ⟨post, later, posted, further, listed⟩ := List.forall₂_cons_left_iff.mp isOf
  obtain ⟨find, none, found, nothing, rfl⟩ := List.forall₂_cons_left_iff.mp further
  obtain rfl := List.forall₂_nil_left_iff.mp nothing
  rw [listed] at names results
  exact ⟨built, success, post, find, listed, posted, List.head_eq_of_cons_eq names, found,
    List.head_eq_of_cons_eq (List.tail_eq_of_cons_eq results)⟩

end EffectModel
