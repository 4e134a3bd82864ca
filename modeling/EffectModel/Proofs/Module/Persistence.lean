import EffectModel.Proofs.Module.Target
import Mathlib.Data.List.Perm.Subperm
import Mathlib.Data.Nat.Find
import Mathlib.Logic.Function.Iterate

namespace EffectModel

section Definitions

/-- The first base type of a declaration that is a class. -/
def Declaration.Derives (declaration : Declaration) (base : TypeUse) : Prop :=
  ∃ before after, declaration.baseTypes = before ++ base :: after ∧ base.kind = .classType ∧
    ∀ earlier ∈ before, earlier.kind ≠ .classType

/-- The ancestors of a declaration, the base class at 0, then that of the declaration which an ancestor
leads to. The last one may lead to none. -/
inductive Ancestor (snapshot : Snapshot) (declaration : Declaration) : Nat → TypeUse → Prop where
  | base {use : TypeUse} (derives : declaration.Derives use) : Ancestor snapshot declaration 0 use
  | further {distance : Nat} {use base : TypeUse} {next : Declaration}
      (ancestor : Ancestor snapshot declaration distance use) (leads : snapshot.LeadsTo use next)
      (derives : next.Derives base) : Ancestor snapshot declaration (distance + 1) base

namespace PersistenceRules

variable (rules : PersistenceRules) (snapshot : Snapshot)

/-- An ancestor at a distance has the name of a context. -/
def AncestorAt (declaration : Declaration) (distance : Nat) : Prop :=
  ∃ use, Ancestor snapshot declaration distance use ∧ use.name ∈ rules.contextTypes

/-- A declaration has the name of a context, or one of so many ancestors has. -/
def IsContextWithin (limit : Nat) (declaration : Declaration) : Prop :=
  declaration.name ∈ rules.contextTypes ∨
    ∃ distance < limit, rules.AncestorAt snapshot declaration distance

/-- A declaration has the name of a context, or any ancestor has. -/
def IsContextAnyhow (declaration : Declaration) : Prop :=
  declaration.name ∈ rules.contextTypes ∨ ∃ distance, rules.AncestorAt snapshot declaration distance

/-- A property that holds a collection of records. -/
structure Collects (property : Property) : Prop where
  readable : property.readable = true
  onInstance : property.isStatic = false
  collection : property.type.name ∈ rules.collectionTypes
  single : ∃ element, property.type.args = [element] ∧ element.kind ≠ .error
  arity : property.type.arity.toNat ≤ 1

end PersistenceRules

/-- A collection is that of a property. -/
structure RecordCollection.IsOf (property : Property) (collection : RecordCollection) : Prop where
  name : collection.property = property.name
  element : property.type.args = [collection.element]

end Definitions

namespace PersistenceRules

variable {rules : PersistenceRules} {snapshot : Snapshot} {declaration : Declaration}
variable {property : Property} {collection : RecordCollection} {distance limit : Nat}
variable {base use : TypeUse} {first : Option TypeUse}

section Ancestors

theorem derives_iff : declaration.Derives base ↔ declaration.baseClass = some base := by
  rw [Declaration.baseClass, List.find?_eq_some_iff_append]
  simp [Declaration.Derives, and_left_comm]

/-- The base class of what an ancestor leads to. -/
def baseAbove (snapshot : Snapshot) (ancestor : Option TypeUse) : Option TypeUse :=
  (ancestor.bind snapshot.resolve).bind Declaration.baseClass

theorem ancestor_iff : Ancestor snapshot declaration distance use ↔
    (baseAbove snapshot)^[distance] declaration.baseClass = some use := by
  induction distance generalizing use with
  | zero =>
    rw [Function.iterate_zero_apply, ← derives_iff]
    constructor
    · intro (.base derives)
      exact derives
    · exact .base
  | succ distance ih =>
    rw [Function.iterate_succ_apply', baseAbove, Option.bind_eq_some_iff]
    simp only [Option.bind_eq_some_iff, ← ih, Snapshot.resolve_eq_some_iff, ← derives_iff]
    constructor
    · intro (.further ancestor leads derives)
      exact ⟨_, ⟨_, ancestor, leads⟩, derives⟩
    · intro ⟨_, ⟨_, ancestor, leads⟩, derives⟩
      exact .further ancestor leads derives

theorem baseAbove_none : baseAbove snapshot none = none := rfl

theorem baseAbove_mem (some : baseAbove snapshot first ≠ none) :
    baseAbove snapshot first ∈ snapshot.declarations.map Declaration.baseClass := by
  obtain ⟨base, climbed⟩ := Option.ne_none_iff_exists'.mp some
  obtain ⟨next, found, derives⟩ := Option.bind_eq_some_iff.mp climbed
  obtain ⟨use, _, resolved⟩ := Option.bind_eq_some_iff.mp found
  rw [climbed]
  exact List.mem_map.mpr ⟨next, Snapshot.mem_of_resolve resolved, derives⟩

/-- A name of a context at some step of climbing. -/
def NamedAt (rules : PersistenceRules) (snapshot : Snapshot) (first : Option TypeUse)
    (distance : Nat) : Prop :=
  ∃ use, (baseAbove snapshot)^[distance] first = some use ∧ use.name ∈ rules.contextTypes

theorem namedAt_iff_ancestorAt : rules.NamedAt snapshot declaration.baseClass distance ↔
    rules.AncestorAt snapshot declaration distance := by
  simp only [NamedAt, AncestorAt, ancestor_iff]

theorem namedAt_succ : rules.NamedAt snapshot first (distance + 1) ↔
    rules.NamedAt snapshot (baseAbove snapshot first) distance := by
  rw [NamedAt, NamedAt, Function.iterate_succ_apply]

theorem not_namedAt_none : ¬ rules.NamedAt snapshot none distance := by
  intro ⟨use, climbed, _⟩
  rw [Function.iterate_fixed baseAbove_none] at climbed
  cases climbed

/-- Looking at a number of ancestors is climbing fewer steps than that. -/
theorem ancestorIsContext_iff : rules.ancestorIsContext snapshot limit first = true ↔
    ∃ distance < limit, rules.NamedAt snapshot first distance := by
  induction limit generalizing first with
  | zero => simp [ancestorIsContext]
  | succ limit ih =>
    cases first with
    | none => simp [ancestorIsContext, not_namedAt_none]
    | some ancestor =>
      have here : rules.NamedAt snapshot (some ancestor) 0 ↔ ancestor.name ∈ rules.contextTypes := by
        simp [NamedAt]
      rw [ancestorIsContext, Bool.or_eq_true, List.contains_iff_mem, Nat.exists_lt_succ_left, here]
      simp only [namedAt_succ]
      exact or_congr_right ih

theorem isContext_iff : rules.isContext snapshot declaration = true ↔
    rules.IsContextWithin snapshot rules.ancestorDepthLimit.toNat declaration := by
  rw [isContext, Bool.or_eq_true, List.contains_iff_mem, ancestorIsContext_iff]
  simp only [namedAt_iff_ancestorAt]
  rfl

end Ancestors

section Saturation

variable {near far : Nat}

theorem climb_ne_none (named : rules.NamedAt snapshot first distance) (within : far ≤ distance) :
    (baseAbove snapshot)^[far] first ≠ none := by
  intro none
  obtain ⟨use, climbed, _⟩ := named
  rw [← Nat.sub_add_cancel within, Function.iterate_add_apply, none,
    Function.iterate_fixed baseAbove_none] at climbed
  cases climbed

/-- Before the first ancestor with the name of a context, climbing comes by no type twice. -/
theorem climb_ne (named : rules.NamedAt snapshot first distance)
    (least : ∀ nearer < distance, ¬ rules.NamedAt snapshot first nearer)
    (before : near < far) (within : far ≤ distance) :
    (baseAbove snapshot)^[near] first ≠ (baseAbove snapshot)^[far] first := by
  intro same
  obtain ⟨use, climbed, context⟩ := named
  -- what follows the second time follows the first time too, and leads to the name earlier
  have ahead : (baseAbove snapshot)^[distance - far + near] first = some use := by
    rw [Function.iterate_add_apply, same, ← Function.iterate_add_apply, Nat.sub_add_cancel within,
      climbed]
  exact least _ (by omega) ⟨use, ahead, context⟩

/-- The first ancestor with the name of a context is no farther than there are declarations. -/
theorem le_length_of_least (named : rules.NamedAt snapshot first distance)
    (least : ∀ nearer < distance, ¬ rules.NamedAt snapshot first nearer) :
    distance ≤ snapshot.declarations.length := by
  let climbed := (List.range distance).map (fun step => (baseAbove snapshot)^[step + 1] first)
  have distinct : climbed.Nodup := by
    apply List.nodup_range.map_on
    intro near inside far inside' same
    rw [List.mem_range] at inside inside'
    by_contra apart
    rcases Nat.lt_or_gt_of_ne apart with before | before
    · exact climb_ne named least (Nat.succ_lt_succ before) inside' same
    · exact climb_ne named least (Nat.succ_lt_succ before) inside same.symm
  have held : climbed ⊆ snapshot.declarations.map Declaration.baseClass := by
    intro ancestor member
    obtain ⟨step, inside, rfl⟩ := List.mem_map.mp member
    have some : (baseAbove snapshot)^[step + 1] first ≠ none :=
      climb_ne_none named (List.mem_range.mp inside)
    rw [Function.iterate_succ_apply'] at some ⊢
    exact baseAbove_mem some
  have short : climbed.length ≤ (snapshot.declarations.map Declaration.baseClass).length :=
    (distinct.subperm held).length_le
  simpa [climbed] using short

open Classical in
/-- A limit above the number of declarations leaves no ancestor out that could count. -/
theorem isContextWithin_iff_anyhow (above : snapshot.declarations.length < limit) :
    rules.IsContextWithin snapshot limit declaration ↔
      rules.IsContextAnyhow snapshot declaration := by
  apply or_congr_right
  constructor
  · intro ⟨distance, _, named⟩
    exact ⟨distance, named⟩
  · intro far
    have named : rules.NamedAt snapshot declaration.baseClass (Nat.find far) :=
      namedAt_iff_ancestorAt.mpr (Nat.find_spec far)
    have least : ∀ nearer < Nat.find far, ¬ rules.NamedAt snapshot declaration.baseClass nearer :=
      fun nearer before named' => Nat.find_min far before (namedAt_iff_ancestorAt.mp named')
    have near : Nat.find far ≤ snapshot.declarations.length := le_length_of_least named least
    exact ⟨Nat.find far, by omega, Nat.find_spec far⟩

theorem IsContextWithin.mono {further : Nat}
    (context : rules.IsContextWithin snapshot limit declaration) (more : limit ≤ further) :
    rules.IsContextWithin snapshot further declaration := by
  rcases context with own | ⟨distance, inside, named⟩
  · exact .inl own
  · exact .inr ⟨distance, by omega, named⟩

end Saturation

section Collections

theorem collection?_of_single {element : TypeUse} (args : property.type.args = [element]) :
    rules.collection? property =
      if property.type.name ∈ rules.collectionTypes ∧ element.kind ≠ .error ∧
        property.type.arity.toNat ≤ 1 then some ⟨property.name, element⟩ else none := by
  have understood : property.type.hasUnresolvedArgs = false ↔
      property.type.arity.toNat ≤ 1 ∧ element.kind ≠ .error := by
    simp [TypeUse.hasUnresolvedArgs, args, TypeUse.isError]
  simp [collection?, args, understood, and_comm]

theorem collection?_of_not_single (other : ∀ element, property.type.args ≠ [element]) :
    rules.collection? property = none := by
  unfold collection?
  split
  · split
    next element args => exact absurd args (other element)
    next => rfl
  · rfl

theorem collection?_eq_some_iff : rules.collection? property = some collection ↔
    property.type.name ∈ rules.collectionTypes ∧ collection.IsOf property ∧
      collection.element.kind ≠ .error ∧ property.type.arity.toNat ≤ 1 := by
  by_cases single : ∃ element, property.type.args = [element]
  · obtain ⟨element, args⟩ := single
    rw [collection?_of_single args, Option.ite_none_right_eq_some, Option.some_inj]
    constructor
    · intro ⟨⟨named, understood, arity⟩, same⟩
      exact same ▸ ⟨named, ⟨rfl, args⟩, understood, arity⟩
    · intro ⟨named, ⟨name, args'⟩, understood, arity⟩
      obtain rfl : element = collection.element := List.head_eq_of_cons_eq (args.symm.trans args')
      exact ⟨⟨named, understood, arity⟩, name ▸ rfl⟩
  · rw [not_exists] at single
    rw [collection?_of_not_single single]
    constructor
    · nofun
    · intro ⟨_, isOf, _⟩
      exact absurd isOf.element (single _)

theorem collects_iff : rules.Collects property ↔
    (property.readable && !property.isStatic) = true ∧
      (rules.collection? property).isSome = true := by
  rw [Bool.and_eq_true, Bool.not_eq_true', Option.isSome_iff_exists]
  simp only [collection?_eq_some_iff]
  constructor
  · intro ⟨readable, onInstance, collection, ⟨element, args, understood⟩, arity⟩
    exact ⟨⟨readable, onInstance⟩, ⟨property.name, element⟩, collection, ⟨rfl, args⟩, understood, arity⟩
  · intro ⟨⟨readable, onInstance⟩, held, collection, ⟨_, args⟩, understood, arity⟩
    exact ⟨readable, onInstance, collection, ⟨held.element, args, understood⟩, arity⟩

instance : DecidablePred rules.Collects := fun _ => decidable_of_iff _ collects_iff.symm

theorem recordCollections_isOf (rules : PersistenceRules) (target : Declaration) :
    List.Forall₂ RecordCollection.IsOf
      (target.properties.filter (fun property => decide (rules.Collects property)))
      (rules.recordCollections target) := by
  rw [recordCollections, Declaration.readableProperties]
  induction target.properties with
  | nil => exact .nil
  | cons property rest ih =>
    by_cases collects : rules.Collects property
    · obtain ⟨visible, some⟩ := collects_iff.mp collects
      obtain ⟨collection, held⟩ := Option.isSome_iff_exists.mp some
      have isOf : collection.IsOf property := (collection?_eq_some_iff.mp held).2.1
      rw [List.filter_cons_of_pos (by simpa using collects), List.filter_cons, if_pos visible,
        List.filterMap_cons_some held]
      exact .cons isOf ih
    · rw [List.filter_cons_of_neg (by simpa using collects)]
      by_cases visible : (property.readable && !property.isStatic) = true
      · have none : rules.collection? property = none := by
          by_contra some
          exact collects (collects_iff.mpr ⟨visible, Option.isSome_iff_ne_none.mpr some⟩)
        rwa [List.filter_cons, if_pos visible, List.filterMap_cons_none none]
      · rwa [List.filter_cons, if_neg visible]

end Collections

end PersistenceRules

/-- What a module tells of its target as a persistence context. -/
structure EffectModule.TellsOfContext (rules : PersistenceRules) (snapshot : Snapshot)
    (target : Declaration) (built : EffectModule) : Prop where
  context : built.isPersistenceContext = true ↔
    rules.IsContextWithin snapshot rules.ancestorDepthLimit.toNat target
  nothing : built.isPersistenceContext = false → built.recordCollections = []
  collections : built.isPersistenceContext = true → List.Forall₂ RecordCollection.IsOf
    (target.properties.filter (fun property => decide (rules.Collects property)))
    built.recordCollections

namespace EffectModule

theorem tellsOfContext_of_build {settings : Settings} {snapshot : Snapshot}
    {container : Declaration} {note : Annotation} {built : EffectModule}
    (success : build settings snapshot container note = .ok built) :
    ∃ target ∈ snapshot.declarations, built.target = target.id ∧
      built.TellsOfContext settings.persistence snapshot target := by
  obtain ⟨target, effects, targeted, _, _, rfl⟩ := build_eq_ok_iff.mp success
  refine ⟨target, mem_of_targetOf targeted, rfl, PersistenceRules.isContext_iff, ?_, ?_⟩
  · intro other
    exact if_neg (Bool.eq_false_iff.mp other)
  · intro context
    have collected : (ofTarget settings snapshot container note target effects).recordCollections =
        settings.persistence.recordCollections target := if_pos context
    exact collected ▸ settings.persistence.recordCollections_isOf target

end EffectModule

/-- A declaration is a context by its own name or that of an ancestor within the limit. A higher limit
makes no context less, and one above the number of declarations makes a context of whatever has any
such ancestor. A module has the collections of a target that is a context, and of another one none. -/
theorem PersistenceRules.isContext_decides (rules : PersistenceRules) (snapshot : Snapshot)
    (declaration : Declaration) :
    (rules.isContext snapshot declaration = true ↔
      rules.IsContextWithin snapshot rules.ancestorDepthLimit.toNat declaration) ∧
    (∀ limit, rules.ancestorDepthLimit ≤ limit → rules.isContext snapshot declaration = true →
      { rules with ancestorDepthLimit := limit }.isContext snapshot declaration = true) ∧
    (snapshot.declarations.length < rules.ancestorDepthLimit.toNat →
      (rules.isContext snapshot declaration = true ↔
        rules.IsContextAnyhow snapshot declaration)) ∧
    ∀ settings container note built,
      EffectModule.build settings snapshot container note = .ok built →
      ∃ target ∈ snapshot.declarations, built.target = target.id ∧
        built.TellsOfContext settings.persistence snapshot target := by
  refine ⟨isContext_iff, fun limit more context => ?_, fun above => ?_, ?_⟩
  · rw [isContext_iff] at context ⊢
    exact context.mono (UInt64.le_iff_toNat_le.mp more)
  · rw [isContext_iff, isContextWithin_iff_anyhow above]
  · intro settings container note built success
    exact EffectModule.tellsOfContext_of_build success

namespace Sample

def purchase : TypeUse := .named "Order" .classType

def collecting (name : String) (element : TypeUse) : Property :=
  .holding name (.generic "DbSet" .classType [element])

/-- A class whose base class is not held. -/
def baseContext : Declaration :=
  { Declaration.ofId ⟨"App.BaseContext"⟩ with
    baseTypes := [.named "IDisposable" .interfaceType, .named "DbContext" .classType] }

def shopContext : Declaration :=
  { Declaration.ofId ⟨"App.ShopContext"⟩ with
    baseTypes := [baseContext.asTypeUse]
    properties := [.holding "Name" (.named "string" .classType),
      { collecting "Shared" purchase with isStatic := true }, collecting "Orders" purchase,
      collecting "Lost" (.named "Missing" .error)] }

/-- A class that is the base of its own base. -/
def hen : Declaration :=
  { Declaration.ofId ⟨"App.Hen"⟩ with baseTypes := [(Declaration.ofId ⟨"App.Egg"⟩).asTypeUse] }

def egg : Declaration := { Declaration.ofId ⟨"App.Egg"⟩ with baseTypes := [hen.asTypeUse] }

def shopping : Declaration :=
  { Declaration.ofId ⟨"App.Shopping"⟩ with annotations := [targeting shopContext] }

def shops : Snapshot where
  declarations := [baseContext, shopContext, hen, egg, shopping]
  distinct := by decide +kernel

end Sample

open EffectModule (build)
open PersistenceRules (isContext_decides)

theorem isContext_decides_shops :
    ({} : PersistenceRules).IsContextWithin Sample.shops 16 Sample.shopContext ∧
    ¬ { ancestorDepthLimit := 1 : PersistenceRules }.IsContextWithin Sample.shops 1
      Sample.shopContext ∧
    ¬ ({} : PersistenceRules).IsContextAnyhow Sample.shops Sample.hen ∧
    ∃ built, build {} Sample.shops Sample.shopping (Sample.targeting Sample.shopContext) = .ok built ∧
      built.recordCollections = [⟨"Orders", Sample.purchase⟩] := by
  obtain ⟨decides, _, _, tells⟩ := isContext_decides {} Sample.shops Sample.shopContext
  refine ⟨decides.mp (by decide +kernel), ?_, ?_, ?_⟩
  · have near := (isContext_decides { ancestorDepthLimit := 1 } Sample.shops Sample.shopContext).1
    exact near.not.mp (by decide +kernel)
  · have saturates := (isContext_decides {} Sample.shops Sample.hen).2.2.1
    exact (saturates (by decide)).not.mp (by decide +kernel)
  · have made : (build {} Sample.shops Sample.shopping (Sample.targeting Sample.shopContext)).map
        (fun built => (built.target, built.isPersistenceContext)) =
        .ok (Sample.shopContext.id, true) := by decide +kernel
    obtain ⟨built, success, given⟩ := map_eq_ok_iff.mp made
    rw [Prod.mk.injEq] at given
    obtain ⟨target, held, same, told⟩ := tells {} _ _ built success
    obtain rfl : target = Sample.shopContext :=
      Snapshot.eq_of_id_eq held (by simp [Sample.shops]) (same.symm.trans given.1)
    have collected := told.collections given.2
    have kept : Sample.shopContext.properties.filter
        (fun property => decide (({} : PersistenceRules).Collects property)) =
          [Sample.collecting "Orders" Sample.purchase] := by decide +kernel
    rw [kept, List.forall₂_cons_left_iff] at collected
    obtain ⟨orders, rest, isOf, others, listed⟩ := collected
    obtain rfl := List.forall₂_nil_left_iff.mp others
    have element : orders.element = Sample.purchase :=
      (List.head_eq_of_cons_eq isOf.element).symm
    have name : orders.property = "Orders" := isOf.name
    refine ⟨built, success, ?_⟩
    rw [listed, ← name, ← element]

end EffectModel
