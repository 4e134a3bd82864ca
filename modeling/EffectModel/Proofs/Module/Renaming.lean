import EffectModel.Proofs.Module.Build
import Mathlib.Data.List.Forall2
import Mathlib.Data.List.Pairwise

namespace EffectModel

namespace Effect

/-- Effects at two places share a name only where both go by the names of their methods. -/
def Apart (effects : List Effect) : Prop :=
  effects.Pairwise fun first second => first.name = second.name →
    first.name = first.source ∧ second.name = second.source

/-- What one pass over effects makes of one of them. -/
def passed (effects : List Effect) (effect : Effect) : Effect :=
  if collides effects effect then effect.restored else effect

/-- Passes over effects until one of them finds nothing to restore; it counts with the others. -/
inductive Settles : Nat → List Effect → List Effect → Prop where
  | still {effects : List Effect} (calm : effects.any (collides effects) = false) :
      Settles 1 effects effects
  | again {passes : Nat} {effects result : List Effect}
      (clash : effects.any (collides effects) = true)
      (later : Settles passes (restorePass effects) result) : Settles (passes + 1) effects result

/-- What passes may make of an effect: itself, or the same under the name of its method. -/
def Reverts (before after : Effect) : Prop := after = before ∨ after = before.restored

variable {effects others result : List Effect} {effect middle before after : Effect}
variable {passes bound i : Nat}

theorem restorePass_eq : restorePass effects = effects.map (passed effects) := rfl

theorem isRenamed_eq_true_iff : effect.isRenamed = true ↔ effect.name ≠ effect.source := by
  simp [isRenamed]

theorem isRenamed_restored : effect.restored.isRenamed = false := by simp [isRenamed, restored]

theorem Reverts.trans (earlier : Reverts before middle) (later : Reverts middle after) :
    Reverts before after := by
  rcases earlier with rfl | rfl
  · exact later
  · exact .inr (later.elim id id)

theorem Reverts.eq_of_name (reverts : Reverts before after) (same : after.name = before.name) :
    after = before := by
  rcases reverts with rfl | rfl
  · rfl
  · obtain ⟨name, source⟩ := before
    obtain rfl : source = name := same
    rfl

theorem Reverts.name_eq_source (reverts : Reverts before after)
    (changed : after.name ≠ before.name) : after.name = before.source := by
  rcases reverts with rfl | rfl
  · exact (changed rfl).elim
  · rfl

theorem reverts_passed : Reverts effect (passed effects effect) := by
  unfold passed
  split
  · exact .inr rfl
  · exact .inl rfl

/-- Beside an item that counts there is a second one where there is one at another place. -/
private theorem one_lt_countP_iff {α : Type} (counts : α → Bool) {items : List α} {item : α}
    (placed : items[i]? = some item) (held : counts item = true) :
    1 < items.countP counts ↔ ∃ j other, j ≠ i ∧ items[j]? = some other ∧ counts other = true := by
  induction items generalizing i with
  | nil => simp at placed
  | cons head rest ih =>
    cases i with
    | zero =>
      obtain rfl : head = item := by simpa using placed
      rw [List.countP_cons_of_pos held, Nat.lt_add_left_iff_pos, List.countP_pos_iff]
      constructor
      · rintro ⟨other, member, held'⟩
        obtain ⟨j, placed'⟩ := List.mem_iff_getElem?.mp member
        exact ⟨j + 1, other, by simp, placed', held'⟩
      · rintro ⟨j | j, other, apart, placed', held'⟩
        · exact (apart rfl).elim
        · exact ⟨other, List.mem_of_getElem? placed', held'⟩
    | succ i =>
      have placed : rest[i]? = some item := placed
      by_cases held' : counts head = true
      · rw [List.countP_cons_of_pos held', Nat.lt_add_left_iff_pos, List.countP_pos_iff]
        exact ⟨fun _ => ⟨0, head, by simp, rfl, held'⟩,
          fun _ => ⟨item, List.mem_of_getElem? placed, held⟩⟩
      · rw [List.countP_cons_of_neg held', ih placed]
        constructor
        · rintro ⟨j, other, apart, placed', counted⟩
          exact ⟨j + 1, other, by omega, placed', counted⟩
        · rintro ⟨j | j, other, apart, placed', counted⟩
          · obtain rfl : head = other := by simpa using placed'
            exact (held' counted).elim
          · exact ⟨j, other, by omega, placed', counted⟩

/-- A renamed effect collides with an effect of its name at another place. -/
theorem collides_iff (placed : effects[i]? = some effect) : collides effects effect = true ↔
    effect.name ≠ effect.source ∧
      ∃ j other, j ≠ i ∧ effects[j]? = some other ∧ other.name = effect.name := by
  simp only [collides, Bool.and_eq_true, decide_eq_true_eq, isRenamed_eq_true_iff,
    and_congr_right_iff]
  intro _
  simpa using one_lt_countP_iff (fun other => other.name == effect.name) placed (by simp)

theorem apart_of_calm (calm : effects.any (collides effects) = false) : Apart effects := by
  have own : ∀ {i j : Nat} (within : i < effects.length) (within' : j < effects.length), i ≠ j →
      effects[i].name = effects[j].name → effects[i].name = effects[i].source := by
    intro i j within within' apart same
    by_contra renamed
    have free := List.any_eq_false.mp calm effects[i] (List.getElem_mem within)
    exact free ((collides_iff (List.getElem?_eq_getElem within)).mpr
      ⟨renamed, j, effects[j], apart.symm, List.getElem?_eq_getElem within', same.symm⟩)
  rw [Apart, List.pairwise_iff_getElem]
  intro i j within within' order same
  exact ⟨own within within' (by omega) same, own within' within (by omega) same.symm⟩

/-- What a pass leaves renamed, and what it finds to restore, was renamed before. -/
theorem countP_passed (effects part : List Effect) :
    (part.map (passed effects)).countP isRenamed + part.countP (collides effects) =
      part.countP isRenamed := by
  induction part with
  | nil => rfl
  | cons effect rest ih =>
    cases hit : collides effects effect with
    | true =>
      have renamed : effect.isRenamed = true := (Bool.and_eq_true_iff.mp hit).1
      simp [passed, hit, renamed, isRenamed_restored, ← ih, Nat.add_assoc]
    | false =>
      simp [passed, List.countP_cons, hit, ← ih]
      omega

/-- A pass that finds a collision leaves fewer effects renamed. -/
theorem countP_restorePass_lt (clash : effects.any (collides effects) = true) :
    (restorePass effects).countP isRenamed < effects.countP isRenamed := by
  have hit : 0 < effects.countP (collides effects) :=
    List.countP_pos_iff.mpr (List.any_eq_true.mp clash)
  have counted := countP_passed effects effects
  rw [restorePass_eq]
  omega

/-- Passes up to a bound settle where no more effects than that are renamed. -/
theorem restoreWithin_settles (enough : effects.countP isRenamed ≤ bound) :
    ∃ passes ≤ effects.countP isRenamed + 1, Settles passes effects (restoreWithin bound effects) := by
  induction bound generalizing effects with
  | zero =>
    refine ⟨1, by omega, .still (List.any_eq_false.mpr fun effect member => ?_)⟩
    have own := List.countP_eq_zero.mp (Nat.le_zero.mp enough) effect member
    simp [collides, own]
  | succ bound ih =>
    rw [restoreWithin]
    cases clash : effects.any (collides effects) with
    | false => exact ⟨1, by omega, .still clash⟩
    | true =>
      have fewer := countP_restorePass_lt clash
      have enough' : (restorePass effects).countP isRenamed ≤ bound := by omega
      obtain ⟨passes, few, settles⟩ := ih enough'
      exact ⟨passes + 1, by omega, .again clash settles⟩

theorem exists_settles (effects : List Effect) :
    ∃ passes ≤ effects.countP isRenamed + 1, Settles passes effects (restoreCollisions effects) :=
  restoreWithin_settles le_rfl

namespace Settles

theorem calm (settles : Settles passes effects result) : result.any (collides result) = false := by
  induction settles with
  | still calm => exact calm
  | again _ _ ih => exact ih

theorem unique {more : Nat} {other : List Effect} (settles : Settles passes effects result)
    (settles' : Settles more effects other) : result = other := by
  induction settles generalizing more with
  | still calm =>
    cases settles' with
    | still => rfl
    | again clash => simp [calm] at clash
  | again clash _ ih =>
    cases settles' with
    | still calm => simp [clash] at calm
    | again _ later => exact ih later

theorem eq (settles : Settles passes effects result) : restoreCollisions effects = result := by
  obtain ⟨_, _, settles'⟩ := exists_settles effects
  exact settles'.unique settles

/-- Passes do the same to an effect in whatever order it stands among the others. -/
theorem exists_becomes (settles : Settles passes effects result) :
    ∃ becomes : Effect → Effect, (∀ effect, Reverts effect (becomes effect)) ∧
      ∀ order : List Effect, order.Perm effects → Settles passes order (order.map becomes) := by
  induction settles with
  | @still effects calm =>
    refine ⟨id, fun effect => .inl rfl, fun order perm => ?_⟩
    have same : collides order = collides effects :=
      funext fun effect => by rw [collides, collides, perm.countP_eq]
    rw [List.map_id]
    exact .still (by rw [same, perm.any_eq, calm])
  | @again passes effects result clash later ih =>
    obtain ⟨becomes, reverts, settles⟩ := ih
    refine ⟨becomes ∘ passed effects, fun effect => reverts_passed.trans (reverts _),
      fun order perm => ?_⟩
    have same : collides order = collides effects :=
      funext fun effect => by rw [collides, collides, perm.countP_eq]
    have pass : restorePass order = order.map (passed effects) := by
      rw [restorePass_eq]
      unfold passed
      rw [same]
    rw [← List.map_map]
    refine .again (by rw [same, perm.any_eq, clash]) ?_
    rw [pass]
    exact settles _ (perm.map _)

end Settles

/-- Every effect becomes itself or goes back to its method's name, in whatever order they stand. -/
theorem restoreCollisions_eq_map (effects : List Effect) :
    ∃ becomes : Effect → Effect, (∀ effect, Reverts effect (becomes effect)) ∧
      ∀ order : List Effect, order.Perm effects → restoreCollisions order = order.map becomes := by
  obtain ⟨_, _, settles⟩ := exists_settles effects
  obtain ⟨becomes, reverts, settles⟩ := settles.exists_becomes
  exact ⟨becomes, reverts, fun order perm => (settles order perm).eq⟩

theorem apart_restoreCollisions (effects : List Effect) : Apart (restoreCollisions effects) := by
  obtain ⟨_, _, settles⟩ := exists_settles effects
  exact apart_of_calm settles.calm

theorem Apart.source_eq (apart : Apart effects) (member : before ∈ effects)
    (member' : after ∈ effects) (same : before.name = after.name) : before.source = after.source := by
  have : Std.Symm fun first second : Effect => first.name = second.name →
      first.source = second.source := ⟨fun _ _ shared same => (shared same.symm).symm⟩
  have shared : effects.Pairwise fun first second => first.name = second.name →
      first.source = second.source := by
    refine apart.imp fun own same => ?_
    obtain ⟨own, own'⟩ := own same
    rw [← own, ← own', same]
  exact shared.forall_of_forall (fun _ _ _ => rfl) member member' same

theorem Apart.nodup_names (apart : Apart effects) (distinct : (effects.map source).Nodup) :
    (effects.map name).Nodup := by
  rw [List.Nodup, List.pairwise_map] at distinct ⊢
  refine apart.imp₂ (fun first second own differ same => ?_) distinct
  obtain ⟨own, own'⟩ := own same
  exact differ (by rw [← own, ← own', same])

end Effect

namespace EffectModule

open Effect

variable {settings : Settings} {snapshot : Snapshot} {container : Declaration}
variable {note : Annotation} {built : EffectModule}

theorem apart_of_build (success : build settings snapshot container note = .ok built) :
    Apart built.effects := by
  obtain ⟨target, effects, _, _, lifted, rfl⟩ := build_eq_ok_iff.mp success
  obtain ⟨initial, _, same⟩ := bind_eq_ok_iff.mp lifted
  cases same
  exact apart_restoreCollisions initial

/-- Undoing collisions comes to an end and takes nothing from an effect but a name that is not its
method's; after it, and so in every module, a name that two effects share is that of their methods. -/
theorem restoreCollisions_settles :
    (∀ effects, ∃ passes ≤ effects.countP isRenamed + 1,
      Settles passes effects (restoreCollisions effects) ∧
      List.Forall₂ Reverts effects (restoreCollisions effects) ∧
      Apart (restoreCollisions effects)) ∧
    ∀ settings snapshot container note built, build settings snapshot container note = .ok built →
      (∀ first ∈ built.effects, ∀ second ∈ built.effects, first.name = second.name →
        first.source = second.source) ∧
      (built.sources.Nodup → (built.effects.map Effect.name).Nodup ∧
        ∀ effect ∈ built.effects, built.effect? effect.name = some effect) := by
  refine ⟨fun effects => ?_, fun settings snapshot container note built success => ?_⟩
  · obtain ⟨passes, few, settles⟩ := exists_settles effects
    obtain ⟨becomes, reverts, same⟩ := restoreCollisions_eq_map effects
    refine ⟨passes, few, settles, ?_, apart_restoreCollisions effects⟩
    rw [same effects (.refl _), List.forall₂_map_right_iff, List.forall₂_same]
    exact fun effect _ => reverts effect
  · have apart : Apart built.effects := apart_of_build success
    refine ⟨fun first member second member' => apart.source_eq member member', fun distinct => ?_⟩
    have names : (built.effects.map Effect.name).Nodup := apart.nodup_names distinct
    exact ⟨names, fun effect member => (find?_eq_some_iff_of_nodup names).mpr ⟨member, rfl⟩⟩

end EffectModule

namespace Sample

/-- A method that is awaited, and gives nothing back. -/
def awaited (name : String) : Method := .returning name (.named "Task" .classType)

/-- A target on which one restored name takes that of the next awaited method. -/
def jobs : Declaration :=
  { Declaration.ofId ⟨"App.IJobs"⟩ with
    kind := .interfaceDecl
    methods := [.returning "Run" .void, awaited "RunAsync", awaited "RunAsyncAsync",
      awaited "StopAsync"] }

def scheduler : Declaration :=
  { Declaration.ofId ⟨"App.Scheduler"⟩ with
    annotations := [{ Annotation.bare "EffectsModule" with typeArgs := [jobs.asTypeUse] }] }

def scheduled : Snapshot where
  declarations := [jobs, scheduler]
  distinct := by decide +kernel

end Sample

theorem restoreCollisions_settles_jobs : ∃ built note, note ∈ Sample.scheduler.annotations ∧
    EffectModule.build {} Sample.scheduled Sample.scheduler note = .ok built ∧
    built.effects.map Effect.name = ["Run", "RunAsync", "RunAsyncAsync", "Stop"] ∧
    built.sources.Nodup ∧ ∀ effect ∈ built.effects, built.effect? effect.name = some effect := by
  have made : (EffectModule.build {} Sample.scheduled Sample.scheduler
      { Annotation.bare "EffectsModule" with typeArgs := [Sample.jobs.asTypeUse] }).map
        (fun built => (built.effects.map Effect.name, built.sources)) =
      .ok (["Run", "RunAsync", "RunAsyncAsync", "Stop"],
        ["Run", "RunAsync", "RunAsyncAsync", "StopAsync"]) := by decide +kernel
  obtain ⟨built, success, names⟩ := map_eq_ok_iff.mp made
  rw [Prod.mk.injEq] at names
  have distinct : built.sources.Nodup := names.2 ▸ by decide +kernel
  obtain ⟨_, found⟩ := EffectModule.restoreCollisions_settles.2 _ _ _ _ _ success
  exact ⟨built, _, List.mem_singleton.mpr rfl, success, names.1, distinct, (found distinct).2⟩

end EffectModel
