import EffectModel.Generation.Consulted
import Mathlib.Data.List.Basic

/-! What is built is decided by what is looked up for it. Main statements: an inquiry that is answered
from a snapshot builds what is built from that snapshot, and so another snapshot that agrees with it on
the identities that are looked up gives the same. -/
namespace EffectModel

variable {α β : Type} {lookup lookup' : DeclId → Option Declaration}

namespace Inquiry

theorem answer_bind (inquiry : Inquiry α) (further : α → Inquiry β) :
    (inquiry >>= further).answer lookup = (further (inquiry.answer lookup)).answer lookup := by
  induction inquiry with
  | done result => rfl
  | ask id next ih => exact ih (lookup id)

theorem bind_done (inquiry : Inquiry α) : inquiry >>= done = inquiry := by
  induction inquiry with
  | done result => rfl
  | ask id next ih => exact congrArg (ask id) (funext ih)

theorem bind_assoc {γ : Type} (inquiry : Inquiry α) (further : α → Inquiry β)
    (last : β → Inquiry γ) :
    inquiry >>= further >>= last = inquiry >>= fun result => further result >>= last := by
  induction inquiry with
  | done result => rfl
  | ask id next ih => exact congrArg (ask id) (funext ih)

instance : LawfulMonad Inquiry :=
  LawfulMonad.mk' Inquiry bind_done (fun _ _ => rfl) bind_assoc

/-- Answers that nobody asks for make no difference. -/
theorem answer_eq_of_agree {inquiry : Inquiry α}
    (agree : ∀ id ∈ inquiry.asked lookup, lookup' id = lookup id) :
    inquiry.answer lookup' = inquiry.answer lookup := by
  induction inquiry with
  | done result => rfl
  | ask id next ih =>
    rw [asked, List.forall_mem_cons] at agree
    rw [answer, answer, agree.1]
    exact ih (lookup id) agree.2

end Inquiry

namespace Search

/-- What a search comes to. -/
def outcome (lookup : DeclId → Option Declaration) (search : Search α) : Except Fault α :=
  search.run.answer lookup

theorem outcome_bind (search : Search α) (further : α → Search β) :
    outcome lookup (search >>= further) =
      outcome lookup search >>= fun found => outcome lookup (further found) := by
  rw [outcome, ExceptT.run_bind, Inquiry.answer_bind, outcome]
  cases search.run.answer lookup <;> rfl

theorem outcome_lift (inquiry : Inquiry α) :
    outcome lookup (ExceptT.lift inquiry) = .ok (inquiry.answer lookup) :=
  Inquiry.answer_bind inquiry _

theorem outcome_except (outcome' : Except Fault α) :
    outcome lookup (liftM outcome' : Search α) = outcome' := rfl

theorem outcome_mapM (search : α → Search β) (items : List α) :
    outcome lookup (items.mapM search) = items.mapM fun item => outcome lookup (search item) := by
  induction items with
  | nil => rfl
  | cons item items ih =>
    simp only [List.mapM_cons, outcome_bind, ih]
    rfl

theorem outcome_foldlM (search : β → α → Search β) (start : β) (items : List α) :
    outcome lookup (items.foldlM search start) =
      items.foldlM (fun state item => outcome lookup (search state item)) start := by
  induction items generalizing start with
  | nil => rfl
  | cons item items ih => simp only [List.foldlM_cons, outcome_bind, ih]

end Search

open Search

variable (settings : Settings) (snapshot : Snapshot)

theorem TypeUse.answer_seek (use : TypeUse) :
    use.seek.answer snapshot.lookup = snapshot.resolve use := by
  unfold TypeUse.seek Snapshot.resolve
  cases use.declaration with
  | none => rfl
  | some id => cases found : snapshot.lookup id <;> simp [Inquiry.answer, found]

theorem PersistenceRules.answer_seekAncestor (rules : PersistenceRules) (limit : Nat)
    (ancestor : Option TypeUse) : (rules.seekAncestor limit ancestor).answer snapshot.lookup =
      rules.ancestorIsContext snapshot limit ancestor := by
  induction limit generalizing ancestor with
  | zero => rfl
  | succ limit ih =>
    cases ancestor with
    | none => rfl
    | some ancestor =>
      rw [seekAncestor, ancestorIsContext]
      cases rules.contextTypes.contains ancestor.name with
      | true => rfl
      | false =>
        simp only [Bool.false_eq_true, if_false, Bool.false_or, Inquiry.answer_bind,
          TypeUse.answer_seek, ih]

theorem PersistenceRules.answer_seekContext (rules : PersistenceRules) (target : Declaration) :
    (rules.seekContext target).answer snapshot.lookup = rules.isContext snapshot target := by
  rw [seekContext, isContext]
  cases rules.contextTypes.contains target.name with
  | true => rfl
  | false => exact rules.answer_seekAncestor snapshot _ _

namespace EffectModule

theorem outcome_seekTarget (container : Declaration) (note : Annotation) :
    outcome snapshot.lookup (seekTarget settings container note) =
      targetOf settings snapshot container note := by
  simp only [seekTarget, targetOf, outcome_bind, outcome_except, outcome_lift, TypeUse.answer_seek]
  rfl

theorem outcome_seek (container : Declaration) (note : Annotation) :
    outcome snapshot.lookup (seek settings container note) =
      build settings snapshot container note := by
  rw [seek, build, outcome_bind, outcome_seekTarget]
  refine congrArg _ (funext fun target => ?_)
  cases (propertyName settings target).isEmpty with
  | true => rfl
  | false =>
    simp only [Bool.false_eq_true, if_false, outcome_bind, outcome_except, outcome_lift,
      PersistenceRules.answer_seekContext]
    rfl

theorem outcome_seekAll (container : Declaration) :
    outcome snapshot.lookup (seekAll settings container) =
      buildAll settings snapshot container := by
  simp only [seekAll, buildAll, outcome_mapM, outcome_seek]

end EffectModule

namespace Walk

theorem outcome_seekReferenced (owner : Declaration) (note : Annotation) :
    outcome snapshot.lookup (seekReferenced settings owner note) =
      referenced settings snapshot owner note := by
  simp only [seekReferenced, referenced, outcome_bind, outcome_except, outcome_lift,
    TypeUse.answer_seek]
  rfl

theorem outcome_seekAlong {seek : Walk → Declaration → Search Walk}
    {visit : Walk → Declaration → Except Fault Walk}
    (each : ∀ walk found, outcome snapshot.lookup (seek walk found) = visit walk found)
    (owner : Declaration) (walk : Walk) :
    outcome snapshot.lookup (seekAlong settings seek owner walk) =
      follow settings snapshot visit owner walk := by
  simp only [seekAlong, follow, outcome_foldlM, outcome_bind, outcome_seekReferenced, each]

theorem outcome_seekOpen (walk : Walk) (declaration : Declaration) :
    outcome snapshot.lookup (seekOpen settings walk declaration) =
      openUp settings snapshot walk declaration := by
  simp only [seekOpen, openUp, outcome_bind, EffectModule.outcome_seekAll, outcome_except]

theorem outcome_seekVisit (fuel : Nat) (walk : Walk) (declaration : Declaration) :
    outcome snapshot.lookup (seekVisit settings fuel walk declaration) =
      visit settings snapshot fuel walk declaration := by
  induction fuel generalizing walk declaration with
  | zero => rfl
  | succ fuel ih =>
    rw [seekVisit, visit]
    split_ifs
    · rfl
    · rfl
    · rfl
    · simp only [outcome_bind, outcome_seekOpen, outcome_seekAlong settings snapshot ih]
      rfl

theorem outcome_seekFrom (root : Declaration) :
    outcome snapshot.lookup (seekFrom settings (snapshot.declarations.length + 1) root) =
      ofRoot settings snapshot root :=
  outcome_seekAlong settings snapshot (outcome_seekVisit settings snapshot _) root (start root.id)

end Walk

theorem TestRuntime.outcome_seekProduction (testRoot : Declaration) :
    outcome snapshot.lookup (seekProduction settings testRoot) =
      productionOf settings snapshot testRoot := by
  simp only [seekProduction, productionOf, outcome_bind, outcome_except, outcome_lift,
    TypeUse.answer_seek]
  rfl

namespace Generation

variable {settings snapshot} {other : Snapshot} {declaration : Declaration}

/-- Only the declarations that are looked up for a module have a say in it. -/
theorem buildAll_eq_of_agree (agree : ∀ id ∈ consulted settings snapshot .moduleStage declaration,
    other.lookup id = snapshot.lookup id) :
    EffectModule.buildAll settings other declaration =
      EffectModule.buildAll settings snapshot declaration := by
  rw [← EffectModule.outcome_seekAll, ← EffectModule.outcome_seekAll]
  exact Inquiry.answer_eq_of_agree agree

/-- The number of declarations bounds how deep a walk may go. -/
theorem ofRoot_eq_of_agree (sized : other.declarations.length = snapshot.declarations.length)
    (agree : ∀ id ∈ consulted settings snapshot .runtimeStage declaration,
      other.lookup id = snapshot.lookup id) :
    Walk.ofRoot settings other declaration = Walk.ofRoot settings snapshot declaration := by
  rw [← Walk.outcome_seekFrom, ← Walk.outcome_seekFrom, sized]
  exact Inquiry.answer_eq_of_agree agree

theorem productionOf_eq_of_agree
    (agree : ∀ id ∈ consulted settings snapshot .testRuntimeStage declaration,
      other.lookup id = snapshot.lookup id) :
    TestRuntime.productionOf settings other declaration =
      TestRuntime.productionOf settings snapshot declaration := by
  rw [← TestRuntime.outcome_seekProduction, ← TestRuntime.outcome_seekProduction]
  exact Inquiry.answer_eq_of_agree agree

end Generation

end EffectModel
