import EffectModel.Proofs.Annotation
import EffectModel.Proofs.Module.Build
import Mathlib.Data.Set.Defs

/-! What two snapshots share. Main statement: where they agree on some identities, and on all that
the declarations with these mention, the same modules are built from these declarations. -/
namespace EffectModel

/-- The type uses among the arguments of an annotation. -/
def Annotation.typeUses (note : Annotation) : List TypeUse :=
  note.typeArgs ++ note.args.filterMap AnnotationValue.type? ++
    note.named.filterMap (fun argument => argument.value.type?)

/-- The type uses among the base types of a declaration and the arguments of its annotations. -/
def Declaration.typeUses (declaration : Declaration) : List TypeUse :=
  declaration.baseTypes ++ declaration.annotations.flatMap Annotation.typeUses

/-- The identities that a type use goes by: the one it names, and its qualified name. -/
def TypeUse.identities (use : TypeUse) : List DeclId :=
  use.declaration.toList ++ [⟨use.qualifiedName⟩]

/-- The identities that the declaration with an identity mentions, if there is one. -/
def Snapshot.mentions (snapshot : Snapshot) (id : DeclId) : List DeclId :=
  (snapshot.lookup id).toList.flatMap (fun declaration =>
    declaration.typeUses.flatMap TypeUse.identities)

theorem Annotation.mem_typeUses {note : Annotation} {key : String} {use : TypeUse}
    (usable : note.usableReference key = some use) : use ∈ note.typeUses := by
  obtain ⟨refers, _⟩ := usableReference_eq_some_iff.mp usable
  cases refers with
  | generic typeArgs => simp [typeUses, typeArgs]
  | positional plain args => simp [typeUses, args, AnnotationValue.type?]
  | named plain untyped names =>
    obtain ⟨before, after, split, _⟩ := names
    simp [typeUses, split, AnnotationValue.type?]

theorem Declaration.mem_typeUses_of_annotation {declaration : Declaration} {note : Annotation}
    {key : String} {use : TypeUse} (listed : note ∈ declaration.annotations)
    (usable : note.usableReference key = some use) : use ∈ declaration.typeUses :=
  List.mem_append_right _ (List.mem_flatMap.mpr ⟨note, listed, Annotation.mem_typeUses usable⟩)

theorem Declaration.mem_typeUses_of_base {declaration : Declaration} {use : TypeUse}
    (based : declaration.baseClass = some use) : use ∈ declaration.typeUses :=
  List.mem_append_left _ (List.mem_of_find?_eq_some based)

/-- Two snapshots that agree on some identities, which the declarations with them do not lead out
of. -/
structure Shares (known : Set DeclId) (snapshot snapshot' : Snapshot) : Prop where
  agreed : ∀ id ∈ known, snapshot.lookup id = snapshot'.lookup id
  closed : ∀ id ∈ known, ∀ other ∈ snapshot.mentions id, other ∈ known

/-- A declaration that a snapshot holds under one of some identities. -/
structure Kept (known : Set DeclId) (snapshot : Snapshot) (declaration : Declaration) : Prop where
  held : declaration ∈ snapshot.declarations
  member : declaration.id ∈ known

theorem Kept.of_lookup {known : Set DeclId} {snapshot : Snapshot} {declaration : Declaration}
    {id : DeclId} (member : id ∈ known)
    (looked : snapshot.lookup id = some declaration) : Kept known snapshot declaration := by
  obtain ⟨held, rfl⟩ := Snapshot.lookup_some looked
  exact ⟨held, member⟩

namespace Shares

variable {settings : Settings} {known : Set DeclId} {snapshot snapshot' : Snapshot}
variable {declaration found container target : Declaration} {note : Annotation} {use : TypeUse}
variable {rules : PersistenceRules} {key : String}
variable (shares : Shares known snapshot snapshot')
include shares

theorem mem_of_identity (kept : Kept known snapshot declaration)
    (listed : use ∈ declaration.typeUses) : ∀ id ∈ use.identities, id ∈ known := by
  intro id named
  apply shares.closed declaration.id kept.member
  rw [Snapshot.mentions, Snapshot.lookup_id kept.held]
  simpa using ⟨use, listed, named⟩

theorem resolve_eq (kept : Kept known snapshot declaration)
    (listed : use ∈ declaration.typeUses) : snapshot.resolve use = snapshot'.resolve use := by
  have within := shares.mem_of_identity kept listed
  have qualified := shares.agreed ⟨use.qualifiedName⟩ (within _ (by simp [TypeUse.identities]))
  cases named : use.declaration with
  | none => simp [Snapshot.resolve, named, qualified]
  | some id =>
    have direct := shares.agreed id (within id (by simp [TypeUse.identities, named]))
    simp [Snapshot.resolve, named, qualified, direct]

theorem kept_of_resolve (kept : Kept known snapshot declaration)
    (listed : use ∈ declaration.typeUses) (resolved : snapshot.resolve use = some found) :
    Kept known snapshot found := by
  have within := shares.mem_of_identity kept listed
  simp only [Snapshot.resolve, Option.orElse_eq_some, Option.bind_eq_some_iff] at resolved
  rcases resolved with ⟨id, named, looked⟩ | ⟨_, looked⟩
  · exact .of_lookup (within id (by simp [TypeUse.identities, named])) looked
  · exact .of_lookup (within _ (by simp [TypeUse.identities])) looked

theorem kept_of_destination (kept : Kept known snapshot declaration)
    (listed : note ∈ declaration.annotations)
    (led : destination settings snapshot note = some found) : Kept known snapshot found := by
  obtain ⟨use, usable, resolved⟩ := Option.bind_eq_some_iff.mp led
  exact shares.kept_of_resolve kept (Declaration.mem_typeUses_of_annotation listed usable) resolved

/-- The induction is over the number of ancestors that are looked at; each of them is kept. -/
theorem ancestorIsContext_eq (limit : Nat) (kept : Kept known snapshot declaration) :
    rules.ancestorIsContext snapshot limit declaration.baseClass =
      rules.ancestorIsContext snapshot' limit declaration.baseClass := by
  induction limit generalizing declaration with
  | zero => rfl
  | succ limit ih =>
    cases based : declaration.baseClass with
    | none => rfl
    | some use =>
      have listed := Declaration.mem_typeUses_of_base based
      simp only [PersistenceRules.ancestorIsContext, ← shares.resolve_eq kept listed]
      cases resolved : snapshot.resolve use with
      | none => cases limit <;> rfl
      | some found => rw [Option.bind_some, ih (shares.kept_of_resolve kept listed resolved)]

theorem isContext_eq (kept : Kept known snapshot target) :
    rules.isContext snapshot target = rules.isContext snapshot' target := by
  rw [PersistenceRules.isContext, shares.ancestorIsContext_eq _ kept]
  rfl

theorem targetOf_eq (kept : Kept known snapshot container)
    (listed : note ∈ container.annotations) :
    EffectModule.targetOf settings snapshot container note =
      EffectModule.targetOf settings snapshot' container note := by
  unfold EffectModule.targetOf
  cases usable : note.usableReference settings.vocabulary.targetKey with
  | none => rfl
  | some use =>
    simp only [orFault, bind, Except.bind,
      shares.resolve_eq kept (Declaration.mem_typeUses_of_annotation listed usable)]

theorem build_eq (kept : Kept known snapshot container) (listed : note ∈ container.annotations) :
    EffectModule.build settings snapshot container note =
      EffectModule.build settings snapshot' container note := by
  simp only [EffectModule.build, bind, Except.bind, ← shares.targetOf_eq kept listed]
  cases targeted : EffectModule.targetOf settings snapshot container note with
  | error fault => rfl
  | ok target =>
    obtain ⟨led, _⟩ := EffectModule.targetOf_eq_ok_iff.mp targeted
    have context : settings.persistence.isContext snapshot target =
        settings.persistence.isContext snapshot' target :=
      shares.isContext_eq (shares.kept_of_destination kept listed led)
    simp only [EffectModule.ofTarget, context]

theorem buildAll_eq (kept : Kept known snapshot container) :
    EffectModule.buildAll settings snapshot container =
      EffectModule.buildAll settings snapshot' container := by
  apply mapM_congr
  intro note listed
  exact shares.build_eq kept (List.mem_of_mem_filter listed)

end Shares

end EffectModel
