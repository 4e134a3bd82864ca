import EffectModel.Proofs.Module.Build

/-! Snapshots whose declarations differ in nothing but their annotations. Main statement: an annotation
makes the same module of what it leads to in either of them. -/
namespace EffectModel

/-- A declaration that differs from another in its annotations alone. -/
def Declaration.Reannotates (declaration other : Declaration) : Prop :=
  ∃ notes, { declaration with annotations := notes } = other

/-- Two snapshots whose declarations correspond one by one. -/
def Snapshot.Corresponds (related : Declaration → Declaration → Prop)
    (snapshot other : Snapshot) : Prop :=
  List.Forall₂ related snapshot.declarations other.declarations

namespace Declaration.Reannotates

variable {declaration other : Declaration}

theorem id_eq (same : declaration.Reannotates other) : declaration.id = other.id := by
  obtain ⟨_, rfl⟩ := same
  rfl

theorem kind_eq (same : declaration.Reannotates other) : declaration.kind = other.kind := by
  obtain ⟨_, rfl⟩ := same
  rfl

theorem baseClass_eq (same : declaration.Reannotates other) :
    declaration.baseClass = other.baseClass := by
  obtain ⟨_, rfl⟩ := same
  rfl

theorem propertyName_eq (same : declaration.Reannotates other) (settings : Settings) :
    EffectModule.propertyName settings declaration = EffectModule.propertyName settings other := by
  obtain ⟨_, rfl⟩ := same
  rfl

theorem effectsOf_eq (same : declaration.Reannotates other) (settings : Settings) (owner : DeclId)
    (filter : MethodFilter) : EffectModule.effectsOf settings owner declaration filter =
      EffectModule.effectsOf settings owner other filter := by
  obtain ⟨_, rfl⟩ := same
  rfl

end Declaration.Reannotates

namespace Snapshot.Corresponds

variable {related : Declaration → Declaration → Prop} {settings : Settings}
variable {snapshot snapshot' : Snapshot} {declaration other container container' : Declaration}
variable {first second : Option Declaration} {rules : PersistenceRules} {note : Annotation}

theorem symm (corresponds : snapshot.Corresponds related snapshot')
    (symmetric : ∀ {declaration other}, related declaration other → related other declaration) :
    snapshot'.Corresponds related snapshot :=
  List.Forall₂.imp (fun _ _ same => symmetric same) corresponds.flip

private theorem find_rel
    (plain : ∀ {declaration other}, related declaration other → declaration.Reannotates other)
    {declarations others : List Declaration} (corresponds : List.Forall₂ related declarations others)
    (id : DeclId) :
    Option.Rel related (declarations.find? (fun declaration => declaration.id == id))
      (others.find? (fun declaration => declaration.id == id)) := by
  induction corresponds with
  | nil => exact .none
  | cons same rest ih =>
    rw [List.find?_cons, List.find?_cons, ← (plain same).id_eq]
    split
    · exact .some same
    · exact ih

private theorem orElse_rel {first' second' : Option Declaration}
    (direct : Option.Rel related first first') (named : Option.Rel related second second') :
    Option.Rel related (first <|> second) (first' <|> second') := by
  cases direct with
  | some same => exact .some same
  | none => exact named

private theorem bind_eq_of_rel {α : Type} {ask ask' : Declaration → Option α}
    (found : Option.Rel related first second)
    (same : ∀ {declaration other}, related declaration other → ask declaration = ask' other) :
    first.bind ask = second.bind ask' := by
  cases found with
  | some alike => exact same alike
  | none => rfl

section Lookup

variable (corresponds : snapshot.Corresponds related snapshot')
variable (plain : ∀ {declaration other}, related declaration other → declaration.Reannotates other)
include corresponds plain

theorem lookup_rel (id : DeclId) :
    Option.Rel related (snapshot.lookup id) (snapshot'.lookup id) :=
  find_rel plain corresponds id

theorem resolve_rel (use : TypeUse) :
    Option.Rel related (snapshot.resolve use) (snapshot'.resolve use) := by
  have named := corresponds.lookup_rel plain ⟨use.qualifiedName⟩
  unfold Snapshot.resolve
  cases use.declaration with
  | none => exact named
  | some id => exact orElse_rel (corresponds.lookup_rel plain id) named

theorem destination_rel (settings : Settings) (note : Annotation) :
    Option.Rel related (destination settings snapshot note)
      (destination settings snapshot' note) := by
  unfold destination
  cases note.usableReference settings.vocabulary.targetKey with
  | none => exact .none
  | some use => exact corresponds.resolve_rel plain use

theorem ancestorIsContext_eq (limit : Nat) (ancestor : Option TypeUse) :
    rules.ancestorIsContext snapshot limit ancestor =
      rules.ancestorIsContext snapshot' limit ancestor := by
  induction limit generalizing ancestor with
  | zero => rfl
  | succ limit ih =>
    cases ancestor with
    | none => rfl
    | some use =>
      have further : (snapshot.resolve use).bind Declaration.baseClass =
          (snapshot'.resolve use).bind Declaration.baseClass :=
        bind_eq_of_rel (corresponds.resolve_rel plain use) fun same => (plain same).baseClass_eq
      rw [PersistenceRules.ancestorIsContext, PersistenceRules.ancestorIsContext, further, ih]

theorem ofTarget_eq {effects : List Effect} (sameContainer : container.Reannotates container')
    (sameTarget : declaration.Reannotates other) :
    EffectModule.ofTarget settings snapshot container note declaration effects =
      EffectModule.ofTarget settings snapshot' container' note other effects := by
  obtain ⟨_, rfl⟩ := sameContainer
  obtain ⟨_, rfl⟩ := sameTarget
  have context : ∀ ancestor, settings.persistence.ancestorIsContext snapshot
        settings.persistence.ancestorDepthLimit.toNat ancestor =
      settings.persistence.ancestorIsContext snapshot'
        settings.persistence.ancestorDepthLimit.toNat ancestor :=
    corresponds.ancestorIsContext_eq plain _
  simp only [EffectModule.ofTarget, PersistenceRules.isContext, context]
  rfl

theorem target_rel (use : TypeUse) :
    Option.Rel related ((snapshot.resolve use).filter (fun found => found.kind ≠ .enumDecl))
      ((snapshot'.resolve use).filter (fun found => found.kind ≠ .enumDecl)) := by
  have resolved := corresponds.resolve_rel plain use
  generalize snapshot.resolve use = found at resolved
  generalize snapshot'.resolve use = found' at resolved
  cases resolved with
  | none => exact .none
  | @some target target' alike =>
    have sameKind : target.kind = target'.kind := (plain alike).kind_eq
    by_cases kind : target.kind = .enumDecl
    · simp [Option.filter, ← sameKind, kind]
    · simpa [Option.filter, ← sameKind, kind] using Option.Rel.some alike

theorem targetOf_alike (same : container.Reannotates container') :
    Alike related (EffectModule.targetOf settings snapshot container note)
      (EffectModule.targetOf settings snapshot' container' note) := by
  unfold EffectModule.targetOf
  rw [← same.id_eq]
  refine (Alike.refl _).bind fun {use _} named => ?_
  cases named
  exact .of_rel (corresponds.target_rel plain use) _

/-- An annotation makes the same module of its target, or the same fault, whatever annotations the
declarations have besides. -/
theorem build_eq (same : container.Reannotates container') :
    EffectModule.build settings snapshot container note =
      EffectModule.build settings snapshot' container' note := by
  apply Alike.eq
  refine (corresponds.targetOf_alike plain same).bind fun {target target'} related => ?_
  have alike : target.Reannotates target' := plain related
  simp only [corresponds.ofTarget_eq plain same alike, alike.propertyName_eq, alike.effectsOf_eq,
    alike.id_eq, same.id_eq]
  exact .refl _

end Lookup

end Snapshot.Corresponds

end EffectModel
