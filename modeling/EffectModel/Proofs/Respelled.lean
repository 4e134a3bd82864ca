import EffectModel.Proofs.Annotation
import EffectModel.Proofs.Reannotated

/-! Snapshots whose annotations refer to their types in other forms. Main statement: an annotation and
its respelling say the same to all that is asked of them, and give the same modules. -/
namespace EffectModel

/-- The same annotation, or one whose type is no longer a named argument but its one type argument or
its one positional argument. -/
inductive Respelling (key : String) : (note respelled : Annotation) → Prop where
  | same (note : Annotation) : Respelling key note note
  | generic (kind : String) (before after : List NamedArgument) (use : TypeUse)
      (single : ∀ argument ∈ before ++ after, argument.name ≠ key) :
      Respelling key ⟨kind, [], [], before ++ ⟨key, .type use⟩ :: after⟩
        ⟨kind, [use], [], before ++ after⟩
  | positional (kind : String) (before after : List NamedArgument) (use : TypeUse)
      (single : ∀ argument ∈ before ++ after, argument.name ≠ key) :
      Respelling key ⟨kind, [], [], before ++ ⟨key, .type use⟩ :: after⟩
        ⟨kind, [], [.type use], before ++ after⟩

/-- A declaration with some of the annotations of another one respelled, and else the same. -/
def Declaration.Respells (key : String) (declaration other : Declaration) : Prop :=
  ∃ notes, List.Forall₂ (Respelling key) declaration.annotations notes ∧
    { declaration with annotations := notes } = other

/-- The same declarations in the same order, with some of their annotations respelled. -/
abbrev Snapshot.Respells (key : String) : Snapshot → Snapshot → Prop :=
  Snapshot.Corresponds (Declaration.Respells key)

namespace Respelling

open Annotation

variable {key name : String} {note respelled : Annotation} {settings : Settings}
variable {snapshot : Snapshot} {container target : Declaration} {effects : List Effect}

theorem isKind_eq (respells : Respelling key note respelled) (kind : String) :
    note.isKind kind = respelled.isKind kind := by
  cases respells <;> rfl

theorem namedValue_of_ne (respells : Respelling key note respelled) (other : key ≠ name) :
    note.namedValue name = respelled.namedValue name := by
  cases respells with
  | same => rfl
  | generic | positional => simp [namedValue, List.find?_append, other]

private theorem names_named {kind : String} {before after : List NamedArgument} {use : TypeUse}
    (single : ∀ argument ∈ before ++ after, argument.name ≠ key) :
    Names ⟨kind, [], [], before ++ ⟨key, .type use⟩ :: after⟩ key (.type use) :=
  ⟨before, after, rfl, fun argument member => single argument (List.mem_append_left _ member)⟩

/-- Under the key itself a type is found, and nothing any more where it has been respelled. -/
theorem namedValue_key (respells : Respelling key note respelled) : note = respelled ∨
    ∃ use, note.namedValue key = some (.type use) ∧ respelled.namedValue key = none := by
  cases respells with
  | same => exact .inl rfl
  | generic kind before after use single | positional kind before after use single =>
    refine .inr ⟨use, namedValue_eq_some_iff.mpr (names_named single), ?_⟩
    rw [namedValue, Option.map_eq_none_iff, List.find?_eq_none]
    exact fun argument member => by simpa using single argument member

/-- A question that no type answers has the same answer, under whichever key it is asked. -/
theorem namedValue_bind_eq (respells : Respelling key note respelled) {α : Type}
    {ask : AnnotationValue → Option α} (typeless : ∀ use, ask (.type use) = none) (name : String) :
    (note.namedValue name).bind ask = (respelled.namedValue name).bind ask := by
  by_cases own : key = name
  · subst own
    rcases respells.namedValue_key with rfl | ⟨use, typed, none⟩
    · rfl
    · rw [typed, none, Option.bind_some, Option.bind_none, typeless]
  · rw [respells.namedValue_of_ne own]

private theorem typeReference_named {kind : String} {before after : List NamedArgument}
    {use : TypeUse} (single : ∀ argument ∈ before ++ after, argument.name ≠ key) :
    typeReference ⟨kind, [], [], before ++ ⟨key, .type use⟩ :: after⟩ key = some use :=
  typeReference_eq_some_iff.mpr (.named rfl (by simp) (names_named single))

theorem typeReference_eq (respells : Respelling key note respelled) :
    note.typeReference key = respelled.typeReference key := by
  cases respells with
  | same => rfl
  | generic kind before after use single =>
    exact (typeReference_named single).trans (typeReference_of_typeArgs rfl).symm
  | positional kind before after use single =>
    exact (typeReference_named single).trans (typeReference_of_args rfl rfl).symm

theorem usableReference_eq (respells : Respelling key note respelled) :
    note.usableReference key = respelled.usableReference key := by
  rw [usableReference, usableReference, respells.typeReference_eq]

theorem namesUnder_eq (respells : Respelling key note respelled) (name : String) :
    MethodFilter.namesUnder note name = MethodFilter.namesUnder respelled name := by
  unfold MethodFilter.namesUnder
  rw [respells.namedValue_bind_eq fun _ => rfl]

theorem methodFilter_eq (respells : Respelling key note respelled) (includeKey excludeKey : String) :
    MethodFilter.ofAnnotation note includeKey excludeKey =
      MethodFilter.ofAnnotation respelled includeKey excludeKey := by
  rw [MethodFilter.ofAnnotation, MethodFilter.ofAnnotation, respells.namesUnder_eq,
    respells.namesUnder_eq]

theorem ofTarget_eq (respells : Respelling key note respelled) :
    EffectModule.ofTarget settings snapshot container note target effects =
      EffectModule.ofTarget settings snapshot container respelled target effects := by
  have given : EffectModule.givenName settings note = EffectModule.givenName settings respelled := by
    unfold EffectModule.givenName
    rw [respells.namedValue_bind_eq fun _ => rfl]
  unfold EffectModule.ofTarget EffectModule.describe
  rw [given, respells.namedValue_bind_eq fun _ => rfl]

/-- Both forms make the same module, or the same fault. -/
theorem build_eq (respells : Respelling settings.vocabulary.targetKey note respelled) :
    EffectModule.build settings snapshot container note =
      EffectModule.build settings snapshot container respelled := by
  have targeted : EffectModule.targetOf settings snapshot container note =
      EffectModule.targetOf settings snapshot container respelled := by
    rw [EffectModule.targetOf, EffectModule.targetOf, respells.usableReference_eq]
  simp only [EffectModule.build, targeted, respells.methodFilter_eq, respells.ofTarget_eq]

end Respelling

namespace Declaration.Respells

variable {key : String} {settings : Settings} {declaration other : Declaration}

theorem reannotates (same : declaration.Respells key other) : declaration.Reannotates other := by
  obtain ⟨notes, _, other⟩ := same
  exact ⟨notes, other⟩

theorem annotationsOf_respells (same : declaration.Respells key other) (kind : String) :
    List.Forall₂ (Respelling key) (declaration.annotationsOf kind)
      (other.annotationsOf kind) := by
  obtain ⟨_, respelled, rfl⟩ := same
  exact List.rel_filter (fun _ _ respells => Bool.eq_iff_iff.mp (respells.isKind_eq kind)) respelled

theorem hasAnnotation_eq (same : declaration.Respells key other) (kind : String) :
    declaration.hasAnnotation kind = other.hasAnnotation kind := by
  obtain ⟨_, respelled, rfl⟩ := same
  unfold hasAnnotation
  generalize declaration.annotations = notes at respelled
  induction respelled with
  | nil => rfl
  | cons respells rest ih => rw [List.any_cons, List.any_cons, respells.isKind_eq, ih]

end Declaration.Respells

namespace Snapshot.Respells

variable {settings : Settings} {snapshot snapshot' : Snapshot} {container container' : Declaration}

theorem buildAll_eq (respells : snapshot.Respells settings.vocabulary.targetKey snapshot')
    (same : container.Respells settings.vocabulary.targetKey container') :
    EffectModule.buildAll settings snapshot container =
      EffectModule.buildAll settings snapshot' container' := by
  apply mapM_eq_of_forall₂
  refine List.Forall₂.imp ?_ (same.annotationsOf_respells _)
  intro note note' alike
  rw [Corresponds.build_eq respells (fun same => same.reannotates) same.reannotates, alike.build_eq]

end Snapshot.Respells

end EffectModel
