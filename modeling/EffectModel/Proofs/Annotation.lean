import EffectModel.Annotation

namespace EffectModel

variable {value : AnnotationValue} {note : Annotation} {key : String} {use : TypeUse}

theorem AnnotationValue.type?_eq_some_iff : value.type? = some use ↔ value = .type use := by
  cases value <;> simp [type?]

namespace Annotation

/-- The first named argument with a key has a value. -/
def Names (note : Annotation) (key : String) (value : AnnotationValue) : Prop :=
  ∃ before after, note.named = before ++ ⟨key, value⟩ :: after ∧
    ∀ argument ∈ before, argument.name ≠ key

/-- The forms in which an annotation refers to a type. A type argument comes before all others; a
positional argument counts only if it stands first. -/
inductive Refers (note : Annotation) (key : String) (use : TypeUse) : Prop where
  | generic {rest : List TypeUse} (typeArgs : note.typeArgs = use :: rest)
  | positional {rest : List AnnotationValue} (plain : note.typeArgs = [])
      (args : note.args = .type use :: rest)
  | named (plain : note.typeArgs = []) (untyped : ∀ other rest, note.args ≠ .type other :: rest)
      (names : note.Names key (.type use))

theorem namedValue_eq_some_iff : note.namedValue key = some value ↔ note.Names key value := by
  simp only [namedValue, Names, Option.map_eq_some_iff, List.find?_eq_some_iff_append, beq_iff_eq,
    Bool.not_eq_true', beq_eq_false_iff_ne]
  constructor
  · rintro ⟨⟨name, value⟩, ⟨rfl, before, after, split, first⟩, rfl⟩
    exact ⟨before, after, split, first⟩
  · rintro ⟨before, after, split, first⟩
    exact ⟨⟨key, value⟩, ⟨rfl, before, after, split, first⟩, rfl⟩

theorem typeReference_of_typeArgs {rest : List TypeUse} (typeArgs : note.typeArgs = use :: rest) :
    note.typeReference key = some use := by
  simp [typeReference, typeArgs]

theorem typeReference_of_args {rest : List AnnotationValue} (plain : note.typeArgs = [])
    (args : note.args = .type use :: rest) : note.typeReference key = some use := by
  simp [typeReference, plain, args, AnnotationValue.type?]

theorem typeReference_of_untyped (plain : note.typeArgs = [])
    (untyped : ∀ other rest, note.args ≠ .type other :: rest) :
    note.typeReference key = (note.namedValue key).bind AnnotationValue.type? := by
  have none : note.args[0]?.bind AnnotationValue.type? = none := by
    cases args : note.args with
    | nil => rfl
    | cons first rest =>
      cases first with
      | type other => exact (untyped other rest args).elim
      | _ => rfl
  simp [typeReference, plain, none]

theorem typeReference_eq_some_iff : note.typeReference key = some use ↔ note.Refers key use := by
  constructor
  · intro referred
    cases typeArgs : note.typeArgs with
    | cons first rest =>
      rw [typeReference_of_typeArgs typeArgs] at referred
      cases referred
      exact .generic typeArgs
    | nil =>
      by_cases typed : ∃ other rest, note.args = .type other :: rest
      · obtain ⟨other, rest, args⟩ := typed
        rw [typeReference_of_args typeArgs args] at referred
        cases referred
        exact .positional typeArgs args
      · have untyped : ∀ other rest, note.args ≠ .type other :: rest :=
          fun other rest args => typed ⟨other, rest, args⟩
        rw [typeReference_of_untyped typeArgs untyped, Option.bind_eq_some_iff] at referred
        obtain ⟨value, named, same⟩ := referred
        rw [AnnotationValue.type?_eq_some_iff] at same
        exact .named typeArgs untyped (namedValue_eq_some_iff.mp (same ▸ named))
  · intro refers
    cases refers with
    | generic typeArgs => exact typeReference_of_typeArgs typeArgs
    | positional plain args => exact typeReference_of_args plain args
    | named plain untyped names =>
      rw [typeReference_of_untyped plain untyped, namedValue_eq_some_iff.mpr names]
      rfl

/-- A reference that can be used is one to a type that is understood. -/
theorem usableReference_eq_some_iff :
    note.usableReference key = some use ↔ note.Refers key use ∧ use.isError = false := by
  rw [usableReference, Option.filter_eq_some_iff, typeReference_eq_some_iff]
  simp

end Annotation

end EffectModel
