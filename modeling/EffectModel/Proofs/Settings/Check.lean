import EffectModel.Annotation
import EffectModel.Proofs.Outcome
import EffectModel.Settings.Basic
import Mathlib.Data.Finset.Card
import Mathlib.Data.List.Nodup

namespace EffectModel

section Requirements

variable {settings : Settings} {names : List String} {name field : String} {holds : Bool}
variable {error : SettingsError}

@[simp] theorem requireThat_eq_ok_iff : requireThat holds error = .ok () ↔ holds = true := by
  cases holds <;> simp [requireThat]

@[simp] theorem requireName_eq_ok_iff :
    requireName field name = .ok () ↔ Text.allBlank name = false := by
  cases blank : Text.allBlank name <;> simp [requireName, blank]

theorem firstShared_eq_none_iff : firstShared names = none ↔ names.Nodup := by
  induction names with
  | nil => simp [firstShared]
  | cons name rest ih =>
    by_cases again : name ∈ rest
    · simp [firstShared, again]
    · simp [firstShared, again, ih]

theorem Vocabulary.nodup_roles {vocabulary : Vocabulary} (accepted : vocabulary.check = .ok ()) :
    vocabulary.roles.Nodup := by
  simp only [Vocabulary.check, bind_check_eq_ok_iff] at accepted
  obtain ⟨_, _, _, _, _, _, _, _, _, shared⟩ := accepted
  apply firstShared_eq_none_iff.mp
  cases found : firstShared vocabulary.roles with
  | none => rfl
  | some name => simp [found] at shared

theorem NamingRules.check_eq_ok_iff {rules : NamingRules} : rules.check = .ok () ↔
    Text.isLetter rules.interfacePrefix = true ∧ Text.allBlank rules.capabilityPrefix = false ∧
      rules.capabilityPrefix.toList.all isIdentifierPart = true := by
  simp [NamingRules.check, bind_check_eq_ok_iff]

theorem Settings.check_eq_ok_iff : settings.check = .ok () ↔
    settings.version = supportedVersion ∧ settings.vocabulary.check = .ok () ∧
      settings.lifting.check = .ok () ∧ settings.naming.check = .ok () ∧
      settings.persistence.check = .ok () := by
  simp [Settings.check, bind_check_eq_ok_iff]

end Requirements

variable {names : Vocabulary} {note : Annotation} {kind role other : String}

theorem Annotation.isKind_iff :
    note.isKind kind = true ↔ note.kind = kind ∨ note.kind = kind ++ conventionalEnding := by
  simp [isKind]

namespace Vocabulary

/-- The roles that an annotation is read in. -/
def rolesOf (names : Vocabulary) (note : Annotation) : List String :=
  names.roles.filter (fun role => note.isKind role)

theorem mem_rolesOf_iff : role ∈ names.rolesOf note ↔ role ∈ names.roles ∧
    (note.kind = role ∨ note.kind = role ++ Annotation.conventionalEnding) := by
  rw [rolesOf, List.mem_filter, Annotation.isKind_iff]

private theorem ne_append_ending (role : String) :
    role ≠ role ++ Annotation.conventionalEnding := by
  intro same
  have lengths := congrArg String.length same
  unfold Annotation.conventionalEnding at lengths
  simp at lengths

/-- An annotation has two roles where its kind is one of them and, without the ending, another. -/
theorem length_rolesOf_le_one_iff (distinct : names.roles.Nodup) :
    (names.rolesOf note).length ≤ 1 ↔ ∀ role ∈ names.roles,
      note.kind = role ++ Annotation.conventionalEnding → note.kind ∉ names.roles := by
  have apart : (names.rolesOf note).Nodup := distinct.filter _
  rw [← List.toFinset_card_of_nodup apart, Finset.card_le_one]
  simp only [List.mem_toFinset, mem_rolesOf_iff]
  constructor
  · intro single role listed ended listed'
    have same : note.kind = role := single _ ⟨listed', .inl rfl⟩ _ ⟨listed, .inr ended⟩
    exact ne_append_ending role (same.symm.trans ended)
  · rintro unended first ⟨listed, plain | ended⟩ second ⟨listed', plain' | ended'⟩
    · exact plain.symm.trans plain'
    · exact (unended second listed' ended' (plain ▸ listed)).elim
    · exact (unended first listed ended (plain' ▸ listed')).elim
    · exact (String.append_left_inj _).mp (ended.symm.trans ended')

end Vocabulary

/-- Accepted settings give every annotation one role at most, unless they name a role as another one
is named, with the conventional ending added. -/
theorem single_role_iff (settings : ValidSettings) :
    (∀ note, (settings.settings.vocabulary.rolesOf note).length ≤ 1) ↔
      ∀ role ∈ settings.settings.vocabulary.roles, ∀ other ∈ settings.settings.vocabulary.roles,
        other ≠ role ++ Annotation.conventionalEnding := by
  have distinct : settings.settings.vocabulary.roles.Nodup :=
    Vocabulary.nodup_roles (Settings.check_eq_ok_iff.mp settings.checked).2.1
  simp only [Vocabulary.length_rolesOf_le_one_iff distinct]
  constructor
  · intro single role listed other listed' ended
    exact single (.bare other) role listed ended listed'
  · intro apart note role listed ended listed'
    exact apart role listed note.kind listed' ended

namespace Sample

/-- Settings under which the marker of a test root is the marker of a root with its ending. -/
def endedRole : ValidSettings where
  settings := { vocabulary := { testRuntimeKind := "RuntimeAttribute" } }
  checked := by decide +kernel

end Sample

/-- There are accepted settings under which an annotation marks a root and a test root at once. -/
theorem exists_two_roles : ¬ ∀ (settings : ValidSettings) (note : Annotation),
    (settings.settings.vocabulary.rolesOf note).length ≤ 1 := by
  intro single
  have roles : Sample.endedRole.settings.vocabulary.rolesOf (.bare "RuntimeAttribute") =
      ["Runtime", "RuntimeAttribute"] := by decide +kernel
  have bound := single Sample.endedRole (.bare "RuntimeAttribute")
  rw [roles] at bound
  exact absurd bound (by decide)

end EffectModel
