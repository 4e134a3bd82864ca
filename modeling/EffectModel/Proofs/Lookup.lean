import EffectModel.Proofs.FirstOccurrence
import EffectModel.Settings.Basic
import EffectModel.Snapshot
import Mathlib.Data.Option.Basic

namespace EffectModel

namespace Snapshot

variable {snapshot : Snapshot} {declaration first second : Declaration} {id : DeclId} {use : TypeUse}

theorem eq_of_id_eq (held : first ∈ snapshot.declarations) (held' : second ∈ snapshot.declarations)
    (same : first.id = second.id) : first = second :=
  List.inj_on_of_nodup_map snapshot.distinct held held' same

theorem lookup_eq_some_iff : snapshot.lookup id = some declaration ↔
    declaration ∈ snapshot.declarations ∧ declaration.id = id :=
  find?_eq_some_iff_of_nodup snapshot.distinct

theorem lookup_some (found : snapshot.lookup id = some declaration) :
    declaration ∈ snapshot.declarations ∧ declaration.id = id :=
  lookup_eq_some_iff.mp found

theorem lookup_id (held : declaration ∈ snapshot.declarations) :
    snapshot.lookup declaration.id = some declaration :=
  lookup_eq_some_iff.mpr ⟨held, rfl⟩

private theorem filter_eq_find {declarations : List Declaration}
    (distinct : (declarations.map Declaration.id).Nodup) (id : DeclId) :
    declarations.filter (fun declaration => declaration.id == id) =
      (declarations.find? (fun declaration => declaration.id == id)).toList := by
  induction declarations with
  | nil => rfl
  | cons head rest ih =>
    obtain ⟨absent, distinctRest⟩ := List.nodup_cons.mp distinct
    by_cases same : head.id = id
    · have none : rest.filter (fun declaration => declaration.id == id) = [] := by
        apply List.filter_eq_nil_iff.mpr
        intro other member found
        have sameId : other.id = head.id := (beq_iff_eq.mp found).trans same.symm
        exact absent (sameId ▸ List.mem_map_of_mem member)
      simp [same, none]
    · simpa [same] using ih distinctRest

/-- The declarations with an identity are what is looked up under it. -/
theorem filter_id_eq (snapshot : Snapshot) (id : DeclId) :
    snapshot.declarations.filter (fun declaration => declaration.id == id) =
      (snapshot.lookup id).toList :=
  filter_eq_find snapshot.distinct id

/-- The declaration that a type use leads to: the one with the identity that it names, if that is held,
and otherwise the one whose identity is its qualified name. -/
inductive LeadsTo (snapshot : Snapshot) (use : TypeUse) (declaration : Declaration) : Prop where
  | symbol (held : declaration ∈ snapshot.declarations)
      (names : use.declaration = some declaration.id)
  | written (held : declaration ∈ snapshot.declarations)
      (unheld : ∀ other ∈ snapshot.declarations, use.declaration ≠ some other.id)
      (qualified : declaration.id = ⟨use.qualifiedName⟩)

theorem resolve_eq_some_iff :
    snapshot.resolve use = some declaration ↔ snapshot.LeadsTo use declaration := by
  simp only [resolve, Option.orElse_eq_some, Option.bind_eq_some_iff, Option.bind_eq_none_iff,
    lookup_eq_some_iff]
  constructor
  · rintro (⟨id, names, held, rfl⟩ | ⟨none, held, qualified⟩)
    · exact .symbol held names
    · refine .written held (fun other held' names => ?_) qualified
      cases (lookup_id held').symm.trans (none _ names)
  · rintro (⟨held, names⟩ | ⟨held, unheld, qualified⟩)
    · exact .inl ⟨_, names, held, rfl⟩
    · refine .inr ⟨fun id names => ?_, held, qualified⟩
      apply Option.eq_none_iff_forall_ne_some.mpr
      intro other found
      obtain ⟨held', rfl⟩ := lookup_some found
      exact unheld other held' names

theorem LeadsTo.unique (leads : snapshot.LeadsTo use first) (leads' : snapshot.LeadsTo use second) :
    first = second :=
  Option.some_inj.mp
    ((resolve_eq_some_iff.mpr leads).symm.trans (resolve_eq_some_iff.mpr leads'))

theorem LeadsTo.mem (leads : snapshot.LeadsTo use declaration) :
    declaration ∈ snapshot.declarations := by
  cases leads with
  | symbol held => exact held
  | written held => exact held

theorem mem_of_resolve (found : snapshot.resolve use = some declaration) :
    declaration ∈ snapshot.declarations :=
  (resolve_eq_some_iff.mp found).mem

end Snapshot

/-- The declaration that an annotation leads to, where it names a type that is understood and held. -/
def destination (settings : Settings) (snapshot : Snapshot) (note : Annotation) :
    Option Declaration :=
  (note.usableReference settings.vocabulary.targetKey).bind snapshot.resolve

theorem mem_of_destination {settings : Settings} {snapshot : Snapshot} {note : Annotation}
    {found : Declaration} (led : destination settings snapshot note = some found) :
    found ∈ snapshot.declarations := by
  obtain ⟨_, _, resolved⟩ := Option.bind_eq_some_iff.mp led
  exact Snapshot.mem_of_resolve resolved

end EffectModel
