import EffectModel.Declaration

namespace EffectModel

def firstRepeat (seen : List DeclId) : List DeclId → Option DeclId
  | [] => none
  | id :: rest => if id ∈ seen then some id else firstRepeat (id :: seen) rest

theorem firstRepeat_eq_none_iff {seen ids : List DeclId} :
    firstRepeat seen ids = none ↔ ids.Nodup ∧ ∀ id ∈ ids, id ∉ seen := by
  induction ids generalizing seen with
  | nil => simp [firstRepeat]
  | cons id rest ih =>
    by_cases known : id ∈ seen
    · simp [firstRepeat, known]
    · simp only [firstRepeat, known, if_false, ih, List.nodup_cons, List.mem_cons, not_or]
      constructor
      · rintro ⟨distinct, fresh⟩
        exact ⟨⟨fun member => (fresh id member).1 rfl, distinct⟩, fun other member => by
          rcases member with rfl | member
          · exact known
          · exact (fresh other member).2⟩
      · rintro ⟨⟨absent, distinct⟩, fresh⟩
        exact ⟨distinct, fun other member =>
          ⟨fun same => absent (same ▸ member), fresh other (Or.inr member)⟩⟩

structure Snapshot where
  declarations : List Declaration
  distinct : (declarations.map Declaration.id).Nodup

namespace Snapshot

/-- The snapshot of these declarations; the first identity that repeats an earlier one is a
fault. -/
def ofList (declarations : List Declaration) : Except Fault Snapshot :=
  match found : firstRepeat [] (declarations.map Declaration.id) with
  | none => .ok ⟨declarations, (firstRepeat_eq_none_iff.mp found).1⟩
  | some id => .error (Cause.repeatedDeclaration.blame id)

def lookup (snapshot : Snapshot) (id : DeclId) : Option Declaration :=
  snapshot.declarations.find? (fun declaration => declaration.id == id)

/-- The declaration a type use refers to: the one it names as its declaration if the snapshot has
it, else the one with its qualified name. -/
def resolve (snapshot : Snapshot) (use : TypeUse) : Option Declaration :=
  use.declaration.bind snapshot.lookup <|> snapshot.lookup ⟨use.qualifiedName⟩

end Snapshot

end EffectModel
