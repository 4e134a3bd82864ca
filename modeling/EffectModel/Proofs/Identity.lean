import EffectModel.Proofs.Lookup
import Mathlib.Data.List.TakeWhile

namespace EffectModel

section Definitions

/-- The last dot of an identity is its character at a position. -/
def DeclId.LastDotAt (id : DeclId) (position : Nat) : Prop :=
  id.text.toList[position]? = some '.' ∧ ∀ later > position, id.text.toList[later]? ≠ some '.'

/-- What stands before the last dot of an identity and what stands behind it. -/
inductive DeclId.FallsInto : DeclId → String → String → Prop where
  | whole {name : String} (undotted : '.' ∉ name.toList) : FallsInto ⟨name⟩ "" name
  | parted {scope name : String} (undotted : '.' ∉ name.toList) :
      FallsInto ⟨scope ++ "." ++ name⟩ scope name

/-- A declaration that has its name and its namespace from its identity. -/
structure Declaration.IsNamedBy (declaration : Declaration) (id : DeclId) : Prop where
  id_eq : declaration.id = id
  name_eq : declaration.name = id.simpleName
  scope_eq : declaration.scope = id.enclosing

/-- A use that writes a type out with the name and the namespace of its declaration, but does not
point to the declaration. -/
structure TypeUse.WritesOut (use : TypeUse) (declaration : Declaration) : Prop where
  name_eq : use.name = declaration.name
  scope_eq : use.scope = declaration.scope
  unresolved : use.declaration = none

end Definitions

variable {id : DeclId} {scope name : String} {front back rest : List Char}
variable {declaration : Declaration} {use : TypeUse} {snapshot : Snapshot}

namespace DeclId

theorem exists_parts {chars : List Char} (dotted : '.' ∈ chars) :
    ∃ front back, chars = front ++ '.' :: back ∧ '.' ∉ back := by
  obtain ⟨back, front, split, undotted⟩ := List.eq_append_cons_of_mem (List.mem_reverse.mpr dotted)
  refine ⟨front.reverse, back.reverse, ?_, fun member => undotted (List.mem_reverse.mp member)⟩
  have chars_eq : chars = (back ++ '.' :: front).reverse := List.reverse_eq_iff.mp split
  simp [chars_eq]

theorem passed_of_undotted (undotted : '.' ∉ back) : ∀ c ∈ back.reverse, decide (c ≠ '.') = true := by
  intro c member
  exact decide_eq_true fun same => undotted (same ▸ List.mem_reverse.mp member)

theorem FallsInto.parts_eq (falls : id.FallsInto scope name) :
    id.enclosing = scope ∧ id.simpleName = name := by
  cases falls with
  | whole undotted =>
    have passed := passed_of_undotted undotted
    simp only [enclosing, simpleName, List.takeWhile_eq_self_iff.mpr passed,
      List.dropWhile_eq_nil_iff.mpr passed]
    simp
  | parted undotted =>
    have passed := passed_of_undotted undotted
    have split : (scope ++ "." ++ name).toList.reverse =
        name.toList.reverse ++ '.' :: scope.toList.reverse := by simp
    simp only [enclosing, simpleName, split, List.takeWhile_append_of_pos passed,
      List.dropWhile_append_of_pos passed]
    simp

theorem exists_fallsInto (id : DeclId) : ∃ scope name, id.FallsInto scope name := by
  obtain ⟨text⟩ := id
  by_cases dotted : '.' ∈ text.toList
  · obtain ⟨front, back, split, undotted⟩ := exists_parts dotted
    have text_eq : text = String.ofList front ++ "." ++ String.ofList back := by
      rw [← String.toList_inj, split]
      simp
    have undotted' : '.' ∉ (String.ofList back).toList := by simpa using undotted
    rw [text_eq]
    exact ⟨_, _, .parted undotted'⟩
  · exact ⟨_, _, .whole dotted⟩

/-- An identity falls into its namespace and its name, and into no others. -/
theorem fallsInto_iff : id.FallsInto scope name ↔ id.enclosing = scope ∧ id.simpleName = name := by
  constructor
  · exact FallsInto.parts_eq
  · obtain ⟨_, _, falls⟩ := exists_fallsInto id
    obtain ⟨rfl, rfl⟩ := falls.parts_eq
    rintro ⟨rfl, rfl⟩
    exact falls

theorem FallsInto.undotted (falls : id.FallsInto scope name) : '.' ∉ name.toList := by
  cases falls with
  | whole undotted => exact undotted
  | parted undotted => exact undotted

theorem lastDotAt_of_undotted (scope : String) (undotted : '.' ∉ name.toList) :
    LastDotAt ⟨scope ++ "." ++ name⟩ scope.toList.length := by
  refine ⟨by simp, fun later behind there => ?_⟩
  obtain ⟨before, rfl⟩ : ∃ before, later = scope.toList.length + (before + 1) :=
    ⟨later - scope.toList.length - 1, by omega⟩
  have inName : name.toList[before]? = some '.' := by
    simpa [List.getElem?_append_right] using there
  exact undotted (List.mem_of_getElem? inName)

theorem LastDotAt.unique {position other : Nat} (last : id.LastDotAt position)
    (last' : id.LastDotAt other) : position = other := by
  rcases Nat.lt_trichotomy position other with before | same | behind
  · exact absurd last'.1 (last.2 other before)
  · exact same
  · exact absurd last.1 (last'.2 position behind)

/-- The parts of an identity make it up again unless nothing stands before its last dot. -/
theorem FallsInto.qualifiedName_eq_iff (falls : id.FallsInto scope name) (named : use.name = name)
    (within : use.scope = scope) : use.qualifiedName = id.text ↔ ¬ id.LastDotAt 0 := by
  cases falls with
  | whole undotted =>
    have none : ¬ LastDotAt ⟨name⟩ 0 := fun last => undotted (List.mem_of_getElem? last.1)
    simp [TypeUse.qualifiedName, named, within, none]
  | parted undotted =>
    have last : LastDotAt ⟨scope ++ "." ++ name⟩ scope.toList.length :=
      lastDotAt_of_undotted _ undotted
    by_cases bare : scope = ""
    · subst bare
      have shorter : name ≠ "" ++ "." ++ name := by
        rw [ne_eq, ← String.toList_inj]
        simp
      have same : use.qualifiedName = name := by simp [TypeUse.qualifiedName, named, within]
      rw [same]
      exact iff_of_false shorter (not_not_intro last)
    · have further : ¬ LastDotAt ⟨scope ++ "." ++ name⟩ 0 := by
        intro first
        have none : scope.toList.length = 0 := last.unique first
        simp [bare] at none
      simp [TypeUse.qualifiedName, named, within, bare, further]

end DeclId

namespace Declaration

theorem isNamedBy_ofId (id : DeclId) : (ofId id).IsNamedBy id := ⟨rfl, rfl, rfl⟩

/-- A use that writes a declaration out leads to it where the parts of its identity make it up. -/
theorem resolve_of_writesOut (held : declaration ∈ snapshot.declarations)
    (named : declaration.IsNamedBy id) (writes : use.WritesOut declaration) :
    snapshot.resolve use = some declaration ↔ use.qualifiedName = id.text := by
  have found : snapshot.resolve use = snapshot.lookup ⟨use.qualifiedName⟩ := by
    simp [Snapshot.resolve, writes.unresolved]
  rw [found, Snapshot.lookup_eq_some_iff, named.id_eq]
  constructor
  · rintro ⟨-, same⟩
    exact (congrArg DeclId.text same).symm
  · intro same
    exact ⟨held, by rw [same]⟩

end Declaration

/-- The name in an identity holds no dot. The name and the namespace of a declaration that has them from
its identity make the identity up again exactly where its last dot is not its first character, and a
use that writes them out leads to the declaration in just that case. What a dot puts together with a
name that holds none falls into the same parts again. -/
theorem DeclId.parts_decide (id : DeclId) :
    '.' ∉ id.simpleName.toList ∧
    ((Declaration.ofId id).asTypeUse.qualifiedName = id.text ↔ ¬ id.LastDotAt 0) ∧
    (∀ (snapshot : Snapshot), ∀ declaration ∈ snapshot.declarations, declaration.IsNamedBy id →
      ∀ use : TypeUse, use.WritesOut declaration →
        (snapshot.resolve use = some declaration ↔ ¬ id.LastDotAt 0)) ∧
    ∀ scope name : String, '.' ∉ name.toList → id.text = scope ++ "." ++ name →
      id.enclosing = scope ∧ id.simpleName = name := by
  have falls : id.FallsInto id.enclosing id.simpleName := fallsInto_iff.mpr ⟨rfl, rfl⟩
  refine ⟨falls.undotted, falls.qualifiedName_eq_iff rfl rfl, ?_, ?_⟩
  · intro snapshot declaration held named use writes
    rw [Declaration.resolve_of_writesOut held named writes]
    apply falls.qualifiedName_eq_iff
    · exact writes.name_eq.trans named.name_eq
    · exact writes.scope_eq.trans named.scope_eq
  · intro scope name undotted same
    have joined : id = ⟨scope ++ "." ++ name⟩ := by rw [← same]
    rw [joined]
    exact (FallsInto.parted undotted).parts_eq

namespace Sample

/-- The second one has its last dot in front. -/
def dottedClocks : Snapshot where
  declarations := [.ofId ⟨"App..Clock"⟩, .ofId ⟨".Clock"⟩]
  distinct := by decide

def writtenOut (declaration : Declaration) : TypeUse :=
  { TypeUse.named declaration.name declaration.kind.typeKind with scope := declaration.scope }

theorem writesOut_writtenOut (declaration : Declaration) :
    (writtenOut declaration).WritesOut declaration := ⟨rfl, rfl, rfl⟩

end Sample

open DeclId (parts_decide lastDotAt_of_undotted) in
theorem parts_decide_clocks :
    (Sample.dottedClocks.resolve (Sample.writtenOut (.ofId ⟨"App..Clock"⟩)) =
      some (.ofId ⟨"App..Clock"⟩)) ∧
    (Sample.dottedClocks.resolve (Sample.writtenOut (.ofId ⟨".Clock"⟩)) ≠ some (.ofId ⟨".Clock"⟩)) ∧
    (DeclId.mk "App..Clock").enclosing = "App." ∧ (DeclId.mk "App..Clock").simpleName = "Clock" := by
  have undotted : '.' ∉ "Clock".toList := by decide
  have last : DeclId.LastDotAt ⟨"App..Clock"⟩ 4 := lastDotAt_of_undotted "App." undotted
  have first : DeclId.LastDotAt ⟨".Clock"⟩ 0 := lastDotAt_of_undotted "" undotted
  have further : ¬ DeclId.LastDotAt ⟨"App..Clock"⟩ 0 := fun first => nomatch last.unique first
  obtain ⟨-, -, leads, parts⟩ := parts_decide ⟨"App..Clock"⟩
  obtain ⟨-, -, strays, -⟩ := parts_decide ⟨".Clock"⟩
  refine ⟨?_, ?_, parts "App." "Clock" undotted rfl⟩
  · exact (leads Sample.dottedClocks _ (by simp [Sample.dottedClocks]) (Declaration.isNamedBy_ofId _) _
      (Sample.writesOut_writtenOut _)).mpr further
  · intro found
    exact (strays Sample.dottedClocks _ (by simp [Sample.dottedClocks]) (Declaration.isNamedBy_ofId _) _
      (Sample.writesOut_writtenOut _)).mp found first

end EffectModel
