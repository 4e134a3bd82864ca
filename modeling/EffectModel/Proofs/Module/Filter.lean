import EffectModel.Module.Build
import EffectModel.Proofs.Annotation
import Mathlib.Tactic.MkIffOfInductiveProp

namespace EffectModel

variable {value : AnnotationValue} {note : Annotation} {key includeKey excludeKey name : String}
variable {names : List String}

namespace AnnotationValue

theorem text?_eq_some_iff : value.text? = some name ↔ value = .text name := by
  cases value <;> simp [text?]

theorem mapM_text?_eq_some_iff {items : List AnnotationValue} :
    items.mapM text? = some names ↔ items = names.map .text := by
  induction items generalizing names with
  | nil => cases names <;> simp
  | cons item rest ih =>
    simp only [List.mapM_cons, Option.bind_eq_bind, Option.bind_eq_some_iff, text?_eq_some_iff, ih,
      Option.pure_def, Option.some_inj]
    constructor
    · rintro ⟨name, rfl, names, rfl, rfl⟩
      rfl
    · intro listed
      cases names with
      | nil => cases listed
      | cons name names =>
        obtain ⟨rfl, rfl⟩ := List.cons_eq_cons.mp listed
        exact ⟨name, rfl, names, rfl, rfl⟩

theorem listOf?_text?_eq_some_iff : value.listOf? text? = some names ↔
    value = .texts names ∨ ∃ name, value = .text name ∧ names = [name] := by
  cases value with
  | list items => simp [listOf?, texts, mapM_text?_eq_some_iff]
  | text name => simp [listOf?, text?, texts, eq_comm]
  | bool _ | int _ | type _ | null => simp [listOf?, text?, texts]

end AnnotationValue

namespace Annotation

/-- The names that an annotation lists under a key: all texts of a list of texts, or a text alone. Any
other value lists no names, and neither does a key without a value. -/
inductive Lists (note : Annotation) (key : String) : List String → Prop where
  | many {names : List String} (named : note.Names key (.texts names)) : Lists note key names
  | single {name : String} (named : note.Names key (.text name)) : Lists note key [name]
  | nothing (notMany : ∀ names, ¬ note.Names key (.texts names))
      (notSingle : ∀ name, ¬ note.Names key (.text name)) : Lists note key []

/-- A name is kept if it is included, or if no name is included and it is not excluded. -/
inductive Keeps (note : Annotation) (includeKey excludeKey name : String) : Prop where
  | included {names : List String} (lists : note.Lists includeKey names) (member : name ∈ names)
  | notExcluded {names : List String} (free : note.Lists includeKey [])
      (lists : note.Lists excludeKey names) (absent : name ∉ names)

theorem readNames_eq_some_iff :
    (note.namedValue key).bind (AnnotationValue.listOf? AnnotationValue.text?) = some names ↔
      note.Names key (.texts names) ∨ ∃ name, note.Names key (.text name) ∧ names = [name] := by
  simp only [Option.bind_eq_some_iff, namedValue_eq_some_iff,
    AnnotationValue.listOf?_text?_eq_some_iff]
  constructor
  · rintro ⟨value, named, rfl | ⟨name, rfl, rfl⟩⟩
    · exact .inl named
    · exact .inr ⟨name, named, rfl⟩
  · rintro (named | ⟨name, named, rfl⟩)
    · exact ⟨_, named, .inl rfl⟩
    · exact ⟨_, named, .inr ⟨name, rfl, rfl⟩⟩

theorem namesUnder_of_lists (lists : note.Lists key names) :
    MethodFilter.namesUnder note key = names := by
  unfold MethodFilter.namesUnder
  cases lists with
  | many named => rw [readNames_eq_some_iff.mpr (.inl named), Option.getD_some]
  | single named => rw [readNames_eq_some_iff.mpr (.inr ⟨_, named, rfl⟩), Option.getD_some]
  | nothing notMany notSingle =>
    have unread :
        (note.namedValue key).bind (AnnotationValue.listOf? AnnotationValue.text?) = none := by
      apply Option.eq_none_iff_forall_ne_some.mpr
      intro names read
      rcases readNames_eq_some_iff.mp read with named | ⟨name, named, _⟩
      · exact notMany names named
      · exact notSingle name named
    rw [unread, Option.getD_none]

theorem exists_lists (note : Annotation) (key : String) : ∃ names, note.Lists key names := by
  by_cases many : ∃ names, note.Names key (.texts names)
  · obtain ⟨names, named⟩ := many
    exact ⟨names, .many named⟩
  by_cases single : ∃ name, note.Names key (.text name)
  · obtain ⟨name, named⟩ := single
    exact ⟨[name], .single named⟩
  · exact ⟨[], .nothing (not_exists.mp many) (not_exists.mp single)⟩

theorem lists_iff : note.Lists key names ↔ MethodFilter.namesUnder note key = names := by
  constructor
  · exact namesUnder_of_lists
  · rintro rfl
    obtain ⟨names, lists⟩ := exists_lists note key
    rwa [namesUnder_of_lists lists]

theorem keeps_iff : note.Keeps includeKey excludeKey name ↔
    (MethodFilter.ofAnnotation note includeKey excludeKey).keeps name = true := by
  unfold MethodFilter.keeps MethodFilter.isIncludeOnly MethodFilter.ofAnnotation
  by_cases free : MethodFilter.namesUnder note includeKey = []
  · simp only [free, List.isEmpty_nil, Bool.not_true, Bool.false_eq_true, if_false,
      Bool.not_eq_true', ← Bool.not_eq_true, List.contains_iff_mem]
    constructor
    · rintro (⟨lists, member⟩ | ⟨_, lists, absent⟩)
      · cases free.symm.trans (lists_iff.mp lists)
        cases member
      · rwa [lists_iff.mp lists]
    · exact .notExcluded (lists_iff.mpr free) (lists_iff.mpr rfl)
  · have some : (!(MethodFilter.namesUnder note includeKey).isEmpty) = true := by simpa using free
    rw [if_pos some, List.contains_iff_mem]
    constructor
    · rintro (⟨lists, member⟩ | ⟨none, _, _⟩)
      · rwa [lists_iff.mp lists]
      · exact (free (lists_iff.mp none)).elim
    · exact .included (lists_iff.mpr rfl)

instance : Decidable (note.Keeps includeKey excludeKey name) := decidable_of_iff _ keeps_iff.symm

end Annotation

namespace EffectModule

variable {settings : Settings} {target : Declaration} {method : Method}

/-- A method that an annotation makes an effect of, provided it can be lifted. -/
@[mk_iff]
structure Offered (settings : Settings) (note : Annotation) (method : Method) : Prop where
  ofInstance : method.isStatic = false
  visible : method.access = .isPublic
  kept : note.Keeps settings.vocabulary.includeKey settings.vocabulary.excludeKey method.name

instance : Decidable (Offered settings note method) := decidable_of_iff _ (offered_iff _ _ _).symm

/-- What an annotation keeps of a target is what it offers, in the order of the target. -/
theorem keptMethods_eq : keptMethods target (MethodFilter.ofAnnotation note
    settings.vocabulary.includeKey settings.vocabulary.excludeKey) =
      target.methods.filter (fun method => decide (Offered settings note method)) := by
  rw [keptMethods, Declaration.instanceMethods, List.filter_filter]
  apply List.filter_congr
  intro method _
  rw [Bool.eq_iff_iff, decide_eq_true_eq, offered_iff, Annotation.keeps_iff]
  simp [and_comm]

end EffectModule

end EffectModel
