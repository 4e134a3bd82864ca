import EffectModel.Proofs.Module.Build
import EffectModel.Proofs.Naming
import EffectModel.Proofs.Settings.Check

namespace EffectModel

variable {c d : Char} {rest : List Char} {name front back : String} {isInterface : Bool}
variable {mark : Char}

namespace Naming

/-- What an identifier may begin with. -/
def opensIdentifier (c : Char) : Bool := Text.isLetter c || c == '_'

/-- A letter or an underscore, and then letters, numerals and underscores. -/
def isIdentifier (name : String) : Bool :=
  match name.toList with
  | [] => false
  | first :: rest => opensIdentifier first && rest.all NamingRules.isIdentifierPart

open NamingRules (isIdentifierPart)

theorem isIdentifierPart_of_opens (opens : opensIdentifier c = true) :
    isIdentifierPart c = true := by
  simp only [opensIdentifier, Bool.or_eq_true] at opens
  rcases opens with letter | underscore
  · simp [isIdentifierPart, Text.isAlphanumeric, letter]
  · simp [isIdentifierPart, underscore]

theorem isIdentifier_iff : isIdentifier name = true ↔
    name.toList.head?.any opensIdentifier = true ∧ name.toList.all isIdentifierPart = true := by
  unfold isIdentifier
  cases name.toList with
  | nil => simp
  | cons first rest =>
    simp only [List.head?_cons, Option.any_some, List.all_cons, Bool.and_eq_true]
    constructor
    · exact fun ⟨opens, parts⟩ => ⟨opens, isIdentifierPart_of_opens opens, parts⟩
    · exact fun ⟨opens, _, parts⟩ => ⟨opens, parts⟩

theorem isIdentifierPart_of_mem (identifier : isIdentifier name = true)
    (member : c ∈ name.toList) : isIdentifierPart c = true :=
  List.all_eq_true.mp (isIdentifier_iff.mp identifier).2 c member

theorem opensIdentifier_eq_false_iff (part : isIdentifierPart c = true) :
    opensIdentifier c = false ↔ Text.isNumeral c = true ∧ Text.isLetter c = false := by
  simp only [isIdentifierPart, Text.isAlphanumeric, Bool.or_eq_true, beq_iff_eq] at part
  simp only [opensIdentifier, Bool.or_eq_false_iff, beq_eq_false_iff_ne]
  constructor
  · rintro ⟨unlettered, other⟩
    simpa [unlettered, other] using part
  · rintro ⟨numeral, unlettered⟩
    refine ⟨unlettered, ?_⟩
    rintro rfl
    exact absurd numeral (by decide +kernel)

theorem isBlank_of_isIdentifierPart (part : isIdentifierPart c = true) :
    Text.isBlank c = false := by
  simp only [isIdentifierPart, Bool.or_eq_true, beq_iff_eq] at part
  rcases part with alphanumeric | rfl
  · exact Text.isBlank_of_isAlphanumeric alphanumeric
  · decide +kernel

theorem isIdentifier_append (opens : isIdentifier front = true)
    (parts : back.toList.all isIdentifierPart = true) : isIdentifier (front ++ back) = true := by
  rw [isIdentifier_iff] at opens ⊢
  rw [String.toList_append, List.all_append, opens.2, parts]
  refine ⟨?_, rfl⟩
  cases chars : front.toList with
  | nil => simp [chars] at opens
  | cons first rest => simpa [chars] using opens.1

section InterfacePrefix

/-- A name that goes on, after the mark of interfaces, with a numeral that is no letter. -/
def MarksNumeral (mark : Char) (name : String) : Prop :=
  ∃ numeral rest, name.toList = mark :: numeral :: rest ∧
    Text.isNumeral numeral = true ∧ Text.isLetter numeral = false

theorem withoutInterfacePrefix_of_marked {next : Char}
    (marked : name.toList = mark :: next :: rest) :
    withoutInterfacePrefix name true mark = String.ofList (next :: rest) := by
  simp [withoutInterfacePrefix, marked]

theorem withoutInterfacePrefix_of_unmarked
    (unmarked : ¬ (isInterface = true ∧ ∃ next rest, name.toList = mark :: next :: rest)) :
    withoutInterfacePrefix name isInterface mark = name := by
  unfold withoutInterfacePrefix
  split
  · next first rest split =>
    -- a mark that nothing follows stays
    rw [if_neg]
    simp only [Bool.and_eq_true, beq_iff_eq, Bool.not_eq_true', List.isEmpty_eq_false_iff]
    rintro ⟨⟨interface, rfl⟩, more⟩
    obtain ⟨next, rest', rfl⟩ := List.exists_cons_of_ne_nil more
    exact unmarked ⟨interface, next, rest', split⟩
  · rfl

theorem withoutInterfacePrefix_sublist :
    (withoutInterfacePrefix name isInterface mark).toList.Sublist name.toList := by
  unfold withoutInterfacePrefix
  split
  · next first rest split =>
    split
    · simp [split]
    · rfl
  · rfl

/-- Without its prefix an identifier is one still, unless the prefix stands before a numeral. -/
theorem isIdentifier_withoutInterfacePrefix_iff (identifier : isIdentifier name = true) :
    isIdentifier (withoutInterfacePrefix name isInterface mark) = true ↔
      ¬ (isInterface = true ∧ MarksNumeral mark name) := by
  by_cases marked : isInterface = true ∧ ∃ next rest, name.toList = mark :: next :: rest
  · obtain ⟨rfl, next, rest, split⟩ := marked
    have parts : name.toList.all isIdentifierPart = true := (isIdentifier_iff.mp identifier).2
    simp only [split, List.all_cons, Bool.and_eq_true] at parts
    obtain ⟨_, part, parts⟩ := parts
    have opens : opensIdentifier next = true ↔
        ¬ (Text.isNumeral next = true ∧ Text.isLetter next = false) := by
      rw [← opensIdentifier_eq_false_iff part, Bool.not_eq_false]
    rw [withoutInterfacePrefix_of_marked split]
    simp [isIdentifier_iff, MarksNumeral, split, part, parts, opens]
  · rw [withoutInterfacePrefix_of_unmarked marked]
    simp only [identifier, true_iff]
    rintro ⟨interface, numeral, rest, split, -⟩
    exact marked ⟨interface, numeral, rest, split⟩

end InterfacePrefix

section CamelCase

open Text (toLower lowerAll dottedI)

theorem isIdentifierPart_of_mem_toLower (plain : c ≠ dottedI) (part : isIdentifierPart c = true)
    (member : d ∈ toLower c) : isIdentifierPart d = true := by
  rcases Text.toLower_cases c with dotted | same | ⟨small, lowered, letter, -⟩
  · exact absurd dotted plain
  · rw [same, List.mem_singleton] at member
    rwa [member]
  · rw [lowered, List.mem_singleton] at member
    simp [member, isIdentifierPart, Text.isAlphanumeric, letter]

theorem opensIdentifier_of_toLower (plain : c ≠ dottedI) (opens : opensIdentifier c = true) :
    (toLower c).head?.any opensIdentifier = true := by
  rcases Text.toLower_cases c with dotted | same | ⟨small, lowered, letter, -⟩
  · exact absurd dotted plain
  · simpa [same] using opens
  · simp [lowered, opensIdentifier, letter]

/-- The dot that a lowered capital leaves behind belongs to no identifier. -/
theorem exists_mem_toLower_dottedI : ∃ d ∈ toLower dottedI, isIdentifierPart d = false := by
  refine ⟨Char.ofNat 0x307, ?_, by decide +kernel⟩
  simp [Text.toLower_dottedI]

section Plain

variable (plain : dottedI ∉ loweredCapitals true name.toList)
include plain

theorem opensIdentifier_of_camelCase (opens : name.toList.head?.any opensIdentifier = true) :
    (camelCase name).toList.head?.any opensIdentifier = true := by
  have whole : loweredCapitals true name.toList ++ _ = name.toList :=
    loweredCapitals_append_drop name.toList
  rw [toList_camelCase]
  cases split : loweredCapitals true name.toList with
  | nil => simpa [lowerAll] using opens
  | cons c more =>
    have other : c ≠ dottedI := by
      rintro rfl
      exact plain (split ▸ List.mem_cons_self)
    rw [← whole, split, List.cons_append, List.head?_cons, Option.any_some] at opens
    have lowered : (toLower c).head?.any opensIdentifier = true :=
      opensIdentifier_of_toLower other opens
    cases small : toLower c with
    | nil => exact absurd small (Text.toLower_ne_nil c)
    | cons d _ => simpa [lowerAll, small] using lowered

theorem isIdentifierPart_of_camelCase (parts : ∀ c ∈ name.toList, isIdentifierPart c = true) :
    ∀ c ∈ (camelCase name).toList, isIdentifierPart c = true := by
  intro d member
  rw [toList_camelCase] at member
  rcases List.mem_append.mp member with lowered | kept
  · obtain ⟨c, capital, member⟩ := List.mem_flatMap.mp lowered
    have part : isIdentifierPart c = true := parts c (isPrefix_loweredCapitals.subset capital)
    have other : c ≠ dottedI := by
      rintro rfl
      exact plain capital
    exact isIdentifierPart_of_mem_toLower other part member
  · exact parts d (List.drop_subset _ _ kept)

end Plain

/-- Camel case keeps identifiers, unless it lowers a dotted capital I. -/
theorem isIdentifier_camelCase_iff (identifier : isIdentifier name = true) :
    isIdentifier (camelCase name) = true ↔ dottedI ∉ loweredCapitals true name.toList := by
  obtain ⟨opens, parts⟩ := isIdentifier_iff.mp identifier
  rw [List.all_eq_true] at parts
  rw [isIdentifier_iff, List.all_eq_true]
  constructor
  · rintro ⟨-, parts'⟩ dotted
    obtain ⟨d, left, none⟩ := exists_mem_toLower_dottedI
    have member : d ∈ (camelCase name).toList := by
      rw [toList_camelCase]
      exact List.mem_append_left _ (List.mem_flatMap.mpr ⟨dottedI, dotted, left⟩)
    simp [parts' d member] at none
  · intro plain
    exact ⟨opensIdentifier_of_camelCase plain opens, isIdentifierPart_of_camelCase plain parts⟩

end CamelCase

end Naming

namespace EffectModule

open Naming (isIdentifier opensIdentifier)

variable {settings : Settings} {snapshot : Snapshot} {container target : Declaration}
variable {note : Annotation} {built : EffectModule}

theorem propertyName_eq (wellNamed : isIdentifier target.name = true) :
    propertyName settings target = Naming.withoutInterfacePrefix target.name target.isInterface
      settings.naming.interfacePrefix := by
  apply Text.trim_eq_self
  intro c member
  apply Naming.isBlank_of_isIdentifierPart
  exact Naming.isIdentifierPart_of_mem wellNamed
    (Naming.withoutInterfacePrefix_sublist.subset member)

/-- What is derived for a target with an identifier for a name: the interface is one where the prefix
of capabilities opens an identifier, the property is one unless the mark of interfaces stands before a
numeral, and then the parameter is one unless a dotted capital I is lowered. -/
theorem isIdentifier_of_build (accepted : settings.check = .ok ())
    (success : build settings snapshot container note = .ok built)
    (held : target ∈ snapshot.declarations) (same : target.id = built.target)
    (wellNamed : isIdentifier target.name = true) :
    (settings.naming.capabilityPrefix.toList.head?.any opensIdentifier = true →
        isIdentifier built.identifiers.interface = true) ∧
      built.identifiers.property ≠ "" ∧
      built.identifiers.property.toList.all NamingRules.isIdentifierPart = true ∧
      (isIdentifier built.identifiers.property = true ↔
        ¬ (target.isInterface = true ∧
          Naming.MarksNumeral settings.naming.interfacePrefix target.name)) ∧
      (isIdentifier built.identifiers.property = true →
        (isIdentifier built.identifiers.parameter = true ↔
          Text.dottedI ∉ Naming.loweredCapitals true built.identifiers.property.toList)) := by
  obtain ⟨target', _, found, named, _, rfl⟩ := build_eq_ok_iff.mp success
  have held' : target' ∈ snapshot.declarations :=
    mem_of_destination (targetOf_eq_ok_iff.mp found).1
  obtain rfl : target = target' := Snapshot.eq_of_id_eq held held' same
  obtain ⟨_, _, _, naming, _⟩ := Settings.check_eq_ok_iff.mp accepted
  have parts : (propertyName settings target).toList.all NamingRules.isIdentifierPart = true := by
    rw [propertyName_eq wellNamed, List.all_eq_true]
    intro c member
    exact Naming.isIdentifierPart_of_mem wellNamed
      (Naming.withoutInterfacePrefix_sublist.subset member)
  refine ⟨fun opens => ?_, named, parts, ?_, ?_⟩
  · have capability : isIdentifier settings.naming.capabilityPrefix = true :=
      Naming.isIdentifier_iff.mpr ⟨opens, (NamingRules.check_eq_ok_iff.mp naming).2.2⟩
    exact Naming.isIdentifier_append capability parts
  · change isIdentifier (propertyName settings target) = true ↔ _
    rw [propertyName_eq wellNamed]
    exact Naming.isIdentifier_withoutInterfacePrefix_iff wellNamed
  · exact Naming.isIdentifier_camelCase_iff

end EffectModule

namespace Sample

/-- An interface that has a number for a name, but for the mark of interfaces. -/
def numbered : Declaration := { Declaration.ofId ⟨"App.I3D"⟩ with kind := .interfaceDecl }

/-- A class whose name begins with a dotted capital I. -/
def dotted : Declaration := Declaration.ofId ⟨"App.İstanbul"⟩

def targeting (target : Declaration) : Annotation :=
  { Annotation.bare "EffectsModule" with typeArgs := [target.asTypeUse] }

def namer : Declaration :=
  { Declaration.ofId ⟨"App.Namer"⟩ with annotations := [targeting numbered, targeting dotted] }

def named : Snapshot where
  declarations := [numbered, dotted, namer]
  distinct := by decide +kernel

end Sample

open EffectModule (build)
open Naming (isIdentifier)

/-- There are targets with identifiers for names whose modules have a property, or only a parameter,
that is no identifier. -/
theorem exists_build_not_isIdentifier :
    ({} : Settings).check = .ok () ∧
    (∃ built, build {} Sample.named Sample.namer (Sample.targeting Sample.numbered) = .ok built ∧
      built.target = Sample.numbered.id ∧ isIdentifier Sample.numbered.name = true ∧
      isIdentifier built.identifiers.property = false) ∧
    ∃ built, build {} Sample.named Sample.namer (Sample.targeting Sample.dotted) = .ok built ∧
      built.target = Sample.dotted.id ∧ isIdentifier Sample.dotted.name = true ∧
      isIdentifier built.identifiers.property = true ∧
      isIdentifier built.identifiers.parameter = false := by
  have fromNumbered : (build {} Sample.named Sample.namer (Sample.targeting Sample.numbered)).map
      (fun built => (built.target, built.identifiers)) =
        .ok (Sample.numbered.id, ⟨"IHas3D", "3D", "3D"⟩) := by decide +kernel
  have fromDotted : (build {} Sample.named Sample.namer (Sample.targeting Sample.dotted)).map
      (fun built => (built.target, built.identifiers)) =
        .ok (Sample.dotted.id, ⟨"IHasİstanbul", "İstanbul", "i̇stanbul"⟩) := by decide +kernel
  obtain ⟨first, success, given⟩ := map_eq_ok_iff.mp fromNumbered
  obtain ⟨second, success', given'⟩ := map_eq_ok_iff.mp fromDotted
  rw [Prod.mk.injEq] at given given'
  refine ⟨by decide +kernel, ⟨first, success, given.1, ?_, ?_⟩,
    second, success', given'.1, ?_, ?_, ?_⟩
  · decide +kernel
  · rw [given.2]
    decide +kernel
  · decide +kernel
  · rw [given'.2]
    decide +kernel
  · rw [given'.2]
    decide +kernel

theorem isIdentifier_of_build_dotted :
    ({} : Settings).check = .ok () ∧ isIdentifier Sample.dotted.name = true ∧
      ∃ built, build {} Sample.named Sample.namer (Sample.targeting Sample.dotted) = .ok built ∧
        isIdentifier built.identifiers.interface = true ∧
        isIdentifier built.identifiers.property = true ∧
        isIdentifier built.identifiers.parameter = false := by
  have accepted : ({} : Settings).check = .ok () := by decide +kernel
  have wellNamed : isIdentifier Sample.dotted.name = true := by decide +kernel
  have made : (build {} Sample.named Sample.namer (Sample.targeting Sample.dotted)).map
      (fun built => (built.target, built.identifiers.property)) =
        .ok (Sample.dotted.id, "İstanbul") := by decide +kernel
  obtain ⟨built, success, given⟩ := map_eq_ok_iff.mp made
  rw [Prod.mk.injEq] at given
  obtain ⟨interface, -, -, property, parameter⟩ := EffectModule.isIdentifier_of_build accepted
    success (by decide +kernel : Sample.dotted ∈ Sample.named.declarations) given.1.symm wellNamed
  have opened : isIdentifier built.identifiers.property = true := by
    have noInterface : ¬ Sample.dotted.isInterface = true := by decide +kernel
    exact property.mpr fun marked => noInterface marked.1
  refine ⟨accepted, wellNamed, built, success, interface (by decide +kernel), opened, ?_⟩
  rw [← Bool.not_eq_true, parameter opened, given.2]
  decide +kernel

end EffectModel
