import EffectModel.Proofs.Lifting.Classification
import EffectModel.Proofs.Module.Fault
import EffectModel.Proofs.Module.Filter
import EffectModel.Proofs.Module.Identifiers

namespace EffectModel

namespace EffectModule

section Definitions

/-- What is left of the name of a target. That of an interface loses the mark that it opens with, but
not where nothing follows the mark. -/
inductive StemOf (mark : Char) (target : Declaration) : List Char → Prop where
  | marked {next : Char} {rest : List Char} (interface : target.kind = .interfaceDecl)
      (name : target.name.toList = mark :: next :: rest) : StemOf mark target (next :: rest)
  | whole (unmarked : ¬ (target.kind = .interfaceDecl ∧
      ∃ next rest, target.name.toList = mark :: next :: rest)) : StemOf mark target target.name.toList

variable (settings : Settings) (snapshot : Snapshot)

/-- A target has a name to offer: what is left of its name is not all white space. -/
def HasName (target : Declaration) : Prop :=
  ∃ stem, StemOf settings.naming.interfacePrefix target stem ∧ ∃ c ∈ stem, Text.isBlank c = false

/-- The type use that an annotation gives, where it is understood. -/
structure Gives (note : Annotation) (use : TypeUse) : Prop where
  refers : note.Refers settings.vocabulary.targetKey use
  understood : use.kind ≠ .error

/-- A declaration that an annotation can make a module of, provided its methods can be lifted. -/
structure Targets (note : Annotation) (target : Declaration) : Prop where
  given : ∃ use, Gives settings note use ∧ snapshot.LeadsTo use target
  offers : target.kind ≠ .enumDecl
  named : HasName settings target

/-- The first method of a target that an annotation offers and that cannot be lifted. -/
structure FirstUnliftable (note : Annotation) (target : Declaration) (method : Method) : Prop where
  first : ∃ before after, target.methods = before ++ method :: after ∧ ∀ earlier ∈ before,
    Offered settings note earlier → ¬ settings.lifting.AwaitsUnknown earlier.returnType
  offered : Offered settings note method
  unliftable : settings.lifting.AwaitsUnknown method.returnType

/-- What an annotation fails by. Each cause rules out those before it. -/
inductive FailsBy (note : Annotation) : Cause → Prop where
  | noTarget (ungiven : ∀ use, ¬ Gives settings note use) : FailsBy note .noTarget
  | unknownTarget {use : TypeUse} (gives : Gives settings note use)
      (unknown : ∀ found, snapshot.LeadsTo use found → found.kind = .enumDecl) :
      FailsBy note (.unknownTarget use.display)
  | namelessTarget {use : TypeUse} {target : Declaration} (gives : Gives settings note use)
      (leads : snapshot.LeadsTo use target) (offers : target.kind ≠ .enumDecl)
      (nameless : ¬ HasName settings target) : FailsBy note (.namelessTarget target.id)
  | unclassified {target : Declaration} {method : Method}
      (targets : Targets settings snapshot note target)
      (first : FirstUnliftable settings note target method) :
      FailsBy note (.unclassified method.name method.returnType.display)

end Definitions

variable {settings : Settings} {snapshot : Snapshot} {container target : Declaration}
variable {note : Annotation} {method : Method} {use : TypeUse} {fault : Fault} {owner : DeclId}
variable {mark : Char} {stem : List Char}

section Name

theorem stemOf_iff : StemOf mark target stem ↔
    (Naming.withoutInterfacePrefix target.name target.isInterface mark).toList = stem := by
  by_cases marked : target.kind = .interfaceDecl ∧
      ∃ next rest, target.name.toList = mark :: next :: rest
  · obtain ⟨interface, next, rest, name⟩ := marked
    have isInterface : target.isInterface = true := by simp [Declaration.isInterface, interface]
    rw [isInterface, Naming.withoutInterfacePrefix_of_marked name, String.toList_ofList]
    constructor
    · rintro (⟨_, name'⟩ | unmarked)
      · cases name.symm.trans name'
        rfl
      · exact (unmarked ⟨interface, next, rest, name⟩).elim
    · rintro rfl
      exact .marked interface name
  · rw [Naming.withoutInterfacePrefix_of_unmarked (by simpa [Declaration.isInterface] using marked)]
    constructor
    · rintro (⟨interface, name⟩ | _)
      · exact (marked ⟨interface, _, _, name⟩).elim
      · rfl
    · rintro rfl
      exact .whole marked

theorem hasName_iff : HasName settings target ↔ propertyName settings target ≠ "" := by
  rw [propertyName, ne_eq, Text.trim_eq_empty_iff]
  simp [HasName, stemOf_iff]

end Name

section Target

theorem gives_iff : Gives settings note use ↔
    note.usableReference settings.vocabulary.targetKey = some use := by
  constructor
  · rintro ⟨refers, understood⟩
    exact Annotation.usableReference_eq_some_iff.mpr
      ⟨refers, Bool.eq_false_iff.mpr (TypeUse.isError_iff.not.mpr understood)⟩
  · intro usable
    obtain ⟨refers, understood⟩ := Annotation.usableReference_eq_some_iff.mp usable
    exact ⟨refers, TypeUse.isError_iff.not.mp (Bool.eq_false_iff.mp understood)⟩

theorem targetOf_eq_ok_iff_given : targetOf settings snapshot container note = .ok target ↔
    (∃ use, Gives settings note use ∧ snapshot.LeadsTo use target) ∧ target.kind ≠ .enumDecl := by
  simp only [targetOf_eq_ok_iff, destination, Option.bind_eq_some_iff, gives_iff,
    Snapshot.resolve_eq_some_iff]

theorem targets_iff : Targets settings snapshot note target ↔
    targetOf settings snapshot container note = .ok target ∧ propertyName settings target ≠ "" := by
  rw [targetOf_eq_ok_iff_given, ← hasName_iff]
  constructor
  · rintro ⟨given, offers, named⟩
    exact ⟨⟨given, offers⟩, named⟩
  · rintro ⟨⟨given, offers⟩, named⟩
    exact ⟨given, offers, named⟩

/-- There is no target where none is given, and where the one that is given cannot be found or is an
enumeration. -/
theorem targetOf_eq_error_iff : targetOf settings snapshot container note = .error fault ↔
    (∀ use, ¬ Gives settings note use) ∧ Cause.noTarget.blame container.id = fault ∨
      ∃ use, Gives settings note use ∧
        (∀ found, snapshot.LeadsTo use found → found.kind = .enumDecl) ∧
        (Cause.unknownTarget use.display).blame container.id = fault := by
  simp only [targetOf, bind_eq_error_iff, orFault_eq_error_iff, orFault_eq_ok_iff, ← gives_iff,
    Option.eq_none_iff_forall_ne_some, Option.filter_eq_some_iff, ne_eq,
    Snapshot.resolve_eq_some_iff, decide_eq_true_eq, not_and, Decidable.not_not]

end Target

section Methods

/-- The first item that a filter leaves in a list is the first one of the list that passes it. -/
private theorem filter_split_iff {α : Type} {kept bad : α → Prop} [DecidablePred kept]
    {items : List α} {item : α} :
    (∃ before after, items.filter (fun item => decide (kept item)) = before ++ item :: after ∧
        ∀ earlier ∈ before, ¬ bad earlier) ↔
      kept item ∧ ∃ before after, items = before ++ item :: after ∧
        ∀ earlier ∈ before, kept earlier → ¬ bad earlier := by
  constructor
  · rintro ⟨before, after, split, passed⟩
    -- what the filter drops may stand before the item, in either of two parts
    obtain ⟨front, back, rfl, rfl, cut⟩ := List.filter_eq_append_iff.mp split
    obtain ⟨between, rest, rfl, dropped, kept', -⟩ := List.filter_eq_cons_iff.mp cut
    refine ⟨by simpa using kept', front ++ between, rest, by simp, fun earlier member held => ?_⟩
    rcases List.mem_append.mp member with ahead | ahead
    · exact passed earlier (List.mem_filter.mpr ⟨ahead, by simpa using held⟩)
    · exact (dropped earlier ahead (by simpa using held)).elim
  · rintro ⟨kept', before, after, rfl, passed⟩
    refine ⟨_, _, by rw [List.filter_append, List.filter_cons_of_pos (by simpa using kept')], ?_⟩
    intro earlier member
    obtain ⟨ahead, held⟩ := List.mem_filter.mp member
    exact passed earlier ahead (by simpa using held)

theorem exists_effectOf_iff : (∃ effect, effectOf settings owner method = .ok effect) ↔
    ¬ settings.lifting.AwaitsUnknown method.returnType := by
  rw [← LiftingRules.classify?_eq_none_iff]
  cases made : effectOf settings owner method with
  | error fault => simp [(effectOf_eq_error_iff.mp made).1]
  | ok effect =>
    refine iff_of_true ⟨effect, rfl⟩ fun unliftable => ?_
    cases made.symm.trans (effectOf_eq_error_iff.mpr ⟨unliftable, rfl⟩)

theorem exists_effectsOf_iff :
    (∃ effects, effectsOf settings owner target (MethodFilter.ofAnnotation note
        settings.vocabulary.includeKey settings.vocabulary.excludeKey) = .ok effects) ↔
      ∀ method ∈ target.methods, Offered settings note method →
        ¬ settings.lifting.AwaitsUnknown method.returnType := by
  simp only [effectsOf, bind_eq_ok_iff, Except.ok.injEq, exists_comm, exists_and_left, exists_eq',
    and_true]
  rw [exists_mapM_eq_ok_iff, keptMethods_eq]
  simp only [exists_effectOf_iff, List.mem_filter, decide_eq_true_eq, and_imp]

theorem effectsOf_eq_error_iff_first :
    effectsOf settings owner target (MethodFilter.ofAnnotation note
        settings.vocabulary.includeKey settings.vocabulary.excludeKey) = .error fault ↔
      ∃ method, FirstUnliftable settings note target method ∧
        (Cause.unclassified method.name method.returnType.display).blame owner = fault := by
  rw [effectsOf_eq_error_iff, keptMethods_eq, mapM_eq_error_iff]
  simp only [exists_effectOf_iff, effectOf_eq_error_iff, LiftingRules.classify?_eq_none_iff]
  constructor
  · rintro ⟨before, method, after, split, passed, unliftable, rfl⟩
    obtain ⟨offered, first⟩ := filter_split_iff.mp ⟨before, after, split, passed⟩
    exact ⟨method, ⟨first, offered, unliftable⟩, rfl⟩
  · rintro ⟨method, ⟨first, offered, unliftable⟩, rfl⟩
    obtain ⟨before, after, split, passed⟩ := filter_split_iff.mpr ⟨offered, first⟩
    exact ⟨before, method, after, split, passed, unliftable, rfl⟩

end Methods

theorem build_eq_error_iff_failsBy : build settings snapshot container note = .error fault ↔
    ∃ cause, FailsBy settings snapshot note cause ∧ cause.blame container.id = fault := by
  rw [build_eq_error_iff]
  simp only [targetOf_eq_error_iff, targetOf_eq_ok_iff_given, effectsOf_eq_error_iff_first]
  constructor
  · rintro ((⟨ungiven, rfl⟩ | ⟨use, gives, unknown, rfl⟩) |
      ⟨target, ⟨⟨use, gives, leads⟩, offers⟩, ⟨nameless, rfl⟩ | ⟨named, method, first, rfl⟩⟩)
    · exact ⟨_, .noTarget ungiven, rfl⟩
    · exact ⟨_, .unknownTarget gives unknown, rfl⟩
    · exact ⟨_, .namelessTarget gives leads offers (by simpa [hasName_iff] using nameless), rfl⟩
    · exact ⟨_, .unclassified ⟨⟨use, gives, leads⟩, offers, hasName_iff.mpr named⟩ first, rfl⟩
  · rintro ⟨cause, fails, rfl⟩
    cases fails with
    | noTarget ungiven => exact .inl (.inl ⟨ungiven, rfl⟩)
    | unknownTarget gives unknown => exact .inl (.inr ⟨_, gives, unknown, rfl⟩)
    | namelessTarget gives leads offers nameless =>
      exact .inr ⟨_, ⟨⟨_, gives, leads⟩, offers⟩, .inl ⟨by simpa [hasName_iff] using nameless, rfl⟩⟩
    | unclassified targets first =>
      obtain ⟨given, offers, named⟩ := targets
      exact .inr ⟨_, ⟨given, offers⟩, .inr ⟨hasName_iff.mp named, _, first, rfl⟩⟩

theorem exists_build_iff : (∃ built, build settings snapshot container note = .ok built) ↔
    ∃ target, Targets settings snapshot note target ∧ ∀ method ∈ target.methods,
      Offered settings note method → ¬ settings.lifting.AwaitsUnknown method.returnType := by
  constructor
  · rintro ⟨built, success⟩
    obtain ⟨target, effects, targeted, named, lifted, _⟩ := build_eq_ok_iff.mp success
    exact ⟨target, targets_iff.mpr ⟨targeted, named⟩, exists_effectsOf_iff.mp ⟨effects, lifted⟩⟩
  · rintro ⟨target, targets, liftable⟩
    obtain ⟨targeted, named⟩ := targets_iff.mp targets
    obtain ⟨effects, lifted⟩ := exists_effectsOf_iff.mpr liftable
    exact ⟨_, build_eq_ok_iff.mpr ⟨target, effects, targeted, named, lifted, rfl⟩⟩

theorem Gives.unique {other : TypeUse} (gives : Gives settings note use)
    (gives' : Gives settings note other) : use = other :=
  Option.some_inj.mp ((gives_iff.mp gives).symm.trans (gives_iff.mp gives'))

/-- A fault is a matter of configuration where the annotation has no target to make a module of. -/
theorem FailsBy.kind_iff {cause : Cause} (fails : FailsBy settings snapshot note cause) :
    cause.kind = .configuration ↔ ¬ ∃ target, Targets settings snapshot note target := by
  cases fails with
  | noTarget ungiven =>
    refine iff_of_true rfl ?_
    rintro ⟨target, ⟨use, gives, _⟩, _, _⟩
    exact ungiven use gives
  | unknownTarget gives unknown =>
    refine iff_of_true rfl ?_
    rintro ⟨target, ⟨use, gives', leads⟩, offers, _⟩
    cases gives.unique gives'
    exact offers (unknown target leads)
  | namelessTarget gives leads offers nameless =>
    refine iff_of_true rfl ?_
    rintro ⟨target, ⟨use, gives', leads'⟩, _, named⟩
    cases gives.unique gives'
    cases leads.unique leads'
    exact nameless named
  | unclassified targets first => exact iff_of_false nofun (not_not_intro ⟨_, targets⟩)

/-- An annotation makes a module exactly where it has a target all of whose methods that it offers can
be lifted. Otherwise its container is to blame: for the configuration where there is no target, and
else for the first method that is offered and cannot be lifted. A container has all modules of its
annotations in their order, or the fault of the first annotation that makes none. -/
theorem build_decides (settings : Settings) (snapshot : Snapshot) (container : Declaration) :
    (∀ note, ((∃ built, build settings snapshot container note = .ok built) ↔
        ∃ target, Targets settings snapshot note target ∧ ∀ method ∈ target.methods,
          Offered settings note method → ¬ settings.lifting.AwaitsUnknown method.returnType) ∧
      (∀ fault, build settings snapshot container note = .error fault ↔
        ∃ cause, FailsBy settings snapshot note cause ∧ cause.blame container.id = fault) ∧
      ∀ cause, FailsBy settings snapshot note cause →
        (cause.kind = .configuration ↔ ¬ ∃ target, Targets settings snapshot note target)) ∧
    ((∃ modules, buildAll settings snapshot container = .ok modules) ↔
      ∀ note ∈ container.annotationsOf settings.vocabulary.moduleKind,
        ∃ built, build settings snapshot container note = .ok built) ∧
    (∀ modules, buildAll settings snapshot container = .ok modules ↔ List.Forall₂
      (fun note built => build settings snapshot container note = .ok built)
      (container.annotationsOf settings.vocabulary.moduleKind) modules) ∧
    ∀ fault, buildAll settings snapshot container = .error fault ↔
      ∃ note, FirstFailing settings snapshot container note ∧
        build settings snapshot container note = .error fault := by
  refine ⟨fun note => ⟨exists_build_iff, fun fault => build_eq_error_iff_failsBy,
    fun cause => FailsBy.kind_iff⟩, exists_mapM_eq_ok_iff, fun modules => mapM_eq_ok_iff,
    fun fault => ?_⟩
  constructor
  · exact exists_firstFailing
  · rintro ⟨note, failing, failed⟩
    obtain ⟨other, failed', same⟩ := failing.buildAll_eq
    cases failed.symm.trans failed'
    exact same

end EffectModule

namespace Sample

/-- A method that is awaited for something that is left out. -/
def unlifted (name : String) : Method :=
  .returning name { TypeUse.named "Task" .classType with arity := 1 }

/-- A target with methods that cannot be lifted; two of them are not to be offered at all. -/
def archive : Declaration :=
  { Declaration.ofId ⟨"App.IArchive"⟩ with
    kind := .interfaceDecl
    methods := [{ unlifted "Open" with isStatic := true },
      { unlifted "Seek" with access := .isPrivate },
      .returning "Size" (.named "int" .structType), unlifted "Load", unlifted "Save"] }

/-- An annotation that makes a module of the archive but for some methods. -/
def archiving (excluded : AnnotationValue) : Annotation :=
  { targeting archive with named := [⟨"exclude", excluded⟩] }

def aimless : Annotation := .bare "EffectsModule"

def archivist : Declaration :=
  { Declaration.ofId ⟨"App.Archivist"⟩ with
    annotations := [archiving (.texts ["Load", "Save"]), archiving (.text "Load"), aimless] }

def archived : Snapshot where
  declarations := [archive, archivist]
  distinct := by decide +kernel

end Sample

open EffectModule (build buildAll build_decides Targets FailsBy)

theorem build_decides_archive :
    (∃ built, build {} Sample.archived Sample.archivist
      (Sample.archiving (.texts ["Load", "Save"])) = .ok built) ∧
    (∃ target, Targets {} Sample.archived (Sample.archiving (.text "Load")) target) ∧
    build {} Sample.archived Sample.archivist (Sample.archiving (.text "Load")) =
      .error ((Cause.unclassified "Save" "Task<?>").blame Sample.archivist.id) ∧
    (¬ ∃ target, Targets {} Sample.archived Sample.aimless target) ∧
    build {} Sample.archived Sample.archivist Sample.aimless =
      .error (Cause.noTarget.blame Sample.archivist.id) ∧
    buildAll {} Sample.archived Sample.archivist =
      .error ((Cause.unclassified "Save" "Task<?>").blame Sample.archivist.id) := by
  obtain ⟨each, -, -, failing⟩ := build_decides {} Sample.archived Sample.archivist
  have targets : ∀ excluded, Targets {} Sample.archived (Sample.archiving excluded) Sample.archive :=
    fun excluded =>
      { given := ⟨_, ⟨.generic rfl, nofun⟩, .symbol (by decide +kernel) rfl⟩
        offers := nofun
        named := EffectModule.hasName_iff.mpr (by decide +kernel) }
  have made := (each (Sample.archiving (.texts ["Load", "Save"]))).1.mpr
    ⟨Sample.archive, targets _, by decide +kernel⟩
  have stopped : FailsBy {} Sample.archived (Sample.archiving (.text "Load"))
      (.unclassified "Save" "Task<?>") :=
    .unclassified (targets _) ⟨⟨Sample.archive.methods.take 4, [], rfl, by decide +kernel⟩,
      by decide +kernel, by decide +kernel⟩
  have ungiven : FailsBy {} Sample.archived Sample.aimless .noTarget := by
    have none : Sample.aimless.usableReference "target" = none := by rfl
    refine .noTarget fun use gives => ?_
    cases none.symm.trans (EffectModule.gives_iff.mp gives)
  have failed := ((each (Sample.archiving (.text "Load"))).2.1 _).mpr ⟨_, stopped, rfl⟩
  refine ⟨made, ⟨_, targets _⟩, failed, ((each _).2.2 _ ungiven).mp rfl,
    ((each _).2.1 _).mpr ⟨_, ungiven, rfl⟩, (failing _).mpr ⟨_, ⟨?_, _, failed⟩, failed⟩⟩
  exact ⟨[Sample.archiving (.texts ["Load", "Save"])], [Sample.aimless], by decide +kernel,
    by simpa using made⟩

end EffectModel
