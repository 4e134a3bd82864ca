import EffectModel.Proofs.TypeUse
import Mathlib.Data.List.Forall2

namespace EffectModel

namespace TypeUse

/-- What is written of a type: its name, its nullable marker, and its places for arguments, each of
them missing or filled. A type that is not generic has no places. -/
structure Skeleton where
  name : String
  nullable : Bool
  slots : List (Option Skeleton)

mutual

def skeleton : TypeUse → Skeleton
  | ⟨name, _, _, args, arity, nullable, _⟩ =>
      ⟨name, nullable, (List.range (max arity.toNat args.length)).map fun i => (skeletons args)[i]?⟩

def skeletons : List TypeUse → List Skeleton
  | [] => []
  | use :: rest => skeleton use :: skeletons rest

end

theorem skeletons_eq_map (uses : List TypeUse) : skeletons uses = uses.map skeleton := by
  induction uses with
  | nil => rfl
  | cons use rest ih => rw [skeletons, ih, List.map_cons]

def places (use : TypeUse) : List (Option TypeUse) :=
  (List.range use.slotCount).map fun i => use.args[i]?

theorem skeleton_eq (use : TypeUse) : use.skeleton =
    ⟨use.name, use.nullable, use.places.map (Option.map skeleton)⟩ := by
  obtain ⟨name, scope, kind, args, arity, nullable, declaration⟩ := use
  rw [skeleton, skeletons_eq_map, places, List.map_map]
  congr 2
  funext i
  exact List.getElem?_map ..

theorem places_eq (use : TypeUse) : use.places =
    use.args.map some ++ List.replicate (use.arity.toNat - use.args.length) none := by
  apply List.ext_getElem
  · simp [places, slotCount]
    omega
  · intro i inside _
    have bound : i < use.slotCount := by simpa [places] using inside
    rw [List.getElem_append]
    by_cases filled : i < use.args.length
    · simp [places, filled]
    · simp [places, filled]

theorem some_mem_places {use arg : TypeUse} : some arg ∈ use.places ↔ arg ∈ use.args := by
  simp [places_eq]

section Writing

def written (place : Option TypeUse) : List Char := (place.elim "?" display).toList

def listed (places : List (Option TypeUse)) : List Char :=
  places.flatMap fun place => ',' :: ' ' :: written place

def bracketed : List (Option TypeUse) → List Char
  | [] => []
  | place :: places => '<' :: (written place ++ (listed places ++ ['>']))

def marked (nullable : Bool) : List Char := if nullable then ['?'] else []

theorem toList_intercalate_cons (text : String) (texts : List String) :
    (", ".intercalate (text :: texts)).toList =
      text.toList ++ texts.flatMap fun text => ',' :: ' ' :: text.toList := by
  induction texts generalizing text with
  | nil => simp
  | cons next texts ih => simp [String.intercalate_cons_cons, ih]

theorem toList_angled (use : TypeUse) :
    (angled (use.args.map display) use.arity.toNat).toList = bracketed use.places := by
  have shown : use.args.map display ++
      List.replicate (use.arity.toNat - (use.args.map display).length) "?" =
        use.places.map (Option.elim · "?" display) := by
    simp [places_eq]
  have bare : ((use.args.map display).isEmpty && use.arity.toNat == 0) = use.places.isEmpty := by
    rw [Bool.eq_iff_iff]
    simp [places, slotCount, and_comm]
  rw [angled, shown, bare]
  cases use.places with
  | nil => rfl
  | cons place places =>
    rw [List.map_cons, if_neg (by simp), String.toList_append, String.toList_append,
      toList_intercalate_cons, List.flatMap_map]
    simp [bracketed, listed, written]

theorem toList_display (use : TypeUse) : use.display.toList =
    use.name.toList ++ (bracketed use.places ++ marked use.nullable) := by
  rw [display_eq, String.toList_append, String.toList_append, toList_angled, List.append_assoc, marked]
  cases use.nullable <;> rfl

end Writing

def separators : List Char := ['<', '>', ',', '?', ' ']

def PlainName (name : String) : Prop := name ≠ "" ∧ ∀ c ∈ name.toList, c ∉ separators

instance {name : String} : Decidable (PlainName name) :=
  decidable_of_iff (name ≠ "" ∧ name.toList.all (· ∉ separators)) (by simp [PlainName])

/-- The names in a type are plain, also in its arguments at any depth. -/
inductive PlainlyNamed : TypeUse → Prop where
  | intro {use : TypeUse} (plain : PlainName use.name) (args : ∀ arg ∈ use.args, PlainlyNamed arg) :
      PlainlyNamed use

section Reading

variable {use first second : TypeUse} {place place₂ : Option TypeUse}
  {places places₂ : List (Option TypeUse)} {name name₂ rest rest₂ : List Char} {marker marker₂ : Bool}

/-- Behind a type in an expression there may stand a comma, a closing bracket, or nothing. -/
def Closes (rest : List Char) : Prop := ∀ c ∈ rest.head?, c = ',' ∨ c = '>'

/-- What is written tells the skeleton of a type, and where the expression of the type ends. -/
def Legible (first : TypeUse) : Prop := ∀ second rest rest₂, PlainlyNamed second →
  Closes rest → Closes rest₂ → (first.display.toList ++ rest = second.display.toList ++ rest₂ ↔
    first.skeleton = second.skeleton ∧ rest = rest₂)

theorem Closes.ne_cons {c : Char} (closes : Closes rest) (noComma : c ≠ ',') (noBracket : c ≠ '>') :
    rest ≠ c :: rest₂ := by
  intro begins
  rcases closes c (by simp [begins]) with comma | bracket
  · exact noComma comma
  · exact noBracket bracket

theorem takeWhile_plain (plain : ∀ c ∈ name, c ∉ separators)
    (stops : ∀ c ∈ rest.head?, c ∈ separators) :
    (name ++ rest).takeWhile (· ∉ separators) = name := by
  rw [List.takeWhile_append_of_pos (by simpa using plain)]
  cases rest with
  | nil => simp
  | cons c rest => simp [stops c rfl]

theorem append_iff_of_plain (plain : ∀ c ∈ name, c ∉ separators)
    (plain₂ : ∀ c ∈ name₂, c ∉ separators) (stops : ∀ c ∈ rest.head?, c ∈ separators)
    (stops₂ : ∀ c ∈ rest₂.head?, c ∈ separators) :
    name ++ rest = name₂ ++ rest₂ ↔ name = name₂ ∧ rest = rest₂ := by
  constructor
  · intro same
    have names : name = name₂ := by
      rw [← takeWhile_plain plain stops, same, takeWhile_plain plain₂ stops₂]
    exact ⟨names, List.append_cancel_left (names ▸ same)⟩
  · intro ⟨names, rests⟩
    rw [names, rests]

theorem marked_append_iff (closes : Closes rest) (closes₂ : Closes rest₂) :
    marked marker ++ rest = marked marker₂ ++ rest₂ ↔ marker = marker₂ ∧ rest = rest₂ := by
  match marker, marker₂ with
  | false, false => simp [marked]
  | false, true => simpa [marked] using closes.ne_cons (by decide) (by decide)
  | true, false => simpa [marked] using Ne.symm (closes₂.ne_cons (by decide) (by decide))
  | true, true => simp [marked]

theorem PlainlyNamed.exists_letter (plain : PlainlyNamed use) :
    ∃ c rest, use.display.toList = c :: rest ∧ c ∉ separators := by
  obtain ⟨⟨filled, plain⟩, -⟩ := plain
  obtain ⟨c, rest, name⟩ := List.exists_cons_of_ne_nil (mt String.toList_eq_nil_iff.mp filled)
  have begins : use.display.toList = c :: (rest ++ (bracketed use.places ++ marked use.nullable)) := by
    rw [toList_display, name, List.cons_append]
  exact ⟨c, _, begins, plain c (by simp [name])⟩

/-- An argument is never written like the mark of a missing one. -/
theorem PlainlyNamed.append_ne_missing (plain : PlainlyNamed use) :
    use.display.toList ++ rest ≠ '?' :: rest₂ := by
  intro missing
  obtain ⟨c, _, begins, letter⟩ := plain.exists_letter
  rw [begins, List.cons_append] at missing
  injection missing with same
  exact letter (same ▸ by decide)

theorem written_append_iff (legible : ∀ arg, place = some arg → PlainlyNamed arg ∧ Legible arg)
    (plain : ∀ arg, place₂ = some arg → PlainlyNamed arg) (closes : Closes rest)
    (closes₂ : Closes rest₂) : written place ++ rest = written place₂ ++ rest₂ ↔
      place.map skeleton = place₂.map skeleton ∧ rest = rest₂ := by
  -- a question mark begins a missing argument only, since a name has a letter before any marker
  match place, place₂ with
  | none, none => simp [written]
  | none, some arg => simpa [written] using Ne.symm (plain arg rfl).append_ne_missing
  | some arg, none => simpa [written] using (legible arg rfl).1.append_ne_missing
  | some arg, some arg₂ =>
    simpa [written] using (legible arg rfl).2 arg₂ rest rest₂ (plain arg₂ rfl) closes closes₂

theorem closes_listed : Closes (listed places ++ '>' :: rest) := by
  cases places <;> simp [Closes, listed]

/-- Once the places behind it are told apart, a place in front of them is too. -/
theorem row_append_iff (legible : ∀ arg, some arg ∈ place :: places → PlainlyNamed arg ∧ Legible arg)
    (plain : ∀ arg, some arg ∈ place₂ :: places₂ → PlainlyNamed arg)
    (further : listed places ++ '>' :: rest = listed places₂ ++ '>' :: rest₂ ↔
      places.map (Option.map skeleton) = places₂.map (Option.map skeleton) ∧ rest = rest₂) :
    written place ++ (listed places ++ '>' :: rest) =
        written place₂ ++ (listed places₂ ++ '>' :: rest₂) ↔
      (place :: places).map (Option.map skeleton) = (place₂ :: places₂).map (Option.map skeleton) ∧
        rest = rest₂ := by
  rw [written_append_iff (fun arg held => legible arg (held ▸ .head _))
    (fun arg held => plain arg (held ▸ .head _)) closes_listed closes_listed, further,
    List.map_cons, List.map_cons, List.cons.injEq, and_assoc]

theorem listed_append_iff (legible : ∀ arg, some arg ∈ places → PlainlyNamed arg ∧ Legible arg)
    (plain : ∀ arg, some arg ∈ places₂ → PlainlyNamed arg) :
    listed places ++ '>' :: rest = listed places₂ ++ '>' :: rest₂ ↔
      places.map (Option.map skeleton) = places₂.map (Option.map skeleton) ∧ rest = rest₂ := by
  induction places generalizing places₂ with
  | nil => cases places₂ <;> simp [listed]
  | cons place places ih =>
    cases places₂ with
    | nil => simp [listed]
    | cons place₂ places₂ =>
      have further := ih (fun arg member => legible arg (.tail _ member))
        (fun arg member => plain arg (.tail _ member))
      simpa [listed] using row_append_iff legible plain further

theorem bracketed_append_iff (legible : ∀ arg, some arg ∈ places → PlainlyNamed arg ∧ Legible arg)
    (plain : ∀ arg, some arg ∈ places₂ → PlainlyNamed arg) (closed : ∀ more, rest ≠ '<' :: more)
    (closed₂ : ∀ more, rest₂ ≠ '<' :: more) : bracketed places ++ rest = bracketed places₂ ++ rest₂ ↔
      places.map (Option.map skeleton) = places₂.map (Option.map skeleton) ∧ rest = rest₂ := by
  match places, places₂ with
  | [], [] => simp [bracketed]
  | [], _ :: _ => simpa [bracketed] using closed _
  | _ :: _, [] => simpa [bracketed] using Ne.symm (closed₂ _)
  | place :: places, place₂ :: places₂ =>
    simpa [bracketed] using row_append_iff legible plain (listed_append_iff
      (fun arg member => legible arg (.tail _ member)) (fun arg member => plain arg (.tail _ member)))

theorem closed_marked (closes : Closes rest) (more : List Char) :
    marked marker ++ rest ≠ '<' :: more := by
  cases marker with
  | true => simp [marked]
  | false => exact closes.ne_cons (by decide) (by decide)

theorem separators_bracketed (closes : Closes rest) :
    ∀ c ∈ (bracketed places ++ (marked marker ++ rest)).head?, c ∈ separators := by
  cases places with
  | cons place places => simp [bracketed, separators]
  | nil =>
    cases marker with
    | true => simp [bracketed, marked, separators]
    | false =>
      intro c begins
      have closing := closes c (by simpa [bracketed, marked] using begins)
      rcases closing with comma | bracket
      · simp [separators, comma]
      · simp [separators, bracket]

theorem PlainlyNamed.legible (plain : PlainlyNamed first) : Legible first := by
  -- on the depth of the type; what stands behind an argument closes it, so that it can be told apart
  induction plain with
  | @intro first plain args legible =>
    intro second rest rest₂ ⟨plain₂, args₂⟩ closes closes₂
    have filled : ∀ arg, some arg ∈ first.places → PlainlyNamed arg ∧ Legible arg := by
      intro arg member
      have given := some_mem_places.mp member
      exact ⟨args arg given, legible arg given⟩
    have filled₂ : ∀ arg, some arg ∈ second.places → PlainlyNamed arg :=
      fun arg member => args₂ arg (some_mem_places.mp member)
    simp only [toList_display, List.append_assoc]
    rw [append_iff_of_plain plain.2 plain₂.2 (separators_bracketed closes)
        (separators_bracketed closes₂),
      bracketed_append_iff filled filled₂ (closed_marked closes) (closed_marked closes₂),
      marked_append_iff closes closes₂, skeleton_eq, skeleton_eq, Skeleton.mk.injEq,
      String.toList_inj]
    tauto

end Reading

variable {first second : TypeUse}

/-- Two types have the same name, marker and number of places, and of their arguments the same are
there, with the same markers and skeletons. -/
structure AgreesWith (first second : TypeUse) : Prop where
  name : first.name = second.name
  nullable : first.nullable = second.nullable
  slotCount : first.slotCount = second.slotCount
  args : List.Forall₂ (fun arg arg₂ => arg.nullable = arg₂.nullable ∧ arg.skeleton = arg₂.skeleton)
    first.args second.args

theorem agreesWith_of_skeleton_eq (same : first.skeleton = second.skeleton) :
    AgreesWith first second := by
  have marker (use : TypeUse) : use.skeleton.nullable = use.nullable := by rw [skeleton_eq]
  have nullable : first.nullable = second.nullable := by rw [← marker, same, marker]
  rw [skeleton_eq, skeleton_eq] at same
  injection same with name _ slots
  have counts := congrArg List.length slots
  have shapes : first.args.map skeleton = second.args.map skeleton := by
    have filled := congrArg (List.filterMap id) slots
    simpa [places_eq, List.filterMap_append] using filled
  rw [← List.forall₂_eq_eq_eq, List.forall₂_map_left_iff, List.forall₂_map_right_iff] at shapes
  exact {
    name
    nullable
    slotCount := by simpa [places] using counts
    args := shapes.imp fun arg arg₂ same => ⟨by rw [← marker, same, marker], same⟩ }

/-- The expressions of two plainly named types are equal if and only if their skeletons are. A missing
argument is not written like one that is there, nor a marked argument like a marked type. -/
theorem display_eq_iff_skeleton_eq (plain : PlainlyNamed first) (plain₂ : PlainlyNamed second) :
    (first.display = second.display ↔ first.skeleton = second.skeleton) ∧
    (first.display = second.display → AgreesWith first second) ∧
    ∀ arg ∈ first.args, arg.display ≠ "?" := by
  have told : first.display = second.display ↔ first.skeleton = second.skeleton := by
    have ended : Closes [] := by simp [Closes]
    simpa [String.toList_inj] using plain.legible second [] [] plain₂ ended ended
  refine ⟨told, fun same => agreesWith_of_skeleton_eq (told.mp same), fun arg member missing => ?_⟩
  obtain ⟨-, args⟩ := plain
  have written : arg.display.toList ++ [] = '?' :: [] := by rw [missing]; rfl
  exact (args arg member).append_ne_missing written

end TypeUse

namespace Sample

open TypeUse (PlainlyNamed)

def text : TypeUse := .named "string" .classType

def optionalText : TypeUse := { text with nullable := true }

/-- A task for a text that may be absent. -/
def taskOfOption : TypeUse := .generic "Task" .classType [optionalText]

/-- A task for a text, which may be absent as a whole. -/
def optionOfTask : TypeUse := { TypeUse.generic "Task" .classType [text] with nullable := true }

/-- The same task for an optional text, declared in another place and without an arity. -/
def looseTask : TypeUse := { taskOfOption with scope := "System", arity := 0 }

theorem plainlyNamed_text {nullable : Bool} : PlainlyNamed { text with nullable } :=
  .intro (show TypeUse.PlainName "string" by decide) (by simp [text, TypeUse.named])

theorem plainlyNamed_taskOfOption : PlainlyNamed taskOfOption := by
  refine .intro (by decide) fun arg member => ?_
  rw [List.mem_singleton.mp member]
  exact plainlyNamed_text

theorem plainlyNamed_optionOfTask : PlainlyNamed optionOfTask := by
  refine .intro (by decide) fun arg member => ?_
  rw [List.mem_singleton.mp member]
  exact plainlyNamed_text

end Sample

open TypeUse (display_eq_iff_skeleton_eq)

theorem display_eq_iff_skeleton_eq_tasks :
    Sample.taskOfOption.display ≠ Sample.optionOfTask.display ∧
    Sample.taskOfOption.display = Sample.looseTask.display ∧
    ∀ arg ∈ Sample.taskOfOption.args, arg.display ≠ "?" := by
  have loose : Sample.looseTask.PlainlyNamed := by
    obtain ⟨plain, args⟩ := Sample.plainlyNamed_taskOfOption
    exact .intro plain args
  obtain ⟨inside, -, present⟩ :=
    display_eq_iff_skeleton_eq Sample.plainlyNamed_taskOfOption Sample.plainlyNamed_optionOfTask
  have alike := (display_eq_iff_skeleton_eq Sample.plainlyNamed_taskOfOption loose).1
  refine ⟨fun same => ?_, alike.mpr rfl, present⟩
  have marker := congrArg TypeUse.Skeleton.nullable (inside.mp same)
  cases marker

end EffectModel
