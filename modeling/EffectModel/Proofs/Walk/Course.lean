import EffectModel.Proofs.Walk.Capabilities
import EffectModel.Proofs.Walk.Reference

/-! The course of a walk, told without a bound on its depth. Main statement: from any root, the bounded
walk takes this course and no other, for the declarations that are open at a time are distinct and
cannot outnumber the snapshot by more than the root. -/
namespace EffectModel.Walk

section Definitions

variable (settings : Settings) (snapshot : Snapshot)

/-- What a walk makes of one reference of an owner: nothing where it leads to a closed declaration,
and else the declaration it leads to and the walk that has just opened it. -/
def meet (walk : Walk) (owner : Declaration) (note : Annotation) :
    Except Fault (Option (Declaration × Walk)) := do
  let found ← referenced settings snapshot owner note
  if found.id ∈ walk.expanded then .ok none
  else if found.id ∈ walk.stack then
    .error ((Cause.cycle (walk.cyclePath found.id)).blame walk.root)
  else if !contributes settings found then
    .error ((Cause.emptyReference found.id).blame walk.root)
  else (openUp settings snapshot walk found).map (fun opened => some (found, opened))

/-- How a walk goes over references of an owner, and what comes of it. -/
inductive Course : Walk → Declaration → List Annotation → Except Fault Walk → Prop where
  | done {walk : Walk} {owner : Declaration} : Course walk owner [] (.ok walk)
  | halted {walk : Walk} {owner : Declaration} {note : Annotation} {rest : List Annotation}
      {fault : Fault} (met : meet settings snapshot walk owner note = .error fault) :
      Course walk owner (note :: rest) (.error fault)
  | passed {walk : Walk} {owner : Declaration} {note : Annotation} {rest : List Annotation}
      {outcome : Except Fault Walk} (met : meet settings snapshot walk owner note = .ok none)
      (after : Course walk owner rest outcome) : Course walk owner (note :: rest) outcome
  | lost {walk opened : Walk} {owner found : Declaration} {note : Annotation}
      {rest : List Annotation} {fault : Fault}
      (met : meet settings snapshot walk owner note = .ok (some (found, opened)))
      (below : Course opened found (references settings found) (.error fault)) :
      Course walk owner (note :: rest) (.error fault)
  | closed {walk opened walked : Walk} {owner found : Declaration} {note : Annotation}
      {rest : List Annotation} {outcome : Except Fault Walk}
      (met : meet settings snapshot walk owner note = .ok (some (found, opened)))
      (below : Course opened found (references settings found) (.ok walked))
      (after : Course (walked.leave found.id) owner rest outcome) :
      Course walk owner (note :: rest) outcome

end Definitions

variable {settings : Settings} {snapshot : Snapshot} {walk opened walked final : Walk}
variable {owner found : Declaration} {note : Annotation} {notes : List Annotation}
variable {fault : Fault} {outcome outcome' : Except Fault Walk} {fuel : Nat} {room : List DeclId}

theorem meet_eq_none_iff : meet settings snapshot walk owner note = .ok none ↔
    ∃ found, destination settings snapshot note = some found ∧ found.id ∈ walk.expanded := by
  simp only [meet, bind_eq_ok_iff, referenced_eq_ok_iff]
  apply exists_congr
  intro found
  apply and_congr_right
  intro _
  by_cases closed : found.id ∈ walk.expanded
  · simp [closed]
  · simp only [closed, if_false]
    split <;> [skip; split] <;> simp [map_eq_ok_iff]

theorem meet_eq_some_iff : meet settings snapshot walk owner note = .ok (some (found, opened)) ↔
    destination settings snapshot note = some found ∧ found.id ∉ walk.expanded ∧
      found.id ∉ walk.stack ∧ contributes settings found = true ∧
      openUp settings snapshot walk found = .ok opened := by
  simp only [meet, bind_eq_ok_iff, referenced_eq_ok_iff]
  constructor
  · rintro ⟨other, led, met⟩
    by_cases closed : other.id ∈ walk.expanded
    · simp [closed] at met
    by_cases entered : other.id ∈ walk.stack
    · simp [closed, entered] at met
    cases gives : contributes settings other with
    | false => simp [closed, entered, gives] at met
    | true =>
      simp only [closed, entered, gives, Bool.not_true, Bool.false_eq_true, if_false,
        map_eq_ok_iff] at met
      obtain ⟨_, success, same⟩ := met
      cases same
      exact ⟨led, closed, entered, gives, success⟩
  · rintro ⟨led, closed, entered, gives, success⟩
    refine ⟨found, led, ?_⟩
    simp [closed, entered, gives, success, Except.map]

theorem meet_eq_error_iff : meet settings snapshot walk owner note = .error fault ↔
    referenced settings snapshot owner note = .error fault ∨
      ∃ found, destination settings snapshot note = some found ∧ found.id ∉ walk.expanded ∧
        (found.id ∈ walk.stack ∧
            (Cause.cycle (walk.cyclePath found.id)).blame walk.root = fault ∨
          found.id ∉ walk.stack ∧ contributes settings found = false ∧
            (Cause.emptyReference found.id).blame walk.root = fault ∨
          found.id ∉ walk.stack ∧ contributes settings found = true ∧
            openUp settings snapshot walk found = .error fault) := by
  simp only [meet, bind_eq_error_iff, referenced_eq_ok_iff]
  apply or_congr_right
  apply exists_congr
  intro found
  apply and_congr_right
  intro _
  by_cases closed : found.id ∈ walk.expanded
  · simp [closed]
  by_cases entered : found.id ∈ walk.stack
  · simp [closed, entered]
  cases gives : contributes settings found with
  | false => simp [closed, entered]
  | true => simp [closed, entered, map_eq_error_iff]

/-- No walk takes two courses. -/
theorem Course.unique (first : Course settings snapshot walk owner notes outcome)
    (second : Course settings snapshot walk owner notes outcome') : outcome = outcome' := by
  induction first generalizing outcome' with
  | done => cases second; rfl
  | halted met => cases second <;> simp_all
  | passed met after ih =>
    cases second with
    | halted met' => simp_all
    | passed _ after' => exact ih after'
    | lost met' _ => simp_all
    | closed met' _ _ => simp_all
  | lost met below ih =>
    cases second with
    | halted met' => simp_all
    | passed met' _ => simp_all
    | lost met' below' =>
      cases met.symm.trans met'
      exact ih below'
    | closed met' below' _ =>
      cases met.symm.trans met'
      cases ih below'
  | closed met below after ihBelow ihAfter =>
    cases second with
    | halted met' => simp_all
    | passed met' _ => simp_all
    | lost met' below' =>
      cases met.symm.trans met'
      cases ihBelow below'
    | closed met' below' after' =>
      cases met.symm.trans met'
      cases ihBelow below'
      exact ihAfter after'

@[elab_as_elim]
theorem Course.okInduction
    {motive : ∀ {walk owner notes final},
      Course settings snapshot walk owner notes (.ok final) → Prop}
    (done : ∀ {walk owner}, motive (.done : Course settings snapshot walk owner [] (.ok walk)))
    (passed : ∀ {walk owner note rest final}
      (met : meet settings snapshot walk owner note = .ok none)
      (after : Course settings snapshot walk owner rest (.ok final)),
      motive after → motive (.passed met after))
    (closed : ∀ {walk opened walked owner found note rest final}
      (met : meet settings snapshot walk owner note = .ok (some (found, opened)))
      (below : Course settings snapshot opened found (references settings found) (.ok walked))
      (after : Course settings snapshot (walked.leave found.id) owner rest (.ok final)),
      motive below → motive after → motive (.closed met below after))
    {walk : Walk} {owner : Declaration} {notes : List Annotation} {final : Walk}
    (course : Course settings snapshot walk owner notes (.ok final)) : motive course := by
  suffices general : ∀ {outcome}, (course : Course settings snapshot walk owner notes outcome) →
      ∀ {final} (ended : outcome = .ok final), motive (ended ▸ course) from general course rfl
  clear course
  intro outcome course
  induction course with
  | done => rintro final ⟨⟩; exact done
  | halted _ => rintro final ⟨⟩
  | passed met after ih => rintro final rfl; exact passed met after (ih rfl)
  | lost _ _ _ => rintro final ⟨⟩
  | closed met below after ihBelow ihAfter =>
    rintro final rfl
    exact closed met below after (ihBelow rfl) (ihAfter rfl)

theorem stack_of_meet (met : meet settings snapshot walk owner note = .ok (some (found, opened))) :
    opened.stack = walk.stack ++ [found.id] := by
  obtain ⟨_, _, _, _, success⟩ := meet_eq_some_iff.mp met
  exact (openUp_samePlace success).stack

theorem nodup_stack_of_meet
    (met : meet settings snapshot walk owner note = .ok (some (found, opened)))
    (distinct : walk.stack.Nodup) : opened.stack.Nodup := by
  obtain ⟨_, _, fresh, _, _⟩ := meet_eq_some_iff.mp met
  rw [stack_of_meet met, ← List.concat_eq_append]
  exact distinct.concat fresh

theorem stack_of_leave
    (met : meet settings snapshot walk owner note = .ok (some (found, opened)))
    (same : walked.stack = opened.stack) : (walked.leave found.id).stack = walk.stack := by
  rw [leave, same, stack_of_meet met, List.dropLast_concat]

/-- A course that ends leaves the same declarations open. -/
theorem Course.stack_eq (course : Course settings snapshot walk owner notes (.ok final)) :
    final.stack = walk.stack := by
  induction course using Course.okInduction with
  | done => rfl
  | passed met after ih => exact ih
  | closed met below after ihBelow ihAfter => exact ihAfter.trans (stack_of_leave met ihBelow)

/-- What a walk has closed is not open, as long as it ends without a fault. -/
theorem Course.disjoint (course : Course settings snapshot walk owner notes (.ok final))
    (apart : walk.stack.Disjoint walk.expanded) : final.stack.Disjoint final.expanded := by
  induction course using Course.okInduction with
  | done => exact apart
  | passed met after ih => exact ih apart
  | @closed walk opened walked owner found note rest final met below after ihBelow ihAfter =>
    obtain ⟨_, new, entered, _, success⟩ := meet_eq_some_iff.mp met
    have expanded : opened.expanded = walk.expanded := (openUp_samePlace success).expanded
    have apartOpened : opened.stack.Disjoint opened.expanded := by
      rw [stack_of_meet met, expanded, List.disjoint_append_left, List.singleton_disjoint]
      exact ⟨apart, new⟩
    have apartWalked := ihBelow apartOpened
    rw [below.stack_eq, stack_of_meet met, List.disjoint_append_left] at apartWalked
    apply ihAfter
    rw [stack_of_leave met below.stack_eq]
    exact List.disjoint_cons_right.mpr ⟨entered, apartWalked.1⟩

theorem root_of_meet (met : meet settings snapshot walk owner note = .ok (some (found, opened))) :
    opened.root = walk.root := by
  obtain ⟨_, _, _, _, success⟩ := meet_eq_some_iff.mp met
  exact (openUp_samePlace success).root

theorem Course.root_eq (course : Course settings snapshot walk owner notes (.ok final)) :
    final.root = walk.root := by
  induction course using Course.okInduction with
  | done => rfl
  | passed met after ih => exact ih
  | closed met below after ihBelow ihAfter =>
    exact ihAfter.trans (ihBelow.trans (root_of_meet met))

/-- Depth enough for a walk: the declarations that are open are distinct ones among those there is
room for, and what could still be opened does not outnumber the visits that may lie one inside the
other. -/
structure Fits (room : List DeclId) (fuel : Nat) (walk : Walk) : Prop where
  distinct : walk.stack.Nodup
  held : walk.stack ⊆ room
  enough : room.length < fuel + walk.stack.length

theorem Fits.fuel_pos (fits : Fits room fuel walk) : 0 < fuel := by
  have bound := fits.distinct.length_le_of_subset fits.held
  have enough := fits.enough
  omega

theorem Fits.of_stack_eq (fits : Fits room fuel walk) (same : final.stack = walk.stack) :
    Fits room fuel final := by
  obtain ⟨distinct, held, enough⟩ := fits
  exact ⟨same ▸ distinct, same ▸ held, same ▸ enough⟩

theorem Fits.of_meet (fits : Fits room (fuel + 1) walk)
    (wide : snapshot.declarations.map Declaration.id ⊆ room)
    (met : meet settings snapshot walk owner note = .ok (some (found, opened))) :
    Fits room fuel opened := by
  obtain ⟨led, _, _, _, _⟩ := meet_eq_some_iff.mp met
  have enough := fits.enough
  refine ⟨nodup_stack_of_meet met fits.distinct, ?_, ?_⟩
  · rw [stack_of_meet met]
    have entered : found.id ∈ room := wide (List.mem_map_of_mem (mem_of_destination led))
    exact List.append_subset.mpr ⟨fits.held, by simpa using entered⟩
  · rw [stack_of_meet met, List.length_append, List.length_singleton]
    omega

/-- A visit by way of a reference is the meeting, and then the references of what it opened. -/
theorem visit_referenced (fuel : Nat) (walk : Walk) (owner : Declaration) (note : Annotation) :
    (do visit settings snapshot (fuel + 1) walk (← referenced settings snapshot owner note)) =
      (do match ← meet settings snapshot walk owner note with
        | none => .ok walk
        | some (found, opened) =>
          (follow settings snapshot (visit settings snapshot fuel) found opened).map
            (fun walked => walked.leave found.id)) := by
  rw [meet]
  cases referenced settings snapshot owner note with
  | error fault => rfl
  | ok found =>
    simp only [bind, Except.bind, visit]
    by_cases closed : found.id ∈ walk.expanded
    · simp [closed]
    by_cases entered : found.id ∈ walk.stack
    · simp [closed, entered]
    cases contributes settings found with
    | false => simp [closed, entered]
    | true =>
      simp only [closed, entered, if_false, Bool.not_true, Bool.false_eq_true]
      cases openUp settings snapshot walk found with
      | error fault => rfl
      | ok opened => rfl

/-- With depth enough, going over references takes the course of the walk. -/
theorem course_visits (wide : snapshot.declarations.map Declaration.id ⊆ room)
    (fits : Fits room fuel walk) (owner : Declaration) (notes : List Annotation) :
    Course settings snapshot walk owner notes (notes.foldlM (fun walk note => do
      visit settings snapshot fuel walk (← referenced settings snapshot owner note)) walk) := by
  induction fuel generalizing walk owner notes with
  | zero => exact absurd fits.fuel_pos (Nat.lt_irrefl 0)
  | succ fuel ihFuel =>
    induction notes generalizing walk with
    | nil => exact .done
    | cons note rest ihRest =>
      rw [List.foldlM_cons, visit_referenced]
      cases met : meet settings snapshot walk owner note with
      | error fault => exact .halted met
      | ok result =>
        cases result with
        | none => exact .passed met (ihRest fits)
        | some entry =>
          obtain ⟨found, opened⟩ := entry
          have below : Course settings snapshot opened found (references settings found)
              (follow settings snapshot (visit settings snapshot fuel) found opened) :=
            ihFuel (fits.of_meet wide met) found (references settings found)
          simp only [bind, Except.bind]
          cases followed : follow settings snapshot (visit settings snapshot fuel) found opened with
          | error fault => exact .lost met (followed ▸ below)
          | ok walked =>
            rw [followed] at below
            have restored := stack_of_leave met below.stack_eq
            exact .closed met below (ihRest (fits.of_stack_eq restored))

/-- The walk from a root of the snapshot takes its course. -/
theorem course_ofRoot {root : Declaration} (present : root ∈ snapshot.declarations) :
    Course settings snapshot (start root.id) root (references settings root)
      (ofRoot settings snapshot root) := by
  apply course_visits (List.Subset.refl _)
  refine ⟨List.nodup_singleton _, ?_, ?_⟩
  · simpa [start] using ⟨root, present, rfl⟩
  · simp only [start, List.length_singleton, List.length_map]
    omega

theorem ofRoot_eq_iff {root : Declaration} (present : root ∈ snapshot.declarations) :
    ofRoot settings snapshot root = outcome ↔
      Course settings snapshot (start root.id) root (references settings root) outcome := by
  constructor
  · rintro rfl
    exact course_ofRoot present
  · exact (course_ofRoot present).unique

/-- So does the walk from a root that the snapshot need not hold, for which there is room besides. -/
theorem course_ofAnyRoot (settings : Settings) (snapshot : Snapshot) (root : Declaration) :
    Course settings snapshot (start root.id) root (references settings root)
      (ofRoot settings snapshot root) := by
  apply course_visits (List.subset_cons_self root.id _)
  refine ⟨List.nodup_singleton _, ?_, ?_⟩
  · simp [start]
  · simp only [start, List.length_cons, List.length_map]
    omega

theorem ofAnyRoot_eq_iff {root : Declaration} : ofRoot settings snapshot root = outcome ↔
    Course settings snapshot (start root.id) root (references settings root) outcome := by
  have course := course_ofAnyRoot settings snapshot root
  constructor
  · rintro rfl
    exact course
  · exact course.unique

end EffectModel.Walk
