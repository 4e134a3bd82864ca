import EffectModel.Proofs.Runtime.Capabilities

/-! The calls of a walk, one by one. Main statement: every walk comes to an end without a bound on its
depth; whatever it calls finds the open declarations distinct, the root first and none of them closed;
it builds the modules of a declaration once at most; and where it ends well, it has closed what the
root reaches. -/
namespace EffectModel

open Walk

namespace Walk

section Definitions

/-- What a walk can call: a visit of a declaration, the building of its modules, and the expansion of
its references. -/
inductive Action where
  | visit
  | build
  | expand
  deriving DecidableEq

/-- A call with the walk that it finds. Its depth is the number of visits around it. -/
structure Call where
  action : Action
  declaration : Declaration
  walk : Walk
  depth : Nat

/-- The declaration whose modules a call builds. -/
def Call.built? (call : Call) : Option DeclId :=
  if call.action = .build then some call.declaration.id else none

def visiting (walk : Walk) (found : Declaration) (depth : Nat) : Call := ⟨.visit, found, walk, depth⟩

def building (walk : Walk) (found : Declaration) (depth : Nat) : Call :=
  ⟨.build, found, walk.enter found.id, depth + 1⟩

def expanding (walk : Walk) (owner : Declaration) (depth : Nat) : Call := ⟨.expand, owner, walk, depth⟩

variable (settings : Settings) (snapshot : Snapshot)

/-- A visit opens what is not closed, not open and has something to give. -/
structure Opens (walk : Walk) (found : Declaration) : Prop where
  new : found.id ∉ walk.expanded
  apart : found.id ∉ walk.stack
  gives : contributes settings found = true

/-- Why a visit opens nothing and halts the walk: it leads back to what is open, or to what has nothing
to give. -/
inductive Refuses (walk : Walk) (found : Declaration) : Fault → Prop where
  | circular (new : found.id ∉ walk.expanded) (entered : found.id ∈ walk.stack) :
      Refuses walk found ((Cause.cycle (walk.cyclePath found.id)).blame walk.root)
  | idle (new : found.id ∉ walk.expanded) (apart : found.id ∉ walk.stack)
      (gives : contributes settings found = false) :
      Refuses walk found ((Cause.emptyReference found.id).blame walk.root)

/-- The calls that a walk makes as it goes over references of an owner, in their order, and what comes
of it. Nothing bounds how deep visits lie one inside the other. -/
inductive Journal :
    Nat → Walk → Declaration → List Annotation → List Call → Except Fault Walk → Prop where
  | done {depth : Nat} {walk : Walk} {owner : Declaration} :
      Journal depth walk owner [] [] (.ok walk)
  | misled {depth : Nat} {walk : Walk} {owner : Declaration} {note : Annotation}
      {rest : List Annotation} {fault : Fault}
      (failed : referenced settings snapshot owner note = .error fault) :
      Journal depth walk owner (note :: rest) [] (.error fault)
  | passed {depth : Nat} {walk : Walk} {owner found : Declaration} {note : Annotation}
      {rest : List Annotation} {calls : List Call} {outcome : Except Fault Walk}
      (led : referenced settings snapshot owner note = .ok found)
      (closed : found.id ∈ walk.expanded) (after : Journal depth walk owner rest calls outcome) :
      Journal depth walk owner (note :: rest) (visiting walk found depth :: calls) outcome
  | refused {depth : Nat} {walk : Walk} {owner found : Declaration} {note : Annotation}
      {rest : List Annotation} {fault : Fault}
      (led : referenced settings snapshot owner note = .ok found)
      (refuses : Refuses settings walk found fault) :
      Journal depth walk owner (note :: rest) [visiting walk found depth] (.error fault)
  | unopened {depth : Nat} {walk : Walk} {owner found : Declaration} {note : Annotation}
      {rest : List Annotation} {fault : Fault}
      (led : referenced settings snapshot owner note = .ok found)
      (opens : Opens settings walk found)
      (failed : openUp settings snapshot walk found = .error fault) :
      Journal depth walk owner (note :: rest)
        [visiting walk found depth, building walk found depth] (.error fault)
  | lost {depth : Nat} {walk opened : Walk} {owner found : Declaration} {note : Annotation}
      {rest : List Annotation} {inner : List Call} {fault : Fault}
      (led : referenced settings snapshot owner note = .ok found)
      (opens : Opens settings walk found)
      (success : openUp settings snapshot walk found = .ok opened)
      (below : Journal (depth + 1) opened found (references settings found) inner (.error fault)) :
      Journal depth walk owner (note :: rest)
        (visiting walk found depth :: building walk found depth ::
          expanding opened found (depth + 1) :: inner) (.error fault)
  | closed {depth : Nat} {walk opened walked : Walk} {owner found : Declaration}
      {note : Annotation} {rest : List Annotation} {inner outer : List Call}
      {outcome : Except Fault Walk}
      (led : referenced settings snapshot owner note = .ok found)
      (opens : Opens settings walk found)
      (success : openUp settings snapshot walk found = .ok opened)
      (below : Journal (depth + 1) opened found (references settings found) inner (.ok walked))
      (after : Journal depth (walked.leave found.id) owner rest outer outcome) :
      Journal depth walk owner (note :: rest)
        (visiting walk found depth :: building walk found depth ::
          expanding opened found (depth + 1) :: inner ++ outer) outcome

/-- A walk in order: the declarations that are open are distinct ones of the snapshot, the root first,
and none of them is closed. -/
structure Regular (root : Declaration) (walk : Walk) : Prop where
  begins : walk.stack.head? = some root.id
  distinct : walk.stack.Nodup
  held : walk.stack ⊆ snapshot.declarations.map Declaration.id
  apart : walk.stack.Disjoint walk.expanded

/-- A call that finds a walk in order, with one declaration open for each visit around it besides the
root. -/
structure Call.Regular (root : Declaration) (call : Call) : Prop where
  walk : Walk.Regular snapshot root call.walk
  nested : call.walk.stack.length = call.depth + 1

end Definitions

variable {settings : Settings} {snapshot : Snapshot} {root owner found : Declaration}
variable {walk opened walked final : Walk} {notes : List Annotation} {note : Annotation}
variable {calls inner : List Call} {outcome : Except Fault Walk} {depth : Nat} {fault : Fault}

theorem meet_eq_some_iff_opens :
    meet settings snapshot walk owner note = .ok (some (found, opened)) ↔
      referenced settings snapshot owner note = .ok found ∧ Opens settings walk found ∧
        openUp settings snapshot walk found = .ok opened := by
  rw [meet_eq_some_iff, referenced_eq_ok_iff]
  constructor
  · rintro ⟨led, new, apart, gives, success⟩
    exact ⟨led, ⟨new, apart, gives⟩, success⟩
  · rintro ⟨led, ⟨new, apart, gives⟩, success⟩
    exact ⟨led, new, apart, gives, success⟩

theorem meet_eq_error_iff_refuses : meet settings snapshot walk owner note = .error fault ↔
    referenced settings snapshot owner note = .error fault ∨
      ∃ found, referenced settings snapshot owner note = .ok found ∧
        (Refuses settings walk found fault ∨
          Opens settings walk found ∧ openUp settings snapshot walk found = .error fault) := by
  rw [meet_eq_error_iff]
  simp only [referenced_eq_ok_iff]
  apply or_congr_right
  apply exists_congr
  intro found
  apply and_congr_right
  intro _
  constructor
  · rintro ⟨new, ⟨entered, rfl⟩ | ⟨apart, idle, rfl⟩ | ⟨apart, gives, failed⟩⟩
    · exact .inl (.circular new entered)
    · exact .inl (.idle new apart idle)
    · exact .inr ⟨⟨new, apart, gives⟩, failed⟩
  · rintro (refuses | ⟨⟨new, apart, gives⟩, failed⟩)
    · cases refuses with
      | circular new entered => exact ⟨new, .inl ⟨entered, rfl⟩⟩
      | idle new apart idle => exact ⟨new, .inr (.inl ⟨apart, idle, rfl⟩)⟩
    · exact ⟨new, .inr (.inr ⟨apart, gives, failed⟩)⟩

/-- Whatever course a walk takes, it makes its calls on the way. -/
theorem Course.exists_journal (course : Course settings snapshot walk owner notes outcome)
    (depth : Nat) : ∃ calls, Journal settings snapshot depth walk owner notes calls outcome := by
  induction course generalizing depth with
  | done => exact ⟨_, .done⟩
  | halted met =>
    rcases meet_eq_error_iff_refuses.mp met with failed | ⟨_, led, refuses | ⟨opens, failed⟩⟩
    · exact ⟨_, .misled failed⟩
    · exact ⟨_, .refused led refuses⟩
    · exact ⟨_, .unopened led opens failed⟩
  | passed met after ih =>
    obtain ⟨found, led, known⟩ := meet_eq_none_iff.mp met
    obtain ⟨calls, journal⟩ := ih depth
    exact ⟨_, .passed (referenced_eq_ok_iff.mpr led) known journal⟩
  | lost met below ih =>
    obtain ⟨led, opens, success⟩ := meet_eq_some_iff_opens.mp met
    obtain ⟨inner, journal⟩ := ih (depth + 1)
    exact ⟨_, .lost led opens success journal⟩
  | closed met below after ihBelow ihAfter =>
    obtain ⟨led, opens, success⟩ := meet_eq_some_iff_opens.mp met
    obtain ⟨inner, journal⟩ := ihBelow (depth + 1)
    obtain ⟨outer, journal'⟩ := ihAfter depth
    exact ⟨_, .closed led opens success journal journal'⟩

/-- The calls of a walk lie on its course. -/
theorem Journal.course (journal : Journal settings snapshot depth walk owner notes calls outcome) :
    Course settings snapshot walk owner notes outcome := by
  induction journal with
  | done => exact .done
  | misled failed => exact .halted (meet_eq_error_iff_refuses.mpr (.inl failed))
  | passed led closed after ih =>
    exact .passed (meet_eq_none_iff.mpr ⟨_, referenced_eq_ok_iff.mp led, closed⟩) ih
  | refused led refuses =>
    exact .halted (meet_eq_error_iff_refuses.mpr (.inr ⟨_, led, .inl refuses⟩))
  | unopened led opens failed =>
    exact .halted (meet_eq_error_iff_refuses.mpr (.inr ⟨_, led, .inr ⟨opens, failed⟩⟩))
  | lost led opens success below ih =>
    exact .lost (meet_eq_some_iff_opens.mpr ⟨led, opens, success⟩) ih
  | closed led opens success below after ihBelow ihAfter =>
    exact .closed (meet_eq_some_iff_opens.mpr ⟨led, opens, success⟩) ihBelow ihAfter

section Regular

theorem Regular.start (present : root ∈ snapshot.declarations) :
    Regular snapshot root (start root.id) where
  begins := rfl
  distinct := List.nodup_singleton _
  held := by simpa [Walk.start] using ⟨root, present, rfl⟩
  apart := by simp [Walk.start]

theorem Regular.enter (regular : Regular snapshot root walk) (held : found ∈ snapshot.declarations)
    (opens : Opens settings walk found) : Regular snapshot root (walk.enter found.id) := by
  refine ⟨?_, ?_, ?_, ?_⟩
  · rw [Walk.enter, List.head?_append, regular.begins]
    rfl
  · rw [Walk.enter, ← List.concat_eq_append, List.nodup_concat]
    exact ⟨opens.apart, regular.distinct⟩
  · exact List.append_subset.mpr ⟨regular.held, by simpa using ⟨found, held, rfl⟩⟩
  · rw [Walk.enter, List.disjoint_append_left, List.singleton_disjoint]
    exact ⟨regular.apart, opens.new⟩

theorem Regular.openUp (regular : Regular snapshot root walk) (held : found ∈ snapshot.declarations)
    (opens : Opens settings walk found) (success : openUp settings snapshot walk found = .ok opened) :
    Regular snapshot root opened := by
  obtain ⟨begins, distinct, held, apart⟩ := regular.enter held opens
  have same : SamePlace (walk.enter found.id) opened := openUp_samePlace success
  rw [← same.stack] at begins distinct held apart
  rw [← same.expanded] at apart
  exact ⟨begins, distinct, held, apart⟩

theorem Regular.leave (regular : Regular snapshot root walk)
    (met : meet settings snapshot walk owner note = .ok (some (found, opened)))
    (below : Course settings snapshot opened found (references settings found) (.ok walked)) :
    Regular snapshot root (walked.leave found.id) := by
  have restored : (walked.leave found.id).stack = walk.stack := stack_of_leave met below.stack_eq
  have single : Course settings snapshot walk owner [note] (.ok (walked.leave found.id)) :=
    .closed met below .done
  refine ⟨?_, ?_, ?_, single.disjoint regular.apart⟩
  · exact restored ▸ regular.begins
  · exact restored ▸ regular.distinct
  · exact restored ▸ regular.held

/-- No more is open than the snapshot holds. -/
theorem Call.Regular.depth_lt {call : Call} (regular : call.Regular snapshot root) :
    call.depth < snapshot.declarations.length := by
  have bound := regular.walk.distinct.length_le_of_subset regular.walk.held
  rw [regular.nested, List.length_map] at bound
  omega

theorem mem_of_referenced (led : referenced settings snapshot owner note = .ok found) :
    found ∈ snapshot.declarations :=
  mem_of_destination (referenced_eq_ok_iff.mp led)

/-- One more declaration is open within a visit. -/
theorem regular_building (regular : Regular snapshot root walk)
    (nested : walk.stack.length = depth + 1) (held : found ∈ snapshot.declarations)
    (opens : Opens settings walk found) :
    (building walk found depth).Regular snapshot root := by
  refine ⟨regular.enter held opens, ?_⟩
  simp [building, Walk.enter, nested]

theorem regular_expanding (regular : Regular snapshot root walk)
    (nested : walk.stack.length = depth + 1) (held : found ∈ snapshot.declarations)
    (opens : Opens settings walk found) (success : openUp settings snapshot walk found = .ok opened) :
    (expanding opened found (depth + 1)).Regular snapshot root := by
  refine ⟨regular.openUp held opens success, ?_⟩
  rw [expanding, (openUp_samePlace success).stack]
  simp [Walk.enter, nested]

/-- Every call finds its walk in order. -/
theorem Journal.regular (journal : Journal settings snapshot depth walk owner notes calls outcome)
    (regular : Regular snapshot root walk) (nested : walk.stack.length = depth + 1) :
    ∀ call ∈ calls, call.Regular snapshot root := by
  induction journal with
  | done => simp
  | misled => simp
  | passed led closed after ih =>
    exact List.forall_mem_cons.mpr ⟨⟨regular, nested⟩, ih regular nested⟩
  | refused led refuses => exact List.forall_mem_singleton.mpr ⟨regular, nested⟩
  | unopened led opens failed =>
    have built := regular_building regular nested (mem_of_referenced led) opens
    exact List.forall_mem_cons.mpr ⟨⟨regular, nested⟩, List.forall_mem_singleton.mpr built⟩
  | lost led opens success below ih =>
    have built := regular_building regular nested (mem_of_referenced led) opens
    have expanded := regular_expanding regular nested (mem_of_referenced led) opens success
    simp only [List.forall_mem_cons]
    exact ⟨⟨regular, nested⟩, built, expanded, ih expanded.walk expanded.nested⟩
  | closed led opens success below after ihBelow ihAfter =>
    have built := regular_building regular nested (mem_of_referenced led) opens
    have expanded := regular_expanding regular nested (mem_of_referenced led) opens success
    have met := meet_eq_some_iff_opens.mpr ⟨led, opens, success⟩
    have restored := stack_of_leave met below.course.stack_eq
    simp only [List.cons_append, List.forall_mem_cons, List.forall_mem_append]
    exact ⟨⟨regular, nested⟩, built, expanded, ihBelow expanded.walk expanded.nested,
      ihAfter (regular.leave met below.course) (restored ▸ nested)⟩

end Regular

section Built

/-- The declarations whose modules some calls build. -/
def builtIn (calls : List Call) : List DeclId := calls.filterMap Call.built?

/-- What the calls of a walk build is built for the first time, and closed where the walk ends well. -/
structure BuildsOnce (walk : Walk) (calls : List Call) (outcome : Except Fault Walk) : Prop where
  distinct : (builtIn calls).Nodup
  new : (builtIn calls).Disjoint walk.expanded
  apart : (builtIn calls).Disjoint walk.stack
  closed : ∀ final, outcome = .ok final →
    builtIn calls ⊆ final.expanded ∧ walk.expanded ⊆ final.expanded

/-- A declaration is built in front of all that its references have built, and what they have built is
closed when it is left. -/
theorem BuildsOnce.opening {inner : List Call}
    (opens : Opens settings walk found) (success : openUp settings snapshot walk found = .ok opened)
    (below : BuildsOnce opened inner outcome) :
    (found.id :: builtIn inner).Nodup ∧ (found.id :: builtIn inner).Disjoint walk.expanded ∧
      (found.id :: builtIn inner).Disjoint walk.stack := by
  have place : SamePlace (walk.enter found.id) opened := openUp_samePlace success
  have new : (builtIn inner).Disjoint walk.expanded := place.expanded ▸ below.new
  have apart := below.apart
  rw [place.stack, Walk.enter, List.disjoint_append_right, List.disjoint_singleton] at apart
  rw [List.nodup_cons, List.disjoint_cons_left, List.disjoint_cons_left]
  exact ⟨⟨apart.2, below.distinct⟩, ⟨opens.new, new⟩, ⟨opens.apart, apart.1⟩⟩

/-- What is built while a declaration is open is closed once it has been left. -/
theorem BuildsOnce.leave {inner : List Call} (success : openUp settings snapshot walk found = .ok opened)
    (below : BuildsOnce opened inner (.ok walked)) :
    found.id :: builtIn inner ⊆ (walked.leave found.id).expanded ∧
      walk.expanded ⊆ (walked.leave found.id).expanded := by
  obtain ⟨closed, grown⟩ := below.closed walked rfl
  rw [(openUp_samePlace success).expanded] at grown
  have wider : walked.expanded ⊆ (walked.leave found.id).expanded := List.subset_cons_self _ _
  exact ⟨List.cons_subset.mpr ⟨List.mem_cons_self, List.Subset.trans closed wider⟩,
    List.Subset.trans grown wider⟩

theorem Journal.buildsOnce
    (journal : Journal settings snapshot depth walk owner notes calls outcome) :
    BuildsOnce walk calls outcome := by
  induction journal with
  | @done depth walk =>
    have closed : ∀ final, Except.ok walk = (.ok final : Except Fault Walk) →
        builtIn [] ⊆ final.expanded ∧ walk.expanded ⊆ final.expanded := by
      rintro final ⟨⟩
      exact ⟨List.nil_subset _, List.Subset.refl _⟩
    exact ⟨List.nodup_nil, List.disjoint_nil_left _, List.disjoint_nil_left _, closed⟩
  | misled failed => exact ⟨List.nodup_nil, List.disjoint_nil_left _, List.disjoint_nil_left _, nofun⟩
  | passed led closed after ih => exact ⟨ih.distinct, ih.new, ih.apart, ih.closed⟩
  | refused led refuses =>
    exact ⟨List.nodup_nil, List.disjoint_nil_left _, List.disjoint_nil_left _, nofun⟩
  | unopened led opens failed =>
    exact ⟨List.nodup_singleton _, List.singleton_disjoint.mpr opens.new,
      List.singleton_disjoint.mpr opens.apart, nofun⟩
  | lost led opens success below ih =>
    obtain ⟨distinct, new, apart⟩ := BuildsOnce.opening opens success ih
    exact ⟨distinct, new, apart, nofun⟩
  | @closed depth walk opened walked owner found note rest inner outer outcome led opens success below
      after ihBelow ihAfter =>
    obtain ⟨distinct, new, apart⟩ := BuildsOnce.opening opens success ihBelow
    obtain ⟨left, grown⟩ := BuildsOnce.leave success ihBelow
    have met := meet_eq_some_iff_opens.mpr ⟨led, opens, success⟩
    have restored : (walked.leave found.id).stack = walk.stack :=
      stack_of_leave met below.course.stack_eq
    have split : builtIn (visiting walk found depth :: building walk found depth ::
        expanding opened found (depth + 1) :: inner ++ outer) =
          found.id :: builtIn inner ++ builtIn outer := by
      rw [builtIn, List.filterMap_append]
      rfl
    refine ⟨?_, ?_, ?_, ?_⟩
    · rw [split]
      refine distinct.append ihAfter.distinct ?_
      exact fun id member member' => ihAfter.new member' (left member)
    · rw [split, List.disjoint_append_left]
      exact ⟨new, fun id member known => ihAfter.new member (grown known)⟩
    · rw [split, List.disjoint_append_left]
      exact ⟨apart, restored ▸ ihAfter.apart⟩
    · intro final ended
      obtain ⟨closed, further⟩ := ihAfter.closed final ended
      rw [split]
      exact ⟨List.append_subset.mpr ⟨List.Subset.trans left further, closed⟩,
        List.Subset.trans grown further⟩

end Built

section Finished

/-- A walk that has come to its end well: the root alone is open, what it reaches is closed, and the index
of interfaces says of each capability what it depends on, and nothing else. -/
structure Finished (settings : Settings) (snapshot : Snapshot) (root : Declaration) (walk : Walk) :
    Prop where
  open_eq : walk.stack = [root.id]
  closed_iff : ∀ id, id ∈ walk.expanded ↔
    ∃ declaration, Reaches settings snapshot root declaration ∧ declaration.id = id
  indexed_iff : ∀ interface identity, walk.dependencies.lookup interface = some identity ↔
    ∃ capability ∈ walk.capabilities,
      capability.interface = interface ∧ capability.identity = identity

theorem Holds.lookup_eq_some_iff {met : List Capability} (holds : walk.Holds met)
    {interface identity : String} : walk.dependencies.lookup interface = some identity ↔
      ∃ capability ∈ walk.capabilities,
        capability.interface = interface ∧ capability.identity = identity := by
  have agreed : ∀ capability ∈ walk.capabilities,
      walk.dependencies.lookup capability.interface = some capability.identity := by
    intro capability member
    exact holds.agreed capability (mem_of_mem_keepFirst (holds.kept ▸ member))
  constructor
  · intro found
    obtain ⟨heard, listed, rfl, -⟩ := holds.exists_of_lookup found
    have known : heard.interface ∈ walk.capabilities.map Capability.interface := by
      rw [holds.kept, mem_keys_keepFirst]
      exact List.mem_map_of_mem listed
    obtain ⟨capability, member, same⟩ := List.mem_map.mp known
    have also := agreed capability member
    rw [same, found] at also
    exact ⟨capability, member, same, (Option.some.inj also).symm⟩
  · rintro ⟨capability, member, rfl, rfl⟩
    exact agreed capability member

theorem finished_of_ofRoot (present : root ∈ snapshot.declarations)
    (success : ofRoot settings snapshot root = .ok walk) : Finished settings snapshot root walk := by
  obtain ⟨order, gathers⟩ := exists_gathers_of_ofRoot present success
  have course := (ofRoot_eq_iff present).mp success
  refine ⟨course.stack_eq, fun id => ?_, fun _ _ => gathers.gathered.holds.lookup_eq_some_iff⟩
  constructor
  · intro closed
    obtain ⟨declaration, same, entire⟩ := gathers.gathered.closed id closed
    exact ⟨declaration, gathers.unfolding.mem_iff_reaches.mp entire.member, same⟩
  · rintro ⟨declaration, reaches, rfl⟩
    exact gathers.closed (List.mem_map_of_mem (gathers.unfolding.mem_iff_reaches.mpr reaches))

end Finished

/-- A walk from any root of a snapshot comes to its end, and visits that lie as many deep as the snapshot
has declarations are enough for it. Each call on the way finds distinct declarations of the snapshot
open, the root first and none of them closed, and the modules of a declaration are built once at most.
The walk of a runtime ends with the root alone open, and what the root reaches is closed. -/
theorem journal_decides (present : root ∈ snapshot.declarations) :
    (∃ calls, Journal settings snapshot 0 (start root.id) root (references settings root) calls
      (ofRoot settings snapshot root)) ∧
    (∀ calls outcome, Journal settings snapshot 0 (start root.id) root (references settings root)
        calls outcome → outcome = ofRoot settings snapshot root ∧
      (∀ call ∈ expanding (start root.id) root 0 :: calls, call.Regular snapshot root ∧
        call.depth < snapshot.declarations.length) ∧
      (builtIn calls).Nodup) ∧
    (∀ fuel, snapshot.declarations.length ≤ fuel →
      follow settings snapshot (visit settings snapshot fuel) root (start root.id) =
        ofRoot settings snapshot root) ∧
    ∀ runtime, Runtime.aggregate settings snapshot root = .ok runtime →
      ∃ walk, ofRoot settings snapshot root = .ok walk ∧ walk.capabilities = runtime.capabilities ∧
        Finished settings snapshot root walk := by
  have course : Course settings snapshot (start root.id) root (references settings root)
      (ofRoot settings snapshot root) := course_ofRoot present
  refine ⟨course.exists_journal 0, ?_, ?_, ?_⟩
  · intro calls outcome journal
    have begins : Regular snapshot root (start root.id) := .start present
    have regular : ∀ call ∈ expanding (start root.id) root 0 :: calls, call.Regular snapshot root :=
      List.forall_mem_cons.mpr ⟨⟨begins, rfl⟩, journal.regular begins rfl⟩
    refine ⟨journal.course.unique course, fun call member => ?_, journal.buildsOnce.distinct⟩
    exact ⟨regular call member, (regular call member).depth_lt⟩
  · intro fuel enough
    have fits : Fits (snapshot.declarations.map Declaration.id) fuel (start root.id) := by
      refine ⟨List.nodup_singleton _, (Regular.start present).held, ?_⟩
      simp only [start, List.length_map, List.length_singleton]
      omega
    exact (course_visits (List.Subset.refl _) fits root _).unique course
  · intro runtime success
    obtain ⟨_, walk, walked, rfl⟩ := Runtime.aggregate_eq_ok_iff.mp success
    exact ⟨walk, walked, rfl, finished_of_ofRoot present walked⟩

end Walk

open Walk (Journal builtIn journal_decides Finished start references ofRoot)

/-- On the diamond, the clock is visited three times and built once. -/
theorem journal_decides_diamond :
    Sample.diamondRoot ∈ Sample.diamond.declarations ∧
    ∃ calls walk, Journal {} Sample.diamond 0 (start Sample.diamondRoot.id) Sample.diamondRoot
        (references {} Sample.diamondRoot) calls (.ok walk) ∧
      (builtIn calls).Nodup ∧ Finished {} Sample.diamond Sample.diamondRoot walk := by
  have present : Sample.diamondRoot ∈ Sample.diamond.declarations := by decide +kernel
  have offers : (Runtime.aggregate {} Sample.diamond Sample.diamondRoot).map Runtime.interfaces =
      .ok ["IHasClock", "IHasMail"] := by decide +kernel
  obtain ⟨runtime, success, -⟩ := map_eq_ok_iff.mp offers
  obtain ⟨⟨calls, journal⟩, each, -, ends⟩ := @journal_decides {} _ _ present
  obtain ⟨walk, walked, -, finished⟩ := ends runtime success
  obtain ⟨-, -, once⟩ := each calls _ journal
  exact ⟨present, calls, walk, walked ▸ journal, once, finished⟩

end EffectModel
