import EffectModel.Proofs.Lookup
import EffectModel.Proofs.Outcome
import EffectModel.Runtime.Walk
import Mathlib.Logic.Relation

/-! The declarations that references lead to, one by one and all the way. Main statements: an
unfolding of references holds exactly what can be reached, none of it reaches itself, and there is
one wherever no reference leads on for ever. -/
namespace EffectModel.Walk

section Definitions

variable (settings : Settings) (snapshot : Snapshot)

/-- The declarations that the references of an owner lead to, in the order of its annotations. -/
def destinations (owner : Declaration) : List Declaration :=
  (references settings owner).filterMap (destination settings snapshot)

def Leads (owner found : Declaration) : Prop := found ∈ destinations settings snapshot owner

/-- What can be reached by one reference or more. -/
def Reaches : Declaration → Declaration → Prop := Relation.TransGen (Leads settings snapshot)

/-- The references of a forest of declarations unfolded, depth first: each declaration stands before
what it leads to, and stands again wherever it is led to again. -/
inductive Unfolding : List Declaration → List Declaration → Prop where
  | nil : Unfolding [] []
  | cons {origin : Declaration} {forest inner outer : List Declaration}
      (below : Unfolding (destinations settings snapshot origin) inner)
      (after : Unfolding forest outer) : Unfolding (origin :: forest) (origin :: inner ++ outer)

end Definitions

variable {settings : Settings} {snapshot : Snapshot}
variable {owner found : Declaration} {note : Annotation} {forest order order' : List Declaration}
variable {front back : List Declaration}

theorem referenced_eq_ok_iff :
    referenced settings snapshot owner note = .ok found ↔
      destination settings snapshot note = some found := by
  simp [referenced, destination, bind_eq_ok_iff, Option.bind_eq_some_iff]

theorem contributes_congr
    (same : ∀ kind, owner.hasAnnotation kind = found.hasAnnotation kind) :
    contributes settings owner = contributes settings found := by
  unfold contributes EffectModule.isMarked
  rw [same, same]

theorem leads_iff : Leads settings snapshot owner found ↔
    ∃ note ∈ references settings owner, destination settings snapshot note = some found :=
  List.mem_filterMap

theorem Leads.mem (leads : Leads settings snapshot owner found) :
    found ∈ snapshot.declarations := by
  obtain ⟨_, _, led⟩ := leads_iff.mp leads
  exact mem_of_destination led

theorem Reaches.mem (reaches : Reaches settings snapshot owner found) :
    found ∈ snapshot.declarations := by
  cases reaches with
  | single leads => exact leads.mem
  | tail _ leads => exact leads.mem

/-- What an owner reaches stays among declarations that references do not lead out of. -/
theorem Reaches.mem_of_closed {known : List Declaration}
    (first : destinations settings snapshot owner ⊆ known)
    (closed : ∀ declaration ∈ known, destinations settings snapshot declaration ⊆ known)
    (reaches : Reaches settings snapshot owner found) : found ∈ known := by
  induction reaches with
  | single leads => exact first leads
  | tail _ leads ih => exact closed _ ih leads

theorem Unfolding.unique (first : Unfolding settings snapshot forest order)
    (second : Unfolding settings snapshot forest order') : order = order' := by
  induction first generalizing order' with
  | nil => cases second; rfl
  | cons below after ihBelow ihAfter =>
    cases second with
    | cons below' after' => rw [ihBelow below', ihAfter after']

theorem Unfolding.append (first : Unfolding settings snapshot front order)
    (second : Unfolding settings snapshot back order') :
    Unfolding settings snapshot (front ++ back) (order ++ order') := by
  induction first with
  | nil => exact second
  | cons below after ihBelow ihAfter =>
    rw [List.append_assoc]
    exact .cons below ihAfter

/-- Two forests side by side unfold one after the other. -/
theorem unfolding_append_iff : Unfolding settings snapshot (front ++ back) order ↔
    ∃ order₁ order₂, Unfolding settings snapshot front order₁ ∧
      Unfolding settings snapshot back order₂ ∧ order₁ ++ order₂ = order := by
  constructor
  · intro unfolding
    induction front generalizing order with
    | nil => exact ⟨[], order, .nil, unfolding, rfl⟩
    | cons origin front ih =>
      cases unfolding with
      | @cons _ _ inner outer below after =>
        obtain ⟨order₁, order₂, first, second, rfl⟩ := ih after
        exact ⟨origin :: inner ++ order₁, order₂, .cons below first, second,
          List.append_assoc _ _ _⟩
  · rintro ⟨order₁, order₂, first, second, rfl⟩
    exact first.append second

theorem reaches_iff : Reaches settings snapshot owner found ↔
    found ∈ destinations settings snapshot owner ∨
      ∃ middle ∈ destinations settings snapshot owner, Reaches settings snapshot middle found := by
  constructor
  · intro reaches
    obtain ⟨middle, leads, rest⟩ := Relation.TransGen.head'_iff.mp reaches
    rcases Relation.reflTransGen_iff_eq_or_transGen.mp rest with same | further
    · exact .inl (same ▸ leads)
    · exact .inr ⟨middle, leads, further⟩
  · rintro (leads | ⟨middle, leads, further⟩)
    · exact .single leads
    · exact .head leads further

/-- An unfolding holds its forest and all that the forest reaches. -/
theorem Unfolding.mem_iff (unfolding : Unfolding settings snapshot forest order) :
    found ∈ order ↔ found ∈ forest ∨ ∃ origin ∈ forest, Reaches settings snapshot origin found := by
  induction unfolding with
  | nil => simp
  | @cons origin forest inner outer below after ihBelow ihAfter =>
    rw [List.cons_append, List.mem_cons, List.mem_append, ihBelow, ihAfter, ← reaches_iff,
      ← or_assoc, or_or_or_comm]
    simp only [List.mem_cons, exists_eq_or_imp]

/-- The unfolded references of an owner are all that it reaches. -/
theorem Unfolding.mem_iff_reaches
    (unfolding : Unfolding settings snapshot (destinations settings snapshot owner) order) :
    found ∈ order ↔ Reaches settings snapshot owner found := by
  rw [unfolding.mem_iff, ← reaches_iff]

/-- Nothing whose references can be unfolded leads on for ever. -/
theorem Unfolding.acc (unfolding : Unfolding settings snapshot forest order) :
    ∀ origin ∈ forest, Acc (fun later earlier => Leads settings snapshot earlier later) origin := by
  induction unfolding with
  | nil => simp
  | cons below after ihBelow ihAfter =>
    intro origin member
    rcases List.mem_cons.mp member with rfl | member
    · exact .intro _ ihBelow
    · exact ihAfter origin member

/-- A forest can be unfolded where what each of its declarations leads to can be. -/
theorem exists_unfolding_of_forall
    (each : ∀ origin ∈ forest, ∃ inner,
      Unfolding settings snapshot (destinations settings snapshot origin) inner) :
    ∃ order, Unfolding settings snapshot forest order := by
  induction forest with
  | nil => exact ⟨[], .nil⟩
  | cons origin rest ih =>
    obtain ⟨inner, below⟩ := each origin List.mem_cons_self
    obtain ⟨outer, after⟩ := ih fun other member => each other (List.mem_cons_of_mem _ member)
    exact ⟨_, .cons below after⟩

/-- What nothing leads on from for ever can be unfolded. -/
theorem exists_unfolding_of_acc
    (founded : Acc (fun later earlier => Leads settings snapshot earlier later) owner) :
    ∃ order, Unfolding settings snapshot (destinations settings snapshot owner) order := by
  induction founded with
  | intro owner _ ih => exact exists_unfolding_of_forall ih

private theorem acc_of_reaches (reaches : Reaches settings snapshot owner found)
    (founded : Acc (fun later earlier => Leads settings snapshot earlier later) owner) :
    Acc (fun later earlier => Leads settings snapshot earlier later) found := by
  induction reaches with
  | single leads => exact founded.inv leads
  | tail _ leads ih => exact ih.inv leads

private theorem not_reaches_self_of_acc
    (founded : Acc (fun later earlier => Leads settings snapshot earlier later) found) :
    ¬ Reaches settings snapshot found found := by
  induction founded with
  | intro found _ ih =>
    intro circle
    obtain ⟨middle, leads, back⟩ := Relation.TransGen.head'_iff.mp circle
    exact ih middle leads (.tail' back leads)

theorem Unfolding.acc_of_mem (unfolding : Unfolding settings snapshot forest order)
    (member : found ∈ order) :
    Acc (fun later earlier => Leads settings snapshot earlier later) found := by
  rcases unfolding.mem_iff.mp member with first | ⟨origin, first, reaches⟩
  · exact unfolding.acc found first
  · exact acc_of_reaches reaches (unfolding.acc origin first)

/-- An owner whose references can be unfolded does not reach itself, nor does anything that it
reaches. -/
theorem Unfolding.not_reaches_self
    (unfolding : Unfolding settings snapshot (destinations settings snapshot owner) order)
    (within : found = owner ∨ Reaches settings snapshot owner found) :
    ¬ Reaches settings snapshot found found := by
  have founded : Acc (fun later earlier => Leads settings snapshot earlier later) owner :=
    .intro _ unfolding.acc
  rcases within with rfl | reaches
  · exact not_reaches_self_of_acc founded
  · exact not_reaches_self_of_acc (acc_of_reaches reaches founded)

/-- What can be unfolded does not come up again below itself. -/
theorem Unfolding.id_notMem (held : owner ∈ snapshot.declarations)
    (below : Unfolding settings snapshot (destinations settings snapshot owner) order) :
    owner.id ∉ order.map Declaration.id := by
  intro member
  obtain ⟨again, listed, same⟩ := List.mem_map.mp member
  have reaches : Reaches settings snapshot owner again := below.mem_iff_reaches.mp listed
  cases Snapshot.eq_of_id_eq reaches.mem held same
  exact below.not_reaches_self (.inl rfl) reaches

end EffectModel.Walk
