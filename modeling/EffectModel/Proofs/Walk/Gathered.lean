import EffectModel.Proofs.Module.Build
import EffectModel.Proofs.Walk.Course

/-! What a walk that ends has gathered. Main statement: going over references unfolds them, and
takes in the capabilities of all that they unfold to. -/
namespace EffectModel.Walk

section Definitions

variable (settings : Settings) (snapshot : Snapshot)

/-- A declaration that no walk halts at on its own account. -/
structure Sound (declaration : Declaration) : Prop where
  contributes : contributes settings declaration = true
  built : ∃ modules, EffectModule.buildAll settings snapshot declaration = .ok modules
  led : ∀ note ∈ references settings declaration, ∃ found,
    destination settings snapshot note = some found

/-- A declaration that has been gone over with all that it unfolds to. -/
structure Entire (expanded : List DeclId) (heard : List Declaration) (declaration : Declaration) :
    Prop where
  member : declaration ∈ heard
  sound : Sound settings snapshot declaration
  unfolded : ∃ inner, Unfolding settings snapshot (destinations settings snapshot declaration) inner ∧
    inner ⊆ heard ∧ inner.map Declaration.id ⊆ expanded

/-- A walk after it has heard of some declarations, those it passed over among them. -/
structure Gathered (walk : Walk) (heard : List Declaration) : Prop where
  holds : walk.Holds (heard.flatMap (offered settings snapshot))
  held : heard ⊆ snapshot.declarations
  closed : ∀ id ∈ walk.expanded, ∃ declaration, declaration.id = id ∧
    Entire settings snapshot walk.expanded heard declaration

/-- What a course that ends has done: it unfolded its references, closed all that they unfold to,
and took in the capabilities of it. -/
structure Gathers (walk : Walk) (heard : List Declaration) (notes : List Annotation) (final : Walk)
    (order : List Declaration) : Prop where
  led : ∀ note ∈ notes, ∃ found, destination settings snapshot note = some found
  unfolding : Unfolding settings snapshot (notes.filterMap (destination settings snapshot)) order
  gathered : Gathered settings snapshot final (heard ++ order)
  closed : order.map Declaration.id ⊆ final.expanded
  grown : walk.expanded ⊆ final.expanded

end Definitions

variable {settings : Settings} {snapshot : Snapshot} {walk opened walked final : Walk}
variable {owner found declaration : Declaration} {note : Annotation} {notes : List Annotation}
variable {heard heard' again inner : List Declaration} {expanded expanded' : List DeclId}

theorem Entire.mono (entire : Entire settings snapshot expanded heard declaration)
    (wider : expanded ⊆ expanded') (more : heard ⊆ heard') :
    Entire settings snapshot expanded' heard' declaration := by
  obtain ⟨member, sound, inner, unfolding, below, closed⟩ := entire
  exact ⟨more member, sound, inner, unfolding, List.Subset.trans below more,
    List.Subset.trans closed wider⟩

theorem Gathered.start (root : DeclId) : Gathered settings snapshot (start root) [] :=
  ⟨.start root, by simp, by simp [Walk.start]⟩

theorem Gathered.append_of_subset (gathered : Gathered settings snapshot walk heard)
    (known : again ⊆ heard) : Gathered settings snapshot walk (heard ++ again) := by
  refine ⟨?_, List.append_subset.mpr ⟨gathered.held, List.Subset.trans known gathered.held⟩, ?_⟩
  · rw [List.flatMap_append]
    exact gathered.holds.append_of_subset (flatMap_offered_subset known)
  · intro id closed
    obtain ⟨declaration, same, entire⟩ := gathered.closed id closed
    exact ⟨declaration, same, entire.mono (List.Subset.refl _) (List.subset_append_left _ _)⟩

theorem Gathered.entire (gathered : Gathered settings snapshot walk heard)
    (held : found ∈ snapshot.declarations) (known : found.id ∈ walk.expanded) :
    Entire settings snapshot walk.expanded heard found := by
  obtain ⟨declaration, same, entire⟩ := gathered.closed found.id known
  cases Snapshot.eq_of_id_eq (gathered.held entire.member) held same
  exact entire

theorem Gathered.of_meet (gathered : Gathered settings snapshot walk heard)
    (met : meet settings snapshot walk owner note = .ok (some (found, opened))) :
    Gathered settings snapshot opened (heard ++ [found]) := by
  obtain ⟨led, _, _, _, success⟩ := meet_eq_some_iff.mp met
  have held : [found] ⊆ snapshot.declarations := by simpa using mem_of_destination led
  refine ⟨?_, List.append_subset.mpr ⟨gathered.held, held⟩, ?_⟩
  · simpa using gathered.holds.openUp success
  · rw [(openUp_samePlace success).expanded]
    intro id known
    obtain ⟨declaration, same, entire⟩ := gathered.closed id known
    exact ⟨declaration, same, entire.mono (List.Subset.refl _) (List.subset_append_left _ _)⟩

theorem Gathered.leave (gathered : Gathered settings snapshot walked heard)
    (entire : Entire settings snapshot walked.expanded heard found) :
    Gathered settings snapshot (walked.leave found.id) heard := by
  have wider : walked.expanded ⊆ (walked.leave found.id).expanded := List.subset_cons_self _ _
  refine ⟨gathered.holds.leave found.id, gathered.held, ?_⟩
  intro id known
  rcases List.mem_cons.mp known with rfl | known
  · exact ⟨found, rfl, entire.mono wider (List.Subset.refl _)⟩
  · obtain ⟨declaration, same, whole⟩ := gathered.closed id known
    exact ⟨declaration, same, whole.mono wider (List.Subset.refl _)⟩

/-- The references of an owner are gone over one after the other. -/
theorem Gathers.cons {order : List Declaration}
    (led : destination settings snapshot note = some found)
    (unfolding : Unfolding settings snapshot (destinations settings snapshot found) inner)
    (closed : (found :: inner).map Declaration.id ⊆ walked.expanded)
    (grown : walk.expanded ⊆ walked.expanded)
    (gathers : Gathers settings snapshot walked (heard ++ found :: inner) notes final order) :
    Gathers settings snapshot walk heard (note :: notes) final (found :: inner ++ order) := by
  refine ⟨?_, ?_, ?_, ?_, List.Subset.trans grown gathers.grown⟩
  · simpa using ⟨⟨found, led⟩, gathers.led⟩
  · simpa [led] using Unfolding.cons unfolding gathers.unfolding
  · simpa [List.append_assoc] using gathers.gathered
  · rw [List.map_append]
    exact List.append_subset.mpr ⟨List.Subset.trans closed gathers.grown, gathers.closed⟩

/-- The induction is over the course; what has been heard of carries it, since a declaration that is
passed over was heard of before, and so was all that it unfolds to. -/
theorem Course.gathers (course : Course settings snapshot walk owner notes (.ok final))
    (gathered : Gathered settings snapshot walk heard) :
    ∃ order, Gathers settings snapshot walk heard notes final order := by
  induction course using Course.okInduction generalizing heard with
  | done => exact ⟨[], by simp, .nil, by simpa using gathered, by simp, List.Subset.refl _⟩
  | @passed walk owner note rest final met after ih =>
    obtain ⟨found, led, known⟩ := meet_eq_none_iff.mp met
    obtain ⟨member, sound, inner, unfolding, below, closed⟩ :=
      gathered.entire (mem_of_destination led) known
    obtain ⟨order, gathers⟩ := ih (gathered.append_of_subset (List.cons_subset.mpr ⟨member, below⟩))
    exact ⟨found :: inner ++ order, gathers.cons led unfolding
      (List.cons_subset.mpr ⟨known, closed⟩) (List.Subset.refl _)⟩
  | @closed walk opened walked owner found note rest final met below after ihBelow ihAfter =>
    obtain ⟨led, _, _, gives, success⟩ := meet_eq_some_iff.mp met
    obtain ⟨inner, gathers⟩ := ihBelow (gathered.of_meet met)
    have entire : Entire settings snapshot walked.expanded (heard ++ found :: inner) found := by
      refine ⟨by simp, ⟨gives, (openUp_eq_ok_iff.mp success).1, gathers.led⟩, inner,
        gathers.unfolding, ?_, gathers.closed⟩
      exact List.Subset.trans (List.subset_cons_self _ _) (List.subset_append_right _ _)
    have left : Gathered settings snapshot (walked.leave found.id) (heard ++ found :: inner) :=
      .leave (by simpa using gathers.gathered) entire
    obtain ⟨order, gathersAfter⟩ := ihAfter left
    have wider : walked.expanded ⊆ (walked.leave found.id).expanded := List.subset_cons_self _ _
    refine ⟨found :: inner ++ order, gathersAfter.cons led gathers.unfolding ?_ ?_⟩
    · exact List.cons_subset.mpr ⟨List.mem_cons_self, List.Subset.trans gathers.closed wider⟩
    · have grown := gathers.grown
      rw [(openUp_samePlace success).expanded] at grown
      exact List.Subset.trans grown wider

theorem Unfolding.fresh_of_meet
    (below : Unfolding settings snapshot (destinations settings snapshot found) inner)
    (met : meet settings snapshot walk owner note = .ok (some (found, opened)))
    (fresh : ∀ declaration ∈ inner, declaration.id ∉ walk.stack) :
    ∀ declaration ∈ inner, declaration.id ∉ opened.stack := by
  have held : found ∈ snapshot.declarations := mem_of_destination (meet_eq_some_iff.mp met).1
  intro declaration member again
  rw [stack_of_meet met] at again
  rcases List.mem_append.mp again with outer | same
  · exact fresh declaration member outer
  · exact below.id_notMem held (List.mem_singleton.mp same ▸ List.mem_map_of_mem member)

/-- A reference to what is new opens it, where it does not halt the walk on its own account. -/
theorem Gathered.exists_meet (gathered : Gathered settings snapshot walk heard)
    (led : destination settings snapshot note = some found) (own : Sound settings snapshot found)
    (new : found.id ∉ walk.expanded) (entered : found.id ∉ walk.stack)
    (agree : Agree ((heard ++ [found]).flatMap (offered settings snapshot))) :
    ∃ opened, meet settings snapshot walk owner note = .ok (some (found, opened)) := by
  rw [List.flatMap_append, List.flatMap_singleton] at agree
  obtain ⟨opened, success⟩ := gathered.holds.openUp_total own.built agree
  exact ⟨opened, meet_eq_some_iff.mpr ⟨led, new, entered, own.contributes, success⟩⟩

/-- Behind a declaration, a walk has gathered it and all that it unfolds to. -/
theorem Gathered.of_closed (gathered : Gathered settings snapshot walk heard)
    (met : meet settings snapshot walk owner note = .ok (some (found, opened)))
    (course : Course settings snapshot opened found (references settings found) (.ok walked))
    (below : Unfolding settings snapshot (destinations settings snapshot found) inner) :
    Gathered settings snapshot (walked.leave found.id) (heard ++ found :: inner) := by
  have single : Course settings snapshot walk owner [note] (.ok (walked.leave found.id)) :=
    .closed met course .done
  obtain ⟨again, gathers⟩ := single.gathers gathered
  have unfolding : Unfolding settings snapshot [found] (found :: inner) := by
    simpa using Unfolding.cons below .nil
  have same : again = found :: inner :=
    gathers.unfolding.unique (by simpa [(meet_eq_some_iff.mp met).1] using unfolding)
  exact same ▸ gathers.gathered

end EffectModel.Walk
