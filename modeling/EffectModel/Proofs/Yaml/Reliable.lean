import EffectModel.Proofs.Yaml.Assembled

namespace EffectModel.Yaml

section Names

variable {name : String}

theorem isUnmarked_of_namePart {c : Char} (part : (c.isLower || c == '_') = true) : IsUnmarked c := by
  rcases Bool.or_eq_true_iff.mp part with lower | underscore
  · exact isUnmarked_of_isLower lower
  · obtain rfl := eq_of_beq underscore
    exact isUnmarked_of_mayBeUnmarked rfl

theorem isName_of_isFieldName (named : isFieldName name = true) : IsName name.toList := by
  simp only [isFieldName, Bool.and_eq_true, Bool.not_eq_true', decide_eq_true_eq,
    List.all_eq_true] at named
  obtain ⟨⟨nonempty, short⟩, parts⟩ := named
  have unmarked : ∀ c ∈ name.toList, IsUnmarked c := fun c held => isUnmarked_of_namePart (parts c held)
  refine ⟨isPlain_unmarked unmarked, by simpa using nonempty, fun c held => (unmarked c held).solid,
    ?_, ?_⟩
  · have first (mark : Char) (listed : mark ∈ ['-', '.', '?', ':', '#', '+']) :
        name.toList.head? ≠ some mark := fun found =>
      (unmarked mark (List.mem_of_head? found)).noSign listed
    exact ⟨first '-' (by simp), first '.' (by simp)⟩
  · rw [String.length_toList, PossibleKey.reach]
    omega

theorem isWritable_of_isNamed {part : Part} (named : part.isNamed = true) : part.IsWritable := by
  cases part with
  | field entry => exact isName_of_isFieldName named
  | block name entries =>
    simp only [Part.isNamed, Bool.and_eq_true, Bool.not_eq_true', List.all_eq_true] at named
    obtain ⟨⟨outer, nonempty⟩, inner⟩ := named
    exact ⟨isName_of_isFieldName outer, by simpa using nonempty,
      fun entry held => isName_of_isFieldName (inner entry held)⟩

end Names

/-- What is written item by item is read item by item. -/
theorem mapM_map_of_some {ι α β : Type} {write : ι → α} {read : α → Option β} {value : ι → β}
    (each : ∀ item, read (write item) = some (value item)) (items : List ι) :
    (items.map write).mapM read = some (items.map value) := by
  have pointwise : read ∘ write = fun item => pure (value item) := funext each
  rw [List.mapM_map, pointwise, List.mapM_pure]
  rfl

def image : library.Image where
  value place value := ⟨place.root, value.node⟩
  block place entries := ⟨place.root, .mapping (entries.map Entry.node)⟩

theorem fields_mapping {ι : Type} (root : Node) (name : ι → String) (node : ι → Node)
    (items : List ι) :
    Place.fields ⟨root, .mapping (items.map fun item => (nameNode (name item), node item))⟩ =
      some (items.map fun item => (name item, ⟨root, node item⟩)) := by
  have fields : (items.map fun item => (nameNode (name item), node item)).mapM
      (fun entry => (Place.mk root entry.1).asText.map (·, Place.mk root entry.2)) =
        some (items.map fun item => (name item, ⟨root, node item⟩)) := by
    refine mapM_map_of_some (fun item => ?_) items
    rfl
  exact fields

theorem isReliable_library : library.IsReliable image where
  document parts nonempty named := by
    have writable : ∀ part ∈ parts, part.IsWritable := fun part held =>
      isWritable_of_isNamed (named part held)
    let root := Node.mapping (parts.map Part.node)
    refine ⟨⟨root, root⟩, ?_, ?_⟩
    · change (Node.parse (writeParts parts)).map _ = _
      rw [parse_writeParts nonempty writable]
      rfl
    · refine (fields_mapping root Part.name Part.bodyNode parts).trans ?_
      refine congrArg some (List.map_congr_left fun part _ => ?_)
      cases part <;> rfl
  block place entries := fields_mapping place.root Entry.name (fun entry => entry.value.node) entries
  text _ _ := rfl
  char _ _ := rfl
  bool _ value := readBool_toString value
  number _ value greatest small := by
    change (Plain.readNat (toString value)).bind
      (fun value => if value ≤ greatest then some value else none) = some value
    rw [readNat_toString, Option.bind_some, if_pos small]
  texts place texts := by
    change some ((texts.map textNode).map (Place.mk place.root)) = _
    rw [List.map_map]
    rfl

end EffectModel.Yaml
