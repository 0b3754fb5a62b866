import WordRecords.Proofs.Json.Unbroken

/-!
# Sound values

A `Sound` value has all its contents, and not too many containers inside one another. Such a value can be read whole
(`Node.Sound.readFault?_eq_none`), so that a reader only has to look at its shape: `readRecord_eq_ok_iff` says when a
record is read of which all fields are needed.
-/

namespace WordRecords.Json

/-- A value with all its contents: its numbers are within range and its strings denote characters, and so do the names
of its members. At most `depth` containers are open at once. -/
inductive Node.Sound : Nat → Node → Prop
  | scalar {depth : Nat} (s : Scalar) : Sound depth (.scalar (some s))
  | ofList {depth : Nat} {items : List Node} (h : ∀ item ∈ items, Sound depth item) : Sound (depth + 1) (.ofList items)
  | ofMembers {depth : Nat} {members : List (String × Node)} (h : ∀ m ∈ members, Sound depth m.2) :
      Sound (depth + 1) (.ofMembers members)

theorem ofNat_sound (depth n : Nat) : (Node.ofNat n).Sound depth := .scalar _

theorem ofString_sound (depth : Nat) (s : String) : (Node.ofString s).Sound depth := .scalar _

theorem Node.Sound.mono {depth depth' : Nat} {node : Node} (h : node.Sound depth) (hle : depth ≤ depth') :
    node.Sound depth' := by
  induction h generalizing depth' with
  | scalar s => exact .scalar s
  | ofList _ ih =>
    obtain ⟨d, rfl⟩ : ∃ d, depth' = d + 1 := ⟨depth' - 1, by omega⟩
    exact .ofList fun item hitem => ih item hitem (by omega)
  | ofMembers _ ih =>
    obtain ⟨d, rfl⟩ : ∃ d, depth' = d + 1 := ⟨depth' - 1, by omega⟩
    exact .ofMembers fun m hm => ih m hm (by omega)

/-- A sound value is read whole, where as many containers may be opened as it has. -/
theorem Node.Sound.readFault?_eq_none {depth : Nat} {node : Node} (h : node.Sound depth) {opened : Nat}
    (hle : opened + depth ≤ depthLimit) : node.readFault? opened = none := by
  induction h generalizing opened with
  | scalar s => rfl
  | ofList _ ih => exact readFault?_ofList (by omega) fun item hitem => ih item hitem (by omega)
  | ofMembers _ ih => exact readFault?_ofMembers (by omega) fun m hm => ih m hm (by omega)

/-- The items of a sound list are sound. -/
theorem Node.Sound.item {depth : Nat} {items : List Node} (h : (Node.ofList items).Sound depth) :
    ∀ item ∈ items, item.Sound depth := by
  generalize hnode : Node.ofList items = node at h
  cases h with
  | scalar _ => cases hnode
  | ofList h =>
    cases hnode
    exact fun item hitem => (h item hitem).mono (Nat.le_succ _)
  | ofMembers _ => cases hnode

/-- A sound object has all its names, and sound values, in which one container less may be opened. -/
theorem Node.Sound.object {depth : Nat} {members : List (Option String × Node)} {stop : Option Break}
    (h : (Node.object members stop).Sound depth) :
    stop = none ∧
      ∃ members' depth', members = withNames members' ∧ depth = depth' + 1 ∧ ∀ m ∈ members', m.2.Sound depth' := by
  generalize hnode : Node.object members stop = node at h
  cases h with
  | scalar _ => cases hnode
  | ofList _ => cases hnode
  | ofMembers h =>
    cases hnode
    exact ⟨rfl, _, _, rfl, rfl, h⟩

/-- The values of the members of a sound object are sound. -/
theorem Node.Sound.member {depth : Nat} {members : List (String × Node)}
    (h : (Node.ofMembers members).Sound (depth + 1)) : ∀ m ∈ members, m.2.Sound depth := by
  obtain ⟨-, members', depth', hmembers, hdepth, hs⟩ := h.object
  rwa [withNames_injective hmembers, Nat.succ.inj hdepth]

theorem Node.Sound.skipFault?_eq_none {depth : Nat} {node : Node} (h : node.Sound depth) : node.skipFault? = none := by
  induction h with
  | scalar s => rfl
  | ofList _ ih => exact skipFault?_array_eq_none_iff.2 ⟨skipItems?_eq_none_iff.2 ih, rfl⟩
  | ofMembers _ ih =>
    refine skipFault?_object_eq_none_iff.2 ⟨skipMembers?_eq_none_iff.2 ?_, rfl⟩
    exact List.forall_mem_map.2 ih

/-! ### Records -/

namespace RecordShape

variable {ι α : Type} {shape : RecordShape ι} {slots : (i : ι) → shape.Slot i} {depth : Nat}

theorem need_eq_ok_iff {f : shape.Filling} {i : ι} {v : shape.Slot i} : f.need i = .ok v ↔ f i = some v := by
  rw [Filling.need]
  cases f i with
  | none => exact iff_of_false (by rintro ⟨⟩) (by rintro ⟨⟩)
  | some w => rw [Except.ok.injEq, Option.some.injEq]

variable [DecidableEq ι]

theorem readMembers_withNames_iff (hd : shape.Distinct) {members : List (String × Node)}
    (hs : ∀ m ∈ members, m.2.Sound depth) :
    (∃ f, shape.readMembers shape.blank (withNames members) = .ok f ∧ ∀ i, f i = some (slots i)) ↔
      ∀ i, HasOne members (shape.name i) fun n => shape.read i n = .ok (slots i) := by
  have hskip : shape.Skippable (withNames members) := by
    constructor
    · exact List.forall_mem_map.2 fun m _ => by simp
    · intro key n hm _
      obtain ⟨m, hmem, heq⟩ := List.mem_map.1 hm
      cases heq
      exact (hs m hmem).skipFault?_eq_none
  simp only [readMembers_eq_ok_iff hd, and_iff_right hskip, ← gives_withNames_iff]
  constructor
  · rintro ⟨f, hf, hslots⟩ i
    exact hslots i ▸ hf i
  · intro h
    exact ⟨fun i => some (slots i), h, fun _ => rfl⟩

theorem readItems_all_iff (hd : shape.Distinct) (hlack : ∀ i, shape.mayLack i = false) {items : List Node} :
    (∃ f, shape.readItems shape.blank shape.fields items none = .ok f ∧ ∀ i, f i = some (slots i)) ↔
      List.Forall₂ (fun i n => shape.read i n = .ok (slots i)) shape.fields items := by
  simp only [readItems_eq_ok_iff hd hlack, true_and]
  constructor
  · rintro ⟨f, hf, hslots⟩
    refine hf.imp ?_
    rintro i n ⟨v, hread, hv⟩
    rw [hslots i] at hv
    cases hv
    exact hread
  · intro h
    exact ⟨fun i => some (slots i), h.imp fun i n hread => ⟨slots i, hread, rfl⟩, fun _ => rfl⟩

/-- **When a record is read** of which all fields are needed: from an object that has every field exactly once, or from
a list of all fields. -/
theorem readRecord_eq_ok_iff (hd : shape.Distinct) (hlack : ∀ i, shape.mayLack i = false)
    {build : shape.Filling → Reading α} {a : α} (hbuild : ∀ f, build f = .ok a ↔ ∀ i, f i = some (slots i))
    {node : Node} (hnode : node.Sound depth) :
    shape.readRecord build node = .ok a ↔
      (∃ members, node = .ofMembers members ∧
        ∀ i, HasOne members (shape.name i) fun n => shape.read i n = .ok (slots i)) ∨
      ∃ items, node = .ofList items ∧ List.Forall₂ (fun i n => shape.read i n = .ok (slots i)) shape.fields items := by
  cases node with
  | object members stop =>
    obtain ⟨rfl, members, depth, rfl, rfl, hs⟩ := hnode.object
    have hread : shape.readRecord build (.object (withNames members) none) = .ok a ↔
        ∃ f, shape.readMembers shape.blank (withNames members) = .ok f ∧ ∀ i, f i = some (slots i) := by
      simp only [readRecord, bind_eq_ok_iff, readEnd_eq_ok_iff, exists_const, true_and, hbuild]
    rw [hread, readMembers_withNames_iff hd hs]
    constructor
    · intro h
      exact .inl ⟨members, rfl, h⟩
    · rintro (⟨members', hmembers, h⟩ | ⟨_, ⟨⟩, -⟩)
      rwa [withNames_injective (Node.object.inj hmembers).1]
  | array items stop =>
    obtain rfl : stop = none := (skipFault?_array_eq_none_iff.1 hnode.skipFault?_eq_none).2
    have hread : shape.readRecord build (.array items none) = .ok a ↔
        ∃ f, shape.readItems shape.blank shape.fields items none = .ok f ∧ ∀ i, f i = some (slots i) := by
      simp only [readRecord, bind_eq_ok_iff, hbuild]
    rw [hread, readItems_all_iff hd hlack]
    constructor
    · intro h
      exact .inr ⟨items, rfl, h⟩
    · rintro (⟨_, ⟨⟩, -⟩ | ⟨items', hitems, h⟩)
      rwa [(Node.array.inj hitems).1]
  | scalar _ | broken _ =>
    refine iff_of_false ?_ ?_
    · intro h
      obtain ⟨_, -, h⟩ := bind_eq_ok_iff.1 h
      cases h
    · rintro (⟨_, ⟨⟩, -⟩ | ⟨_, ⟨⟩, -⟩)

end RecordShape

end WordRecords.Json
