import Mathlib.Data.List.Nodup
import WordRecords.Json.Render
import WordRecords.Json.Shape
import WordRecords.Proofs.Json.Number
import WordRecords.Proofs.Steps

/-!
# What readers of shapes read

Two facts about every reader. It reads back what was written: a record from an object with all its fields
(`readRecord_ofMembers`), a list from the values of its items. And what it reads has a property as soon as the parts
that it reads have (`readRecord_forall`, `readList_forall`), so that counts never reach the limit.
-/

namespace WordRecords.Json

variable {α : Type}

/-! ### Plain values -/

theorem readText_ofString (s : String) : readText (.ofString s) = .ok s := rfl

theorem readCount_ofNat {n : Nat} (h : n < countLimit) : readCount (.ofNat n) = .ok n := by
  have hn : (0 : Int) ≤ n ∧ (n : Int) ≤ countLimit - 1 := by omega
  have hread : readInteger 0 (countLimit - 1) (.ofNat n) = .ok n := if_pos hn
  rw [readCount, hread]
  rfl

theorem readCount_lt {node : Node} {n : Nat} (h : readCount node = .ok n) : n < countLimit := by
  rw [readCount, map_eq_pure_bind] at h
  obtain ⟨k, hk, hn⟩ := bind_eq_ok_iff.1 h
  cases hn
  obtain ⟨s, -, hs⟩ := bind_eq_ok_iff.1 hk
  cases s with
  | integer m =>
    simp only at hs
    split at hs
    · rename_i hm
      cases hs
      omega
    · cases hs
  | null | bool _ | decimal | text _ => cases hs

theorem readList_ofList {β : Type} {read : Node → Reading α} {encode : β → Node} {xs : List β} {ys : List α}
    (h : List.Forall₂ (fun x y => read (encode x) = .ok y) xs ys) :
    readList read (.ofList (xs.map encode)) = .ok ys := by
  have hm : (xs.map encode).mapM read = .ok ys := mapM_eq_ok_iff.2 (List.forall₂_map_left_iff.2 h)
  rw [Node.ofList, readList, hm]
  rfl

theorem readList_forall {read : Node → Reading α} {P : α → Prop} (hread : ∀ node a, read node = .ok a → P a)
    {node : Node} {xs : List α} (h : readList read node = .ok xs) : ∀ x ∈ xs, P x := by
  cases node with
  | array items stop =>
    obtain ⟨values, hv, h⟩ := bind_eq_ok_iff.1 h
    obtain ⟨-, -, h⟩ := bind_eq_ok_iff.1 h
    cases h
    intro x hx
    obtain ⟨item, -, hitem⟩ := exists_of_mem_right (mapM_eq_ok_iff.1 hv) hx
    exact hread item x hitem
  | scalar _ | object _ _ | broken _ =>
    obtain ⟨_, -, h⟩ := bind_eq_ok_iff.1 h
    cases h

theorem readOptional_forall {read : Node → Reading α} {P : α → Prop} (hread : ∀ node a, read node = .ok a → P a)
    {node : Node} {x : Option α} (h : readOptional read node = .ok x) : ∀ a ∈ x, P a := by
  rw [readOptional.eq_def] at h
  split at h
  · cases h
    intro a ha
    cases ha
  · rw [map_eq_pure_bind] at h
    obtain ⟨b, hb, h⟩ := bind_eq_ok_iff.1 h
    cases h
    intro a ha
    cases ha
    exact hread _ b hb

/-! ### Values of any shape -/

theorem readItems?_eq_none {depth : Nat} {items : List Node} (h : ∀ item ∈ items, item.readFault? depth = none) :
    Node.readItems? depth items = none := by
  induction items with
  | nil => rfl
  | cons item items ih =>
    rw [List.forall_mem_cons] at h
    rw [Node.readItems?, h.1, ih h.2, Option.none_or]

theorem readFault?_ofList {depth : Nat} (hd : depth < depthLimit) {items : List Node}
    (h : ∀ item ∈ items, item.readFault? (depth + 1) = none) : (Node.ofList items).readFault? depth = none := by
  rw [Node.ofList, Node.readFault?, if_pos hd, readItems?_eq_none h]
  rfl

theorem readMembers?_eq_none {depth : Nat} {members : List (String × Node)}
    (h : ∀ m ∈ members, m.2.readFault? depth = none) :
    Node.readMembers? depth (members.map fun (name, value) => (some name, value)) = none := by
  induction members with
  | nil => rfl
  | cons m members ih =>
    rw [List.forall_mem_cons] at h
    rw [List.map_cons, Node.readMembers?, h.1, ih h.2, Option.none_or]

theorem readFault?_ofMembers {depth : Nat} (hd : depth < depthLimit) {members : List (String × Node)}
    (h : ∀ m ∈ members, m.2.readFault? (depth + 1) = none) : (Node.ofMembers members).readFault? depth = none := by
  rw [Node.ofMembers, Node.readFault?, if_pos hd, readMembers?_eq_none h]
  rfl

/-! ### Records -/

namespace RecordShape

variable {ι : Type} {shape : RecordShape ι}

/-- The fields are all listed, and their names tell them apart. -/
structure Distinct (shape : RecordShape ι) : Prop where
  names : (shape.fields.map shape.name).Nodup
  mem : ∀ i, i ∈ shape.fields

theorem Distinct.field?_name (h : shape.Distinct) (i : ι) : shape.field? (shape.name i) = some i := by
  rw [field?]
  cases hf : shape.fields.find? fun j => shape.name j == shape.name i with
  | none =>
    have hne := List.find?_eq_none.1 hf i (h.mem i)
    exact absurd (beq_self_eq_true _) hne
  | some j =>
    have hname : shape.name j = shape.name i := by simpa using List.find?_some hf
    rw [List.inj_on_of_nodup_map h.names (h.mem j) (h.mem i) hname]

variable [DecidableEq ι]

/-- The fields of a list are filled, the others are as they were. -/
def Filling.fill (filling : shape.Filling) (fields : List ι) (values : (i : ι) → shape.Slot i) : shape.Filling :=
  fun i => if i ∈ fields then some (values i) else filling i

theorem Filling.fill_nil (filling : shape.Filling) (values : (i : ι) → shape.Slot i) :
    filling.fill [] values = filling := by
  funext i
  exact if_neg List.not_mem_nil

theorem Filling.fill_set {filling : shape.Filling} {values : (i : ι) → shape.Slot i} (i : ι) (fields : List ι) :
    (filling.set i (values i)).fill fields values = filling.fill (i :: fields) values := by
  funext j
  by_cases hij : i = j
  · subst hij
    simp [fill, set]
  · simp [fill, set, hij, Ne.symm hij]

/-- Members that give every field of a list in turn fill these fields. -/
theorem readMembers_fill (h : shape.Distinct) {nodes : ι → Node} {values : (i : ι) → shape.Slot i}
    (hread : ∀ i, shape.read i (nodes i) = .ok (values i)) {fields : List ι} (hnodup : fields.Nodup)
    {filling : shape.Filling} (hblank : ∀ i ∈ fields, filling i = none) :
    shape.readMembers filling (fields.map fun i => (some (shape.name i), nodes i)) =
      .ok (filling.fill fields values) := by
  induction fields generalizing filling with
  | nil => rw [List.map_nil, readMembers, Filling.fill_nil]
  | cons i fields ih =>
    rw [List.nodup_cons] at hnodup
    rw [List.forall_mem_cons] at hblank
    have hlater : ∀ j ∈ fields, filling.set i (values i) j = none := by
      intro j hj
      have hij : i ≠ j := fun hij => hnodup.1 (hij ▸ hj)
      rw [Filling.set, dif_neg hij, hblank.2 j hj]
    have hi : (filling i).isSome = false := by rw [hblank.1]; rfl
    rw [List.map_cons, readMembers]
    simp only [h.field?_name, hi, Bool.false_eq_true, if_false, hread]
    rw [← Filling.fill_set]
    exact ih hnodup.2 hlater

/-- **A record reads back from an object with all its fields.** -/
theorem readRecord_ofMembers (h : shape.Distinct) {nodes : ι → Node} {values : (i : ι) → shape.Slot i}
    (hread : ∀ i, shape.read i (nodes i) = .ok (values i)) (build : shape.Filling → Reading α) :
    shape.readRecord build (.ofMembers (shape.fields.map fun i => (shape.name i, nodes i))) =
      build fun i => some (values i) := by
  have hfill : shape.readMembers shape.blank (shape.fields.map fun i => (some (shape.name i), nodes i)) =
      .ok (shape.blank.fill shape.fields values) :=
    readMembers_fill h hread h.names.of_map fun _ _ => rfl
  have hall : shape.blank.fill shape.fields values = fun i => some (values i) := by
    funext i
    rw [Filling.fill, if_pos (h.mem i)]
  rw [hall] at hfill
  rw [Node.ofMembers, List.map_map, readRecord]
  change (shape.readMembers shape.blank (shape.fields.map fun i => (some (shape.name i), nodes i)) >>= _) = _
  rw [hfill]
  rfl

/-- Every field that is filled has a property. -/
def Filling.All (filling : shape.Filling) (P : (i : ι) → shape.Slot i → Prop) : Prop :=
  ∀ i v, filling i = some v → P i v

section All

variable {P : (i : ι) → shape.Slot i → Prop}

theorem Filling.All.set {filling : shape.Filling} (hf : filling.All P) {i : ι} {value : shape.Slot i} (hv : P i value) :
    (filling.set i value).All P := by
  intro j v hj
  by_cases hij : i = j
  · subst hij
    rw [Filling.set, dif_pos rfl] at hj
    cases hj
    exact hv
  · rw [Filling.set, dif_neg hij] at hj
    exact hf j v hj

omit [DecidableEq ι] in
theorem Filling.All.need {filling : shape.Filling} (hf : filling.All P) {i : ι} {v : shape.Slot i}
    (h : filling.need i = .ok v) : P i v := by
  rw [Filling.need] at h
  split at h
  · rename_i hsome
    cases h
    exact hf i _ hsome
  · cases h

variable (hread : ∀ i node v, shape.read i node = .ok v → P i v)
include hread

theorem readMembers_all {members : List (Option String × Node)} {filling filling' : shape.Filling}
    (hf : filling.All P) (h : shape.readMembers filling members = .ok filling') : filling'.All P := by
  induction members generalizing filling with
  | nil =>
    cases h
    exact hf
  | cons m rest ih =>
    obtain ⟨name, node⟩ := m
    cases name with
    | none => cases h
    | some key =>
      rw [readMembers] at h
      split at h
      · obtain ⟨-, -, h⟩ := bind_eq_ok_iff.1 h
        exact ih hf h
      · rename_i i _
        split at h
        · cases h
        · obtain ⟨v, hv, h⟩ := bind_eq_ok_iff.1 h
          exact ih (hf.set (hread i node v hv)) h

theorem readItems_all {fields : List ι} {items : List Node} {stop : Option Break} {filling filling' : shape.Filling}
    (hf : filling.All P) (h : shape.readItems filling fields items stop = .ok filling') : filling'.All P := by
  induction fields generalizing filling items with
  | nil =>
    cases items with
    | nil =>
      obtain ⟨-, -, h⟩ := bind_eq_ok_iff.1 h
      cases h
      exact hf
    | cons item rest => cases h
  | cons i later ih =>
    cases items with
    | nil =>
      obtain ⟨-, -, h⟩ := bind_eq_ok_iff.1 h
      split at h
      · exact ih hf h
      · cases h
    | cons item rest =>
      obtain ⟨v, hv, h⟩ := bind_eq_ok_iff.1 h
      exact ih (hf.set (hread i item v hv)) h

/-- What a record is built from has the properties that its fields are read with. -/
theorem readRecord_forall {build : shape.Filling → Reading α} {node : Node} {a : α}
    (h : shape.readRecord build node = .ok a) : ∃ filling, filling.All P ∧ build filling = .ok a := by
  have hblank : shape.blank.All P := by
    intro i v hv
    cases hv
  cases node with
  | object members stop =>
    obtain ⟨filling, hf, h⟩ := bind_eq_ok_iff.1 h
    obtain ⟨-, -, h⟩ := bind_eq_ok_iff.1 h
    exact ⟨filling, readMembers_all hread hblank hf, h⟩
  | array items stop =>
    obtain ⟨filling, hf, h⟩ := bind_eq_ok_iff.1 h
    exact ⟨filling, readItems_all hread hblank hf, h⟩
  | scalar _ | broken _ =>
    obtain ⟨_, -, h⟩ := bind_eq_ok_iff.1 h
    cases h

end All

end RecordShape

/-! ### Whole texts -/

theorem exists_of_readWhole {read : Node → Reading α} {text : String} {a : α} (h : readWhole read text = .ok a) :
    ∃ node, read node = .ok a := by
  obtain ⟨b, hb, h⟩ := bind_eq_ok_iff.1 h
  refine ⟨(Node.ofText text).1, ?_⟩
  split at h
  · cases h
    exact hb
  · cases h

end WordRecords.Json
