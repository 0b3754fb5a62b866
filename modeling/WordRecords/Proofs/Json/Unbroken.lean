import WordRecords.Proofs.Json.Accepted
import WordRecords.Proofs.Json.Fields

/-!
# Readers meet every break

A reader goes through the whole of a value, by reading its parts or by skipping them. What it reads has therefore no
break (`Unbroken`), and so a text that is read at all is a text of the grammar: `readWhole_eq_ok_iff` tells what is read
from a text by what the text says.
-/

namespace WordRecords.Json

variable {α : Type}

/-! ### When values are read -/

theorem readScalar_eq_ok_iff {node : Node} {s : Scalar} : readScalar node = .ok s ↔ node = .scalar (some s) := by
  rw [readScalar.eq_def]
  split
  · simp
  all_goals
    refine iff_of_false (by rintro ⟨⟩) ?_
    rintro ⟨⟩

theorem readText_eq_ok_iff {node : Node} {s : String} : readText node = .ok s ↔ node = .ofString s := by
  simp only [readText, bind_eq_ok_iff, readScalar_eq_ok_iff]
  constructor
  · rintro ⟨t, rfl, h⟩
    split at h
    · cases h
      rfl
    · cases h
  · rintro rfl
    exact ⟨_, rfl, rfl⟩

theorem readInteger_eq_ok_iff {low high n : Int} {node : Node} :
    readInteger low high node = .ok n ↔ node = .scalar (some (.integer n)) ∧ low ≤ n ∧ n ≤ high := by
  simp only [readInteger, bind_eq_ok_iff, readScalar_eq_ok_iff]
  constructor
  · rintro ⟨s, rfl, h⟩
    split at h
    · split at h
      · rename_i hn
        cases h
        exact ⟨rfl, hn⟩
      · cases h
    · cases h
  · rintro ⟨rfl, hn⟩
    exact ⟨_, rfl, if_pos hn⟩

theorem readCount_eq_ok_iff {node : Node} {n : Nat} : readCount node = .ok n ↔ node = .ofNat n ∧ n < countLimit := by
  constructor
  · intro h
    refine ⟨?_, readCount_lt h⟩
    rw [readCount, map_eq_pure_bind] at h
    obtain ⟨k, hk, hn⟩ := bind_eq_ok_iff.1 h
    obtain ⟨rfl, hlow, -⟩ := readInteger_eq_ok_iff.1 hk
    cases hn
    rw [Node.ofNat, Int.toNat_of_nonneg hlow]
  · rintro ⟨rfl, hn⟩
    exact readCount_ofNat hn

theorem readList_eq_ok_iff {read : Node → Reading α} {node : Node} {xs : List α} :
    readList read node = .ok xs ↔
      ∃ items, node = .ofList items ∧ List.Forall₂ (fun item x => read item = .ok x) items xs := by
  constructor
  · intro h
    cases node with
    | array items stop =>
      obtain ⟨values, hvalues, h⟩ := bind_eq_ok_iff.1 h
      obtain ⟨_, hend, h⟩ := bind_eq_ok_iff.1 h
      cases h
      rw [RecordShape.readEnd_eq_ok_iff.1 hend]
      exact ⟨items, rfl, mapM_eq_ok_iff.1 hvalues⟩
    | scalar _ | object _ _ | broken _ =>
      obtain ⟨_, -, h⟩ := bind_eq_ok_iff.1 h
      cases h
  · rintro ⟨items, rfl, h⟩
    exact bind_eq_ok_iff.2 ⟨xs, mapM_eq_ok_iff.2 h, rfl⟩

/-! ### What is read has no break -/

/-- A reader that reads nothing with a break. -/
def Unbroken (read : Node → Reading α) : Prop := ∀ node a, read node = .ok a → node.skipFault? = none

theorem unbroken_readText : Unbroken readText := by
  intro node s h
  rw [readText_eq_ok_iff.1 h]
  rfl

theorem unbroken_readInteger (low high : Int) : Unbroken (readInteger low high) := by
  intro node n h
  rw [(readInteger_eq_ok_iff.1 h).1]
  rfl

theorem unbroken_readCount : Unbroken readCount := by
  intro node n h
  rw [(readCount_eq_ok_iff.1 h).1]
  rfl

theorem Unbroken.readOptional {read : Node → Reading α} (hread : Unbroken read) : Unbroken (readOptional read) := by
  intro node x h
  rw [readOptional.eq_def] at h
  split at h
  · rfl
  · rw [map_eq_pure_bind] at h
    obtain ⟨a, ha, -⟩ := bind_eq_ok_iff.1 h
    exact hread _ a ha

theorem Unbroken.readList {read : Node → Reading α} (hread : Unbroken read) : Unbroken (readList read) := by
  intro node xs h
  obtain ⟨items, rfl, hitems⟩ := readList_eq_ok_iff.1 h
  rw [Node.ofList, skipFault?_array_eq_none_iff, skipItems?_eq_none_iff]
  refine ⟨fun item hitem => ?_, rfl⟩
  obtain ⟨x, -, hx⟩ := exists_of_mem_left hitems hitem
  exact hread item x hx

mutual

/-- A value that can be read whole can be skipped. -/
theorem Node.skipFault?_of_readFault? {depth : Nat} :
    ∀ {node : Node}, node.readFault? depth = none → node.skipFault? = none
  | .scalar _, _ => rfl
  | .array items stop, h => by
    rw [readFault?] at h
    split at h
    · rw [Option.or_eq_none_iff, Option.map_eq_none_iff] at h
      exact skipFault?_array_eq_none_iff.2 ⟨skipItems?_of_readItems? h.1, h.2⟩
    · cases h
  | .object members stop, h => by
    rw [readFault?] at h
    split at h
    · rw [Option.or_eq_none_iff, Option.map_eq_none_iff] at h
      exact skipFault?_object_eq_none_iff.2 ⟨skipMembers?_of_readMembers? h.1, h.2⟩
    · cases h
  | .broken _, h => by cases h

theorem Node.skipItems?_of_readItems? {depth : Nat} :
    ∀ {items : List Node}, Node.readItems? depth items = none → Node.skipItems? items = none
  | [], _ => rfl
  | item :: rest, h => by
    rw [readItems?, Option.or_eq_none_iff] at h
    rw [skipItems?, skipFault?_of_readFault? h.1, skipItems?_of_readItems? h.2]
    rfl

theorem Node.skipMembers?_of_readMembers? {depth : Nat} :
    ∀ {members : List (Option String × Node)}, Node.readMembers? depth members = none →
      Node.skipMembers? members = none
  | [], _ => rfl
  | (none, _) :: _, h => by cases h
  | (some _, value) :: rest, h => by
    rw [readMembers?, Option.or_eq_none_iff] at h
    rw [skipMembers?, skipFault?_of_readFault? h.1, skipMembers?_of_readMembers? h.2]
    rfl

end

namespace RecordShape

variable {ι : Type} {shape : RecordShape ι} [DecidableEq ι]

theorem unbroken_readItems (hread : ∀ i, Unbroken (shape.read i)) {fields : List ι} {items : List Node}
    {stop : Option Break} {filling f : shape.Filling} (h : shape.readItems filling fields items stop = .ok f) :
    stop = none ∧ ∀ item ∈ items, item.skipFault? = none := by
  induction fields generalizing items filling with
  | nil =>
    cases items with
    | nil =>
      obtain ⟨_, hend, -⟩ := bind_eq_ok_iff.1 h
      exact ⟨readEnd_eq_ok_iff.1 hend, by simp⟩
    | cons item rest => cases h
  | cons i later ih =>
    cases items with
    | nil =>
      obtain ⟨_, hend, -⟩ := bind_eq_ok_iff.1 h
      exact ⟨readEnd_eq_ok_iff.1 hend, by simp⟩
    | cons item rest =>
      obtain ⟨v, hv, h⟩ := bind_eq_ok_iff.1 h
      obtain ⟨hstop, hrest⟩ := ih h
      exact ⟨hstop, List.forall_mem_cons.2 ⟨hread i item v hv, hrest⟩⟩

theorem unbroken_readMembers (hd : shape.Distinct) (hread : ∀ i, Unbroken (shape.read i))
    {members : List (Option String × Node)} {f : shape.Filling}
    (h : shape.readMembers shape.blank members = .ok f) : ∀ m ∈ members, m.2.skipFault? = none := by
  obtain ⟨hskip, hgives⟩ := (readMembers_eq_ok_iff hd).1 h
  rintro ⟨_ | key, node⟩ hm
  · exact absurd rfl (hskip.named _ hm)
  cases hkey : shape.field? key with
  | none => exact hskip.unknown key node hm hkey
  | some i =>
    obtain rfl := hd.field?_eq_some_iff.1 hkey
    have hcalled : (some (shape.name i), node) ∈ called (shape.name i) members :=
      List.mem_filter.2 ⟨hm, beq_self_eq_true _⟩
    have hi := hgives i
    cases hfi : f i with
    | none =>
      rw [hfi, Gives] at hi
      rw [hi] at hcalled
      cases hcalled
    | some v =>
      rw [hfi] at hi
      obtain ⟨node', hsole, hv⟩ := hi
      rw [hsole, List.mem_singleton, Prod.mk.injEq] at hcalled
      rw [hcalled.2]
      exact hread i node' v hv

/-- A record that is read has no break. -/
theorem unbroken_readRecord (hd : shape.Distinct) (hread : ∀ i, Unbroken (shape.read i))
    (build : shape.Filling → Reading α) : Unbroken (shape.readRecord build) := by
  intro node a h
  cases node with
  | object members stop =>
    obtain ⟨f, hf, h⟩ := bind_eq_ok_iff.1 h
    obtain ⟨_, hend, -⟩ := bind_eq_ok_iff.1 h
    rw [skipFault?_object_eq_none_iff, skipMembers?_eq_none_iff]
    exact ⟨unbroken_readMembers hd hread hf, readEnd_eq_ok_iff.1 hend⟩
  | array items stop =>
    obtain ⟨f, hf, -⟩ := bind_eq_ok_iff.1 h
    rw [skipFault?_array_eq_none_iff, skipItems?_eq_none_iff]
    exact (unbroken_readItems hread hf).symm
  | scalar _ | broken _ =>
    obtain ⟨_, -, h⟩ := bind_eq_ok_iff.1 h
    cases h

end RecordShape

/-! ### Whole texts -/

/-- **A text is read as what it says**, if it is in the grammar, and is not read at all otherwise. -/
theorem readWhole_eq_ok_iff {read : Node → Reading α} (hread : Unbroken read) {text : String} {a : α} :
    readWhole read text = .ok a ↔ ∃ node, SaysText text node ∧ read node = .ok a := by
  constructor
  · intro h
    obtain ⟨b, hb, h⟩ := bind_eq_ok_iff.1 h
    split at h
    · rename_i htrailing
      cases h
      exact ⟨_, saysText_iff.2 ⟨Prod.ext rfl htrailing, hread _ _ hb⟩, hb⟩
    · cases h
  · rintro ⟨node, htext, h⟩
    rw [readWhole, htext.ofText_eq]
    exact bind_eq_ok_iff.2 ⟨a, h, rfl⟩

end WordRecords.Json
