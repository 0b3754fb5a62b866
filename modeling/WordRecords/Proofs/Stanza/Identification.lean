import Mathlib.Data.List.Basic
import WordRecords.Stanza.Entry

/-!
# Forms of identifications

A string identifies a word if it is a count, and a range if it is two counts with a hyphen between; the first hyphen
decides (`splitHyphen?_append`). `NativeId.Supported` lists all forms that describe anything, and
`isSome_parse?_iff` states that these are the ones the reader takes.
-/

namespace WordRecords.Stanza

/-! ### The first hyphen -/

theorem splitHyphen?_eq_none_iff {cs : List Char} : splitHyphen? cs = none ↔ '-' ∉ cs := by
  induction cs with
  | nil => simp [splitHyphen?]
  | cons c rest ih =>
    rw [splitHyphen?]
    by_cases hc : c = '-'
    · simp [hc]
    · rw [if_neg hc, Option.map_eq_none_iff, ih, List.mem_cons, not_or]
      exact (and_iff_right (Ne.symm hc)).symm

theorem splitHyphen?_append {low high : List Char} (h : '-' ∉ low) :
    splitHyphen? (low ++ '-' :: high) = some (low, high) := by
  induction low with
  | nil => simp [splitHyphen?]
  | cons c low ih =>
    have hc : c ≠ '-' := fun hc => h (by simp [hc])
    have hlow : '-' ∉ low := fun hl => h (List.mem_cons_of_mem c hl)
    rw [List.cons_append, splitHyphen?, if_neg hc, ih hlow, Option.map_some]

/-! ### Supported forms -/

/-- The forms that describe a word or a range of words. -/
inductive NativeId.Supported : NativeId → Prop
  | number (n : Nat) : Supported (.number n)
  /-- A list of one number. -/
  | word (n : Nat) : Supported (.list [n])
  /-- A list of two numbers. -/
  | range (low high : Nat) : Supported (.list [low, high])
  /-- A string without a hyphen that is a count. -/
  | wordText {s : String} {n : Nat} (hs : '-' ∉ s.toList) (hn : Text.readSignedCount? s.toList = some n) :
      Supported (.text s)
  /-- A string that has a count before and a count behind its first hyphen. -/
  | rangeText {s : String} {before behind : List Char} {low high : Nat} (hs : s.toList = before ++ '-' :: behind)
      (hb : '-' ∉ before) (hlow : Text.readSignedCount? before = some low)
      (hhigh : Text.readSignedCount? behind = some high) : Supported (.text s)

theorem parse?_text_of_not_mem {s : String} (hs : '-' ∉ s.toList) :
    NativeId.parse? (.text s) = (Text.readSignedCount? s.toList).map .word := by
  rw [NativeId.parse?, splitHyphen?_eq_none_iff.2 hs]

theorem parse?_text_of_append {s : String} {before behind : List Char} (hs : s.toList = before ++ '-' :: behind)
    (hb : '-' ∉ before) :
    NativeId.parse? (.text s) = (Text.readSignedCount? before).bind fun low =>
      (Text.readSignedCount? behind).bind fun high => some (.range low high) := by
  rw [NativeId.parse?, hs, splitHyphen?_append hb]
  rfl

/-- The reader takes the supported forms, and no others. -/
theorem isSome_parse?_iff {id : NativeId} : id.parse?.isSome ↔ id.Supported := by
  constructor
  · intro h
    rcases id with n | ns | s
    · exact .number n
    · rcases ns with _ | ⟨n, _ | ⟨m, _ | ⟨k, ns⟩⟩⟩
      · cases h
      · exact .word n
      · exact .range n m
      · cases h
    · by_cases hs : '-' ∈ s.toList
      · obtain ⟨before, behind, hs, hb⟩ := List.eq_append_cons_of_mem hs
        rw [parse?_text_of_append hs hb, Option.isSome_bind, Option.any_eq_true] at h
        obtain ⟨low, hlow, h⟩ := h
        rw [Option.isSome_bind, Option.any_eq_true] at h
        obtain ⟨high, hhigh, -⟩ := h
        exact .rangeText hs hb hlow hhigh
      · rw [parse?_text_of_not_mem hs, Option.isSome_map, Option.isSome_iff_exists] at h
        obtain ⟨n, hn⟩ := h
        exact .wordText hs hn
  · rintro (n | n | ⟨low, high⟩ | ⟨hs, hn⟩ | ⟨hs, hb, hlow, hhigh⟩)
    · rfl
    · rfl
    · rfl
    · rw [parse?_text_of_not_mem hs, hn]
      rfl
    · rw [parse?_text_of_append hs hb, hlow, hhigh]
      rfl

theorem supported_of_parse? {id : NativeId} {i : EntryId} (h : id.parse? = some i) : id.Supported :=
  isSome_parse?_iff.1 (Option.isSome_of_eq_some h)

end WordRecords.Stanza
