import Mathlib.Data.List.Basic
import WordRecords.Text.Digits

/-!
# Counts read back

A count is written with the digits `0` to `9`, which are decimal digits in the wide sense too, and reads back
(`readCount?_writeCount`), also where a plus sign would be allowed. `readCount?_eq_some_iff` says what is read. Digits
in front of a text are cut off exactly where the text goes on otherwise.
-/

namespace WordRecords.Text

/-! ### The front of a text -/

section Front

variable {p : Char → Bool} {front rest : List Char}

theorem takeWhile_front (hf : ∀ c ∈ front, p c) (hr : ∀ c ∈ rest.head?, p c = false) :
    (front ++ rest).takeWhile p = front := by
  have hrest : rest.takeWhile p = [] := by
    cases rest with
    | nil => rfl
    | cons c rest => exact List.takeWhile_cons_of_neg (by simp [hr c rfl])
  rw [List.takeWhile_append_of_pos hf, hrest, List.append_nil]

theorem dropWhile_front (hf : ∀ c ∈ front, p c) (hr : ∀ c ∈ rest.head?, p c = false) :
    (front ++ rest).dropWhile p = rest := by
  have hrest : rest.dropWhile p = rest := by
    cases rest with
    | nil => rfl
    | cons c rest => exact List.dropWhile_cons_of_neg (by simp [hr c rfl])
  rw [List.dropWhile_append_of_pos hf, hrest]

end Front

/-! ### Counts -/

theorem isDigit_of_mem_writeCount {n : Nat} {c : Char} (h : c ∈ writeCount n) : c.isDigit :=
  Nat.isDigit_of_mem_toDigits (by decide) (by decide) h

theorem not_mem_writeCount {n : Nat} {c : Char} (h : c.isDigit = false) : c ∉ writeCount n := by
  intro hc
  rw [isDigit_of_mem_writeCount hc] at h
  cases h

theorem isDecimalDigit_of_isDigit {c : Char} (h : c.isDigit) : isDecimalDigit c := by
  have hc : 0x30 ≤ c.toNat ∧ c.toNat ≤ 0x39 := by
    simpa [Char.isDigit, UInt32.le_iff_toNat_le] using h
  rw [isDecimalDigit, Ranges.has, List.any_eq_true]
  exact ⟨(0x30, 0x39), List.mem_cons_self, decide_eq_true hc⟩

/-- When digits are read as a count. -/
theorem readCount?_eq_some_iff {cs : List Char} {n : Nat} :
    readCount? cs = some n ↔ cs ≠ [] ∧ (∀ c ∈ cs, c.isDigit) ∧ Nat.ofDigitChars 10 cs 0 = n ∧ n < countLimit := by
  rw [readCount?]
  by_cases hdigits : cs ≠ [] ∧ cs.all Char.isDigit
  · rw [if_pos hdigits]
    rw [List.all_eq_true] at hdigits
    by_cases hlimit : Nat.ofDigitChars 10 cs 0 < countLimit
    · simp only [if_pos hlimit, Option.some.injEq]
      constructor
      · rintro rfl
        exact ⟨hdigits.1, hdigits.2, rfl, hlimit⟩
      · rintro ⟨-, -, hn, -⟩
        exact hn
    · simp only [if_neg hlimit]
      refine iff_of_false (by simp) ?_
      rintro ⟨-, -, rfl, hn⟩
      exact hlimit hn
  · rw [if_neg hdigits]
    refine iff_of_false (by simp) ?_
    rintro ⟨hne, hall, -⟩
    exact hdigits ⟨hne, List.all_eq_true.2 hall⟩

theorem readCount?_writeCount {n : Nat} (h : n < countLimit) : readCount? (writeCount n) = some n :=
  readCount?_eq_some_iff.2
    ⟨Nat.toDigits_ne_nil, fun _ => isDigit_of_mem_writeCount, Nat.ofDigitChars_ten_toDigits, h⟩

theorem readSignedCount?_writeCount {n : Nat} (h : n < countLimit) : readSignedCount? (writeCount n) = some n := by
  rw [readSignedCount?.eq_def]
  split
  · rename_i heq
    exact absurd (heq ▸ List.mem_cons_self) (not_mem_writeCount (n := n) (c := '+') (by decide))
  · exact readCount?_writeCount h

end WordRecords.Text
