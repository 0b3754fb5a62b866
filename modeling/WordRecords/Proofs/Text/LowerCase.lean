import WordRecords.Text.LowerCase

/-!
# Lower-casing twice

Lower-casing is idempotent: `lowerCase_lowerCase`, and so `isLowerCase_lowerCase`. The context of a sigma plays no part
in the second round, as the first one leaves no capital sigma behind: every character that it writes is *settled*, a
character that is its own lower-case form. For the simple mapping this is a fact about its table, that no run leads into
a run (`runs_miss`).
-/

namespace WordRecords.Text

namespace LowerCase

/-! ### Where the runs lead -/

/-- The forms that a run leads to miss the code points of another run: they end before it, begin behind it, or take
turns with it. -/
def Run.misses (r r' : Run) : Bool :=
  (r.target + (r.last - r.first)).blt r'.first || r'.last.blt r.target ||
    (r'.step == 2 && (r.step == 2 || r.first == r.last) && (r.target + r'.first) % 2 == 1)

/-- The forms that a run leads to are characters. -/
def Run.Valid (r : Run) : Prop :=
  r.target + (r.last - r.first) < 0xd800 ∨ 0xdfff < r.target ∧ r.target + (r.last - r.first) < 0x110000

instance (r : Run) : Decidable r.Valid := inferInstanceAs (Decidable (_ ∨ _ ∧ _))

/-- The dotted capital I as a run. Its form, too long for a run, does not matter here. -/
def dottedI : Run := ⟨0x130, 0x130, 1, 0x69⟩

/-- No run leads into a run, nor to the dotted capital I. -/
theorem runs_miss : ∀ r ∈ runs, ∀ r' ∈ dottedI :: runs, r.misses r' = true := by
  -- one pass over the table, which the kernel evaluates faster than the quantifiers
  have key : (runs.all fun r => (dottedI :: runs).all fun r' => r.misses r') = true := by decide +kernel
  intro r hr
  exact List.all_eq_true.1 (List.all_eq_true.1 key r hr)

theorem runs_valid : ∀ r ∈ runs, r.Valid := by decide +kernel

theorem Run.covers_image_eq_false {r r' : Run} (h : r.misses r' = true) {n : Nat} (hn : r.covers n = true) :
    r'.covers (r.image n) = false := by
  unfold Run.covers at hn ⊢
  obtain ⟨h1, h2, h3⟩ := of_decide_eq_true hn
  simp only [Run.misses, Bool.or_eq_true, Bool.and_eq_true, Nat.blt_eq, beq_iff_eq] at h
  refine decide_eq_false ?_
  unfold Run.image
  rintro ⟨h4, h5, h6⟩
  rcases h with (h | h) | ⟨⟨hs', hs⟩, hp⟩
  · omega
  · omega
  · rw [hs'] at h6
    rcases hs with hs | hs
    · rw [hs] at h3
      omega
    · omega

theorem Run.toNat_ofNat_image {r : Run} (h : r.Valid) {n : Nat} (hn : r.covers n = true) :
    (Char.ofNat (r.image n)).toNat = r.image n := by
  unfold Run.covers at hn
  obtain ⟨h1, h2, -⟩ := of_decide_eq_true hn
  have hv : (r.image n).isValidChar := by
    unfold Run.image Nat.isValidChar
    rcases h with h | ⟨h, h'⟩
    · exact Or.inl (by omega)
    · exact Or.inr (by omega)
  rw [Char.ofNat, dif_pos hv]
  rfl

end LowerCase

open LowerCase

/-! ### Settled characters -/

/-- A character is settled when it is its own lower-case form. -/
def Settled (c : Char) : Prop := lowerChar c = [c]

instance (c : Char) : Decidable (Settled c) := inferInstanceAs (Decidable (_ = _))

theorem settled_of_uncovered {c : Char} (h : ∀ r ∈ dottedI :: runs, r.covers c.toNat = false) : Settled c := by
  have hI : c ≠ 'İ' := by
    rintro rfl
    exact absurd (h dottedI List.mem_cons_self) (by decide)
  have hr : runs.find? (·.covers c.toNat) = none :=
    List.find?_eq_none.2 fun r hr => by simp [h r (List.mem_cons_of_mem _ hr)]
  rw [Settled, lowerChar, if_neg hI, hr]

/-- What is written for a character is settled. -/
theorem settled_of_mem_lowerChar {c d : Char} (h : d ∈ lowerChar c) : Settled d := by
  rw [lowerChar] at h
  split at h
  · -- the dotted capital I, whose two characters are looked up
    have key : Settled 'i' ∧ Settled '\u0307' := by decide
    rcases List.mem_cons.1 h with rfl | h
    · exact key.1
    · rw [List.mem_singleton.1 h]
      exact key.2
  · split at h
    · rename_i r hr
      have hc := List.find?_some hr
      have hm := List.mem_of_find?_eq_some hr
      rw [List.mem_singleton.1 h]
      refine settled_of_uncovered fun r' hr' => ?_
      rw [Run.toNat_ofNat_image (runs_valid r hm) hc]
      exact Run.covers_image_eq_false (runs_miss r hm r' hr') hc
    · rename_i hI _ hr
      rw [List.mem_singleton.1 h, Settled, lowerChar, if_neg hI, hr]

theorem settled_lowerSigma (before after : List Char) : Settled (lowerSigma before after) := by
  have key : Settled 'ς' ∧ Settled 'σ' := by decide
  unfold lowerSigma
  split
  · exact key.1
  · exact key.2

/-- Lower-casing writes settled characters only. -/
theorem settled_of_mem_lowerAfter {before cs : List Char} {d : Char} (h : d ∈ lowerAfter before cs) : Settled d := by
  induction cs generalizing before with
  | nil => cases h
  | cons c rest ih =>
    rw [lowerAfter] at h
    rcases List.mem_append.1 h with h | h
    · split at h
      · rw [List.mem_singleton.1 h]
        exact settled_lowerSigma before rest
      · exact settled_of_mem_lowerChar h
    · exact ih h

/-- Lower-casing leaves settled characters alone, wherever they stand. -/
theorem lowerAfter_eq_self {before cs : List Char} (h : ∀ c ∈ cs, Settled c) : lowerAfter before cs = cs := by
  induction cs generalizing before with
  | nil => rfl
  | cons c rest ih =>
    have hc : Settled c := h c List.mem_cons_self
    have hs : c ≠ 'Σ' := by
      rintro rfl
      exact absurd hc (by decide)
    rw [lowerAfter, if_neg hs, hc, ih fun d hd => h d (List.mem_cons_of_mem _ hd)]
    rfl

/-! ### The second round -/

theorem lower_lower (cs : List Char) : lower (lower cs) = lower cs :=
  lowerAfter_eq_self fun _ h => settled_of_mem_lowerAfter h

/-- **Lower-casing is idempotent.** -/
theorem lowerCase_lowerCase (s : String) : lowerCase (lowerCase s) = lowerCase s := by
  unfold lowerCase
  rw [String.toList_ofList, lower_lower]

/-- A lower-cased text is in lower case. -/
theorem isLowerCase_lowerCase (s : String) : IsLowerCase (lowerCase s) := lowerCase_lowerCase s

end WordRecords.Text
