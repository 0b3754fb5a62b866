import WordRecords.Proofs.Text.Fields
import WordRecords.Proofs.Text.LowerCase

/-!
# Lower-casing between spaces

A text can be lower-cased field by field: what stands between two spaces has the lower-case form that it has by itself
(`lower_joinFields`). As lower-casing writes no space but for a space, the fields of a lower-cased text are the
lower-cased fields (`fields_lower`): splitting at spaces and lower-casing commute (`splitFields_lowerCase`).

Only a sigma looks at its neighbours, and its look does not reach across a space, which is neither a letter nor looked
through (`meetsCased_append_space`). This holds on both sides: for the text before the sigma, read backwards, and for
the text behind it.
-/

namespace WordRecords.Text

open LowerCase

/-! ### A look at a space -/

/-- What stands behind a space is not seen. -/
theorem meetsCased_append_space (front rest : List Char) : meetsCased (front ++ ' ' :: rest) = meetsCased front := by
  have hstop : isIgnorable ' ' = false ∧ isCased ' ' = false := by decide +kernel
  -- the look goes through ignorable characters and ends in the front, or at the space and finds no letter
  induction front with
  | nil =>
    rw [List.nil_append, meetsCased, List.dropWhile_cons_of_neg (by simp [hstop.1])]
    exact hstop.2
  | cons c front ih =>
    by_cases hc : isIgnorable c = true
    · unfold meetsCased at ih ⊢
      rw [List.cons_append, List.dropWhile_cons_of_pos hc, List.dropWhile_cons_of_pos hc]
      exact ih
    · unfold meetsCased
      rw [List.cons_append, List.dropWhile_cons_of_neg hc, List.dropWhile_cons_of_neg hc]

/-- The form of a sigma does not depend on the text behind a space. -/
theorem lowerSigma_append_space (before front rest : List Char) :
    lowerSigma before (front ++ ' ' :: rest) = lowerSigma before front := by
  rw [lowerSigma, meetsCased_append_space, lowerSigma]

/-- Nor does it depend on the text before a space, and no other character looks at its neighbours. -/
theorem lowerAfter_append_space (before earlier cs : List Char) :
    lowerAfter (before ++ ' ' :: earlier) cs = lowerAfter before cs := by
  induction cs generalizing before with
  | nil => rfl
  | cons c rest ih =>
    have hsigma : lowerSigma (before ++ ' ' :: earlier) rest = lowerSigma before rest := by
      rw [lowerSigma, meetsCased_append_space, lowerSigma]
    rw [lowerAfter, lowerAfter, hsigma, ← List.cons_append, ih]

theorem settled_space : Settled ' ' := by decide +kernel

/-! ### Field by field -/

theorem lowerAfter_field (before front rest : List Char) :
    lowerAfter before (front ++ ' ' :: rest) = lowerAfter before front ++ ' ' :: lower rest := by
  induction front generalizing before with
  | nil =>
    -- all that was read so far stands before the space, where nothing behind it looks
    have hrest : lowerAfter (' ' :: before) rest = lower rest := lowerAfter_append_space [] before rest
    calc lowerAfter before (' ' :: rest) = lowerChar ' ' ++ lowerAfter (' ' :: before) rest := by
          rw [lowerAfter, if_neg (by decide)]
      _ = ' ' :: lower rest := by rw [settled_space, hrest, List.singleton_append]
  | cons c front ih =>
    rw [List.cons_append, lowerAfter, lowerAfter, lowerSigma_append_space, ih, List.append_assoc]

/-- The space divides the lower-case form as it divides the text. -/
theorem lower_append_space (front rest : List Char) : lower (front ++ ' ' :: rest) = lower front ++ ' ' :: lower rest :=
  lowerAfter_field [] front rest

/-- **Lower-casing commutes with joining by spaces.** -/
theorem lower_joinFields (fs : List (List Char)) : lower (joinFields ' ' fs) = joinFields ' ' (fs.map lower) := by
  induction fs with
  | nil => rfl
  | cons field later ih =>
    by_cases hl : later = []
    · rw [hl]
      rfl
    · rw [joinFields_cons ' ' field hl, lower_append_space, ih, List.map_cons,
        joinFields_cons ' ' (lower field) (List.map_eq_nil_iff.not.2 hl)]

/-! ### Where spaces come from -/

/-- No run leads as far down as the space. -/
theorem space_lt_target : ∀ r ∈ runs, ' '.toNat < r.target := by decide +kernel

theorem eq_space_of_mem_lowerChar {c : Char} (h : ' ' ∈ lowerChar c) : c = ' ' := by
  rw [lowerChar] at h
  split at h
  · exact absurd h (by decide)
  · split at h
    · rename_i r hr
      have hc := List.find?_some hr
      have hm := List.mem_of_find?_eq_some hr
      -- a form in the table lies above the space
      have himage : ' '.toNat = r.image c.toNat := by
        rw [List.mem_singleton.1 h]
        exact Run.toNat_ofNat_image (runs_valid r hm) hc
      have hlow : ' '.toNat < r.target := space_lt_target r hm
      unfold Run.image at himage
      omega
    · exact (List.mem_singleton.1 h).symm

theorem space_not_mem_lowerAfter {before cs : List Char} (h : ' ' ∉ cs) : ' ' ∉ lowerAfter before cs := by
  induction cs generalizing before with
  | nil => exact h
  | cons c rest ih =>
    rw [List.mem_cons, not_or] at h
    rw [lowerAfter, List.mem_append, not_or]
    refine ⟨?_, ih h.2⟩
    split
    · rw [List.mem_singleton, lowerSigma]
      split <;> decide
    · exact fun hc => h.1 (eq_space_of_mem_lowerChar hc).symm

/-! ### The fields of a lower-cased text -/

theorem fields_lower (cs : List Char) : fields ' ' (lower cs) = (fields ' ' cs).map lower := by
  have hne : (fields ' ' cs).map lower ≠ [] := List.map_eq_nil_iff.not.2 (fields_ne_nil ' ' cs)
  have hspaceless : ∀ field ∈ (fields ' ' cs).map lower, ' ' ∉ field :=
    List.forall_mem_map.2 fun _ hfield => space_not_mem_lowerAfter (not_mem_of_mem_fields hfield)
  calc fields ' ' (lower cs) = fields ' ' (lower (joinFields ' ' (fields ' ' cs))) := by rw [joinFields_fields]
    _ = fields ' ' (joinFields ' ' ((fields ' ' cs).map lower)) := by rw [lower_joinFields]
    _ = (fields ' ' cs).map lower := fields_joinFields hne hspaceless

/-- **Splitting at spaces and lower-casing commute.** -/
theorem splitFields_lowerCase (s : String) : splitFields ' ' (lowerCase s) = (splitFields ' ' s).map lowerCase := by
  rw [splitFields, splitFields, lowerCase, String.toList_ofList, fields_lower, List.map_map, List.map_map]
  refine List.map_congr_left fun field _ => ?_
  simp only [Function.comp_apply, lowerCase, String.toList_ofList]

end WordRecords.Text
