import Mathlib.Data.List.Basic
import WordRecords.Text.Fields

/-!
# Laws of fields

A text has one field more than it has separators (`length_fields`), so that a text without separators is its own only
field, and a separator divides the fields before it from those behind it (`fields_append`). No field has a separator
(`not_mem_of_mem_fields`), and any fields without separators, one at least, are the fields of the text that they make up
(`fields_joinFields`).
-/

namespace WordRecords.Text

theorem length_fields (sep : Char) (cs : List Char) : (fields sep cs).length = cs.count sep + 1 := by
  induction cs with
  | nil => rfl
  | cons c rest ih =>
    rw [fields]
    by_cases hc : c = sep
    · rw [if_pos hc, List.length_cons, ih, hc, List.count_cons_self]
    · rw [if_neg hc, List.count_cons_of_ne hc]
      cases hf : fields sep rest with
      | nil => exact absurd hf (fields_ne_nil sep rest)
      | cons field later =>
        rw [hf] at ih
        exact ih

theorem fields_of_not_mem {sep : Char} {cs : List Char} (h : sep ∉ cs) : fields sep cs = [cs] := by
  induction cs with
  | nil => rfl
  | cons c rest ih =>
    have hc : c ≠ sep := fun hc => h (hc ▸ List.mem_cons_self)
    rw [fields, if_neg hc, ih fun hrest => h (List.mem_cons_of_mem _ hrest)]

/-- A separator divides the fields before it from those behind it. -/
theorem fields_append (sep : Char) (cs rest : List Char) :
    fields sep (cs ++ sep :: rest) = fields sep cs ++ fields sep rest := by
  induction cs with
  | nil => simp [fields]
  | cons c cs ih =>
    rw [List.cons_append, fields, fields]
    by_cases hc : c = sep
    · rw [if_pos hc, if_pos hc, ih, List.cons_append]
    · rw [if_neg hc, if_neg hc, ih]
      cases hf : fields sep cs with
      | nil => exact absurd hf (fields_ne_nil sep cs)
      | cons field later => rfl

/-- Up to a separator there is one field. -/
theorem fields_append_sep {sep : Char} {field : List Char} (h : sep ∉ field) (rest : List Char) :
    fields sep (field ++ sep :: rest) = field :: fields sep rest := by
  rw [fields_append, fields_of_not_mem h, List.singleton_append]

/-- Joining fields loses none and makes no new one. -/
theorem fields_joinFields {sep : Char} {fs : List (List Char)} (hne : fs ≠ []) (h : ∀ field ∈ fs, sep ∉ field) :
    fields sep (joinFields sep fs) = fs := by
  induction fs with
  | nil => exact absurd rfl hne
  | cons field later ih =>
    rw [List.forall_mem_cons] at h
    by_cases hl : later = []
    · rw [hl, joinFields, fields_of_not_mem h.1]
    · rw [joinFields_cons sep field hl, fields_append_sep h.1, ih hl h.2]

theorem not_mem_of_mem_fields {sep : Char} {cs field : List Char} (h : field ∈ fields sep cs) : sep ∉ field := by
  induction cs generalizing field with
  | nil =>
    rw [List.mem_singleton.1 h]
    exact List.not_mem_nil
  | cons c rest ih =>
    rw [fields] at h
    by_cases hc : c = sep
    · rw [if_pos hc] at h
      rcases List.mem_cons.1 h with rfl | h
      · exact List.not_mem_nil
      · exact ih h
    · rw [if_neg hc] at h
      cases hf : fields sep rest with
      | nil => exact absurd hf (fields_ne_nil sep rest)
      | cons first later =>
        rw [hf] at h ih
        rcases List.mem_cons.1 h with rfl | h
        · rw [List.mem_cons, not_or]
          exact ⟨Ne.symm hc, ih List.mem_cons_self⟩
        · exact ih (List.mem_cons_of_mem _ h)

/-- All characters of a text are in its fields or between them. -/
theorem mem_joinFields {sep c : Char} {fs : List (List Char)} (h : c ∈ joinFields sep fs) :
    c = sep ∨ ∃ field ∈ fs, c ∈ field := by
  induction fs with
  | nil => cases h
  | cons field later ih =>
    by_cases hl : later = []
    · rw [hl, joinFields] at h
      exact .inr ⟨field, List.mem_cons_self, h⟩
    · rw [joinFields_cons sep field hl, List.mem_append, List.mem_cons] at h
      rcases h with h | h | h
      · exact .inr ⟨field, List.mem_cons_self, h⟩
      · exact .inl h
      · rcases ih h with h | ⟨other, hother, h⟩
        · exact .inl h
        · exact .inr ⟨other, List.mem_cons_of_mem _ hother, h⟩

theorem joinFields_eq_intercalate (sep : Char) (fs : List (List Char)) : joinFields sep fs = [sep].intercalate fs := by
  induction fs with
  | nil => rfl
  | cons field later ih =>
    cases later with
    | nil => rw [joinFields, List.intercalate_singleton]
    | cons next later =>
      rw [joinFields_cons sep field (List.cons_ne_nil _ _), ih, List.intercalate_cons_cons, List.append_assoc]
      rfl

/-! ### Strings -/

/-- Fields joined by a string that is the separator. -/
theorem toList_intercalate {sep : Char} {t : String} (ht : t.toList = [sep]) (ss : List String) :
    (t.intercalate ss).toList = joinFields sep (ss.map String.toList) := by
  rw [String.toList_intercalate, ht, joinFields_eq_intercalate]

theorem intercalate_splitFields {sep : Char} {t : String} (ht : t.toList = [sep]) (s : String) :
    t.intercalate (splitFields sep s) = s := by
  have hfields : (splitFields sep s).map String.toList = fields sep s.toList := by
    simp [splitFields, Function.comp_def]
  rw [← String.toList_inj, toList_intercalate ht, hfields, joinFields_fields]

theorem not_mem_of_mem_splitFields {sep : Char} {s field : String} (h : field ∈ splitFields sep s) :
    sep ∉ field.toList := by
  obtain ⟨cs, hcs, rfl⟩ := List.mem_map.1 h
  rw [String.toList_ofList]
  exact not_mem_of_mem_fields hcs

theorem length_splitFields_pos (sep : Char) (s : String) : 0 < (splitFields sep s).length := by
  rw [splitFields, List.length_map, length_fields]
  exact Nat.succ_pos _

theorem length_splitFields_eq_one_iff {sep : Char} {s : String} : (splitFields sep s).length = 1 ↔ sep ∉ s.toList := by
  rw [splitFields, List.length_map, length_fields, Nat.add_eq_right, List.count_eq_zero]

theorem splitFields_of_not_mem {sep : Char} {s : String} (h : sep ∉ s.toList) : splitFields sep s = [s] := by
  rw [splitFields, fields_of_not_mem h, List.map_singleton, String.ofList_toList]

end WordRecords.Text
