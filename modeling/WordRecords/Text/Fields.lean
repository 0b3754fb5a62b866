/-!
# Fields of a text

A text with separators is a non-empty list of separator-free fields: `fields` splits it, `joinFields` puts it together
again.
-/

namespace WordRecords.Text

/-- The fields between the separators of a text: one more than there are separators. -/
def fields (sep : Char) : List Char → List (List Char)
  | [] => [[]]
  | c :: rest =>
    if c = sep then [] :: fields sep rest
    else match fields sep rest with
      | field :: later => (c :: field) :: later
      | [] => [[c]]

/-- The text with the given fields, one separator between neighbours. -/
def joinFields (sep : Char) : List (List Char) → List Char
  | [] => []
  | [field] => field
  | field :: later => field ++ sep :: joinFields sep later

/-- As `fields`, on strings. -/
def splitFields (sep : Char) (s : String) : List String :=
  (fields sep s.toList).map String.ofList

theorem fields_ne_nil (sep : Char) (cs : List Char) : fields sep cs ≠ [] := by
  cases cs with
  | nil => simp [fields]
  | cons c rest =>
    rw [fields]
    split
    · simp
    · split <;> simp

theorem joinFields_cons (sep : Char) (field : List Char) {later : List (List Char)} (h : later ≠ []) :
    joinFields sep (field :: later) = field ++ sep :: joinFields sep later := by
  cases later with
  | nil => exact absurd rfl h
  | cons _ _ => rfl

/-- Joining the fields of a text gives it back. -/
theorem joinFields_fields (sep : Char) (cs : List Char) : joinFields sep (fields sep cs) = cs := by
  induction cs with
  | nil => rfl
  | cons c rest ih =>
    rw [fields]
    split
    · rename_i h
      rw [joinFields_cons sep [] (fields_ne_nil sep rest), ih, h, List.nil_append]
    · rcases h : fields sep rest with _ | ⟨field, later⟩
      · exact absurd h (fields_ne_nil sep rest)
      · rw [h] at ih
        cases later with
        | nil => simpa [joinFields] using ih
        | cons _ _ => simpa [joinFields] using ih

end WordRecords.Text
