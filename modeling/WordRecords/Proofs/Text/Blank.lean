import Mathlib.Data.List.DropRight
import WordRecords.Text.Blank

/-!
# Laws of white space

`trim` cuts the white space off both ends of a text, and nothing else (`exists_trim`). Blank texts are those of which
nothing is left (`trim_eq_empty_iff`).
-/

namespace WordRecords.Text

/-- A text without the white space at its ends. -/
def trim (s : String) : String := String.ofList ((s.toList.dropWhile isSpace).rdropWhile isSpace)

theorem isBlank_eq_true_iff {s : String} : isBlank s = true ↔ ∀ c ∈ s.toList, isSpace c = true := List.all_eq_true

theorem isBlank_append {s t : String} : isBlank (s ++ t) = true ↔ isBlank s = true ∧ isBlank t = true := by
  rw [isBlank, String.toList_append, List.all_append, Bool.and_eq_true]
  rfl

/-- What is cut off is white space. -/
theorem exists_trim (s : String) :
    ∃ front behind, s = front ++ trim s ++ behind ∧ isBlank front = true ∧ isBlank behind = true := by
  refine ⟨String.ofList (s.toList.takeWhile isSpace),
    String.ofList ((s.toList.dropWhile isSpace).rtakeWhile isSpace), ?_, ?_, ?_⟩
  · rw [trim, String.append_assoc, ← String.ofList_append, List.rdropWhile_append_rtakeWhile, ← String.ofList_append,
      List.takeWhile_append_dropWhile, String.ofList_toList]
  · rw [isBlank_eq_true_iff, String.toList_ofList]
    exact fun c hc => List.mem_takeWhile_imp hc
  · rw [isBlank_eq_true_iff, String.toList_ofList]
    exact fun c hc => List.mem_rtakeWhile_imp hc

/-- A text is blank if nothing is left of it without the white space at its ends. -/
theorem trim_eq_empty_iff {s : String} : trim s = "" ↔ isBlank s = true := by
  constructor
  · intro h
    obtain ⟨front, behind, hs, hfront, hbehind⟩ := exists_trim s
    rw [hs, h, String.append_empty]
    exact isBlank_append.2 ⟨hfront, hbehind⟩
  · intro h
    have hnone : s.toList.dropWhile isSpace = [] := List.dropWhile_eq_nil_iff.2 (isBlank_eq_true_iff.1 h)
    rw [trim, hnone, List.rdropWhile_nil, String.ofList_nil]

end WordRecords.Text
