import Mathlib.Data.Option.Basic
import WordRecords.Text.Slice

/-!
# Slices of texts by characters

`slice?_of_occursAt`: where a piece stands in a text, the slice at its offset is the piece, whatever the numbers of
bytes of the characters are, and there are no other slices (`occursAt_of_slice?`). `exists_slice?_iff`: there is a slice
between two offsets exactly when they are in order and none is behind the text. `slice?_eq_characters` says what the
slices of a text are without its bytes.
-/

namespace WordRecords.Text

/-- The piece stands in the text at an offset, counted in characters. -/
def OccursAt (s piece : String) (offset : Nat) : Prop :=
  ∃ before after, s = before ++ piece ++ after ∧ before.length = offset

theorem utf8ByteSize_ofList_cons (c : Char) (cs : List Char) :
    (String.ofList (c :: cs)).utf8ByteSize = c.utf8Size + (String.ofList cs).utf8ByteSize := by
  rw [← List.singleton_append, String.ofList_append, String.utf8ByteSize_append]
  simp

/-- A character takes at least one byte. -/
theorem length_le_utf8ByteSize (s : String) : s.length ≤ s.utf8ByteSize := by
  have key : ∀ cs : List Char, cs.length ≤ (String.ofList cs).utf8ByteSize := by
    intro cs
    induction cs with
    | nil => exact Nat.zero_le _
    | cons c cs ih =>
      have := c.utf8Size_pos
      rw [utf8ByteSize_ofList_cons, List.length_cons]
      omega
  rw [← String.length_toList]
  simpa using key s.toList

/-- The table leads from a number of characters to their number of bytes. -/
theorem getElem?_bytePositions (at0 : Nat) (xs ys : List Char) :
    (bytePositions at0 (xs ++ ys))[xs.length]? = some (at0 + (String.ofList xs).utf8ByteSize) := by
  induction xs generalizing at0 with
  | nil => cases ys <;> simp [bytePositions]
  | cons c xs ih =>
    rw [List.cons_append, bytePositions, List.length_cons, List.getElem?_cons_succ, ih, utf8ByteSize_ofList_cons,
      Nat.add_assoc]

theorem getElem?_bytes {s before after : String} (h : s = before ++ after) :
    (CharIndex.ofString s).bytes[before.length]? = some before.utf8ByteSize := by
  have := getElem?_bytePositions 0 before.toList after.toList
  rw [← String.toList_append, ← h, Nat.zero_add, String.ofList_toList, String.length_toList] at this
  rw [CharIndex.ofString, List.getElem?_toArray]
  exact this

/-- The end of a beginning is a position between characters. -/
theorem exists_pos?_eq {s before after : String} (h : s = before ++ after) :
    ∃ p : s.Pos, s.pos? ⟨before.utf8ByteSize⟩ = some p ∧ p.Splits before after := by
  have hvalid : String.Pos.Raw.isValidForSlice s.toSlice ⟨before.utf8ByteSize⟩ = true := by
    rw [String.Pos.Raw.isValidForSlice_eq_true_iff, ← String.Pos.Raw.isValid_copy_iff, String.copy_toSlice, h]
    exact String.Pos.Raw.isValid_rawEndPos.append_right after
  rw [String.pos?, String.Slice.pos?, dif_pos hvalid]
  exact ⟨_, rfl, h, rfl⟩

theorem extract_eq_of_splits {s before piece after : String} {b e : s.Pos} (hb : b.Splits before (piece ++ after))
    (he : e.Splits (before ++ piece) after) : s.extract b e = piece := by
  have hbytes : s.toByteArray = before.toByteArray ++ (piece.toByteArray ++ after.toByteArray) := by
    rw [hb.eq_append, String.toByteArray_append, String.toByteArray_append]
  have hstop : (before ++ piece).rawEndPos.byteIdx = before.toByteArray.size + piece.toByteArray.size := by
    rw [String.byteIdx_rawEndPos, String.utf8ByteSize_append, String.size_toByteArray, String.size_toByteArray]
  rw [← String.toByteArray_inj, String.toByteArray_extract, hb.offset_eq_rawEndPos, he.offset_eq_rawEndPos, hbytes,
    hstop]
  -- the bytes before the piece are left out, and then those behind it
  have hstart := ByteArray.extract_append_size_add (a := before.toByteArray)
    (b := piece.toByteArray ++ after.toByteArray) (i := 0) (j := piece.toByteArray.size)
  exact hstart.trans (ByteArray.extract_append_eq_left rfl)

/-- A piece of a text is cut out at its offset. -/
theorem slice?_of_occursAt {s piece : String} {offset : Nat} (h : OccursAt s piece offset) :
    (CharIndex.ofString s).slice? s offset (offset + piece.length) = some piece := by
  obtain ⟨before, after, hs, rfl⟩ := h
  have hs' : s = before ++ (piece ++ after) := by rw [hs, String.append_assoc]
  obtain ⟨b, hb, hbs⟩ := exists_pos?_eq hs'
  obtain ⟨e, he, hes⟩ := exists_pos?_eq hs
  have hle : b ≤ e := (hbs.le_iff_exists_eq_append hes).2 ⟨piece, rfl, rfl⟩
  have hcut : sliceBytes? s before.utf8ByteSize (before ++ piece).utf8ByteSize = some piece := by
    simp only [sliceBytes?, hb, he, Option.bind_eq_bind, Option.bind_some, if_pos hle, extract_eq_of_splits hbs hes]
  have hguard : (guard (before.length ≤ (before ++ piece).length) : Option Unit) = some () :=
    if_pos (by rw [String.length_append]; omega)
  rw [CharIndex.slice?, ← String.length_append, getElem?_bytes hs', getElem?_bytes hs, hguard]
  exact hcut

/-! ### Which slices there are -/

/-- The table has an entry for every character, and one for the end. -/
theorem length_bytePositions (at0 : Nat) (cs : List Char) : (bytePositions at0 cs).length = cs.length + 1 := by
  induction cs generalizing at0 with
  | nil => rfl
  | cons c cs ih => rw [bytePositions, List.length_cons, ih, List.length_cons]

/-- No entry belongs to an offset behind the text. -/
theorem le_length_of_getElem?_bytes {s : String} {offset position : Nat}
    (h : (CharIndex.ofString s).bytes[offset]? = some position) : offset ≤ s.length := by
  obtain ⟨hlt, -⟩ := Array.getElem?_eq_some_iff.1 h
  rw [CharIndex.ofString, List.size_toArray, length_bytePositions, String.length_toList] at hlt
  exact Nat.le_of_lt_succ hlt

theorem exists_occursAt {s : String} {start stop : Nat} (hle : start ≤ stop) (hstop : stop ≤ s.length) :
    ∃ piece, OccursAt s piece start ∧ start + piece.length = stop := by
  rw [← String.length_toList] at hstop
  refine ⟨String.ofList ((s.toList.drop start).take (stop - start)), ⟨String.ofList (s.toList.take start),
    String.ofList ((s.toList.drop start).drop (stop - start)), ?_, ?_⟩, ?_⟩
  · rw [String.append_assoc, ← String.ofList_append, List.take_append_drop, ← String.ofList_append,
      List.take_append_drop, String.ofList_toList]
  · rw [String.length_ofList, List.length_take]
    omega
  · rw [String.length_ofList, List.length_take, List.length_drop]
    omega

theorem exists_slice?_iff {s : String} {start stop : Nat} :
    (∃ piece, (CharIndex.ofString s).slice? s start stop = some piece) ↔ start ≤ stop ∧ stop ≤ s.length := by
  constructor
  · rintro ⟨piece, h⟩
    obtain ⟨_, hguard, h⟩ := Option.bind_eq_some_iff.1 h
    obtain ⟨b, -, h⟩ := Option.bind_eq_some_iff.1 h
    obtain ⟨e, he, -⟩ := Option.bind_eq_some_iff.1 h
    exact ⟨(Option.guard_eq_some' _).1 hguard, le_length_of_getElem?_bytes he⟩
  · rintro ⟨hle, hstop⟩
    obtain ⟨piece, hpiece, rfl⟩ := exists_occursAt hle hstop
    exact ⟨piece, slice?_of_occursAt hpiece⟩

/-! ### What a slice is -/

/-- A slice is a piece of the text at its offset. -/
theorem occursAt_of_slice? {s piece : String} {start stop : Nat}
    (h : (CharIndex.ofString s).slice? s start stop = some piece) :
    OccursAt s piece start ∧ start + piece.length = stop := by
  obtain ⟨hle, hstop⟩ := exists_slice?_iff.1 ⟨piece, h⟩
  obtain ⟨piece', hoccurs, rfl⟩ := exists_occursAt hle hstop
  rw [slice?_of_occursAt hoccurs, Option.some.injEq] at h
  subst h
  exact ⟨hoccurs, rfl⟩

section OccursAt

variable {s piece : String} {offset : Nat} (h : OccursAt s piece offset)
include h

theorem OccursAt.add_length_le : offset + piece.length ≤ s.length := by
  obtain ⟨before, after, rfl, rfl⟩ := h
  rw [String.length_append, String.length_append]
  omega

/-- The characters from the offset on are those of the piece. -/
theorem OccursAt.take_drop : (s.toList.drop offset).take piece.length = piece.toList := by
  obtain ⟨before, after, rfl, rfl⟩ := h
  rw [String.toList_append, String.toList_append, List.append_assoc, ← String.length_toList (s := before),
    List.drop_left, ← String.length_toList, List.take_left]

end OccursAt

/-! ### The positions of the table -/

/-- A text is cut at every offset that is not behind it. -/
theorem exists_split {s : String} {offset : Nat} (h : offset ≤ s.length) :
    ∃ before after, s = before ++ after ∧ before.length = offset := by
  obtain ⟨_, ⟨before, after, hs, hlength⟩, -⟩ := exists_occursAt (Nat.le_refl offset) h
  exact ⟨before, _, by rw [hs, String.append_assoc], hlength⟩

/-- Every entry of the table is a position between characters, or at an end of the text. -/
theorem isValid_of_getElem?_bytes {s : String} {offset position : Nat}
    (h : (CharIndex.ofString s).bytes[offset]? = some position) : (⟨position⟩ : String.Pos.Raw).IsValid s := by
  obtain ⟨before, after, rfl, rfl⟩ := exists_split (le_length_of_getElem?_bytes h)
  rw [getElem?_bytes rfl, Option.some.injEq] at h
  subst h
  exact String.Pos.Raw.isValid_rawEndPos.append_right after

/-- **Slices are made of characters.** Between two offsets that are in order, with none behind the text, the slice holds
just the characters from the first up to the second, and otherwise there is no slice. All positions that the table leads
to are boundaries of characters. -/
theorem slice?_eq_characters (s : String) :
    (∀ start stop, (CharIndex.ofString s).slice? s start stop =
        if start ≤ stop ∧ stop ≤ s.length then some (String.ofList ((s.toList.take stop).drop start)) else none) ∧
      ∀ offset position : Nat, (CharIndex.ofString s).bytes[offset]? = some position →
        (⟨position⟩ : String.Pos.Raw).IsValid s := by
  refine ⟨fun start stop => ?_, fun offset position h => isValid_of_getElem?_bytes h⟩
  by_cases h : start ≤ stop ∧ stop ≤ s.length
  · rw [if_pos h]
    obtain ⟨piece, hpiece, rfl⟩ := exists_occursAt h.1 h.2
    rw [slice?_of_occursAt hpiece, ← List.take_drop, hpiece.take_drop, String.ofList_toList]
  · rw [if_neg h, Option.eq_none_iff_forall_ne_some]
    intro piece hpiece
    exact h (exists_slice?_iff.1 ⟨piece, hpiece⟩)

/-- A text of characters that take one, two, three and four bytes. -/
def widthsText : String := "aé€😀"

theorem slice?_widthsText :
    (CharIndex.ofString widthsText).slice? widthsText 1 3 = some "é€" ∧
      (CharIndex.ofString widthsText).slice? widthsText 4 4 = some "" ∧
      (CharIndex.ofString widthsText).slice? widthsText 3 5 = none ∧
      (CharIndex.ofString widthsText).bytes[3]? = some 6 ∧ (⟨6⟩ : String.Pos.Raw).IsValid widthsText := by
  have hposition : (CharIndex.ofString widthsText).bytes[3]? = some 6 := by decide +kernel
  obtain ⟨hslice, hvalid⟩ := slice?_eq_characters widthsText
  refine ⟨?_, ?_, ?_, hposition, hvalid 3 6 hposition⟩
  · rw [hslice]
    decide +kernel
  · rw [hslice]
    decide +kernel
  · rw [hslice]
    decide +kernel

end WordRecords.Text
