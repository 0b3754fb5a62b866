import Mathlib.Data.List.TakeWhile
import WordRecords.Proofs.Text.Digits
import WordRecords.Proofs.Text.Fields
import WordRecords.SurfaceUnit.Offset

/-!
# The offset field

The reader looks for a place in a text. Said field by field: the leftmost place is the first offset field
(`leftmostDigits?_joinFields`), that is, the first field that is the key with decimal digits behind it and nothing else
(`OffsetField`). So a count written as such a field is the offset, whatever fields stand behind it, and in front of it
if none of these is an offset field (`startChar?_joinFields`).

`startChar?_first_field` says it of all texts: the first offset field alone decides, and gives an offset exactly when
its digits are those from `0` to `9` and denote a count.
-/

namespace WordRecords

/-- A field that holds the key and, behind it, the given decimal digits. -/
structure OffsetField (digits field : List Char) : Prop where
  eq : field = startCharKey ++ digits
  ne_nil : digits ≠ []
  isDecimalDigit : ∀ c ∈ digits, Text.isDecimalDigit c

theorem OffsetField.not_mem {digits field : List Char} (h : OffsetField digits field) : '|' ∉ field := by
  rw [h.eq, List.mem_append, not_or]
  refine ⟨by decide, fun hbar => ?_⟩
  exact absurd (h.isDecimalDigit _ hbar) (by decide)

/-- A text that ends, or goes on with a bar. -/
def EndsField (rest : List Char) : Prop := ∀ c ∈ rest.head?, c = '|'

theorem endsField_nil : EndsField [] := by
  intro c hc
  cases hc

theorem endsField_bar (rest : List Char) : EndsField ('|' :: rest) := by
  intro c hc
  cases hc
  rfl

/-- Where a field ends is a matter of the text. -/
theorem field_unique {field field' rest rest' : List Char} (hf : '|' ∉ field) (hf' : '|' ∉ field')
    (hr : EndsField rest) (hr' : EndsField rest') (h : field ++ rest = field' ++ rest') : field = field' := by
  have key : ∀ {f r : List Char}, '|' ∉ f → EndsField r → (f ++ r).takeWhile (fun c => c ≠ '|') = f := by
    intro f r hf hr
    refine Text.takeWhile_front (fun c hc => ?_) fun c hc => ?_
    · exact decide_eq_true fun hbar => hf (hbar ▸ hc)
    · exact decide_eq_false fun hne => hne (hr c hc)
  rw [← key hf hr, h, key hf' hr']

/-! ### One place -/

theorem startCharDigits?_of_offsetField {digits field rest : List Char} (h : OffsetField digits field)
    (hr : EndsField rest) : startCharDigits? (field ++ rest) = some digits := by
  have hstop : ∀ c ∈ rest.head?, Text.isDecimalDigit c = false := by
    intro c hc
    rw [hr c hc]
    decide
  have hkey : startCharKey.isPrefixOf (startCharKey ++ (digits ++ rest)) = true :=
    List.isPrefixOf_iff_prefix.2 (List.prefix_append _ _)
  rw [h.eq, List.append_assoc, startCharDigits?, if_pos hkey]
  simp only [List.drop_left, Text.takeWhile_front h.isDecimalDigit hstop, if_neg h.ne_nil,
    Text.dropWhile_front h.isDecimalDigit hstop]
  cases rest with
  | nil => rfl
  | cons c rest => exact if_pos (hr c rfl)

theorem exists_of_startCharDigits? {cs digits : List Char} (h : startCharDigits? cs = some digits) :
    ∃ field rest, cs = field ++ rest ∧ OffsetField digits field ∧ EndsField rest := by
  rw [startCharDigits?] at h
  split at h
  · rename_i hkey
    obtain ⟨value, rfl⟩ := List.isPrefixOf_iff_prefix.1 hkey
    have hcut : value.takeWhile Text.isDecimalDigit ++ value.dropWhile Text.isDecimalDigit = value :=
      List.takeWhile_append_dropWhile
    simp only [List.drop_left] at h
    split at h
    · cases h
    · rename_i hne
      have hfield : OffsetField (value.takeWhile Text.isDecimalDigit)
          (startCharKey ++ value.takeWhile Text.isDecimalDigit) :=
        ⟨rfl, hne, fun c hc => List.mem_takeWhile_imp hc⟩
      split at h
      · rename_i hleft
        cases h
        rw [hleft, List.append_nil] at hcut
        exact ⟨_, [], by rw [hcut, List.append_nil], hfield, endsField_nil⟩
      · rename_i c later hleft
        split at h
        · rename_i hbar
          cases h
          rw [hleft, hbar] at hcut
          exact ⟨_, '|' :: later, by rw [List.append_assoc, hcut], hfield, endsField_bar later⟩
        · cases h
  · cases h

/-- A place in front of a field is decided by that field. -/
theorem startCharDigits?_eq_some_iff {digits field rest : List Char} (hf : '|' ∉ field) (hr : EndsField rest) :
    startCharDigits? (field ++ rest) = some digits ↔ OffsetField digits field := by
  constructor
  · intro h
    obtain ⟨field', rest', heq, hfield, hr'⟩ := exists_of_startCharDigits? h
    rw [field_unique hf hfield.not_mem hr hr' heq]
    exact hfield
  · intro h
    exact startCharDigits?_of_offsetField h hr

/-- A field by itself. -/
theorem startCharDigits?_field_iff {digits field : List Char} (hf : '|' ∉ field) :
    startCharDigits? field = some digits ↔ OffsetField digits field := by
  rw [← startCharDigits?_eq_some_iff hf endsField_nil, List.append_nil]

theorem startCharDigits?_append {field rest : List Char} (hf : '|' ∉ field) (hr : EndsField rest) :
    startCharDigits? (field ++ rest) = startCharDigits? field := by
  refine Option.ext fun digits => ?_
  rw [startCharDigits?_eq_some_iff hf hr, startCharDigits?_field_iff hf]

/-! ### The leftmost place -/

theorem laterDigits?_of_not_mem {cs : List Char} (h : '|' ∉ cs) : laterDigits? cs = none := by
  induction cs with
  | nil => rfl
  | cons c rest ih =>
    rw [List.mem_cons, not_or] at h
    rw [laterDigits?, if_neg (Ne.symm h.1), ih h.2]

theorem laterDigits?_append {field : List Char} (hf : '|' ∉ field) (rest : List Char) :
    laterDigits? (field ++ '|' :: rest) = leftmostDigits? rest := by
  induction field with
  | nil => rfl
  | cons c field ih =>
    rw [List.mem_cons, not_or] at hf
    rw [List.cons_append, laterDigits?, if_neg (Ne.symm hf.1), ih hf.2]

theorem findSome?_cons_eq_or {α β : Type} (f : α → Option β) (a : α) (l : List α) :
    (a :: l).findSome? f = (f a).or (l.findSome? f) := by
  rw [List.findSome?]
  cases f a <;> rfl

/-- **The leftmost place is the first offset field.** -/
theorem leftmostDigits?_joinFields {fields : List (List Char)} (hne : fields ≠ [])
    (hf : ∀ field ∈ fields, '|' ∉ field) :
    leftmostDigits? (Text.joinFields '|' fields) = fields.findSome? startCharDigits? := by
  induction fields with
  | nil => exact absurd rfl hne
  | cons field later ih =>
    rw [List.forall_mem_cons] at hf
    rw [findSome?_cons_eq_or]
    cases later with
    | nil => rw [Text.joinFields, leftmostDigits?, laterDigits?_of_not_mem hf.1, List.findSome?_nil]
    | cons next later =>
      rw [Text.joinFields_cons '|' field (List.cons_ne_nil _ _), leftmostDigits?,
        startCharDigits?_append hf.1 (endsField_bar _), laterDigits?_append hf.1, ih (List.cons_ne_nil _ _) hf.2]

/-- A count as an offset field. -/
def writeOffsetField (n : Nat) : List Char := startCharKey ++ Text.writeCount n

theorem offsetField_writeOffsetField (n : Nat) : OffsetField (Text.writeCount n) (writeOffsetField n) where
  eq := rfl
  ne_nil := Nat.toDigits_ne_nil
  isDecimalDigit _ hc := Text.isDecimalDigit_of_isDigit (Text.isDigit_of_mem_writeCount hc)

theorem startCharDigits?_eq_none_iff {field : List Char} (hf : '|' ∉ field) :
    startCharDigits? field = none ↔ ∀ digits, ¬OffsetField digits field := by
  rw [Option.eq_none_iff_forall_ne_some]
  exact forall_congr' fun digits => not_congr (startCharDigits?_field_iff hf)

/-- A count in the first offset field is the offset. -/
theorem startChar?_joinFields {n : Nat} (hn : n < countLimit) {before after : List (List Char)}
    (hb : ∀ field ∈ before, '|' ∉ field) (ha : ∀ field ∈ after, '|' ∉ field)
    (hfirst : ∀ field ∈ before, ∀ digits, ¬OffsetField digits field) :
    startChar? (String.ofList (Text.joinFields '|' (before ++ writeOffsetField n :: after))) = some n := by
  have hfield := offsetField_writeOffsetField n
  have hall : ∀ field ∈ before ++ writeOffsetField n :: after, '|' ∉ field := by
    rw [List.forall_mem_append, List.forall_mem_cons]
    exact ⟨hb, hfield.not_mem, ha⟩
  have hdigits : startCharDigits? (writeOffsetField n) = some (Text.writeCount n) :=
    (startCharDigits?_field_iff hfield.not_mem).2 hfield
  have hnone : before.findSome? startCharDigits? = none :=
    List.findSome?_eq_none_iff.2 fun field hmem => (startCharDigits?_eq_none_iff (hb field hmem)).2 (hfirst field hmem)
  rw [startChar?, String.toList_ofList, leftmostDigits?_joinFields (by simp) hall, List.findSome?_append, hnone,
    Option.none_or, findSome?_cons_eq_or, hdigits, Option.some_or, Option.bind_some, Text.readCount?_writeCount hn]

/-! ### All texts -/

/-- The first offset field among the fields has the given digits. -/
def FirstOffsetField (digits : List Char) (fields : List (List Char)) : Prop :=
  ∃ before field after, fields = before ++ field :: after ∧ (∀ f ∈ before, ∀ ds, ¬OffsetField ds f) ∧
    OffsetField digits field

theorem leftmostDigits?_eq_some_iff {cs digits : List Char} :
    leftmostDigits? cs = some digits ↔ FirstOffsetField digits (Text.fields '|' cs) := by
  have hbar : ∀ field ∈ Text.fields '|' cs, '|' ∉ field := fun _ => Text.not_mem_of_mem_fields
  have hcs : leftmostDigits? cs = (Text.fields '|' cs).findSome? startCharDigits? := by
    rw [← leftmostDigits?_joinFields (Text.fields_ne_nil '|' cs) hbar, Text.joinFields_fields]
  rw [hcs, List.findSome?_eq_some_iff, FirstOffsetField]
  refine exists_congr fun before => exists_congr fun field => exists_congr fun after => and_congr_right fun hsplit => ?_
  rw [hsplit, List.forall_mem_append, List.forall_mem_cons] at hbar
  rw [and_comm, startCharDigits?_field_iff hbar.2.1]
  refine and_congr_left fun _ => forall₂_congr fun f hf => ?_
  exact startCharDigits?_eq_none_iff (hbar.1 f hf)

/-- **The first offset field decides**, whatever the text is; in particular a count that is written there is read. -/
theorem startChar?_first_field :
    (∀ (misc : String) (n : Nat), startChar? misc = some n ↔
      ∃ digits, FirstOffsetField digits (Text.fields '|' misc.toList) ∧ (∀ c ∈ digits, c.isDigit) ∧
        Nat.ofDigitChars 10 digits 0 = n ∧ n < countLimit) ∧
    ∀ (n : Nat) (before after : List String), n < countLimit → (∀ f ∈ before ++ after, '|' ∉ f.toList) →
      (∀ f ∈ before, ∀ digits, ¬OffsetField digits f.toList) →
        startChar? ("|".intercalate (before ++ ("start_char=" ++ toString n) :: after)) = some n := by
  constructor
  · intro misc n
    rw [startChar?, Option.bind_eq_some_iff]
    refine exists_congr fun digits => ?_
    rw [leftmostDigits?_eq_some_iff, Text.readCount?_eq_some_iff]
    refine and_congr_right fun hfirst => and_iff_right ?_
    obtain ⟨_, _, _, -, -, hfield⟩ := hfirst
    exact hfield.ne_nil
  · intro n before after hn hbar hfirst
    rw [List.forall_mem_append] at hbar
    have hbar' : "|".toList = ['|'] := by decide
    have hwritten : ("start_char=" ++ toString n).toList = writeOffsetField n := by
      rw [String.toList_append]
      exact congrArg (startCharKey ++ ·) (String.toList_ofList)
    have hjoin : "|".intercalate (before ++ ("start_char=" ++ toString n) :: after) = String.ofList
        (Text.joinFields '|' (before.map String.toList ++ writeOffsetField n :: after.map String.toList)) := by
      rw [← String.toList_inj, Text.toList_intercalate hbar', String.toList_ofList, List.map_append, List.map_cons,
        hwritten]
    rw [hjoin]
    exact startChar?_joinFields hn (List.forall_mem_map.2 hbar.1) (List.forall_mem_map.2 hbar.2)
      (List.forall_mem_map.2 hfirst)

/-- Fields that are no offset fields, for the want of digits, for another key and for what stands behind the digits. -/
def otherFields : List String := ["SpaceAfter=No", "start_char=", "", "orig_start_char=3", "start_char=4 "]

theorem startChar?_otherFields :
    7 < countLimit ∧ (∀ f ∈ otherFields ++ ["start_char=9"], '|' ∉ f.toList) ∧
      (∀ f ∈ otherFields, ∀ digits, ¬OffsetField digits f.toList) ∧
        startChar? "SpaceAfter=No|start_char=||orig_start_char=3|start_char=4 |start_char=7|start_char=9" = some 7 := by
  have hlimit : 7 < countLimit := by decide
  have hbar : ∀ f ∈ otherFields ++ ["start_char=9"], '|' ∉ f.toList := by decide
  have hnone : ∀ f ∈ otherFields, startCharDigits? f.toList = none := by decide +kernel
  have hfirst : ∀ f ∈ otherFields, ∀ digits, ¬OffsetField digits f.toList := fun f hf =>
    (startCharDigits?_eq_none_iff (hbar f (List.mem_append_left _ hf))).1 (hnone f hf)
  exact ⟨hlimit, hbar, hfirst, startChar?_first_field.2 7 otherFields ["start_char=9"] hlimit hbar hfirst⟩

/-- Digits of another script make an offset field, but no offset, and no later field is looked at. -/
example : startChar? "start_char=٣|start_char=5" = none := by decide +kernel

end WordRecords
