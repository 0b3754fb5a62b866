import Mathlib.Data.List.Infix
import WordRecords.Command.Files

/-!
# What writing a file changes

`Saved before after path text` says that the file at a path holds a text, and that no other file is new, gone or
different. `saved_of_write?` states that a write that succeeds does just this. A write makes no directory, because the
place of the file already lies in one, so that paths lead where they led before (`place?_of_write?`).
-/

namespace WordRecords.Command.Files

variable {files before after : Files} {path text : String}

/-- The file at a path holds a text, and all other files are as before. -/
structure Saved (before after : Files) (path text : String) : Prop where
  /-- The file is there. -/
  written : after.readText? path = some text
  /-- Nothing is different at other places. -/
  others : ∀ place, before.place? path ≠ some place → after.entries.lookup place = before.entries.lookup place

/-- A file can be written at a path. -/
def Writable (files : Files) (path : String) : Prop :=
  ∃ place, files.place? path = some place ∧ files.isDirectory place = false ∧ files.isDirectory place.dropLast = true

/-! ### Directories -/

theorem isDirectory_eq_true_iff {place : List String} :
    files.isDirectory place = true ↔
      place = [] ∨ ∃ entry ∈ files.entries, place <+: entry.1 ∧ place.length < entry.1.length := by
  simp [isDirectory]

theorem isDirectory_of_prefix {place inner : List String} (h : files.isDirectory inner = true) (hp : place <+: inner) :
    files.isDirectory place = true := by
  rw [isDirectory_eq_true_iff] at h ⊢
  rcases h with rfl | ⟨entry, he, hi, hlt⟩
  · exact .inl (List.prefix_nil.1 hp)
  · exact .inr ⟨entry, he, hp.trans hi, Nat.lt_of_le_of_lt hp.length_le hlt⟩

/-! ### Writing -/

theorem write?_eq_some_iff :
    before.write? path text = some after ↔
      ∃ place, before.place? path = some place ∧ before.isDirectory place = false ∧
        before.isDirectory place.dropLast = true ∧
        after = ⟨before.entries.filter (fun entry => entry.1 ≠ place) ++ [(place, .text text)]⟩ := by
  simp only [write?, Option.bind_eq_bind, Option.bind_eq_some_iff]
  refine exists_congr fun place => and_congr_right fun _ => ?_
  cases before.isDirectory place <;> cases before.isDirectory place.dropLast <;> simp [eq_comm]

theorem Writable.exists_write? (h : before.Writable path) (text : String) :
    ∃ after, before.write? path text = some after := by
  obtain ⟨place, hplace, hfile, hparent⟩ := h
  exact ⟨_, write?_eq_some_iff.2 ⟨place, hplace, hfile, hparent, rfl⟩⟩

/-- A write makes no directory, and removes none. -/
theorem isDirectory_of_write? (h : before.write? path text = some after) (d : List String) :
    after.isDirectory d = before.isDirectory d := by
  obtain ⟨place, -, hfile, hparent, rfl⟩ := write?_eq_some_iff.1 h
  rw [Bool.eq_iff_iff, isDirectory_eq_true_iff]
  constructor
  · rintro (rfl | ⟨entry, he, hp, hlt⟩)
    · exact isDirectory_eq_true_iff.2 (.inl rfl)
    · rcases List.mem_append.1 he with he | he
      · exact isDirectory_eq_true_iff.2 (.inr ⟨entry, List.mem_of_mem_filter he, hp, hlt⟩)
      · -- a directory above the new file is one above its parent
        rw [List.mem_singleton.1 he] at hp hlt
        refine isDirectory_of_prefix hparent (List.prefix_of_prefix_length_le hp (List.dropLast_prefix place) ?_)
        rw [List.length_dropLast]
        exact Nat.le_sub_one_of_lt hlt
  · intro hd
    rcases isDirectory_eq_true_iff.1 hd with rfl | ⟨entry, he, hp, hlt⟩
    · exact .inl rfl
    · by_cases hplace : entry.1 = place
      · exact .inr ⟨(place, .text text), by simp, hplace ▸ hp, hplace ▸ hlt⟩
      · exact .inr ⟨entry, by simp [he, hplace], hp, hlt⟩

section SameDirectories

variable (h : ∀ d, after.isDirectory d = before.isDirectory d)
include h

theorem follow_congr (place components : List String) :
    after.follow place components = before.follow place components := by
  induction components generalizing place with
  | nil => rfl
  | cons c rest ih => simp only [follow, h, ih]

theorem place?_congr (path : String) : after.place? path = before.place? path := by
  unfold place?
  split
  · rfl
  · split
    · rfl
    · exact follow_congr h _ _

theorem Writable.congr (hw : before.Writable path) : after.Writable path := by
  obtain ⟨place, hplace, hfile, hparent⟩ := hw
  exact ⟨place, by rw [place?_congr h, hplace], by rw [h, hfile], by rw [h, hparent]⟩

end SameDirectories

theorem place?_of_write? (h : before.write? path text = some after) (other : String) :
    after.place? other = before.place? other := place?_congr (isDirectory_of_write? h) other

theorem readText?_of_place? {other : String} (h : files.place? path = files.place? other) :
    files.readText? path = files.readText? other := by
  rw [readText?, readText?, read?, read?, h]

theorem lookup_of_write? {place : List String} (hplace : before.place? path = some place)
    (h : before.write? path text = some after) :
    after.entries.lookup place = some (.text text) ∧
      ∀ other, other ≠ place → after.entries.lookup other = before.entries.lookup other := by
  obtain ⟨place', hplace', -, -, rfl⟩ := write?_eq_some_iff.1 h
  obtain rfl : place = place' := Option.some.inj (hplace.symm.trans hplace')
  refine ⟨?_, fun other hne => ?_⟩
  · have hnone : (before.entries.filter fun entry => entry.1 ≠ place).lookup place = none := by
      rw [List.lookup_eq_none_iff]
      intro entry he
      have hne : entry.1 ≠ place := of_decide_eq_true (List.mem_filter.1 he).2
      rw [bne_iff_ne]
      exact hne.symm
    rw [List.lookup_append, hnone]
    simp
  · have hrest : (before.entries.filter fun entry => entry.1 ≠ place).lookup other = before.entries.lookup other := by
      induction before.entries with
      | nil => rfl
      | cons entry entries ih =>
        obtain ⟨key, content⟩ := entry
        by_cases hkey : key = place
        · have hother : (other == key) = false := by simp [hkey, hne]
          rw [List.filter_cons_of_neg (by simp [hkey]), List.lookup_cons, hother, ih]
        · rw [List.filter_cons_of_pos (by simp [hkey]), List.lookup_cons, List.lookup_cons, ih]
    have hlast : ([(place, Content.text text)] : List (List String × Content)).lookup other = none := by simp [hne]
    rw [List.lookup_append, hrest, hlast, Option.or_none]

/-- **A write changes one file**, which then holds the text. -/
theorem saved_of_write? (h : before.write? path text = some after) : Saved before after path text := by
  obtain ⟨place, hplace, -⟩ := write?_eq_some_iff.1 h
  obtain ⟨hown, hothers⟩ := lookup_of_write? hplace h
  constructor
  · rw [readText?, read?, place?_of_write? h, hplace]
    simp [hown, Content.text?]
  · intro other hne
    refine hothers other fun heq => hne ?_
    rw [hplace, heq]

end WordRecords.Command.Files
