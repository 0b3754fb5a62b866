import WordRecords.Labels
import WordRecords.Proofs.Converter
import WordRecords.Proofs.Text.Fields

/-!
# Labels from names of source files

By convention a source file is named after the parts that label it, with hyphens between them and an extension behind
(`SourceName`). Reading labels off a path undoes the convention, whatever the directory is and wherever dots stand in
the parts (`filenameLabels_path`). The last component of the path is the name (`fileName?_eq_some`), the stem is what
stands before the name's last dot (`stemOf_extended`), and the fields of the stem are the parts.

`labels_of_sourceName` says what this means for documents: the configured source file labels them, and the input file
where there is no other.
-/

namespace WordRecords

open Text

/-! ### Names and stems -/

/-- The last component of a path is its name, unless it is one of those with a meaning of their own. -/
theorem fileName?_eq_some {path : String} {before : List (List Char)} {name : List Char}
    (h : fields '/' path.toList = before ++ [name]) (hname : 2 < name.length) : fileName? path = some name := by
  have hkept : name ≠ [] ∧ name ≠ ['.'] ∧ name ≠ ['.', '.'] := by
    refine ⟨?_, ?_, ?_⟩ <;> rintro rfl <;> revert hname <;> decide
  have hlast : ((before ++ [name]).filter fun c => c ≠ [] ∧ c ≠ ['.']).getLast? = some name := by
    rw [List.filter_append, List.filter_singleton]
    simp [hkept.1, hkept.2.1]
  simp only [fileName?, h, hlast, if_neg hkept.2.2]

/-- The stem of a name with an extension is what stands before the last dot, if anything stands there. -/
theorem stemOf_extended {stem extension : List Char} (hstem : stem ≠ []) (hextension : '.' ∉ extension) :
    stemOf (stem ++ '.' :: extension) = stem := by
  have hfields : (fields '.' (stem ++ '.' :: extension)).reverse = extension :: (fields '.' stem).reverse := by
    rw [fields_append, fields_of_not_mem hextension, List.reverse_append, List.reverse_singleton, List.singleton_append]
  have hbefore : ¬((fields '.' stem).reverse = [] ∨ (fields '.' stem).reverse = [[]]) := by
    rw [List.reverse_eq_nil_iff, List.reverse_eq_iff, List.reverse_singleton]
    rintro (h | h)
    · exact fields_ne_nil '.' stem h
    · exact hstem (by rw [← joinFields_fields '.' stem, h, joinFields])
  simp only [stemOf, hfields, if_neg hbefore, List.reverse_reverse, joinFields_fields]

/-! ### The convention -/

/-- The path of a source file that is named by the convention. -/
structure SourceName where
  /-- The directory with the slash behind it, or nothing. -/
  directory : String
  /-- What the file is labelled with. -/
  parts : List String
  extension : String
  directory_ends : directory = "" ∨ ∃ above, directory = above ++ "/"
  parts_ne_nil : parts ≠ []
  parts_plain : ∀ part ∈ parts, '-' ∉ part.toList ∧ '/' ∉ part.toList
  /-- The parts are not a single empty one. -/
  stem_ne_empty : "-".intercalate parts ≠ ""
  extension_ne_empty : extension ≠ ""
  extension_plain : '.' ∉ extension.toList ∧ '/' ∉ extension.toList

namespace SourceName

variable (n : SourceName)

/-- The parts with hyphens between them. -/
def stem : String := "-".intercalate n.parts

def path : String := n.directory ++ n.stem ++ "." ++ n.extension

/-- The characters of the name, without the directory. -/
def nameChars : List Char := n.stem.toList ++ '.' :: n.extension.toList

theorem toList_path : n.path.toList = n.directory.toList ++ n.nameChars := by
  simp [path, nameChars]

theorem toList_stem : n.stem.toList = joinFields '-' (n.parts.map String.toList) := toList_intercalate rfl n.parts

theorem fields_stem : (fields '-' n.stem.toList).map String.ofList = n.parts := by
  have hplain : ∀ field ∈ n.parts.map String.toList, '-' ∉ field := by
    rw [List.forall_mem_map]
    exact fun part hpart => (n.parts_plain part hpart).1
  rw [toList_stem, fields_joinFields (by simpa using n.parts_ne_nil) hplain, List.map_map]
  simp [Function.comp_def]

theorem slash_not_mem_nameChars : '/' ∉ n.nameChars := by
  have hstem : '/' ∉ n.stem.toList := by
    intro h
    rw [toList_stem] at h
    rcases mem_joinFields h with h | ⟨field, hfield, h⟩
    · revert h
      decide
    · obtain ⟨part, hpart, rfl⟩ := List.mem_map.1 hfield
      exact (n.parts_plain part hpart).2 h
  rw [nameChars, List.mem_append, List.mem_cons]
  rintro (h | h | h)
  · exact hstem h
  · revert h
    decide
  · exact n.extension_plain.2 h

theorem exists_fields_path : ∃ before, fields '/' n.path.toList = before ++ [n.nameChars] := by
  have hname := fields_of_not_mem n.slash_not_mem_nameChars
  rw [toList_path]
  rcases n.directory_ends with h | ⟨above, h⟩
  · exact ⟨[], by rw [h]; exact hname⟩
  · refine ⟨fields '/' above.toList, ?_⟩
    rw [h, String.toList_append, List.append_assoc, ← hname, ← fields_append]
    rfl

/-- The name of the file, without its extension, is its stem. -/
theorem fileStem?_path : fileStem? n.path = some n.stem.toList := by
  obtain ⟨before, hfields⟩ := n.exists_fields_path
  have hstem : n.stem.toList ≠ [] := fun h => n.stem_ne_empty (String.toList_eq_nil_iff.1 h)
  have hlength : 2 < n.nameChars.length := by
    have hstem := List.length_pos_iff.2 hstem
    have hextension : 0 < n.extension.toList.length :=
      List.length_pos_iff.2 fun h => n.extension_ne_empty (String.toList_eq_nil_iff.1 h)
    rw [nameChars, List.length_append, List.length_cons]
    omega
  rw [fileStem?, fileName?_eq_some hfields hlength, Option.map_some, nameChars,
    stemOf_extended hstem n.extension_plain.1]

/-- Labels that are read off a path by the convention are the parts. -/
theorem filenameLabels_path : filenameLabels n.path = n.parts := by
  simp only [filenameLabels, fileStem?_path, fields_stem]

end SourceName

/-! ### Documents -/

/-- **Labels undo the naming convention.** A document is labelled by just the parts of the name of its source file, by
the pipeline with its version, and by the user, in this order. The source file is the configured one, whatever the input
is, or else the input file. -/
theorem labels_of_sourceName (n : SourceName) (c : Converter) (input : Input)
    (h : c.source = some n.path ∨ c.source = none ∧ input = .file n.path) :
    c.labelsFor input.path? = n.parts ++ (c.pipeline.name ++ "-" ++ c.version) :: c.labels ∧
      ∀ contents doc, c.convertInput contents input = .ok doc →
        doc.labels = n.parts ++ (c.pipeline.name ++ "-" ++ c.version) :: c.labels := by
  have hlabels : c.labelsFor input.path? = n.parts ++ (c.pipeline.name ++ "-" ++ c.version) :: c.labels := by
    have hsource : c.source.or input.path? = some n.path := by
      rcases h with h | ⟨h, rfl⟩
      · rw [h, Option.some_or]
      · rw [h, Option.none_or, Input.path?]
    rw [Converter.labelsFor, hsource, buildLabels, Option.map_some, Option.getD_some, n.filenameLabels_path]
    rfl
  exact ⟨hlabels, fun contents doc hdoc => (Converter.labels_of_convertInput hdoc).trans hlabels⟩

/-- Dots in the directory and in a part, and an empty part in front. -/
def odysseyName : SourceName where
  directory := "../corpus.d/"
  parts := ["", "odi.sea", "homero"]
  extension := "json"
  directory_ends := .inr ⟨"../corpus.d", rfl⟩
  parts_ne_nil := by simp
  parts_plain := by decide
  stem_ne_empty := by decide +kernel
  extension_ne_empty := by decide
  extension_plain := by decide

theorem labels_odysseyName :
    odysseyName.path = "../corpus.d/-odi.sea-homero.json" ∧
      ∃ doc,
        Converter.flatConverter.convertInput (fun _ => some Converter.greetingText) (.file odysseyName.path) = .ok doc ∧
        doc.labels = ["", "odi.sea", "homero", "stanza-1.10"] ∧
        ({ Converter.flatConverter with source := some odysseyName.path } : Converter).labelsFor (some "c-d.json") =
          doc.labels := by
  refine ⟨by decide +kernel, ?_⟩
  have hsome : (Converter.flatConverter.convertInput (fun _ => some Converter.greetingText)
      (.file odysseyName.path)).toOption.isSome := by decide +kernel
  obtain ⟨doc, hdoc⟩ := Option.isSome_iff_exists.1 hsome
  have hdoc := eq_ok_of_toOption hdoc
  have hlabels := (labels_of_sourceName odysseyName Converter.flatConverter (.file odysseyName.path)
    (.inr ⟨rfl, rfl⟩)).2 _ doc hdoc
  have hconfigured := (labels_of_sourceName odysseyName
    { Converter.flatConverter with source := some odysseyName.path } (.file "c-d.json") (.inl rfl)).1
  exact ⟨doc, hdoc, hlabels.trans (by decide +kernel), hconfigured.trans hlabels.symm⟩

end WordRecords
