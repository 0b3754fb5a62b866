import WordRecords.Json.Parse
import WordRecords.Json.Render
import WordRecords.Proofs.Json.Escape
import WordRecords.Proofs.Json.Number

/-!
# The grammar of JSON texts

`Says cs node` is the grammar: the characters `cs` are a value, and `node` is its outline. A container is enclosed in
brackets and has its items between commas, with blanks wherever a token ends. It is said without any reference to the
parser, and the main statement is that the parser finds the outline of every text of the grammar
(`SaysText.ofText_eq`), with no break in it (`Says.skipFault?_eq_none`). A text therefore has one outline at most
(`Says.unique`).

The parser is bounded by a number of steps. A value that is written with `n` characters is parsed within `4 * n` steps
(`Parses`): one for the value itself, and up to three for its place in a container, which a bracket, comma or colon
pays for.
-/

namespace WordRecords.Json

/-! ### Values as they are written -/

/-- Nothing but blanks. -/
def Blanks (cs : List Char) : Prop := ∀ c ∈ cs, isBlank c

/-- The text of a value and its outline, with the blanks around it. -/
structure Part where
  before : List Char
  text : List Char
  node : Node
  after : List Char
  blanks_before : Blanks before
  blanks_after : Blanks after

/-- A value with the blanks around it, as it is written. -/
def Part.whole (p : Part) : List Char := p.before ++ (p.text ++ p.after)

/-- A member of an object: the text of its name and what that denotes, the blanks around the name, and the value. -/
structure Member where
  before : List Char
  name : List Char
  chars : Option (List Char)
  behind : List Char
  value : Part
  blanks_before : Blanks before
  blanks_behind : Blanks behind
  says_name : SaysChars name chars

/-- A member as it is written. -/
def Member.whole (m : Member) : List Char :=
  m.before ++ ('"' :: (m.name ++ ('"' :: (m.behind ++ (':' :: m.value.whole)))))

/-- The name of a member and the outline of its value. -/
def Member.node (m : Member) : Option String × Node := (m.chars.map String.ofList, m.value.node)

/-- Texts in brackets, with commas between them. -/
def enclosed (opening closing : Char) (texts : List (List Char)) : List Char :=
  opening :: (List.intercalate [','] texts ++ [closing])

/-- The texts of values, with their outlines. -/
inductive Says : List Char → Node → Prop
  | null : Says ['n', 'u', 'l', 'l'] (.scalar (some .null))
  | isTrue : Says ['t', 'r', 'u', 'e'] (.scalar (some (.bool true)))
  | isFalse : Says ['f', 'a', 'l', 's', 'e'] (.scalar (some (.bool false)))
  | number {n : Numeral} {cs : List Char} (h : n.Written cs) : Says cs (.scalar n.contents)
  | string {cs : List Char} {s : Option (List Char)} (h : SaysChars cs s) :
      Says ('"' :: (cs ++ ['"'])) (.scalar (s.map fun s => .text (String.ofList s)))
  | emptyList {blanks : List Char} (h : Blanks blanks) : Says ('[' :: (blanks ++ [']'])) (.array [] none)
  | list {parts : List Part} (hne : parts ≠ []) (h : ∀ p ∈ parts, Says p.text p.node) :
      Says (enclosed '[' ']' (parts.map Part.whole)) (.array (parts.map Part.node) none)
  | emptyObject {blanks : List Char} (h : Blanks blanks) :
      Says ('\x7b' :: (blanks ++ ['\x7d'])) (.object [] none)
  | object {members : List Member} (hne : members ≠ []) (h : ∀ m ∈ members, Says m.value.text m.value.node) :
      Says (enclosed '\x7b' '\x7d' (members.map Member.whole)) (.object (members.map Member.node) none)

/-- A text that is one value with blanks around it. -/
inductive SaysText (text : String) : Node → Prop
  | mk {p : Part} (htext : text.toList = p.whole) (h : Says p.text p.node) : SaysText text p.node

/-! ### Blanks -/

theorem Blanks.skipBlank_append {blanks : List Char} (h : Blanks blanks) (cs : List Char) :
    skipBlank (blanks ++ cs) = skipBlank cs :=
  List.dropWhile_append_of_pos h

theorem skipBlank_cons {c : Char} (h : isBlank c = false) (cs : List Char) : skipBlank (c :: cs) = c :: cs :=
  List.dropWhile_cons_of_neg (by simp [h])

theorem Blanks.skipBlank_append_cons {blanks : List Char} (h : Blanks blanks) {c : Char} (hc : isBlank c = false)
    (cs : List Char) : skipBlank (blanks ++ c :: cs) = c :: cs := by
  rw [h.skipBlank_append, skipBlank_cons hc]

/-- Blanks do not go on with a number. -/
theorem Blanks.endsNumber_append {blanks rest : List Char} (h : Blanks blanks) (hr : EndsNumber rest) :
    EndsNumber (blanks ++ rest) := by
  cases blanks with
  | nil => exact hr
  | cons c blanks =>
    refine endsNumber_cons ⟨?_, ?_, ?_, ?_⟩ _
    · by_contra hdigit
      have hblank := h c List.mem_cons_self
      rw [isBlank] at hblank
      simp only [Bool.or_eq_true, decide_eq_true_eq] at hblank
      rcases hblank with ((rfl | rfl) | rfl) | rfl <;> exact hdigit (by decide)
    all_goals
      rintro rfl
      exact absurd (h _ List.mem_cons_self) (by decide)

theorem parseValue_of_skipBlank {cs cs' : List Char} (h : skipBlank cs = skipBlank cs') (fuel : Nat) :
    parseValue fuel cs = parseValue fuel cs' := by
  cases fuel with
  | zero => rfl
  | succ fuel => rw [parseValue, parseValue, h]

theorem parseItem_of_skipBlank {cs cs' : List Char} (h : skipBlank cs = skipBlank cs') (fuel : Nat) :
    parseItem fuel cs = parseItem fuel cs' := by
  cases fuel with
  | zero => rfl
  | succ fuel => rw [parseItem, parseItem, parseValue_of_skipBlank h]

theorem parseMember_of_skipBlank {cs cs' : List Char} (h : skipBlank cs = skipBlank cs') (fuel : Nat) :
    parseMember fuel cs = parseMember fuel cs' := by
  cases fuel with
  | zero => rfl
  | succ fuel => rw [parseMember, parseMember, h]

theorem separator_of_skipBlank {cs cs' : List Char} (h : skipBlank cs = skipBlank cs') (closing : Char) :
    separator closing cs = separator closing cs' := by
  rw [separator, separator, h]

/-! ### Texts of containers -/

/-- What stands behind an item of a container: the later ones, and the closing bracket. -/
def trail (closing : Char) (later : List (List Char)) : List Char :=
  later.flatMap (fun t => ',' :: t) ++ [closing]

theorem intercalate_comma (t : List Char) (later : List (List Char)) :
    List.intercalate [','] (t :: later) = t ++ later.flatMap fun t => ',' :: t := by
  induction later generalizing t with
  | nil => simp
  | cons t' later ih =>
    rw [List.intercalate_cons_cons, ih, List.flatMap_cons, List.append_assoc, List.singleton_append, List.cons_append]

theorem enclosed_cons (opening closing : Char) (t : List Char) (later : List (List Char)) :
    enclosed opening closing (t :: later) = opening :: (t ++ trail closing later) := by
  rw [enclosed, intercalate_comma, trail, List.append_assoc]

theorem trail_cons (closing : Char) (t : List Char) (later : List (List Char)) (rest : List Char) :
    trail closing (t :: later) ++ rest = ',' :: (t ++ (trail closing later ++ rest)) := by
  simp [trail]

theorem length_trail_cons (closing : Char) (t : List Char) (later : List (List Char)) :
    (trail closing (t :: later)).length = t.length + (trail closing later).length + 1 := by
  simp only [trail, List.flatMap_cons, List.length_append, List.length_cons]
  omega

theorem endsNumber_trail {closing : Char}
    (hc : closing.isDigit = false ∧ closing ≠ '.' ∧ closing ≠ 'e' ∧ closing ≠ 'E') (later : List (List Char))
    (rest : List Char) : EndsNumber (trail closing later ++ rest) := by
  cases later with
  | nil => exact endsNumber_cons hc rest
  | cons t later => exact endsNumber_cons (by decide) _

theorem separator_trail_nil {closing : Char} (hc : isBlank closing = false) (rest : List Char) :
    separator closing (trail closing [] ++ rest) = .close rest := by
  rw [trail, List.flatMap_nil, List.nil_append, List.singleton_append, separator, skipBlank_cons hc]
  exact if_pos rfl

theorem separator_trail_cons {closing : Char} (hc : ',' ≠ closing) (t : List Char) (later : List (List Char))
    (rest : List Char) :
    separator closing (trail closing (t :: later) ++ rest) = .comma (t ++ (trail closing later ++ rest)) := by
  rw [trail_cons, separator, skipBlank_cons (by rfl)]
  simp only [if_neg hc, if_true]

/-! ### Values that are parsed -/

/-- A value that is parsed as soon as there are four steps for each of its characters. -/
def Parses (cs : List Char) (node : Node) : Prop :=
  ∀ fuel rest, 4 * cs.length ≤ fuel → EndsNumber rest → parseValue fuel (cs ++ rest) = (node, some rest)

theorem isBlank_of_sign_or_digit {c : Char} (h : c = '-' ∨ c.isDigit) : isBlank c = false := by
  rcases h with rfl | h
  · rfl
  · rw [isBlank]
    simp only [Bool.or_eq_false_iff, decide_eq_false_iff_not]
    refine ⟨⟨⟨?_, ?_⟩, ?_⟩, ?_⟩ <;> rintro rfl <;> revert h <;> decide

/-- A value does not start like a blank, nor like the end of a list. -/
theorem Says.exists_cons {cs : List Char} {node : Node} (h : Says cs node) :
    ∃ c more, cs = c :: more ∧ isBlank c = false ∧ c ≠ ']' := by
  cases h with
  | number hn =>
    obtain ⟨c, more, rfl, hc⟩ := hn.exists_cons
    refine ⟨c, more, rfl, isBlank_of_sign_or_digit hc, ?_⟩
    rintro rfl
    revert hc
    decide
  | null | isTrue | isFalse | string | emptyList | list | emptyObject | object =>
    exact ⟨_, _, rfl, by decide, by decide⟩

/-- The first step of a value; a value has a character at least. -/
theorem exists_fuel {cs : List Char} {fuel : Nat} (hne : cs ≠ []) (h : 4 * cs.length ≤ fuel) :
    ∃ fuel', fuel = fuel' + 1 := by
  have hlen := List.length_pos_iff.2 hne
  exact ⟨fuel - 1, by omega⟩

theorem parseValue_number {c : Char} (hc : c = '-' ∨ c.isDigit) (fuel : Nat) (rest : List Char) :
    parseValue (fuel + 1) (c :: rest) = parseNumber (c :: rest) := by
  have hne : c ≠ '"' ∧ c ≠ '[' ∧ c ≠ '\x7b' := by
    refine ⟨?_, ?_, ?_⟩ <;> rintro rfl <;> revert hc <;> decide
  rw [parseValue, skipBlank_cons (isBlank_of_sign_or_digit hc)]
  simp only [if_neg hne.1, if_neg hne.2.1, if_neg hne.2.2, if_pos hc]

theorem parses_number {n : Numeral} {cs : List Char} (h : n.Written cs) : Parses cs (.scalar n.contents) := by
  intro fuel rest hf hr
  have hscan := h.scan hr
  obtain ⟨c, more, rfl, hc⟩ := h.exists_cons
  obtain ⟨fuel, rfl⟩ := exists_fuel (List.cons_ne_nil _ _) hf
  rw [List.cons_append] at hscan ⊢
  rw [parseValue_number hc, parseNumber, hscan]

theorem parseWord_append (word : List Char) (value : Scalar) (rest : List Char) :
    parseWord word value (word ++ rest) = (.scalar (some value), some rest) := by
  induction word with
  | nil => rfl
  | cons w word ih => rw [List.cons_append, parseWord, if_pos rfl, ih]

theorem SaysChars.stringContents? {cs : List Char} {s : Option (List Char)} (h : SaysChars cs s) (rest : List Char) :
    stringContents? (cs ++ '"' :: rest) = s.map String.ofList := by
  rw [← h.readString rest, Json.stringContents?]
  cases Json.readString 0 (cs ++ '"' :: rest) with
  | error _ => rfl
  | ok _ => rfl

theorem parses_string {cs : List Char} {s : Option (List Char)} (h : SaysChars cs s) :
    Parses ('"' :: (cs ++ ['"'])) (.scalar (s.map fun s => .text (String.ofList s))) := by
  intro fuel rest hf _
  obtain ⟨fuel, rfl⟩ := exists_fuel (List.cons_ne_nil _ _) hf
  have htext : '"' :: (cs ++ ['"']) ++ rest = '"' :: (cs ++ '"' :: rest) := by simp
  rw [htext, parseValue, skipBlank_cons (by rfl)]
  simp only [if_true, parseString, h.skipString, h.stringContents?, Option.map_map]
  rfl

/-- **A count is written with digits alone**, without sign, fraction and power of ten. -/
theorem says_ofNat_iff {cs : List Char} {n : Nat} :
    Says cs (.ofNat n) ↔ WholeDigits cs ∧ Nat.ofDigitChars 10 cs 0 = n ∧ n < countLimit := by
  constructor
  · intro h
    generalize hnode : Node.ofNat n = node at h
    cases h with
    | number hwritten =>
      obtain ⟨hm, hvalue, hn⟩ := eq_digits_of_contents (Node.scalar.inj hnode).symm
      rw [hm] at hwritten
      obtain ⟨hcs, hwhole⟩ := hwritten.digits
      exact ⟨hcs, hwhole ▸ hvalue, hn⟩
    | @string _ s _ => cases s <;> cases hnode
    | null | isTrue | isFalse | emptyList | list | emptyObject | object => cases hnode
  · rintro ⟨hcs, rfl, hn⟩
    have hsaid := Says.number hcs.written
    rwa [contents_of_digits hn] at hsaid

/-! ### Lists -/

/-- What is parsed behind an item of a list. -/
def laterItems (fuel : Nat) (cs : List Char) : Listed Node :=
  match separator ']' cs with
  | .broken b => .stop b
  | .close rest => (([], none), some rest)
  | .comma rest =>
    match skipBlank rest with
    | ']' :: _ => .stop (.both .malformed)
    | rest => parseItem fuel rest

theorem parseItem_of_parseValue {fuel : Nat} {cs rest : List Char} {item : Node}
    (h : parseValue fuel cs = (item, some rest)) :
    parseItem (fuel + 1) cs = .cons item (laterItems fuel rest) := by
  rw [parseItem, h]
  rfl

theorem Blanks.laterItems_append {blanks : List Char} (h : Blanks blanks) (fuel : Nat) (cs : List Char) :
    laterItems fuel (blanks ++ cs) = laterItems fuel cs := by
  rw [laterItems, laterItems, separator_of_skipBlank (h.skipBlank_append cs)]

/-- The text of an item behind the blanks in front of it. -/
theorem Part.skipBlank_whole {p : Part} (h : Says p.text p.node) (rest : List Char) :
    ∃ c more, skipBlank (p.whole ++ rest) = c :: more ∧ isBlank c = false ∧ c ≠ ']' := by
  obtain ⟨c, more, htext, hblank, hclose⟩ := h.exists_cons
  refine ⟨c, more ++ (p.after ++ rest), ?_, hblank, hclose⟩
  rw [Part.whole, htext, List.append_assoc, p.blanks_before.skipBlank_append, List.append_assoc, List.cons_append,
    skipBlank_cons hblank]

theorem laterItems_trail_cons {p : Part} (h : Says p.text p.node) (later : List (List Char)) (fuel : Nat)
    (rest : List Char) :
    laterItems fuel (trail ']' (p.whole :: later) ++ rest) = parseItem fuel (p.whole ++ (trail ']' later ++ rest)) := by
  obtain ⟨c, more, hskip, hblank, hclose⟩ := p.skipBlank_whole h (trail ']' later ++ rest)
  rw [laterItems, separator_trail_cons (by decide)]
  simp only [hskip]
  split
  · rename_i hcons
    exact absurd (List.cons_eq_cons.1 hcons).1 hclose
  · exact parseItem_of_skipBlank (by rw [hskip, skipBlank_cons hblank]) fuel

theorem parseFirstItem_whole {p : Part} (h : Says p.text p.node) (fuel : Nat) (rest : List Char) :
    parseFirstItem (fuel + 1) (p.whole ++ rest) = parseItem fuel (p.whole ++ rest) := by
  obtain ⟨c, more, hskip, hblank, hclose⟩ := p.skipBlank_whole h rest
  rw [parseFirstItem, hskip]
  simp only [if_neg hclose]
  exact parseItem_of_skipBlank (by rw [hskip, skipBlank_cons hblank]) fuel

/-- A value with blanks around it is parsed; those behind it are left. -/
theorem Parses.whole {p : Part} (h : Parses p.text p.node) {fuel : Nat} {rest : List Char}
    (hf : 4 * p.text.length ≤ fuel) (hr : EndsNumber rest) :
    parseValue fuel (p.whole ++ rest) = (p.node, some (p.after ++ rest)) := by
  have hskip : skipBlank (p.whole ++ rest) = skipBlank (p.text ++ (p.after ++ rest)) := by
    rw [Part.whole, List.append_assoc, p.blanks_before.skipBlank_append, List.append_assoc]
  rw [parseValue_of_skipBlank hskip]
  exact h fuel _ hf (p.blanks_after.endsNumber_append hr)

theorem Part.length_text_le (p : Part) : p.text.length ≤ p.whole.length := by
  simp only [Part.whole, List.length_append]
  omega

theorem parseItem_trail {p : Part} (h : Parses p.text p.node) {later : List Part} {rest : List Char} {fuel : Nat}
    (hlater : laterItems fuel (trail ']' (later.map Part.whole) ++ rest) = ((later.map Part.node, none), some rest))
    (hf : 4 * p.text.length ≤ fuel) :
    parseItem (fuel + 1) (p.whole ++ (trail ']' (later.map Part.whole) ++ rest)) =
      ((p.node :: later.map Part.node, none), some rest) := by
  rw [parseItem_of_parseValue (h.whole hf (endsNumber_trail (by decide) _ rest)), p.blanks_after.laterItems_append,
    hlater]
  rfl

theorem laterItems_trail {parts : List Part} (h : ∀ p ∈ parts, Says p.text p.node)
    (hp : ∀ p ∈ parts, Parses p.text p.node) (rest : List Char) {fuel : Nat}
    (hf : 4 * (trail ']' (parts.map Part.whole)).length ≤ fuel) :
    laterItems fuel (trail ']' (parts.map Part.whole) ++ rest) = ((parts.map Part.node, none), some rest) := by
  induction parts generalizing fuel with
  | nil => rw [List.map_nil, List.map_nil, laterItems, separator_trail_nil (by decide)]
  | cons p later ih =>
    rw [List.forall_mem_cons] at h hp
    have hlen := p.length_text_le
    rw [List.map_cons] at hf ⊢
    rw [length_trail_cons] at hf
    obtain ⟨fuel, rfl⟩ : ∃ f, fuel = f + 1 := ⟨fuel - 1, by omega⟩
    rw [laterItems_trail_cons h.1]
    exact parseItem_trail hp.1 (ih h.2 hp.2 (by omega)) (by omega)

/-- An empty container, in the two steps behind its opening bracket. -/
theorem Blanks.parseFirstItem_close {blanks : List Char} (h : Blanks blanks) (fuel : Nat) (rest : List Char) :
    parseFirstItem (fuel + 1) (blanks ++ ']' :: rest) = (([], none), some rest) := by
  rw [parseFirstItem, h.skipBlank_append_cons (by rfl)]
  rfl

theorem parseValue_bracket (fuel : Nat) (rest : List Char) :
    parseValue (fuel + 1) ('[' :: rest) =
      (.array (parseFirstItem fuel rest).1.1 (parseFirstItem fuel rest).1.2, (parseFirstItem fuel rest).2) := by
  rw [parseValue, skipBlank_cons (by rfl)]
  rfl

theorem parses_emptyList {blanks : List Char} (h : Blanks blanks) :
    Parses ('[' :: (blanks ++ [']'])) (.array [] none) := by
  intro fuel rest hf _
  simp only [List.length_cons, List.length_append] at hf
  obtain ⟨fuel, rfl⟩ : ∃ f, fuel = f + 2 := ⟨fuel - 2, by omega⟩
  rw [List.cons_append, List.append_assoc, List.singleton_append, parseValue_bracket, h.parseFirstItem_close]

theorem parses_list {parts : List Part} (hne : parts ≠ []) (h : ∀ p ∈ parts, Says p.text p.node)
    (hp : ∀ p ∈ parts, Parses p.text p.node) :
    Parses (enclosed '[' ']' (parts.map Part.whole)) (.array (parts.map Part.node) none) := by
  intro fuel rest hf _
  obtain ⟨p, later, rfl⟩ := List.exists_cons_of_ne_nil hne
  rw [List.forall_mem_cons] at h hp
  have hlen := p.length_text_le
  rw [List.map_cons, enclosed_cons] at hf ⊢
  simp only [List.length_cons, List.length_append] at hf
  -- a step each for the list, its opening bracket and its first item
  obtain ⟨fuel, rfl⟩ : ∃ f, fuel = f + 3 := ⟨fuel - 3, by omega⟩
  have hlater : laterItems fuel (trail ']' (later.map Part.whole) ++ rest) = ((later.map Part.node, none), some rest) :=
    laterItems_trail h.2 hp.2 rest (by omega)
  have hitems := parseItem_trail hp.1 hlater (by omega)
  rw [← parseFirstItem_whole h.1] at hitems
  rw [List.cons_append, List.append_assoc, parseValue_bracket, hitems]
  rfl

/-! ### Objects -/

/-- What is parsed behind a member of an object. -/
def laterMembers (fuel : Nat) (cs : List Char) : Listed (Option String × Node) :=
  match separator '\x7d' cs with
  | .broken b => .stop b
  | .close rest => (([], none), some rest)
  | .comma rest => parseMember fuel rest

theorem Blanks.laterMembers_append {blanks : List Char} (h : Blanks blanks) (fuel : Nat) (cs : List Char) :
    laterMembers fuel (blanks ++ cs) = laterMembers fuel cs := by
  rw [laterMembers, laterMembers, separator_of_skipBlank (h.skipBlank_append cs)]

theorem Member.length_text_le (m : Member) : m.value.text.length + 3 ≤ m.whole.length := by
  have hvalue := m.value.length_text_le
  simp only [Member.whole, List.length_append, List.length_cons]
  omega

theorem Member.whole_append (m : Member) (rest : List Char) :
    m.whole ++ rest = m.before ++ ('"' :: (m.name ++ '"' :: (m.behind ++ ':' :: (m.value.whole ++ rest)))) := by
  simp [Member.whole]

theorem parseMemberValue_colon {m : Member} (h : Parses m.value.text m.value.node) {fuel : Nat} {rest : List Char}
    (hf : 4 * m.value.text.length ≤ fuel) (hr : EndsNumber rest) :
    parseMemberValue (fuel + 1) (m.behind ++ ':' :: (m.value.whole ++ rest)) =
      (m.value.node, some (m.value.after ++ rest)) := by
  rw [parseMemberValue, m.blanks_behind.skipBlank_append_cons (by rfl)]
  exact h.whole hf hr

theorem parseMember_whole {m : Member} (h : Parses m.value.text m.value.node) {fuel : Nat} {rest : List Char}
    (hf : 4 * m.value.text.length < fuel) (hr : EndsNumber rest) :
    parseMember (fuel + 1) (m.whole ++ rest) = .cons m.node (laterMembers fuel rest) := by
  obtain ⟨fuel, rfl⟩ : ∃ f, fuel = f + 1 := ⟨fuel - 1, by omega⟩
  have hvalue := parseMemberValue_colon h (show 4 * m.value.text.length ≤ fuel by omega) hr
  rw [m.whole_append, parseMember, m.blanks_before.skipBlank_append_cons (by rfl)]
  simp only [m.says_name.skipString, m.says_name.stringContents?, hvalue]
  rw [← m.value.blanks_after.laterMembers_append]
  rfl

theorem parseFirstMember_whole (m : Member) (fuel : Nat) (rest : List Char) :
    parseFirstMember (fuel + 1) (m.whole ++ rest) = parseMember fuel (m.whole ++ rest) := by
  have hskip := m.blanks_before.skipBlank_append_cons (c := '"') (by rfl)
    (m.name ++ '"' :: (m.behind ++ ':' :: (m.value.whole ++ rest)))
  rw [m.whole_append, parseFirstMember, hskip]
  exact parseMember_of_skipBlank (by rw [hskip, skipBlank_cons (by rfl)]) fuel

theorem parseMember_trail {m : Member} (h : Parses m.value.text m.value.node) {later : List Member}
    {rest : List Char} {fuel : Nat}
    (hlater : laterMembers fuel (trail '\x7d' (later.map Member.whole) ++ rest) =
      ((later.map Member.node, none), some rest))
    (hf : 4 * m.value.text.length < fuel) :
    parseMember (fuel + 1) (m.whole ++ (trail '\x7d' (later.map Member.whole) ++ rest)) =
      ((m.node :: later.map Member.node, none), some rest) := by
  rw [parseMember_whole h hf (endsNumber_trail (by decide) _ rest), hlater]
  rfl

theorem laterMembers_trail {members : List Member} (h : ∀ m ∈ members, Parses m.value.text m.value.node)
    (rest : List Char) {fuel : Nat} (hf : 4 * (trail '\x7d' (members.map Member.whole)).length ≤ fuel) :
    laterMembers fuel (trail '\x7d' (members.map Member.whole) ++ rest) =
      ((members.map Member.node, none), some rest) := by
  induction members generalizing fuel with
  | nil => rw [List.map_nil, List.map_nil, laterMembers, separator_trail_nil (by decide)]
  | cons m later ih =>
    rw [List.forall_mem_cons] at h
    have hlen := m.length_text_le
    rw [List.map_cons] at hf ⊢
    rw [length_trail_cons] at hf
    obtain ⟨fuel, rfl⟩ : ∃ f, fuel = f + 1 := ⟨fuel - 1, by omega⟩
    rw [laterMembers, separator_trail_cons (by decide)]
    exact parseMember_trail h.1 (ih h.2 (by omega)) (by omega)

theorem parseValue_brace (fuel : Nat) (rest : List Char) :
    parseValue (fuel + 1) ('\x7b' :: rest) =
      (.object (parseFirstMember fuel rest).1.1 (parseFirstMember fuel rest).1.2, (parseFirstMember fuel rest).2) := by
  rw [parseValue, skipBlank_cons (by rfl)]
  rfl

theorem parses_emptyObject {blanks : List Char} (h : Blanks blanks) :
    Parses ('\x7b' :: (blanks ++ ['\x7d'])) (.object [] none) := by
  intro fuel rest hf _
  simp only [List.length_cons, List.length_append] at hf
  obtain ⟨fuel, rfl⟩ : ∃ f, fuel = f + 2 := ⟨fuel - 2, by omega⟩
  rw [List.cons_append, List.append_assoc, List.singleton_append, parseValue_brace, parseFirstMember,
    h.skipBlank_append_cons (by rfl)]
  rfl

theorem parses_object {members : List Member} (hne : members ≠ [])
    (h : ∀ m ∈ members, Parses m.value.text m.value.node) :
    Parses (enclosed '\x7b' '\x7d' (members.map Member.whole)) (.object (members.map Member.node) none) := by
  intro fuel rest hf _
  obtain ⟨m, later, rfl⟩ := List.exists_cons_of_ne_nil hne
  rw [List.forall_mem_cons] at h
  have hlen := m.length_text_le
  rw [List.map_cons, enclosed_cons] at hf ⊢
  simp only [List.length_cons, List.length_append] at hf
  obtain ⟨fuel, rfl⟩ : ∃ f, fuel = f + 3 := ⟨fuel - 3, by omega⟩
  have hlater : laterMembers fuel (trail '\x7d' (later.map Member.whole) ++ rest) =
      ((later.map Member.node, none), some rest) :=
    laterMembers_trail h.2 rest (by omega)
  have hmembers := parseMember_trail h.1 hlater (by omega)
  rw [← parseFirstMember_whole] at hmembers
  rw [List.cons_append, List.append_assoc, parseValue_brace, hmembers]
  rfl

/-! ### Whole texts -/

/-- **The parser finds the outline of every value of the grammar.** -/
theorem Says.parses {cs : List Char} {node : Node} (h : Says cs node) : Parses cs node := by
  induction h with
  | null | isTrue | isFalse =>
    intro fuel rest hf _
    obtain ⟨fuel, rfl⟩ := exists_fuel (List.cons_ne_nil _ _) hf
    exact parseWord_append _ _ rest
  | number h => exact parses_number h
  | string h => exact parses_string h
  | emptyList h => exact parses_emptyList h
  | list hne h ih => exact parses_list hne h ih
  | emptyObject h => exact parses_emptyObject h
  | object hne _ ih => exact parses_object hne ih

/-- A text of the grammar has one outline, the one that the parser finds. -/
theorem Says.unique {cs : List Char} {node node' : Node} (h : Says cs node) (h' : Says cs node') : node = node' := by
  have hparse := h.parses (4 * cs.length) [] (Nat.le_refl _) endsNumber_nil
  rw [h'.parses (4 * cs.length) [] (Nat.le_refl _) endsNumber_nil] at hparse
  exact (Prod.mk.inj hparse).1.symm

theorem skipBlank_eq_nil_iff {cs : List Char} : skipBlank cs = [] ↔ Blanks cs :=
  List.dropWhile_eq_nil_iff

/-- **The parser finds the outline of every text of the grammar**, and nothing behind its value. -/
theorem SaysText.ofText_eq {text : String} {node : Node} (h : SaysText text node) :
    Node.ofText text = (node, none) := by
  obtain @⟨p, htext, h⟩ := h
  have hlen := p.length_text_le
  have hf : 4 * p.text.length ≤ 4 * text.toList.length + 4 := by
    rw [htext]
    omega
  have hparse := h.parses.whole hf endsNumber_nil
  rw [List.append_nil, List.append_nil, ← htext] at hparse
  rw [Node.ofText]
  simp only [hparse, trailingFault?, if_pos (skipBlank_eq_nil_iff.2 p.blanks_after)]

theorem skipItems?_eq_none_iff {items : List Node} :
    Node.skipItems? items = none ↔ ∀ item ∈ items, item.skipFault? = none := by
  induction items with
  | nil => exact iff_of_true rfl (by simp)
  | cons item items ih => rw [Node.skipItems?, Option.or_eq_none_iff, ih, List.forall_mem_cons]

theorem skipMembers?_eq_none_iff {members : List (Option String × Node)} :
    Node.skipMembers? members = none ↔ ∀ m ∈ members, m.2.skipFault? = none := by
  induction members with
  | nil => exact iff_of_true rfl (by simp)
  | cons m members ih => rw [Node.skipMembers?, Option.or_eq_none_iff, ih, List.forall_mem_cons]

/-- A value of the grammar has no break. -/
theorem Says.skipFault?_eq_none {cs : List Char} {node : Node} (h : Says cs node) : node.skipFault? = none := by
  induction h with
  | null | isTrue | isFalse | number | string => rfl
  | emptyList | emptyObject => rfl
  | list _ _ ih =>
    rw [Node.skipFault?, Option.map_none, Option.or_none, skipItems?_eq_none_iff, List.forall_mem_map]
    exact ih
  | object _ _ ih =>
    rw [Node.skipFault?, Option.map_none, Option.or_none, skipMembers?_eq_none_iff, List.forall_mem_map]
    exact ih

end WordRecords.Json
