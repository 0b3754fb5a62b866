import WordRecords.Proofs.Json.Grammar

/-!
# Texts that are parsed without a break

The parser makes an outline of every text. An outline without a break is the outline of a text of the grammar: together
with completeness, `saysText_iff` says that the grammar and the parser agree on what JSON is and on what it says.

The parser is followed step by step (`Sound`). A step that meets no break has consumed a text of the grammar and leaves
what stands behind it.
-/

namespace WordRecords.Json

/-! ### Blanks and words -/

/-- The blanks in front of a text. -/
theorem exists_blanks (cs : List Char) : ∃ blanks, Blanks blanks ∧ cs = blanks ++ skipBlank cs :=
  ⟨cs.takeWhile isBlank, fun _ hc => List.mem_takeWhile_imp hc, List.takeWhile_append_dropWhile.symm⟩

theorem skipBlank_skipBlank (cs : List Char) : skipBlank (skipBlank cs) = skipBlank cs := by
  obtain ⟨blanks, hblanks, hcs⟩ := exists_blanks cs
  conv_rhs => rw [hcs, hblanks.skipBlank_append]

theorem exists_blanks_of_skipBlank {cs rest : List Char} {c : Char} (h : skipBlank cs = c :: rest) :
    ∃ blanks, Blanks blanks ∧ cs = blanks ++ c :: rest := by
  rw [← h]
  exact exists_blanks cs

theorem eq_append_of_parseWord {word cs : List Char} {value : Scalar} {node : Node} {left : Option (List Char)}
    (h : parseWord word value cs = (node, left)) (hn : node.skipFault? = none) :
    ∃ rest, left = some rest ∧ cs = word ++ rest ∧ node = .scalar (some value) := by
  induction word generalizing cs with
  | nil =>
    cases h
    exact ⟨cs, rfl, rfl, rfl⟩
  | cons w word ih =>
    cases cs with
    | nil =>
      cases h
      cases hn
    | cons c cs =>
      rw [parseWord] at h
      split at h
      · rename_i hc
        obtain ⟨rest, hleft, rfl, hnode⟩ := ih h
        exact ⟨rest, hleft, by rw [hc]; rfl, hnode⟩
      · cases h
        cases hn

theorem separator_eq_close {closing : Char} {cs rest : List Char} (h : separator closing cs = .close rest) :
    ∃ blanks, Blanks blanks ∧ cs = blanks ++ closing :: rest := by
  rw [separator] at h
  split at h
  · cases h
  · rename_i c more hskip
    split at h
    · rename_i hc
      cases h
      rw [← hc]
      exact exists_blanks_of_skipBlank hskip
    · split at h <;> cases h

theorem separator_eq_comma {closing : Char} {cs rest : List Char} (h : separator closing cs = .comma rest) :
    ∃ blanks, Blanks blanks ∧ cs = blanks ++ ',' :: rest := by
  rw [separator] at h
  split at h
  · cases h
  · rename_i c more hskip
    split at h
    · cases h
    · split at h
      · rename_i hc
        cases h
        rw [← hc]
        exact exists_blanks_of_skipBlank hskip
      · cases h

/-! ### Steps of the parser -/

/-- A value that is parsed without a break stands in front of the text, behind blanks. -/
def SoundValue (parse : List Char → Parsed Node) : Prop :=
  ∀ cs node left, parse cs = (node, left) → node.skipFault? = none →
    ∃ before text rest, left = some rest ∧ Blanks before ∧ cs = before ++ (text ++ rest) ∧ Says text node

/-- Items that are parsed without a break stand in front of the text, with the closing bracket behind them. -/
def SoundItems (parse : List Char → Listed Node) : Prop :=
  ∀ cs items left, parse cs = ((items, none), left) → Node.skipItems? items = none →
    ∃ p later rest, left = some rest ∧ items = (p :: later).map Part.node ∧
      cs = p.whole ++ (trail ']' (later.map Part.whole) ++ rest) ∧ ∀ p' ∈ p :: later, Says p'.text p'.node

/-- The same for the members of an object. -/
def SoundMembers (parse : List Char → Listed (Option String × Node)) : Prop :=
  ∀ cs members left, parse cs = ((members, none), left) → Node.skipMembers? members = none →
    ∃ m later rest, left = some rest ∧ members = (m :: later).map Member.node ∧
      cs = m.whole ++ (trail '\x7d' (later.map Member.whole) ++ rest) ∧
      ∀ m' ∈ m :: later, Says m'.value.text m'.value.node

/-- What the parser does with a number of steps. -/
structure Sound (fuel : Nat) : Prop where
  value : SoundValue (parseValue fuel)
  list : ∀ cs items left, parseFirstItem fuel cs = ((items, none), left) → Node.skipItems? items = none →
    ∃ front rest, left = some rest ∧ cs = front ++ rest ∧ Says ('[' :: front) (.array items none)
  items : SoundItems (parseItem fuel)
  object : ∀ cs members left, parseFirstMember fuel cs = ((members, none), left) → Node.skipMembers? members = none →
    ∃ front rest, left = some rest ∧ cs = front ++ rest ∧ Says ('\x7b' :: front) (.object members none)
  members : SoundMembers (parseMember fuel)
  memberValue : ∀ cs node left, parseMemberValue fuel cs = (node, left) → node.skipFault? = none →
    ∃ behind before text rest, left = some rest ∧ Blanks behind ∧ Blanks before ∧
      cs = behind ++ ':' :: (before ++ (text ++ rest)) ∧ Says text node

theorem Sound.zero : Sound 0 where
  value := by
    rintro cs node left ⟨⟩ ⟨⟩
  list := by
    rintro cs items left ⟨⟩
  items := by
    rintro cs items left ⟨⟩
  object := by
    rintro cs members left ⟨⟩
  members := by
    rintro cs members left ⟨⟩
  memberValue := by
    rintro cs node left ⟨⟩ ⟨⟩

/-! ### Values that are no containers -/

theorem says_of_parseString {cs : List Char} {node : Node} {left : Option (List Char)}
    (h : parseString cs = (node, left)) (hn : node.skipFault? = none) :
    ∃ text rest, left = some rest ∧ '"' :: cs = text ++ rest ∧ Says text node := by
  rw [parseString] at h
  split at h
  · cases h
    cases hn
  · rename_i rest hskip
    obtain ⟨body, s, rfl, hbody⟩ := saysChars_of_skipString hskip
    rw [hbody.stringContents?, Option.map_map] at h
    cases h
    exact ⟨'"' :: (body ++ ['"']), rest, rfl, by simp, .string hbody⟩

theorem says_of_parseNumber {cs : List Char} {node : Node} {left : Option (List Char)}
    (h : parseNumber cs = (node, left)) (hn : node.skipFault? = none) :
    ∃ text rest, left = some rest ∧ cs = text ++ rest ∧ Says text node := by
  rw [parseNumber] at h
  split at h
  · cases h
    cases hn
  · rename_i n rest hscan
    cases h
    obtain ⟨text, hcs, hwritten⟩ := written_of_scanNumeral hscan
    exact ⟨text, rest, rfl, hcs, .number hwritten⟩

/-! ### Lists -/

variable {fuel : Nat}

/-- What is parsed behind an item without a break: later items, and the closing bracket. -/
theorem SoundItems.later (h : SoundItems (parseItem fuel)) {cs : List Char} {items : List Node}
    {left : Option (List Char)} (hlater : laterItems fuel cs = ((items, none), left))
    (hn : Node.skipItems? items = none) :
    ∃ blanks rest, ∃ later : List Part, left = some rest ∧ Blanks blanks ∧ items = later.map Part.node ∧
      cs = blanks ++ (trail ']' (later.map Part.whole) ++ rest) ∧ ∀ p ∈ later, Says p.text p.node := by
  rw [laterItems] at hlater
  split at hlater
  · cases hlater
  · rename_i rest hclose
    cases hlater
    obtain ⟨blanks, hblanks, hcs⟩ := separator_eq_close hclose
    exact ⟨blanks, rest, [], rfl, hblanks, rfl, hcs, by simp⟩
  · rename_i more hcomma
    split at hlater
    · cases hlater
    · rw [parseItem_of_skipBlank (skipBlank_skipBlank more)] at hlater
      obtain ⟨blanks, hblanks, hcs⟩ := separator_eq_comma hcomma
      obtain ⟨p, later, rest, hleft, hitems, rfl, hsaid⟩ := h _ _ _ hlater hn
      exact ⟨blanks, rest, p :: later, hleft, hblanks, hitems, by rw [hcs, List.map_cons, trail_cons], hsaid⟩

theorem Sound.parseItem_succ (h : Sound fuel) : SoundItems (parseItem (fuel + 1)) := by
  intro cs items left hitems hn
  obtain ⟨item, left', hvalue⟩ : ∃ item left', parseValue fuel cs = (item, left') := ⟨_, _, rfl⟩
  cases left' with
  | none =>
    rw [parseItem, hvalue] at hitems
    cases hitems
    have hitem : item.skipFault? = none := skipItems?_eq_none_iff.1 hn item List.mem_cons_self
    obtain ⟨_, _, _, ⟨⟩, -⟩ := h.value _ _ _ hvalue hitem
  | some more =>
    rw [parseItem_of_parseValue hvalue] at hitems
    obtain ⟨⟨⟨later', stop⟩, left'⟩, hlater⟩ : ∃ l, laterItems fuel more = l := ⟨_, rfl⟩
    rw [hlater] at hitems
    cases hitems
    rw [skipItems?_eq_none_iff, List.forall_mem_cons, ← skipItems?_eq_none_iff] at hn
    obtain ⟨before, text, rest, hrest, hbefore, rfl, hsaid⟩ := h.value _ _ _ hvalue hn.1
    obtain rfl := Option.some.inj hrest
    obtain ⟨blanks, rest, later, hleft, hblanks, rfl, rfl, hall⟩ := SoundItems.later h.items hlater hn.2
    refine ⟨⟨before, text, item, blanks, hbefore, hblanks⟩, later, rest, hleft, rfl, ?_, ?_⟩
    · simp only [Part.whole, List.append_assoc]
    · exact List.forall_mem_cons.2 ⟨hsaid, hall⟩

theorem Sound.parseFirstItem_succ (h : Sound fuel) {cs : List Char} {items : List Node} {left : Option (List Char)}
    (hitems : parseFirstItem (fuel + 1) cs = ((items, none), left)) (hn : Node.skipItems? items = none) :
    ∃ front rest, left = some rest ∧ cs = front ++ rest ∧ Says ('[' :: front) (.array items none) := by
  rw [parseFirstItem] at hitems
  split at hitems
  · cases hitems
  · rename_i c more hskip
    split at hitems
    · rename_i hc
      cases hitems
      obtain ⟨blanks, hblanks, hcs⟩ := exists_blanks_of_skipBlank hskip
      refine ⟨blanks ++ [']'], more, rfl, ?_, .emptyList hblanks⟩
      rw [hcs, hc, List.append_assoc, List.singleton_append]
    · rw [← hskip, parseItem_of_skipBlank (skipBlank_skipBlank cs)] at hitems
      obtain ⟨p, later, rest, hleft, rfl, rfl, hsaid⟩ := h.items _ _ _ hitems hn
      refine ⟨p.whole ++ trail ']' (later.map Part.whole), rest, hleft, by rw [List.append_assoc], ?_⟩
      rw [← enclosed_cons, ← List.map_cons]
      exact .list (List.cons_ne_nil _ _) hsaid

/-! ### Objects -/

theorem SoundMembers.later (h : SoundMembers (parseMember fuel)) {cs : List Char}
    {members : List (Option String × Node)} {left : Option (List Char)}
    (hlater : laterMembers fuel cs = ((members, none), left)) (hn : Node.skipMembers? members = none) :
    ∃ blanks rest, ∃ later : List Member, left = some rest ∧ Blanks blanks ∧ members = later.map Member.node ∧
      cs = blanks ++ (trail '\x7d' (later.map Member.whole) ++ rest) ∧ ∀ m ∈ later, Says m.value.text m.value.node := by
  rw [laterMembers] at hlater
  split at hlater
  · cases hlater
  · rename_i rest hclose
    cases hlater
    obtain ⟨blanks, hblanks, hcs⟩ := separator_eq_close hclose
    exact ⟨blanks, rest, [], rfl, hblanks, rfl, hcs, by simp⟩
  · rename_i more hcomma
    obtain ⟨blanks, hblanks, hcs⟩ := separator_eq_comma hcomma
    obtain ⟨m, later, rest, hleft, hmembers, rfl, hsaid⟩ := h _ _ _ hlater hn
    exact ⟨blanks, rest, m :: later, hleft, hblanks, hmembers, by rw [hcs, List.map_cons, trail_cons], hsaid⟩

theorem Sound.parseMember_succ (h : Sound fuel) : SoundMembers (parseMember (fuel + 1)) := by
  intro cs members left hmembers hn
  rw [parseMember] at hmembers
  split at hmembers
  · cases hmembers
  rename_i c name hskip
  split at hmembers
  · cases hmembers
  rename_i hc
  obtain rfl : c = '"' := not_not.1 hc
  split at hmembers
  · cases hmembers
  rename_i behind hname
  obtain ⟨body, s, rfl, hbody⟩ := saysChars_of_skipString hname
  rw [hbody.stringContents?] at hmembers
  obtain ⟨before, hbefore, rfl⟩ := exists_blanks_of_skipBlank hskip
  split at hmembers
  · rename_i value hvalue
    cases hmembers
    have hvalue' : value.skipFault? = none := skipMembers?_eq_none_iff.1 hn _ List.mem_cons_self
    obtain ⟨_, _, _, _, ⟨⟩, -⟩ := h.memberValue _ _ _ hvalue hvalue'
  · rename_i value more hvalue
    obtain ⟨⟨⟨later', stop⟩, left'⟩, hlater⟩ : ∃ l, laterMembers fuel more = l := ⟨_, rfl⟩
    change Listed.cons _ (laterMembers fuel more) = _ at hmembers
    rw [hlater] at hmembers
    cases hmembers
    rw [skipMembers?_eq_none_iff, List.forall_mem_cons, ← skipMembers?_eq_none_iff] at hn
    obtain ⟨colon, front, text, rest, hrest, hcolon, hfront, rfl, hsaid⟩ := h.memberValue _ _ _ hvalue hn.1
    obtain rfl := Option.some.inj hrest
    obtain ⟨blanks, rest, later, hleft, hblanks, rfl, rfl, hall⟩ := SoundMembers.later h.members hlater hn.2
    refine ⟨⟨before, body, s, colon, ⟨front, text, value, blanks, hfront, hblanks⟩, hbefore, hcolon, hbody⟩, later,
      rest, hleft, rfl, ?_, ?_⟩
    · simp [Member.whole, Part.whole]
    · exact List.forall_mem_cons.2 ⟨hsaid, hall⟩

theorem Sound.parseFirstMember_succ (h : Sound fuel) {cs : List Char} {members : List (Option String × Node)}
    {left : Option (List Char)} (hmembers : parseFirstMember (fuel + 1) cs = ((members, none), left))
    (hn : Node.skipMembers? members = none) :
    ∃ front rest, left = some rest ∧ cs = front ++ rest ∧ Says ('\x7b' :: front) (.object members none) := by
  rw [parseFirstMember] at hmembers
  split at hmembers
  · cases hmembers
  · rename_i c more hskip
    split at hmembers
    · rename_i hc
      cases hmembers
      obtain ⟨blanks, hblanks, hcs⟩ := exists_blanks_of_skipBlank hskip
      refine ⟨blanks ++ ['\x7d'], more, rfl, ?_, .emptyObject hblanks⟩
      rw [hcs, hc, List.append_assoc, List.singleton_append]
    · rw [← hskip, parseMember_of_skipBlank (skipBlank_skipBlank cs)] at hmembers
      obtain ⟨m, later, rest, hleft, rfl, rfl, hsaid⟩ := h.members _ _ _ hmembers hn
      refine ⟨m.whole ++ trail '\x7d' (later.map Member.whole), rest, hleft, by rw [List.append_assoc], ?_⟩
      rw [← enclosed_cons, ← List.map_cons]
      exact .object (List.cons_ne_nil _ _) hsaid

theorem Sound.parseMemberValue_succ (h : Sound fuel) {cs : List Char} {node : Node} {left : Option (List Char)}
    (hvalue : parseMemberValue (fuel + 1) cs = (node, left)) (hn : node.skipFault? = none) :
    ∃ behind before text rest, left = some rest ∧ Blanks behind ∧ Blanks before ∧
      cs = behind ++ ':' :: (before ++ (text ++ rest)) ∧ Says text node := by
  rw [parseMemberValue] at hvalue
  split at hvalue
  · cases hvalue
    cases hn
  · rename_i c more hskip
    split at hvalue
    · rename_i hc
      obtain ⟨behind, hbehind, rfl⟩ := exists_blanks_of_skipBlank hskip
      obtain ⟨before, text, rest, hleft, hbefore, rfl, hsaid⟩ := h.value _ _ _ hvalue hn
      exact ⟨behind, before, text, rest, hleft, hbehind, hbefore, by rw [hc], hsaid⟩
    · cases hvalue
      cases hn

/-! ### Values -/

/-- A container without a break has neither an item with one nor one of its own. -/
theorem skipFault?_array_eq_none_iff {items : List Node} {stop : Option Break} :
    (Node.array items stop).skipFault? = none ↔ Node.skipItems? items = none ∧ stop = none := by
  rw [Node.skipFault?, Option.or_eq_none_iff, Option.map_eq_none_iff]

theorem skipFault?_object_eq_none_iff {members : List (Option String × Node)} {stop : Option Break} :
    (Node.object members stop).skipFault? = none ↔ Node.skipMembers? members = none ∧ stop = none := by
  rw [Node.skipFault?, Option.or_eq_none_iff, Option.map_eq_none_iff]

theorem Sound.parseValue_succ (h : Sound fuel) : SoundValue (parseValue (fuel + 1)) := by
  intro cs node left hvalue hn
  suffices hskip : ∃ text rest, left = some rest ∧ skipBlank cs = text ++ rest ∧ Says text node by
    obtain ⟨text, rest, hleft, htext, hsaid⟩ := hskip
    obtain ⟨before, hbefore, hcs⟩ := exists_blanks cs
    exact ⟨before, text, rest, hleft, hbefore, htext ▸ hcs, hsaid⟩
  rw [parseValue] at hvalue
  split at hvalue
  · cases hvalue
    cases hn
  rename_i c more hskip
  rw [hskip]
  split at hvalue
  · rename_i hc
    rw [hc]
    exact says_of_parseString hvalue hn
  split at hvalue
  · rename_i hc
    obtain ⟨⟨⟨items, stop⟩, left'⟩, hitems⟩ : ∃ l, parseFirstItem fuel more = l := ⟨_, rfl⟩
    rw [hitems] at hvalue
    cases hvalue
    obtain ⟨hnone, rfl⟩ := skipFault?_array_eq_none_iff.1 hn
    obtain ⟨front, rest, hleft, rfl, hsaid⟩ := h.list _ _ _ hitems hnone
    exact ⟨'[' :: front, rest, hleft, by rw [hc]; rfl, hsaid⟩
  split at hvalue
  · rename_i hc
    obtain ⟨⟨⟨members, stop⟩, left'⟩, hmembers⟩ : ∃ l, parseFirstMember fuel more = l := ⟨_, rfl⟩
    rw [hmembers] at hvalue
    cases hvalue
    obtain ⟨hnone, rfl⟩ := skipFault?_object_eq_none_iff.1 hn
    obtain ⟨front, rest, hleft, rfl, hsaid⟩ := h.object _ _ _ hmembers hnone
    exact ⟨'\x7b' :: front, rest, hleft, by rw [hc]; rfl, hsaid⟩
  split at hvalue
  · exact says_of_parseNumber hvalue hn
  split at hvalue
  · rename_i hc
    obtain ⟨rest, hleft, rfl, rfl⟩ := eq_append_of_parseWord hvalue hn
    exact ⟨_, rest, hleft, by rw [hc]; rfl, .null⟩
  split at hvalue
  · rename_i hc
    obtain ⟨rest, hleft, rfl, rfl⟩ := eq_append_of_parseWord hvalue hn
    exact ⟨_, rest, hleft, by rw [hc]; rfl, .isTrue⟩
  split at hvalue
  · rename_i hc
    obtain ⟨rest, hleft, rfl, rfl⟩ := eq_append_of_parseWord hvalue hn
    exact ⟨_, rest, hleft, by rw [hc]; rfl, .isFalse⟩
  · cases hvalue
    cases hn

theorem sound (fuel : Nat) : Sound fuel := by
  induction fuel with
  | zero => exact .zero
  | succ fuel ih =>
    exact {
      value := ih.parseValue_succ
      list := fun _ _ _ => ih.parseFirstItem_succ
      items := ih.parseItem_succ
      object := fun _ _ _ => ih.parseFirstMember_succ
      members := ih.parseMember_succ
      memberValue := fun _ _ _ => ih.parseMemberValue_succ }

/-! ### Whole texts -/

/-- **The parser and the grammar agree.** A text says something exactly if the parser finds neither a break in its
outline nor anything behind its value, and what it says is this outline. -/
theorem saysText_iff {text : String} {node : Node} :
    SaysText text node ↔ Node.ofText text = (node, none) ∧ node.skipFault? = none := by
  constructor
  · intro h
    refine ⟨h.ofText_eq, ?_⟩
    obtain ⟨-, h⟩ := h
    exact h.skipFault?_eq_none
  · rintro ⟨htext, hn⟩
    obtain ⟨⟨node', left⟩, hparse⟩ : ∃ p, parseValue (4 * text.toList.length + 4) text.toList = p := ⟨_, rfl⟩
    rw [Node.ofText, hparse] at htext
    obtain ⟨rfl, htrailing⟩ := Prod.mk.inj htext
    obtain ⟨before, body, rest, rfl, hbefore, hcs, hsaid⟩ := (sound _).value _ _ _ hparse hn
    rw [trailingFault?] at htrailing
    split at htrailing
    · rename_i hrest
      exact .mk (p := ⟨before, body, node', rest, hbefore, skipBlank_eq_nil_iff.1 hrest⟩) hcs hsaid
    · cases htrailing

end WordRecords.Json
