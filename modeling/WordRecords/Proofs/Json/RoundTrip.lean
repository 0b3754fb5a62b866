import WordRecords.Proofs.Json.Grammar

/-!
# Values read back from their texts

A `Complete` value is one that its text says completely: no part of it is broken off, and its numbers are integers of 64
bits. In either layout the text of a complete value is a text of the grammar that says this value
(`Node.Complete.says_render`), and so its outline is the value again (`Node.Complete.outline_eq`).
-/

namespace WordRecords.Json

/-! ### Complete values -/

/-- Whether a value that is no container has a text. -/
def Scalar.HasText : Scalar → Prop
  | .integer n => Exact n
  | .decimal => False
  | .null | .bool _ | .text _ => True

/-- A value that its text says completely. -/
inductive Node.Complete : Node → Prop
  | scalar {s : Scalar} (h : s.HasText) : Complete (.scalar (some s))
  | ofList {items : List Node} (h : ∀ item ∈ items, Complete item) : Complete (.ofList items)
  | ofMembers {members : List (String × Node)} (h : ∀ m ∈ members, Complete m.2) : Complete (.ofMembers members)

theorem ofString_complete (s : String) : (Node.ofString s).Complete := .scalar trivial

theorem ofNat_complete {n : Nat} (h : n < countLimit) : (Node.ofNat n).Complete := .scalar (exact_of_lt h)

theorem Scalar.HasText.says_render {s : Scalar} (h : s.HasText) : Says s.render (.scalar (some s)) := by
  cases s with
  | null => exact .null
  | bool b =>
    cases b with
    | true => exact .isTrue
    | false => exact .isFalse
  | integer n =>
    rw [← contents_numeralOf h]
    exact .number (numeralOf_written n)
  | decimal => cases h
  | text s =>
    have hs := Says.string (saysChars_flatMap s.toList)
    rw [Option.map_some, String.ofList_toList] at hs
    exact hs

/-! ### Texts of containers -/

theorem blanks_nil : Blanks [] := by
  rintro c ⟨⟩

theorem blanks_lead (layout : Layout) (depth : Nat) : Blanks (layout.lead depth) := by
  intro c h
  cases layout with
  | compact => cases h
  | indented =>
    rcases List.mem_cons.1 h with rfl | h
    · rfl
    · rw [List.eq_of_mem_replicate h]
      rfl

theorem intercalate_append_last (sep : List Char) (texts : List (List Char)) (t u : List Char) :
    List.intercalate sep (texts ++ [t ++ u]) = List.intercalate sep (texts ++ [t]) ++ u := by
  induction texts with
  | nil => simp
  | cons t' texts ih =>
    obtain ⟨v, vs, hvs⟩ := List.exists_cons_of_ne_nil (List.append_ne_nil_of_right_ne_nil texts (List.cons_ne_nil t []))
    obtain ⟨w, ws, hws⟩ :=
      List.exists_cons_of_ne_nil (List.append_ne_nil_of_right_ne_nil texts (List.cons_ne_nil (t ++ u) []))
    rw [List.cons_append, List.cons_append, hws, hvs, List.intercalate_cons_cons, List.intercalate_cons_cons, ← hws,
      ← hvs, ih]
    simp only [List.append_assoc]

/-- A container with items: each behind its lead, and the lead of the closing bracket behind the last one. -/
theorem container_append (layout : Layout) (depth : Nat) (opening closing : Char) (texts : List (List Char))
    (t : List Char) :
    layout.container depth opening closing (texts ++ [t]) =
      enclosed opening closing
        (texts.map (layout.lead (depth + 1) ++ ·) ++ [layout.lead (depth + 1) ++ (t ++ layout.lead depth)]) := by
  rw [← List.append_assoc (layout.lead (depth + 1)), enclosed, intercalate_append_last, Layout.container]
  · simp only [List.map_append, List.map_cons, List.map_nil, List.cons_append, List.append_assoc]
  · exact List.append_ne_nil_of_right_ne_nil texts (List.cons_ne_nil t [])

section Containers

variable {layout : Layout}

/-- A value with its text, in the place of an item. -/
def itemPart (layout : Layout) (depth : Nat) {after : List Char} (h : Blanks after) (item : Node) : Part where
  before := layout.lead depth
  text := item.render layout depth
  node := item
  after := after
  blanks_before := blanks_lead layout depth
  blanks_after := h

theorem renderItems_eq_map (depth : Nat) (items : List Node) :
    Node.renderItems layout depth items = items.map fun item => item.render layout depth := by
  induction items with
  | nil => rfl
  | cons item items ih => rw [Node.renderItems, ih, List.map_cons]

theorem says_ofList {items : List Node} (h : ∀ item ∈ items, ∀ depth, Says (item.render layout depth) item)
    (depth : Nat) : Says ((Node.ofList items).render layout depth) (.ofList items) := by
  rw [Node.ofList, Node.render, renderItems_eq_map]
  rcases List.eq_nil_or_concat' items with rfl | ⟨init, last, rfl⟩
  · exact .emptyList blanks_nil
  · have hsaid : Says (enclosed '[' ']' (List.map Part.whole
          (init.map (itemPart layout (depth + 1) blanks_nil) ++
            [itemPart layout (depth + 1) (blanks_lead layout depth) last])))
        (.array (List.map Part.node
          (init.map (itemPart layout (depth + 1) blanks_nil) ++
            [itemPart layout (depth + 1) (blanks_lead layout depth) last])) none) := by
      refine .list (List.append_ne_nil_of_right_ne_nil _ (List.cons_ne_nil _ [])) ?_
      rw [List.forall_mem_append, List.forall_mem_map, List.forall_mem_singleton]
      rw [List.forall_mem_append, List.forall_mem_singleton] at h
      exact ⟨fun item hitem => h.1 item hitem (depth + 1), h.2 (depth + 1)⟩
    rw [List.map_append, List.map_cons, List.map_nil, container_append]
    simpa [Part.whole, itemPart, Function.comp_def] using hsaid

/-- A member with its text, in the place of a member. -/
def itemMember (layout : Layout) (depth : Nat) {after : List Char} (h : Blanks after) (m : String × Node) : Member where
  before := layout.lead depth
  name := m.1.toList.flatMap escapeChar
  chars := some m.1.toList
  behind := []
  value := {
    before := layout.colon.tail
    text := m.2.render layout depth
    node := m.2
    after := after
    blanks_before := by cases layout <;> simp [Layout.colon, Blanks, isBlank]
    blanks_after := h }
  blanks_before := blanks_lead layout depth
  blanks_behind := blanks_nil
  says_name := saysChars_flatMap m.1.toList

theorem renderMembers_eq_map (depth : Nat) (members : List (String × Node)) :
    Node.renderMembers layout depth (members.map fun (name, value) => (some name, value)) =
      members.map fun m => writeString m.1 ++ layout.colon ++ m.2.render layout depth := by
  induction members with
  | nil => rfl
  | cons m members ih => rw [List.map_cons, Node.renderMembers, ih, List.map_cons, Option.getD_some]

theorem colon_eq_cons (layout : Layout) : layout.colon = ':' :: layout.colon.tail := by
  cases layout <;> rfl

theorem itemMember_whole (depth : Nat) {after : List Char} (h : Blanks after) (m : String × Node) :
    (itemMember layout depth h m).whole =
      layout.lead depth ++ ((writeString m.1 ++ layout.colon ++ m.2.render layout depth) ++ after) := by
  rw [colon_eq_cons]
  simp [Member.whole, Part.whole, itemMember, writeString]

theorem itemMember_node (depth : Nat) {after : List Char} (h : Blanks after) (m : String × Node) :
    (itemMember layout depth h m).node = (some m.1, m.2) := by
  simp [Member.node, itemMember]

theorem says_ofMembers {members : List (String × Node)}
    (h : ∀ m ∈ members, ∀ depth, Says (m.2.render layout depth) m.2) (depth : Nat) :
    Says ((Node.ofMembers members).render layout depth) (.ofMembers members) := by
  rw [Node.ofMembers, Node.render, renderMembers_eq_map]
  rcases List.eq_nil_or_concat' members with rfl | ⟨init, last, rfl⟩
  · exact .emptyObject blanks_nil
  · have hsaid : Says (enclosed '\x7b' '\x7d' (List.map Member.whole
          (init.map (itemMember layout (depth + 1) blanks_nil) ++
            [itemMember layout (depth + 1) (blanks_lead layout depth) last])))
        (.object (List.map Member.node
          (init.map (itemMember layout (depth + 1) blanks_nil) ++
            [itemMember layout (depth + 1) (blanks_lead layout depth) last])) none) := by
      refine .object (List.append_ne_nil_of_right_ne_nil _ (List.cons_ne_nil _ [])) ?_
      rw [List.forall_mem_append, List.forall_mem_map, List.forall_mem_singleton]
      rw [List.forall_mem_append, List.forall_mem_singleton] at h
      exact ⟨fun m hm => h.1 m hm (depth + 1), h.2 (depth + 1)⟩
    rw [List.map_append, List.map_cons, List.map_nil, container_append]
    simpa [itemMember_whole, itemMember_node, Function.comp_def] using hsaid

end Containers

/-! ### Whole texts -/

/-- The text of a complete value says this value. -/
theorem Node.Complete.says_render {node : Node} (h : node.Complete) (layout : Layout) (depth : Nat) :
    Says (node.render layout depth) node := by
  induction h generalizing depth with
  | scalar h => exact h.says_render
  | ofList _ ih => exact says_ofList ih depth
  | ofMembers _ ih => exact says_ofMembers ih depth

/-- So does a text with blanks behind it. -/
theorem Node.Complete.saysText {node : Node} (h : node.Complete) (layout : Layout) {text : String}
    {after : List Char} (hafter : Blanks after) (htext : text.toList = node.render layout 0 ++ after) :
    SaysText text node :=
  .mk (p := ⟨[], node.render layout 0, node, after, blanks_nil, hafter⟩) htext (h.says_render layout 0)

/-- **A complete value is the outline of its own text**, in either layout and with a line feed behind it. -/
theorem Node.Complete.outline_eq {node : Node} (h : node.Complete) (layout : Layout) :
    Node.ofText (String.ofList (node.render layout 0 ++ ['\n'])) = (node, none) := by
  have hfeed : Blanks ['\n'] := List.forall_mem_singleton.2 rfl
  exact (h.saysText layout hfeed String.toList_ofList).ofText_eq

end WordRecords.Json
