import WordRecords.Proofs.Json.Unbroken

/-!
# Objects written in other ways

The same record can be written in many ways: with more members that its structure does not know, with its members in
another order, and with or without a `null` for a field that may be left out. `RecordChanged` is one such change, and
`respects_readRecord` says that the record is read as before. `ListChanged` and `readWhole_of_rewritten` carry this
through lists to whole texts.
-/

namespace WordRecords.Json

/-! ### Changes -/

def null : Node := .scalar (some .null)

/-- A change of one item of a list. -/
inductive ListChanged (changed : Node → Node → Prop) : Node → Node → Prop
  | item {before after : List Node} {v v' : Node} {stop : Option Break} (h : changed v v') :
      ListChanged changed (.array (before ++ v :: after) stop) (.array (before ++ v' :: after) stop)

namespace RecordShape

variable {ι : Type}

/-- A change of the members of an object that leaves the record alone, where some fields are optional and the values of
some fields may be changed inside. -/
inductive MembersChanged (shape : RecordShape ι) (optional : ι → Prop) (inner : ι → Node → Node → Prop) :
    List (Option String × Node) → List (Option String × Node) → Prop
  /-- A new member with an unknown name and any value. -/
  | insert {before after : List (Option String × Node)} {name : String} {value : Node}
      (hname : ∀ i, shape.name i ≠ name) :
      MembersChanged shape optional inner (before ++ after) (before ++ (some name, value) :: after)
  /-- Another order. -/
  | reorder {members members' : List (Option String × Node)} (h : members.Perm members') :
      MembersChanged shape optional inner members members'
  /-- A `null` for an optional field that is not there. -/
  | writeNull {before after : List (Option String × Node)} {i : ι} (hi : optional i)
      (habsent : ∀ m ∈ before ++ after, m.1 ≠ some (shape.name i)) :
      MembersChanged shape optional inner (before ++ after) (before ++ (some (shape.name i), null) :: after)
  /-- An optional field that is left out when it is `null`. -/
  | leaveOut {before after : List (Option String × Node)} {i : ι} (hi : optional i) :
      MembersChanged shape optional inner (before ++ (some (shape.name i), null) :: after) (before ++ after)
  /-- Any change inside the value of an unknown member. -/
  | unknown {before after : List (Option String × Node)} {name : String} {value value' : Node}
      (hname : ∀ i, shape.name i ≠ name) :
      MembersChanged shape optional inner (before ++ (some name, value) :: after)
        (before ++ (some name, value') :: after)
  /-- A change inside the value of a field. -/
  | field {before after : List (Option String × Node)} {i : ι} {value value' : Node} (h : inner i value value') :
      MembersChanged shape optional inner (before ++ (some (shape.name i), value) :: after)
        (before ++ (some (shape.name i), value') :: after)

/-- A change of a record, as an object or as a list of its fields. -/
inductive RecordChanged (shape : RecordShape ι) (optional : ι → Prop) (inner : ι → Node → Node → Prop) :
    Node → Node → Prop
  | object {members members' : List (Option String × Node)} {stop : Option Break}
      (h : MembersChanged shape optional inner members members') :
      RecordChanged shape optional inner (.object members stop) (.object members' stop)
  | list {before after : List Node} {v v' : Node} {stop : Option Break} {i : ι}
      (hi : shape.fields[before.length]? = some i) (h : inner i v v') :
      RecordChanged shape optional inner (.array (before ++ v :: after) stop) (.array (before ++ v' :: after) stop)

end RecordShape

/-! ### Readers that do not notice -/

variable {α : Type}

/-- A reader that reads a changed value as before, unless the change brings a break. -/
def Respects (changed : Node → Node → Prop) (read : Node → Reading α) : Prop :=
  ∀ node node' a, changed node node' → node'.skipFault? = none → read node = .ok a → read node' = .ok a

/-- A reader of values in which nothing can be changed. -/
theorem respects_false (read : Node → Reading α) : Respects (fun _ _ => False) read := by
  rintro _ _ _ ⟨⟩

theorem Respects.readList {changed : Node → Node → Prop} {read : Node → Reading α} (h : Respects changed read) :
    Respects (ListChanged changed) (readList read) := by
  rintro _ _ xs ⟨hv⟩ hskip hread
  rename_i before after v v' stop
  obtain ⟨items, hitems, hall⟩ := readList_eq_ok_iff.1 hread
  obtain ⟨rfl, rfl⟩ := Node.array.inj hitems
  obtain ⟨front, behind, hfront, hbehind, rfl⟩ := exists_append_of_forall₂ hall
  obtain ⟨hunbroken, -⟩ := skipFault?_array_eq_none_iff.1 hskip
  have hv' : v'.skipFault? = none := skipItems?_eq_none_iff.1 hunbroken v' (by simp)
  cases hbehind with
  | cons hx hxs =>
    exact readList_eq_ok_iff.2 ⟨_, rfl, List.rel_append hfront (.cons (h v v' _ hv hv' hx) hxs)⟩

namespace RecordShape

variable {ι : Type} {shape : RecordShape ι} {optional : ι → Prop} {inner : ι → Node → Node → Prop}

/-! ### Fields that may be left out -/

/-- A field is not there, or as a `null` is read. -/
def Filling.Null (f : shape.Filling) (i : ι) : Prop := ∀ v, f i = some v → shape.read i null = .ok v

/-- Two fillings that differ at most in whether an optional field is left out or `null`. -/
def Alike (optional : ι → Prop) (f f' : shape.Filling) : Prop :=
  ∀ i, f i = f' i ∨ optional i ∧ f.Null i ∧ f'.Null i

theorem Alike.refl (f : shape.Filling) : Alike optional f f := fun _ => .inl rfl

/-- A field that is not optional is the same in fillings that are alike. -/
theorem Alike.eq {f f' : shape.Filling} (h : Alike optional f f') {i : ι} (hi : ¬optional i) : f i = f' i := by
  rcases h i with heq | ⟨hopt, -⟩
  · exact heq
  · exact absurd hopt hi

/-- Optional fields can be read from `null`, and what is built does not tell whether they are left out. -/
structure Lenient (shape : RecordShape ι) (optional : ι → Prop) (build : shape.Filling → Reading α) : Prop where
  null : ∀ i, optional i → ∃ v, shape.read i null = .ok v
  build : ∀ f f', Alike optional f f' → build f = build f'

section Alike

variable [DecidableEq ι] {f : shape.Filling} {i : ι}

/-- A filling in which a field is left out. -/
def Filling.without (f : shape.Filling) (i : ι) : shape.Filling := fun j => if j = i then none else f j

theorem Filling.without_self (f : shape.Filling) (i : ι) : f.without i i = none := if_pos rfl

theorem Filling.without_of_ne (f : shape.Filling) {i j : ι} (h : j ≠ i) : f.without i j = f j := if_neg h

theorem alike_set (hi : optional i) (hf : f i = none) {v : shape.Slot i} (hv : shape.read i null = .ok v) :
    Alike optional f (f.set i v) := by
  intro j
  by_cases hij : i = j
  · subst hij
    refine .inr ⟨hi, fun w hw => ?_, fun w hw => ?_⟩
    · rw [hf] at hw
      cases hw
    · rw [f.set_self] at hw
      cases hw
      exact hv
  · exact .inl (f.set_of_ne hij v).symm

theorem alike_without (hi : optional i) (hf : f.Null i) : Alike optional f (f.without i) := by
  intro j
  by_cases hij : j = i
  · subst hij
    refine .inr ⟨hi, hf, fun w hw => ?_⟩
    rw [f.without_self] at hw
    cases hw
  · exact .inl (f.without_of_ne hij).symm

end Alike

/-! ### Changed objects -/

theorem called_split {name : String} {before after named : List (Option String × Node)} {node : Node}
    (h : called name (before ++ (some name, node) :: after) = named) (hlen : named.length ≤ 1) :
    called name before = [] ∧ called name after = [] ∧ named = [(some name, node)] := by
  rw [called_append, called_cons_self] at h
  subst h
  simp only [List.length_append, List.length_cons] at hlen
  have hb : called name before = [] := List.length_eq_zero_iff.1 (by omega)
  have ha : called name after = [] := List.length_eq_zero_iff.1 (by omega)
  exact ⟨hb, ha, by rw [hb, ha]; rfl⟩

/-- A field that a member in the midst of others gives, is given by it alone. -/
theorem Gives.split {before after : List (Option String × Node)} {i : ι} {node : Node} {x : Option (shape.Slot i)}
    (h : shape.Gives (before ++ (some (shape.name i), node) :: after) i x) :
    called (shape.name i) (before ++ after) = [] ∧ ∃ v, x = some v ∧ shape.read i node = .ok v := by
  cases x with
  | none =>
    obtain ⟨-, -, hnil⟩ := called_split h (Nat.zero_le 1)
    cases hnil
  | some v =>
    obtain ⟨node', hcalled, hread⟩ := h
    obtain ⟨hb, ha, hnode⟩ := called_split hcalled (Nat.le_refl 1)
    obtain ⟨heq, -⟩ := List.cons_eq_cons.1 hnode
    cases heq
    exact ⟨by rw [called_append, hb, ha]; rfl, v, rfl, hread⟩

theorem gives_none {members : List (Option String × Node)} {i : ι} (habsent : called (shape.name i) members = [])
    {x : Option (shape.Slot i)} (h : shape.Gives members i x) : x = none := by
  cases x with
  | none => rfl
  | some v =>
    obtain ⟨node, hcalled, -⟩ := h
    rw [habsent] at hcalled
    cases hcalled

theorem gives_insert {before after : List (Option String × Node)} {i : ι} {node : Node} {v : shape.Slot i}
    (habsent : called (shape.name i) (before ++ after) = []) (hread : shape.read i node = .ok v) :
    shape.Gives (before ++ (some (shape.name i), node) :: after) i (some v) := by
  rw [called_append, List.append_eq_nil_iff] at habsent
  exact ⟨node, by rw [called_append, called_cons_self, habsent.1, habsent.2]; rfl, hread⟩

theorem gives_perm {members members' : List (Option String × Node)} (h : members.Perm members') {i : ι}
    {x : Option (shape.Slot i)} (hx : shape.Gives members i x) : shape.Gives members' i x := by
  cases x with
  | none => exact called_eq_of_perm h (Nat.zero_le 1) hx
  | some v =>
    obtain ⟨node, hcalled, hread⟩ := hx
    exact ⟨node, called_eq_of_perm h (Nat.le_refl 1) hcalled, hread⟩

theorem skippable_of_skipFault? {members : List (Option String × Node)} (hnamed : ∀ m ∈ members, m.1 ≠ none)
    (hskip : ∀ m ∈ members, m.2.skipFault? = none) : shape.Skippable members :=
  ⟨hnamed, fun _ node hm _ => hskip (_, node) hm⟩

/-- No change takes a name away. -/
theorem MembersChanged.named {members members' : List (Option String × Node)}
    (h : shape.MembersChanged optional inner members members') (hnamed : ∀ m ∈ members, m.1 ≠ none) :
    ∀ m ∈ members', m.1 ≠ none := by
  cases h with
  | reorder h => exact fun m hm => hnamed m (h.mem_iff.2 hm)
  | insert | writeNull =>
    rw [List.forall_mem_append] at hnamed
    rw [List.forall_mem_append, List.forall_mem_cons]
    exact ⟨hnamed.1, by simp, hnamed.2⟩
  | leaveOut =>
    rw [List.forall_mem_append, List.forall_mem_cons] at hnamed
    rw [List.forall_mem_append]
    exact ⟨hnamed.1, hnamed.2.2⟩
  | unknown | field =>
    rw [List.forall_mem_append, List.forall_mem_cons] at hnamed ⊢
    exact ⟨hnamed.1, by simp, hnamed.2.2⟩

variable [DecidableEq ι]

/-- **Changed members give the same fields**, but for a `null` that is written or left out. -/
theorem MembersChanged.gives (hd : shape.Distinct) (hnull : ∀ i, optional i → ∃ v, shape.read i null = .ok v)
    (hinner : ∀ i, Respects (inner i) (shape.read i)) {members members' : List (Option String × Node)}
    (h : shape.MembersChanged optional inner members members') (hskip : ∀ m ∈ members', m.2.skipFault? = none)
    {f : shape.Filling} (hf : ∀ i, shape.Gives members i (f i)) :
    ∃ f', (∀ i, shape.Gives members' i (f' i)) ∧ Alike optional f f' := by
  have hother : ∀ {i j : ι}, j ≠ i → some (shape.name i) ≠ some (shape.name j) := fun hij hname =>
    hij (hd.name_injective (Option.some.inj hname)).symm
  have hforeign : ∀ {name : String}, (∀ i, shape.name i ≠ name) → ∀ j, some name ≠ some (shape.name j) :=
    fun hname j heq => hname j (Option.some.inj heq).symm
  cases h with
  | insert hname =>
    exact ⟨f, fun j => (gives_congr (called_insert (hforeign hname j) _) _).2 (hf j), .refl f⟩
  | reorder h => exact ⟨f, fun j => gives_perm h (hf j), .refl f⟩
  | unknown hname =>
    exact ⟨f, fun j => (gives_congr (called_replace (hforeign hname j) _ _) _).1 (hf j), .refl f⟩
  | @writeNull before after i hi habsent =>
    obtain ⟨v, hv⟩ := hnull i hi
    have hcalled := called_eq_nil_iff.2 habsent
    refine ⟨f.set i v, fun j => ?_, alike_set hi (gives_none hcalled (hf i)) hv⟩
    by_cases hij : j = i
    · subst hij
      rw [f.set_self]
      exact gives_insert hcalled hv
    · rw [f.set_of_ne (Ne.symm hij)]
      exact (gives_congr (called_insert (hother hij) _) _).2 (hf j)
  | @leaveOut before after i hi =>
    obtain ⟨hcalled, v, hv, hread⟩ := (hf i).split
    have hfnull : f.Null i := by
      intro w hw
      rw [hv] at hw
      cases hw
      exact hread
    refine ⟨f.without i, fun j => ?_, alike_without hi hfnull⟩
    by_cases hij : j = i
    · subst hij
      rw [f.without_self]
      exact hcalled
    · rw [f.without_of_ne hij]
      exact (gives_congr (called_insert (hother hij) _) _).1 (hf j)
  | @field before after i value value' hvalue =>
    refine ⟨f, fun j => ?_, .refl f⟩
    by_cases hij : j = i
    · subst hij
      obtain ⟨habsent, v, hv, hread⟩ := (hf j).split
      have hvalue' : value'.skipFault? = none := hskip (some (shape.name j), value') (by simp)
      rw [hv]
      exact gives_insert habsent (hinner j value value' v hvalue hvalue' hread)
    · exact (gives_congr (called_replace (hother hij) _ _) _).1 (hf j)

/-! ### Changed lists of fields -/

theorem readItems_change {i : ι} {v v' : Node} (h : ∀ w, shape.read i v = .ok w → shape.read i v' = .ok w)
    {before after : List Node} {stop : Option Break} {fields : List ι} (hi : fields[before.length]? = some i)
    {filling f : shape.Filling} (hread : shape.readItems filling fields (before ++ v :: after) stop = .ok f) :
    shape.readItems filling fields (before ++ v' :: after) stop = .ok f := by
  induction before generalizing fields filling with
  | nil =>
    cases fields with
    | nil => cases hi
    | cons j later =>
      cases hi
      obtain ⟨w, hw, hread⟩ := bind_eq_ok_iff.1 hread
      exact bind_eq_ok_iff.2 ⟨w, h w hw, hread⟩
  | cons item before ih =>
    cases fields with
    | nil => cases hi
    | cons j later =>
      obtain ⟨w, hw, hread⟩ := bind_eq_ok_iff.1 hread
      exact bind_eq_ok_iff.2 ⟨w, hw, ih hi hread⟩

/-- **A changed record is read as before.** -/
theorem respects_readRecord (hd : shape.Distinct) {build : shape.Filling → Reading α}
    (hlenient : shape.Lenient optional build) (hinner : ∀ i, Respects (inner i) (shape.read i)) :
    Respects (shape.RecordChanged optional inner) (shape.readRecord build) := by
  rintro _ _ a (h | ⟨hi, h⟩) hskip hread
  · rename_i members members' stop
    obtain ⟨f, hf, hread⟩ := bind_eq_ok_iff.1 hread
    obtain ⟨u, hend, hread⟩ := bind_eq_ok_iff.1 hread
    obtain ⟨hskippable, hgives⟩ := (readMembers_eq_ok_iff hd).1 hf
    have hskip' := skipMembers?_eq_none_iff.1 (skipFault?_object_eq_none_iff.1 hskip).1
    obtain ⟨f', hgives', halike⟩ := h.gives hd hlenient.null hinner hskip' hgives
    have hskippable' : shape.Skippable members' := skippable_of_skipFault? (h.named hskippable.named) hskip'
    refine bind_eq_ok_iff.2 ⟨f', (readMembers_eq_ok_iff hd).2 ⟨hskippable', hgives'⟩, ?_⟩
    exact bind_eq_ok_iff.2 ⟨u, hend, by rw [← hlenient.build f f' halike]; exact hread⟩
  · rename_i before after v v' stop i
    obtain ⟨f, hf, hread⟩ := bind_eq_ok_iff.1 hread
    have hv' : v'.skipFault? = none :=
      skipItems?_eq_none_iff.1 (skipFault?_array_eq_none_iff.1 hskip).1 v' (by simp)
    have hchange := readItems_change (fun w hw => hinner i v v' w h hv' hw) hi hf
    exact bind_eq_ok_iff.2 ⟨f, hchange, hread⟩

end RecordShape

/-! ### Whole texts -/

/-- One text says what the other says, with a change. -/
def Rewritten (changed : Node → Node → Prop) (text text' : String) : Prop :=
  ∃ node node', SaysText text node ∧ changed node node' ∧ SaysText text' node'

/-- A text says one thing. -/
theorem SaysText.unique {text : String} {node node' : Node} (h : SaysText text node) (h' : SaysText text node') :
    node = node' := by
  have heq := h.ofText_eq.symm.trans h'.ofText_eq
  exact congrArg Prod.fst heq

/-- **A changed text is read as before.** -/
theorem readWhole_of_rewritten {changed : Node → Node → Prop} {read : Node → Reading α} (hread : Unbroken read)
    (h : Respects changed read) {text text' : String} (htext : Rewritten changed text text') {a : α}
    (ha : readWhole read text = .ok a) : readWhole read text' = .ok a := by
  obtain ⟨node, hnode, hreads⟩ := (readWhole_eq_ok_iff hread).1 ha
  obtain ⟨node₁, node', hnode₁, hchanged, hnode'⟩ := htext
  obtain rfl := hnode.unique hnode₁
  have hskip := (saysText_iff.1 hnode').2
  exact (readWhole_eq_ok_iff hread).2 ⟨node', hnode', h node node' a hchanged hskip hreads⟩

end WordRecords.Json
