import Mathlib.Data.List.Perm.Basic
import WordRecords.Proofs.Json.Shape

/-!
# The fields of objects and lists

A record is read from an object in text order, from member to member. What comes out has nothing to do with that order:
`readMembers_eq_ok_iff` says of every field by itself what the members give for it. A field is given by the only member
with its name (`called`), and is not given if there is none; several members with its name are an error, and all other
members only have to be skippable. In the same way `readItems_eq_ok_iff` says it of a list of all fields.
-/

namespace WordRecords.Json

/-! ### Members by name -/

section Called

variable {name : String} {members members' : List (Option String × Node)}

/-- The members with a name, in order. -/
def called (name : String) (members : List (Option String × Node)) : List (Option String × Node) :=
  members.filter fun m => m.1 == some name

theorem called_append : called name (members ++ members') = called name members ++ called name members' :=
  List.filter_append members members'

theorem called_cons_self (node : Node) :
    called name ((some name, node) :: members) = (some name, node) :: called name members :=
  List.filter_cons_of_pos (by simp)

theorem called_cons_of_ne {key : Option String} (h : key ≠ some name) (node : Node) :
    called name ((key, node) :: members) = called name members :=
  List.filter_cons_of_neg (by simpa using h)

/-- Members with other names do not matter. -/
theorem called_insert {key : Option String} (h : key ≠ some name) (node : Node) :
    called name (members ++ (key, node) :: members') = called name (members ++ members') := by
  rw [called_append, called_append, called_cons_of_ne h]

/-- Nor do their values. -/
theorem called_replace {key : Option String} (h : key ≠ some name) (node node' : Node) :
    called name (members ++ (key, node) :: members') = called name (members ++ (key, node') :: members') := by
  rw [called_insert h, called_insert h]

theorem called_eq_nil_iff : called name members = [] ↔ ∀ m ∈ members, m.1 ≠ some name := by
  simp [called]

theorem called_perm (h : members.Perm members') : (called name members).Perm (called name members') :=
  h.filter _

/-- The only member with a name stays the only one, wherever it stands. -/
theorem called_eq_of_perm (h : members.Perm members') {named : List (Option String × Node)} (hlen : named.length ≤ 1)
    (hn : called name members = named) : called name members' = named := by
  have hperm : (called name members').Perm (called name members) := (called_perm h).symm
  rw [hn] at hperm
  match named, hlen with
  | [], _ => exact hperm.eq_nil
  | [m], _ => exact List.perm_singleton.1 hperm

/-- Members whose names are all there. -/
def withNames (members : List (String × Node)) : List (Option String × Node) :=
  members.map fun (name, value) => (some name, value)

theorem ofMembers_eq (members : List (String × Node)) : Node.ofMembers members = .object (withNames members) none := rfl

theorem withNames_injective : Function.Injective withNames := by
  refine List.map_injective_iff.2 ?_
  rintro ⟨a, n⟩ ⟨b, m⟩ h
  simpa using h

theorem called_withNames (name : String) (members : List (String × Node)) :
    called name (withNames members) = withNames (members.filter (·.1 == name)) := by
  rw [called, withNames, withNames, List.filter_map]
  refine congrArg _ (List.filter_congr fun m _ => ?_)
  simp

/-- Exactly one member has a name, and its value is as wanted. -/
def HasOne (members : List (String × Node)) (name : String) (wanted : Node → Prop) : Prop :=
  ∃ node, members.filter (·.1 == name) = [(name, node)] ∧ wanted node

theorem hasOne_congr {members : List (String × Node)} {name : String} {wanted wanted' : Node → Prop}
    (h : ∀ m ∈ members, wanted m.2 ↔ wanted' m.2) : HasOne members name wanted ↔ HasOne members name wanted' := by
  refine exists_congr fun node => and_congr_right fun hnode => ?_
  have hmem : (name, node) ∈ members.filter (·.1 == name) := by
    rw [hnode]
    exact List.mem_singleton_self _
  exact h _ (List.mem_filter.1 hmem).1

end Called

namespace RecordShape

variable {ι : Type} {shape : RecordShape ι}

/-! ### Objects -/

theorem Distinct.field?_eq_some_iff (h : shape.Distinct) {key : String} {i : ι} :
    shape.field? key = some i ↔ shape.name i = key := by
  constructor
  · intro hi
    simpa [field?] using List.find?_some hi
  · rintro rfl
    exact h.field?_name i

theorem Distinct.field?_eq_none_iff (h : shape.Distinct) {key : String} :
    shape.field? key = none ↔ ∀ i, shape.name i ≠ key := by
  rw [Option.eq_none_iff_forall_ne_some]
  exact forall_congr' fun i => not_congr h.field?_eq_some_iff

theorem Distinct.name_injective (h : shape.Distinct) {i j : ι} (hij : shape.name i = shape.name j) : i = j := by
  have hi := h.field?_name i
  rw [hij, h.field?_name] at hi
  exact (Option.some.inj hi).symm

/-- What members give for a field: nothing if none of them has its name, and what is read if exactly one has. -/
def Gives (shape : RecordShape ι) (members : List (Option String × Node)) (i : ι) : Option (shape.Slot i) → Prop
  | none => called (shape.name i) members = []
  | some v => ∃ node, called (shape.name i) members = [(some (shape.name i), node)] ∧ shape.read i node = .ok v

/-- Names are all there, and members with unknown names can be skipped. -/
structure Skippable (shape : RecordShape ι) (members : List (Option String × Node)) : Prop where
  named : ∀ m ∈ members, m.1 ≠ none
  unknown : ∀ key node, (some key, node) ∈ members → shape.field? key = none → node.skipFault? = none

/-- What members give for a field that may have been given before. -/
def GivesMore (filling : shape.Filling) (members : List (Option String × Node)) (i : ι) (x : Option (shape.Slot i)) :
    Prop :=
  match filling i with
  | some v => x = some v ∧ called (shape.name i) members = []
  | none => shape.Gives members i x

theorem givesMore_of_some {filling : shape.Filling} {members : List (Option String × Node)} {i : ι}
    {x : Option (shape.Slot i)} {v : shape.Slot i} (h : filling i = some v) :
    GivesMore filling members i x ↔ x = some v ∧ called (shape.name i) members = [] := by
  rw [GivesMore, h]

theorem givesMore_of_none {filling : shape.Filling} {members : List (Option String × Node)} {i : ι}
    {x : Option (shape.Slot i)} (h : filling i = none) : GivesMore filling members i x ↔ shape.Gives members i x := by
  rw [GivesMore, h]

theorem gives_congr {members members' : List (Option String × Node)} {i : ι}
    (h : called (shape.name i) members = called (shape.name i) members') (x : Option (shape.Slot i)) :
    shape.Gives members i x ↔ shape.Gives members' i x := by
  cases x with
  | none => rw [Gives, Gives, h]
  | some v => simp only [Gives, h]

theorem gives_nil_iff {i : ι} {x : Option (shape.Slot i)} : shape.Gives [] i x ↔ x = none := by
  cases x with
  | none => exact iff_of_true rfl rfl
  | some v =>
    refine iff_of_false ?_ (by simp)
    rintro ⟨node, hnode, -⟩
    cases hnode

/-- A member in front gives its field if no later one does. -/
theorem gives_cons_self_iff {rest : List (Option String × Node)} {i : ι} {node : Node} {x : Option (shape.Slot i)} :
    shape.Gives ((some (shape.name i), node) :: rest) i x ↔
      ∃ v, shape.read i node = .ok v ∧ x = some v ∧ called (shape.name i) rest = [] := by
  cases x with
  | none =>
    refine iff_of_false ?_ (by simp)
    simp [Gives, called_cons_self]
  | some v =>
    simp only [Gives, called_cons_self, List.cons.injEq, Prod.mk.injEq, true_and]
    constructor
    · rintro ⟨node', ⟨rfl, hrest⟩, hread⟩
      exact ⟨v, hread, rfl, hrest⟩
    · rintro ⟨v', hread, hv, hrest⟩
      cases hv
      exact ⟨node, ⟨rfl, hrest⟩, hread⟩

theorem givesMore_cons_of_ne {filling : shape.Filling} {rest : List (Option String × Node)} {i : ι}
    {key : Option String} (h : key ≠ some (shape.name i)) (node : Node) (x : Option (shape.Slot i)) :
    GivesMore filling ((key, node) :: rest) i x ↔ GivesMore filling rest i x := by
  have hcalled : called (shape.name i) ((key, node) :: rest) = called (shape.name i) rest := called_cons_of_ne h node
  cases hi : filling i with
  | some v => rw [givesMore_of_some hi, givesMore_of_some hi, hcalled]
  | none => rw [givesMore_of_none hi, givesMore_of_none hi, gives_congr hcalled]

theorem skippable_cons_iff {key : String} {node : Node} {rest : List (Option String × Node)} :
    shape.Skippable ((some key, node) :: rest) ↔
      (shape.field? key = none → node.skipFault? = none) ∧ shape.Skippable rest := by
  constructor
  · rintro ⟨hnamed, hunknown⟩
    refine ⟨hunknown key node List.mem_cons_self, ?_, ?_⟩
    · exact fun m hm => hnamed m (List.mem_cons_of_mem _ hm)
    · exact fun key' node' hm => hunknown key' node' (List.mem_cons_of_mem _ hm)
  · rintro ⟨hnode, hnamed, hunknown⟩
    refine ⟨List.forall_mem_cons.2 ⟨by simp, hnamed⟩, ?_⟩
    intro key' node' hm
    rcases List.mem_cons.1 hm with heq | hm
    · cases heq
      exact hnode
    · exact hunknown key' node' hm

theorem readSkipped_eq_ok_iff {node : Node} {u : Unit} : readSkipped node = .ok u ↔ node.skipFault? = none := by
  rw [readSkipped]
  cases node.skipFault? with
  | none => exact iff_of_true rfl rfl
  | some f => exact iff_of_false (by rintro ⟨⟩) (by rintro ⟨⟩)

theorem gives_withNames_iff {members : List (String × Node)} {i : ι} {v : shape.Slot i} :
    shape.Gives (withNames members) i (some v) ↔
      HasOne members (shape.name i) fun node => shape.read i node = .ok v := by
  have hinj : ∀ node, withNames (members.filter (·.1 == shape.name i)) = [(some (shape.name i), node)] ↔
      members.filter (·.1 == shape.name i) = [(shape.name i, node)] := fun node =>
    withNames_injective.eq_iff (b := [(shape.name i, node)])
  simp only [Gives, HasOne, called_withNames, hinj]

variable [DecidableEq ι]

theorem Filling.set_self (f : shape.Filling) (i : ι) (v : shape.Slot i) : f.set i v i = some v := dif_pos rfl

theorem Filling.set_of_ne (f : shape.Filling) {i j : ι} (h : i ≠ j) (v : shape.Slot i) : f.set i v j = f j := dif_neg h

theorem readMembers_eq_ok_iff_more (h : shape.Distinct) {members : List (Option String × Node)}
    {filling f : shape.Filling} :
    shape.readMembers filling members = .ok f ↔
      shape.Skippable members ∧ ∀ i, GivesMore filling members i (f i) := by
  induction members generalizing filling with
  | nil =>
    have hskip : shape.Skippable [] := ⟨by simp, by simp⟩
    rw [readMembers, Except.ok.injEq, and_iff_right hskip, funext_iff]
    refine forall_congr' fun i => ?_
    cases hi : filling i with
    | some v => simp [givesMore_of_some hi, called, eq_comm]
    | none => rw [givesMore_of_none hi, gives_nil_iff, eq_comm]
  | cons m rest ih =>
    obtain ⟨_ | key, node⟩ := m
    · refine iff_of_false (by rintro ⟨⟩) ?_
      rintro ⟨hskip, -⟩
      exact hskip.named _ List.mem_cons_self rfl
    rw [readMembers, skippable_cons_iff]
    cases hkey : shape.field? key with
    | none =>
      have hne : ∀ i, some key ≠ some (shape.name i) := fun i hi =>
        h.field?_eq_none_iff.1 hkey i (Option.some.inj hi).symm
      simp only [bind_eq_ok_iff, readSkipped_eq_ok_iff, exists_const, ih, givesMore_cons_of_ne (hne _), true_implies,
        and_assoc]
    | some i =>
      obtain rfl := h.field?_eq_some_iff.1 hkey
      simp only [reduceCtorEq, false_implies, true_and]
      cases hi : filling i with
      | some v =>
        -- the field was given before, so that no further member may have its name
        refine iff_of_false (by rintro ⟨⟩) ?_
        rintro ⟨-, hall⟩
        have hcalled := ((givesMore_of_some hi).1 (hall i)).2
        rw [called_cons_self] at hcalled
        cases hcalled
      | none =>
        have hother : ∀ (v : shape.Slot i) j, i ≠ j → (GivesMore (filling.set i v) rest j (f j) ↔
            GivesMore filling ((some (shape.name i), node) :: rest) j (f j)) := by
          intro v j hij
          have hne : some (shape.name i) ≠ some (shape.name j) := fun hname =>
            hij (h.name_injective (Option.some.inj hname))
          rw [givesMore_cons_of_ne hne, GivesMore, GivesMore, filling.set_of_ne hij]
        simp only [Option.isSome_none, Bool.false_eq_true, if_false, bind_eq_ok_iff, ih]
        constructor
        · rintro ⟨v, hread, hskip, hall⟩
          refine ⟨hskip, fun j => ?_⟩
          by_cases hij : i = j
          · subst hij
            obtain ⟨hv, hrest⟩ := (givesMore_of_some (filling.set_self i v)).1 (hall i)
            exact (givesMore_of_none hi).2 (gives_cons_self_iff.2 ⟨v, hread, hv, hrest⟩)
          · exact (hother v j hij).1 (hall j)
        · rintro ⟨hskip, hall⟩
          obtain ⟨v, hread, hv, hrest⟩ := gives_cons_self_iff.1 ((givesMore_of_none hi).1 (hall i))
          refine ⟨v, hread, hskip, fun j => ?_⟩
          by_cases hij : i = j
          · subst hij
            exact (givesMore_of_some (filling.set_self i v)).2 ⟨hv, hrest⟩
          · exact (hother v j hij).2 (hall j)

/-- **What is read from the members of an object**, of every field by itself and in whatever order they stand. -/
theorem readMembers_eq_ok_iff (h : shape.Distinct) {members : List (Option String × Node)} {f : shape.Filling} :
    shape.readMembers shape.blank members = .ok f ↔ shape.Skippable members ∧ ∀ i, shape.Gives members i (f i) := by
  rw [readMembers_eq_ok_iff_more h]
  exact and_congr_right fun _ => forall_congr' fun i => givesMore_of_none rfl

/-! ### Lists -/

theorem readEnd_eq_ok_iff {stop : Option Break} {u : Unit} : readEnd stop = .ok u ↔ stop = none := by
  cases stop with
  | none => exact iff_of_true rfl rfl
  | some b => exact iff_of_false (by rintro ⟨⟩) (by rintro ⟨⟩)

theorem readItems_eq_ok_iff_more (hlack : ∀ i, shape.mayLack i = false) {fields : List ι} (hnodup : fields.Nodup)
    {items : List Node} {stop : Option Break} {filling f : shape.Filling} :
    shape.readItems filling fields items stop = .ok f ↔
      stop = none ∧ List.Forall₂ (fun i node => ∃ v, shape.read i node = .ok v ∧ f i = some v) fields items ∧
        ∀ i, i ∉ fields → f i = filling i := by
  induction fields generalizing items filling with
  | nil =>
    cases items with
    | nil =>
      have hsame : (∀ i, i ∉ ([] : List ι) → f i = filling i) ↔ (.ok filling : Reading shape.Filling) = .ok f := by
        rw [Except.ok.injEq, eq_comm (a := filling), funext_iff]
        simp
      simp only [hsame, readItems, bind_eq_ok_iff, readEnd_eq_ok_iff, exists_const, List.forall₂_nil_left_iff, true_and]
      rfl
    | cons item items =>
      refine iff_of_false (by rintro ⟨⟩) ?_
      rintro ⟨-, ⟨⟩, -⟩
  | cons i later ih =>
    obtain ⟨hi, hlater⟩ := List.nodup_cons.1 hnodup
    cases items with
    | nil =>
      refine iff_of_false ?_ ?_
      · rw [readItems, hlack]
        intro hread
        obtain ⟨-, -, hread⟩ := bind_eq_ok_iff.1 hread
        cases hread
      · rintro ⟨-, ⟨⟩, -⟩
    | cons item items =>
      simp only [readItems, bind_eq_ok_iff, ih hlater, List.forall₂_cons, List.mem_cons, not_or, and_imp]
      constructor
      · rintro ⟨v, hread, hstop, hall, hsame⟩
        refine ⟨hstop, ⟨⟨v, hread, (hsame i hi).trans (filling.set_self i v)⟩, hall⟩, fun j hij hj => ?_⟩
        exact (hsame j hj).trans (filling.set_of_ne (Ne.symm hij) v)
      · rintro ⟨hstop, ⟨⟨v, hread, hv⟩, hall⟩, hsame⟩
        refine ⟨v, hread, hstop, hall, fun j hj => ?_⟩
        by_cases hij : i = j
        · subst hij
          rw [hv, filling.set_self]
        · rw [hsame j (Ne.symm hij) hj, filling.set_of_ne hij]

/-- **What is read from a list of all fields.** -/
theorem readItems_eq_ok_iff (h : shape.Distinct) (hlack : ∀ i, shape.mayLack i = false) {items : List Node}
    {stop : Option Break} {f : shape.Filling} :
    shape.readItems shape.blank shape.fields items stop = .ok f ↔
      stop = none ∧
        List.Forall₂ (fun i node => ∃ v, shape.read i node = .ok v ∧ f i = some v) shape.fields items := by
  have hall : ∀ i, i ∉ shape.fields → f i = shape.blank i := fun i hi => absurd (h.mem i) hi
  rw [readItems_eq_ok_iff_more hlack h.names.of_map, and_iff_left hall]

end RecordShape

end WordRecords.Json
