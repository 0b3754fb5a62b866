import Mathlib.Data.List.Forall2
import WordRecords.Steps

/-!
# Rows of steps that may fail

A step for every item of a list succeeds exactly when every single one does, with the results in the same order
(`mapM_eq_ok_iff`). Two lists in such a relation have related items at every place.
-/

namespace WordRecords

variable {ε ε' α β γ : Type}

/-- When a step for every item succeeds. -/
theorem mapM_eq_ok_iff {f : α → Except ε β} {xs : List α} {ys : List β} :
    xs.mapM f = .ok ys ↔ List.Forall₂ (fun x y => f x = .ok y) xs ys := by
  induction xs generalizing ys with
  | nil =>
    rw [List.mapM_nil, List.forall₂_nil_left_iff]
    constructor
    · intro h
      cases h
      rfl
    · rintro rfl
      rfl
  | cons x xs ih =>
    rw [List.mapM_cons, bind_eq_ok_iff]
    constructor
    · rintro ⟨y, hy, h⟩
      obtain ⟨ys', hys, h⟩ := bind_eq_ok_iff.1 h
      cases h
      exact .cons hy (ih.1 hys)
    · rintro (_ | ⟨hy, hys⟩)
      exact ⟨_, hy, bind_eq_ok_iff.2 ⟨_, ih.2 hys, rfl⟩⟩

/-- When one of two steps in a row fails. -/
theorem bind_eq_error_iff {x : Except ε α} {f : α → Except ε β} {e : ε} :
    x >>= f = .error e ↔ x = .error e ∨ ∃ a, x = .ok a ∧ f a = .error e := by
  cases x with
  | error e' =>
    constructor
    · intro h
      cases h
      exact .inl rfl
    · rintro (h | ⟨_, h, -⟩)
      · cases h
        rfl
      · cases h
  | ok a =>
    constructor
    · intro h
      exact .inr ⟨a, rfl, h⟩
    · rintro (h | ⟨_, h, hf⟩)
      · cases h
      · cases h
        exact hf

theorem map_eq_ok_iff {x : Except ε α} {f : α → β} {b : β} : x.map f = .ok b ↔ ∃ a, x = .ok a ∧ b = f a := by
  cases x with
  | error e =>
    refine iff_of_false (by rintro ⟨⟩) ?_
    rintro ⟨_, ⟨⟩, -⟩
  | ok a =>
    constructor
    · intro h
      cases h
      exact ⟨a, rfl, rfl⟩
    · rintro ⟨_, ⟨⟩, rfl⟩
      rfl

/-- What is made of a success leaves a failure as it is. -/
theorem map_eq_error_iff {x : Except ε α} {f : α → β} {e : ε} : x.map f = .error e ↔ x = .error e := by
  cases x with
  | error e' => rw [Except.map, Except.error.injEq, Except.error.injEq]
  | ok a => exact iff_of_false (by rintro ⟨⟩) (by rintro ⟨⟩)

/-- A step for every item fails as it does for the first item for which it fails. -/
theorem mapM_eq_error_iff {f : α → Except ε β} {xs : List α} {e : ε} :
    xs.mapM f = .error e ↔
      ∃ before x after, xs = before ++ x :: after ∧ (∀ x' ∈ before, ∃ y, f x' = .ok y) ∧ f x = .error e := by
  induction xs with
  | nil =>
    rw [List.mapM_nil]
    refine iff_of_false (by rintro ⟨⟩) ?_
    rintro ⟨before, x, after, h, -⟩
    simp at h
  | cons x xs ih =>
    simp only [List.mapM_cons, bind_eq_error_iff, ih]
    constructor
    · rintro (h | ⟨y, hy, ⟨before, x', after, rfl, hbefore, h⟩ | ⟨_, _, ⟨⟩⟩⟩)
      · exact ⟨[], x, xs, rfl, by simp, h⟩
      · exact ⟨x :: before, x', after, rfl, List.forall_mem_cons.2 ⟨⟨y, hy⟩, hbefore⟩, h⟩
    · rintro ⟨_ | ⟨x', before⟩, a, after, hxs, hbefore, h⟩
      · obtain ⟨rfl, rfl⟩ := List.cons_eq_cons.1 hxs
        exact .inl h
      · obtain ⟨rfl, rfl⟩ := List.cons_eq_cons.1 hxs
        obtain ⟨⟨y, hy⟩, hbefore⟩ := List.forall_mem_cons.1 hbefore
        exact .inr ⟨y, hy, .inl ⟨before, a, after, rfl, hbefore, h⟩⟩

/-- Steps that agree on related items agree on the lists. -/
theorem mapM_congr_forall₂ {f : α → Except ε γ} {g : β → Except ε γ} {xs : List α} {ys : List β}
    (h : List.Forall₂ (fun x y => f x = g y) xs ys) : xs.mapM f = ys.mapM g := by
  induction h with
  | nil => rfl
  | cons hxy _ ih => rw [List.mapM_cons, List.mapM_cons, hxy, ih]

/-- Steps that commute with what is made of an item, and of what it yields, commute with the same for all items. -/
theorem mapM_map_of_map {α' β' : Type} {f : α → Except ε β} {f' : α' → Except ε β'} {g : α → α'} {h : β → β'}
    (hf : ∀ x, f' (g x) = (f x).map h) (xs : List α) : (xs.map g).mapM f' = (xs.mapM f).map (List.map h) := by
  induction xs with
  | nil => rfl
  | cons x xs ih =>
    rw [List.map_cons, List.mapM_cons, List.mapM_cons, hf, ih]
    cases f x with
    | error _ => rfl
    | ok y =>
      cases xs.mapM f with
      | error _ => rfl
      | ok ys => rfl

/-- Errors told in other words leave a success as it is. -/
theorem mapError_eq_ok_iff {x : Except ε α} {f : ε → ε'} {a : α} : x.mapError f = .ok a ↔ x = .ok a := by
  cases x with
  | error e =>
    constructor <;> intro h <;> cases h
  | ok b =>
    constructor <;> intro h <;> cases h <;> rfl

theorem mapError_eq_error_iff {x : Except ε α} {f : ε → ε'} {e : ε'} :
    x.mapError f = .error e ↔ ∃ e', x = .error e' ∧ e = f e' := by
  cases x with
  | error e' =>
    constructor
    · intro h
      cases h
      exact ⟨e', rfl, rfl⟩
    · rintro ⟨_, h, rfl⟩
      cases h
      rfl
  | ok a =>
    refine iff_of_false (by rintro ⟨⟩) ?_
    rintro ⟨_, h, -⟩
    cases h

/-- Neither do they touch what is made of it. -/
theorem mapError_map {x : Except ε α} {f : ε → ε'} {g : α → β} : (x.map g).mapError f = (x.mapError f).map g := by
  cases x with
  | error e => rfl
  | ok a => rfl

theorem eq_ok_of_toOption {x : Except ε α} {a : α} (h : x.toOption = some a) : x = .ok a := by
  cases x with
  | error e => cases h
  | ok b =>
    cases h
    rfl

/-! ### Lists in a relation -/

section Related

variable {R : α → β → Prop} {xs : List α} {ys : List β}

theorem exists_of_mem_right (h : List.Forall₂ R xs ys) {y : β} (hy : y ∈ ys) : ∃ x ∈ xs, R x y := by
  induction h with
  | nil => cases hy
  | cons hr _ ih =>
    rcases List.mem_cons.1 hy with rfl | hy
    · exact ⟨_, List.mem_cons_self, hr⟩
    · obtain ⟨x, hx, hxy⟩ := ih hy
      exact ⟨x, List.mem_cons_of_mem _ hx, hxy⟩

theorem exists_of_mem_left (h : List.Forall₂ R xs ys) {x : α} (hx : x ∈ xs) : ∃ y ∈ ys, R x y :=
  exists_of_mem_right h.flip hx

theorem forall₂_comp {S : β → γ → Prop} {zs : List γ} (h : List.Forall₂ R xs ys) (h' : List.Forall₂ S ys zs) :
    List.Forall₂ (fun x z => ∃ y, R x y ∧ S y z) xs zs := by
  induction h generalizing zs with
  | nil =>
    cases h'
    exact .nil
  | cons hr _ ih =>
    cases h' with
    | cons hs hs' => exact .cons ⟨_, hr, hs⟩ (ih hs')

theorem exists_append_of_forall₂ {xs' : List α} (h : List.Forall₂ R (xs ++ xs') ys) :
    ∃ front behind, List.Forall₂ R xs front ∧ List.Forall₂ R xs' behind ∧ ys = front ++ behind := by
  induction xs generalizing ys with
  | nil => exact ⟨[], ys, .nil, h, rfl⟩
  | cons x xs ih =>
    cases h with
    | cons hr h =>
      obtain ⟨front, behind, hfront, hbehind, rfl⟩ := ih h
      exact ⟨_ :: front, behind, .cons hr hfront, hbehind, rfl⟩

/-- When a step for every item of two lists in a row succeeds. -/
theorem mapM_append_eq_ok_iff {f : α → Except ε β} {xs xs' : List α} {ys : List β} :
    (xs ++ xs').mapM f = .ok ys ↔
      ∃ front behind, xs.mapM f = .ok front ∧ xs'.mapM f = .ok behind ∧ ys = front ++ behind := by
  simp only [mapM_eq_ok_iff]
  constructor
  · exact exists_append_of_forall₂
  · rintro ⟨front, behind, hfront, hbehind, rfl⟩
    exact List.rel_append hfront hbehind

theorem forall₂_mapIdx {f : Nat → γ → α} {g : Nat → γ → β} {zs : List γ}
    (h : ∀ i z, zs[i]? = some z → R (f i z) (g i z)) : List.Forall₂ R (zs.mapIdx f) (zs.mapIdx g) := by
  induction zs generalizing f g with
  | nil => exact .nil
  | cons z zs ih =>
    rw [List.mapIdx_cons, List.mapIdx_cons]
    exact .cons (h 0 z rfl) (ih fun i z' hz => h (i + 1) z' hz)

theorem exists_forall₂_iff : (∃ ys, List.Forall₂ R xs ys) ↔ ∀ x ∈ xs, ∃ y, R x y := by
  constructor
  · rintro ⟨ys, h⟩ x hx
    obtain ⟨y, -, hy⟩ := exists_of_mem_left h hx
    exact ⟨y, hy⟩
  · intro h
    induction xs with
    | nil => exact ⟨[], .nil⟩
    | cons x xs ih =>
      rw [List.forall_mem_cons] at h
      obtain ⟨y, hy⟩ := h.1
      obtain ⟨ys, hys⟩ := ih h.2
      exact ⟨y :: ys, .cons hy hys⟩

theorem forall₂_getElem? (h : List.Forall₂ R xs ys) {i : Nat} {x : α} {y : β} (hx : xs[i]? = some x)
    (hy : ys[i]? = some y) : R x y := by
  obtain ⟨hi, rfl⟩ := List.getElem?_eq_some_iff.1 hx
  obtain ⟨hi', rfl⟩ := List.getElem?_eq_some_iff.1 hy
  exact List.Forall₂.get h hi hi'

theorem forall₂_eq_iff {f : α → γ} {g : β → γ} :
    List.Forall₂ (fun x y => f x = g y) xs ys ↔ xs.map f = ys.map g := by
  rw [← List.forall₂_eq_eq_eq, List.forall₂_map_left_iff, List.forall₂_map_right_iff]

/-- What related items have in common, all items have in common. -/
theorem forall_mem_congr {p : α → Prop} {q : β → Prop} (h : List.Forall₂ (fun x y => p x ↔ q y) xs ys) :
    (∀ x ∈ xs, p x) ↔ ∀ y ∈ ys, q y := by
  induction h with
  | nil => exact iff_of_true (by simp) (by simp)
  | cons hr _ ih => rw [List.forall_mem_cons, List.forall_mem_cons, hr, ih]

end Related

/-! ### Items at their places -/

/-- An item with those before and those after it. -/
theorem eq_take_append_cons_drop (xs : List α) {i : Nat} (hi : i < xs.length) :
    xs = xs.take i ++ xs[i] :: xs.drop (i + 1) := by
  rw [← List.drop_eq_getElem_cons hi, List.take_append_drop]

/-- When items are numbered by their places. -/
theorem map_eq_range_iff {f : α → Nat} {xs : List α} :
    xs.map f = List.range xs.length ↔ ∀ i (hi : i < xs.length), f xs[i] = i := by
  rw [List.ext_getElem_iff]
  simp

/-- What numbers its items by their positions numbers them in a row. -/
theorem map_mapIdx_eq_range' {f : Nat → α → β} {g : β → Nat} {a : Nat} {xs : List α}
    (h : ∀ i x, g (f i x) = a + i) : (xs.mapIdx f).map g = List.range' a xs.length := by
  refine List.ext_getElem? fun i => ?_
  rw [List.getElem?_map, List.getElem?_mapIdx]
  by_cases hi : i < xs.length
  · rw [List.getElem?_eq_getElem hi, List.getElem?_range' hi, Nat.one_mul]
    exact congrArg some (h i _)
  · rw [List.getElem?_eq_none (Nat.le_of_not_lt hi), List.getElem?_eq_none (by simpa using hi)]
    rfl

section Split

variable {P : List α → α → List α → Prop} {x : α} {xs ys : List α}

theorem forall_split_cons :
    (∀ before a after, x :: xs = before ++ a :: after → P before a after) ↔
      P [] x xs ∧ ∀ before a after, xs = before ++ a :: after → P (x :: before) a after := by
  constructor
  · intro h
    exact ⟨h [] x xs rfl, fun before a after hs => h (x :: before) a after (by rw [hs]; rfl)⟩
  · rintro ⟨h0, h⟩ before a after hs
    cases before with
    | nil =>
      cases hs
      exact h0
    | cons b before =>
      cases hs
      exact h before a after rfl

theorem forall_split_append :
    (∀ before a after, xs ++ ys = before ++ a :: after → P before a after) ↔
      (∀ before a after, xs = before ++ a :: after → P before a (after ++ ys)) ∧
        ∀ before a after, ys = before ++ a :: after → P (xs ++ before) a after := by
  induction xs generalizing P with
  | nil => simp
  | cons x xs ih => rw [List.cons_append, forall_split_cons, ih, forall_split_cons, and_assoc]; rfl

end Split

end WordRecords
