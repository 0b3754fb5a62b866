import Mathlib.Data.List.TakeWhile
import WordRecords.Json.Number
import WordRecords.Json.Render
import WordRecords.Proofs.Steps
import WordRecords.Proofs.Text.Digits

/-!
# Numbers as they are written

A number has digits, of which only a single zero may start with a zero, then possibly a point with more digits, and
possibly a power of ten. `Numeral.Written` is the grammar. What is scanned in front of a text that does not go on with a
number (`EndsNumber`) is the numeral written there (`Numeral.Written.scan`), and nothing else is ever scanned
(`written_of_scanNumeral`).

An integer is written with its digits alone, and the contents of that numeral are the integer again, as long as it has
64 bits (`Exact`).
-/

namespace WordRecords.Json

/-! ### Digits -/

/-- A text that does not start with a digit. -/
def NoDigit (rest : List Char) : Prop := ∀ c ∈ rest.head?, c.isDigit = false

/-- A text in front of which a number ends. -/
def EndsNumber (rest : List Char) : Prop :=
  ∀ c ∈ rest.head?, c.isDigit = false ∧ c ≠ '.' ∧ c ≠ 'e' ∧ c ≠ 'E'

theorem EndsNumber.noDigit {rest : List Char} (h : EndsNumber rest) : NoDigit rest := fun c hc => (h c hc).1

theorem noDigit_cons {c : Char} (h : c.isDigit = false) (rest : List Char) : NoDigit (c :: rest) := by
  intro d hd
  cases hd
  exact h

theorem endsNumber_cons {c : Char} (h : c.isDigit = false ∧ c ≠ '.' ∧ c ≠ 'e' ∧ c ≠ 'E') (rest : List Char) :
    EndsNumber (c :: rest) := by
  intro d hd
  cases hd
  exact h

theorem endsNumber_nil : EndsNumber [] := by
  rintro c ⟨⟩

theorem digitsOf_append {digits rest : List Char} (hd : ∀ c ∈ digits, c.isDigit) (hr : NoDigit rest) :
    digitsOf (digits ++ rest) = digits :=
  Text.takeWhile_front hd hr

theorem digitsOf_of_noDigit {rest : List Char} (hr : NoDigit rest) : digitsOf rest = [] :=
  digitsOf_append (show ∀ c ∈ ([] : List Char), c.isDigit by simp) hr

theorem afterDigits_append {digits rest : List Char} (hd : ∀ c ∈ digits, c.isDigit) (hr : NoDigit rest) :
    afterDigits (digits ++ rest) = rest :=
  Text.dropWhile_front hd hr

theorem digitsOf_append_afterDigits (cs : List Char) : digitsOf cs ++ afterDigits cs = cs :=
  List.takeWhile_append_dropWhile

theorem isDigit_of_mem_digitsOf {cs : List Char} {c : Char} (h : c ∈ digitsOf cs) : c.isDigit :=
  List.mem_takeWhile_imp h

/-! ### The grammar of numbers -/

/-- The digits before the point: a zero alone, or digits that do not start with one. -/
structure WholeDigits (cs : List Char) : Prop where
  isDigit : ∀ c ∈ cs, c.isDigit
  ne_nil : cs ≠ []
  zero : cs.head? = some '0' → cs = ['0']

/-- A point with digits behind it, or nothing. -/
inductive FractionText : List Char → List Char → Prop
  | absent : FractionText [] []
  | digits {ds : List Char} (hne : ds ≠ []) (hd : ∀ c ∈ ds, c.isDigit) : FractionText ('.' :: ds) ds

/-- The sign of a power of ten, and whether it is a minus. -/
inductive SignText : List Char → Bool → Prop
  | absent : SignText [] false
  | plus : SignText ['+'] false
  | minus : SignText ['-'] true

/-- A power of ten, or nothing. -/
inductive ExponentText : List Char → Option Int → Prop
  | absent : ExponentText [] none
  | power {e : Char} {sign ds : List Char} {negative : Bool} (he : e = 'e' ∨ e = 'E') (hs : SignText sign negative)
      (hne : ds ≠ []) (hd : ∀ c ∈ ds, c.isDigit) :
      ExponentText (e :: (sign ++ ds))
        (some (if negative then -(Nat.ofDigitChars 10 ds 0 : Int) else (Nat.ofDigitChars 10 ds 0 : Int)))

/-- A number as it is written. -/
inductive Numeral.Written : Numeral → List Char → Prop
  | mk {negative : Bool} {whole fraction ft et : List Char} {exponent : Option Int} (hw : WholeDigits whole)
      (hf : FractionText ft fraction) (he : ExponentText et exponent) :
      Written ⟨negative, whole, fraction, exponent⟩ ((if negative then ['-'] else []) ++ (whole ++ (ft ++ et)))

/-! ### Written numbers are scanned -/

theorem WholeDigits.exists_cons {cs : List Char} (h : WholeDigits cs) : ∃ c ds, cs = c :: ds ∧ c.isDigit := by
  obtain ⟨c, ds, rfl⟩ := List.exists_cons_of_ne_nil h.ne_nil
  exact ⟨c, ds, rfl, h.isDigit c List.mem_cons_self⟩

theorem WholeDigits.scan {cs rest : List Char} (h : WholeDigits cs) (hr : NoDigit rest) :
    scanWhole (cs ++ rest) = .ok (cs, rest) := by
  obtain ⟨c, ds, rfl, hc⟩ := h.exists_cons
  have hds : ∀ d ∈ ds, d.isDigit := fun d hd => h.isDigit d (List.mem_cons_of_mem c hd)
  rw [List.cons_append, scanWhole]
  split
  · rename_i hzero
    obtain rfl : ds = [] := (List.cons_eq_cons.1 (h.zero (congrArg some hzero))).2
    rw [List.nil_append, if_pos (digitsOf_of_noDigit hr), hzero]
  · rw [digitsOf_append hds hr, afterDigits_append hds hr]

theorem FractionText.scan {ft fraction rest : List Char} (h : FractionText ft fraction) (hr : NoDigit rest)
    (hdot : ∀ c ∈ rest.head?, c ≠ '.') : scanFraction (ft ++ rest) = .ok (fraction, rest) := by
  cases h with
  | absent =>
    cases rest with
    | nil => rfl
    | cons c rest => exact if_neg (hdot c rfl)
  | digits hne hd =>
    rw [List.cons_append, scanFraction, if_pos rfl, digitsOf_append hd hr, afterDigits_append hd hr, if_neg hne]

theorem SignText.scan {sign ds : List Char} {negative : Bool} (h : SignText sign negative) {c : Char}
    (hc : c.isDigit) : scanSign (sign ++ c :: ds) = (negative, c :: ds) := by
  cases h with
  | absent =>
    have hne : c ≠ '-' ∧ c ≠ '+' := by
      constructor <;> rintro rfl <;> revert hc <;> decide
    rw [List.nil_append, scanSign, if_neg hne.1, if_neg hne.2]
  | plus => rfl
  | minus => rfl

theorem ExponentText.scan {et rest : List Char} {exponent : Option Int} (h : ExponentText et exponent)
    (hr : EndsNumber rest) : scanExponent (et ++ rest) = .ok (exponent, rest) := by
  cases h with
  | absent =>
    cases rest with
    | nil => rfl
    | cons c rest => exact if_neg (not_or.2 (hr c rfl).2.2)
  | @power e sign ds negative he hs hne hd =>
    have hsign : scanSign (sign ++ (ds ++ rest)) = (negative, ds ++ rest) := by
      obtain ⟨c, cs, rfl⟩ := List.exists_cons_of_ne_nil hne
      exact hs.scan (hd c List.mem_cons_self)
    rw [List.cons_append, scanExponent, if_pos he, List.append_assoc, hsign]
    simp only [digitsOf_append hd hr.noDigit, afterDigits_append hd hr.noDigit, if_neg hne]

/-- What may follow the digits before the point does not go on with a digit. -/
theorem FractionText.noDigit {ft fraction rest : List Char} (h : FractionText ft fraction) (hr : NoDigit rest) :
    NoDigit (ft ++ rest) := by
  cases h with
  | absent => exact hr
  | digits _ _ => exact noDigit_cons (by decide) _

theorem ExponentText.noDigit {et rest : List Char} {exponent : Option Int} (h : ExponentText et exponent)
    (hr : EndsNumber rest) : NoDigit (et ++ rest) ∧ ∀ c ∈ (et ++ rest).head?, c ≠ '.' := by
  cases h with
  | absent => exact ⟨hr.noDigit, fun c hc => (hr c hc).2.1⟩
  | power he _ _ _ =>
    rcases he with rfl | rfl
    · exact ⟨noDigit_cons (by decide) _, by rintro _ ⟨⟩; decide⟩
    · exact ⟨noDigit_cons (by decide) _, by rintro _ ⟨⟩; decide⟩

/-- **A written number is scanned whole**, where the text does not go on with a number. -/
theorem Numeral.Written.scan {n : Numeral} {cs rest : List Char} (h : n.Written cs) (hr : EndsNumber rest) :
    scanNumeral (cs ++ rest) = .ok (n, rest) := by
  obtain @⟨negative, whole, fraction, ft, et, exponent, hw, hf, he⟩ := h
  obtain ⟨hdigit, hdot⟩ := he.noDigit hr
  have hwhole := hw.scan (hf.noDigit hdigit)
  have hfraction := hf.scan hdigit hdot
  have hexponent := he.scan hr
  have hminus : (whole ++ (ft ++ (et ++ rest))).head? ≠ some '-' := by
    obtain ⟨c, ds, rfl, hc⟩ := hw.exists_cons
    rintro ⟨⟩
    revert hc
    decide
  cases negative with
  | true =>
    simp only [scanNumeral, List.append_assoc, if_true, List.cons_append, List.nil_append, List.head?_cons,
      List.tail_cons, decide_true, hwhole, hfraction, hexponent, bind, Except.bind, pure, Except.pure]
  | false =>
    simp only [scanNumeral, List.append_assoc, Bool.false_eq_true, List.nil_append, hminus, if_false, decide_false,
      hwhole, hfraction, hexponent, bind, Except.bind, pure, Except.pure]

/-- A number starts with a sign or a digit. -/
theorem Numeral.Written.exists_cons {n : Numeral} {cs : List Char} (h : n.Written cs) :
    ∃ c more, cs = c :: more ∧ (c = '-' ∨ c.isDigit) := by
  obtain @⟨negative, whole, fraction, ft, et, exponent, hw, hf, he⟩ := h
  cases negative with
  | true => exact ⟨'-', _, rfl, .inl rfl⟩
  | false =>
    obtain ⟨c, ds, rfl, hc⟩ := hw.exists_cons
    exact ⟨c, _, rfl, .inr hc⟩

/-! ### What is scanned was written -/

theorem wholeDigits_of_scan {cs whole rest : List Char} (h : scanWhole cs = .ok (whole, rest)) :
    cs = whole ++ rest ∧ WholeDigits whole := by
  cases cs with
  | nil => cases h
  | cons c cs =>
    rw [scanWhole] at h
    split at h
    · rename_i hc
      split at h
      · cases h
        exact ⟨by rw [hc]; rfl, by simp, by simp, fun _ => rfl⟩
      · cases h
    · rename_i hzero
      split at h
      · rename_i hc
        cases h
        refine ⟨by rw [List.cons_append, digitsOf_append_afterDigits], ?_, List.cons_ne_nil _ _, ?_⟩
        · exact List.forall_mem_cons.2 ⟨hc, fun d hd => isDigit_of_mem_digitsOf hd⟩
        · intro hhead
          exact absurd (Option.some.inj hhead) hzero
      · cases h

theorem fractionText_of_scan {cs fraction rest : List Char} (h : scanFraction cs = .ok (fraction, rest)) :
    ∃ ft, cs = ft ++ rest ∧ FractionText ft fraction := by
  cases cs with
  | nil =>
    cases h
    exact ⟨[], rfl, .absent⟩
  | cons c cs =>
    rw [scanFraction] at h
    split at h
    · rename_i hc
      split at h
      · cases h
      · rename_i hne
        cases h
        refine ⟨'.' :: digitsOf cs, ?_, .digits hne fun d hd => isDigit_of_mem_digitsOf hd⟩
        rw [List.cons_append, digitsOf_append_afterDigits, hc]
    · cases h
      exact ⟨[], rfl, .absent⟩

theorem signText_of_scan (cs : List Char) : ∃ sign, cs = sign ++ (scanSign cs).2 ∧ SignText sign (scanSign cs).1 := by
  cases cs with
  | nil => exact ⟨[], rfl, .absent⟩
  | cons c cs =>
    rw [scanSign]
    split
    · rename_i hc
      exact ⟨['-'], by rw [hc]; rfl, .minus⟩
    · split
      · rename_i hc
        exact ⟨['+'], by rw [hc]; rfl, .plus⟩
      · exact ⟨[], rfl, .absent⟩

theorem exponentText_of_scan {cs rest : List Char} {exponent : Option Int}
    (h : scanExponent cs = .ok (exponent, rest)) : ∃ et, cs = et ++ rest ∧ ExponentText et exponent := by
  cases cs with
  | nil =>
    cases h
    exact ⟨[], rfl, .absent⟩
  | cons c cs =>
    rw [scanExponent] at h
    split at h
    · rename_i hc
      obtain ⟨sign, hcs, hsign⟩ := signText_of_scan cs
      simp only at h
      split at h
      · cases h
      · rename_i hne
        cases h
        refine ⟨_, ?_, .power hc hsign hne fun d hd => isDigit_of_mem_digitsOf hd⟩
        rw [List.cons_append, List.append_assoc, digitsOf_append_afterDigits, ← hcs]
    · cases h
      exact ⟨[], rfl, .absent⟩

/-- **Only written numbers are scanned.** -/
theorem written_of_scanNumeral {cs rest : List Char} {n : Numeral} (h : scanNumeral cs = .ok (n, rest)) :
    ∃ text, cs = text ++ rest ∧ n.Written text := by
  obtain ⟨⟨whole, cs₁⟩, hwhole, h⟩ := bind_eq_ok_iff.1 h
  obtain ⟨⟨fraction, cs₂⟩, hfraction, h⟩ := bind_eq_ok_iff.1 h
  obtain ⟨⟨exponent, cs₃⟩, hexponent, h⟩ := bind_eq_ok_iff.1 h
  cases h
  obtain ⟨hcs, hw⟩ := wholeDigits_of_scan hwhole
  obtain ⟨ft, rfl, hf⟩ := fractionText_of_scan hfraction
  obtain ⟨et, rfl, he⟩ := exponentText_of_scan hexponent
  have hsign : cs = (if decide (cs.head? = some '-') = true then ['-'] else []) ++
      if cs.head? = some '-' then cs.tail else cs := by
    by_cases hminus : cs.head? = some '-'
    · obtain ⟨cs, rfl⟩ := List.head?_eq_some_iff.1 hminus
      rfl
    · simp [hminus]
  refine ⟨_, ?_, .mk hw hf he⟩
  conv_lhs => rw [hsign, hcs]
  simp only [List.append_assoc]

/-! ### Integers -/

/-- Only zero is written with a leading zero. -/
theorem head?_toDigits_eq_zero {n : Nat} (h : (Nat.toDigits 10 n).head? = some '0') : n = 0 := by
  induction n using Nat.strongRecOn with
  | ind n ih =>
    by_cases hn : n < 10
    · rw [Nat.toDigits_of_lt_base hn, List.head?_cons, Option.some_inj] at h
      exact Nat.digitChar_eq_zero.1 h
    · rw [Nat.toDigits_of_base_le (by decide) (by omega),
        List.head?_append_of_ne_nil _ Nat.toDigits_ne_nil] at h
      have hhead := ih (n / 10) (by omega) h
      omega

theorem wholeDigits_toDigits (n : Nat) : WholeDigits (Nat.toDigits 10 n) where
  isDigit _ hc := Text.isDigit_of_mem_writeCount hc
  ne_nil := Nat.toDigits_ne_nil
  zero h := by rw [head?_toDigits_eq_zero h, Nat.toDigits_zero]

/-- An integer as a numeral. -/
def numeralOf (n : Int) : Numeral := ⟨decide (n < 0), Nat.toDigits 10 n.natAbs, [], none⟩

theorem numeralOf_written (n : Int) : (numeralOf n).Written (Scalar.render (.integer n)) := by
  have h : Scalar.render (.integer n) =
      (if decide (n < 0) = true then ['-'] else []) ++ (Nat.toDigits 10 n.natAbs ++ ([] ++ [])) := by
    by_cases hn : n < 0 <;> simp [Scalar.render, hn]
  rw [h]
  exact .mk (wholeDigits_toDigits n.natAbs) .absent .absent

/-- The integers that are read without loss. -/
def Exact (n : Int) : Prop := -signedLimit ≤ n ∧ n < countLimit

theorem exact_of_lt {n : Nat} (h : n < countLimit) : Exact n := by
  constructor <;> omega

theorem contents_numeralOf {n : Int} (h : Exact n) : (numeralOf n).contents = some (.integer n) := by
  obtain ⟨hlow, hhigh⟩ := h
  have hfits : if n < 0 then 0 < n.natAbs ∧ n.natAbs ≤ signedLimit else n.natAbs < countLimit := by
    split <;> omega
  have hvalue : (if n < 0 then -(n.natAbs : Int) else n.natAbs) = n := by
    split <;> omega
  simp only [Numeral.contents, numeralOf, Nat.ofDigitChars_ten_toDigits, decide_eq_true_eq, true_and, if_pos hfits,
    hvalue]

theorem contents_of_digits {cs : List Char} (h : Nat.ofDigitChars 10 cs 0 < countLimit) :
    (⟨false, cs, [], none⟩ : Numeral).contents = some (.integer (Nat.ofDigitChars 10 cs 0)) := by
  simp only [Numeral.contents, Bool.false_eq_true, if_false, true_and, if_pos h]

/-- A number whose contents are a count has digits only. -/
theorem eq_digits_of_contents {m : Numeral} {n : Nat} (h : m.contents = some (.integer n)) :
    m = ⟨false, m.whole, [], none⟩ ∧ Nat.ofDigitChars 10 m.whole 0 = n ∧ n < countLimit := by
  obtain ⟨negative, whole, fraction, exponent⟩ := m
  rw [Numeral.contents] at h
  simp only at h
  by_cases hint : fraction = [] ∧ exponent = none ∧
      if negative = true then 0 < Nat.ofDigitChars 10 whole 0 ∧ Nat.ofDigitChars 10 whole 0 ≤ signedLimit
      else Nat.ofDigitChars 10 whole 0 < countLimit
  · rw [if_pos hint, Option.some.injEq, Scalar.integer.injEq] at h
    obtain ⟨rfl, rfl, hfits⟩ := hint
    cases negative with
    | true =>
      simp only [if_true] at hfits h
      omega
    | false =>
      simp only [Bool.false_eq_true, if_false] at hfits h
      have hvalue : Nat.ofDigitChars 10 whole 0 = n := by omega
      exact ⟨rfl, hvalue, hvalue ▸ hfits⟩
  · rw [if_neg hint, ite_eq_iff] at h
    rcases h with ⟨-, ⟨⟩⟩ | ⟨-, h⟩
    cases Option.some.inj h

theorem Numeral.Written.digits {whole cs : List Char} (h : (⟨false, whole, [], none⟩ : Numeral).Written cs) :
    WholeDigits cs ∧ cs = whole := by
  obtain @⟨_, _, _, ft, et, _, hw, hf, he⟩ := h
  cases hf with
  | absent =>
    cases he with
    | absent => simpa using hw
  | digits hne _ => exact absurd rfl hne

theorem WholeDigits.written {cs : List Char} (h : WholeDigits cs) :
    (⟨false, cs, [], none⟩ : Numeral).Written cs := by
  have hw : (⟨false, cs, [], none⟩ : Numeral).Written ((if false then ['-'] else []) ++ (cs ++ ([] ++ []))) :=
    .mk h .absent .absent
  simpa using hw

end WordRecords.Json
