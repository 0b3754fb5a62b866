import WordRecords.Json.Escape
import WordRecords.Proofs.Steps

/-!
# Strings as they are written

Between its quotes a string has plain characters and escapes. `SaysChars` is the grammar, with what is denoted:
nothing, if the escape of a surrogate has no partner. Reading finds what is denoted (`SaysChars.readString`), skipping
ends behind the closing quote whatever is denoted (`SaysChars.skipString`), and nothing outside the grammar is ever
skipped (`saysChars_of_skipString`). What is written by `writeString` denotes what it was written for
(`saysChars_flatMap`).

Either way one step takes one character or escape; only the halves of a surrogate pair are read in one step and skipped
in two.
-/

namespace WordRecords.Json

/-! ### Four hexadecimal digits -/

/-- Four hexadecimal digits, and the number that they denote. -/
def HexQuad (quad : List Char) (n : Nat) : Prop := quad.length = 4 ∧ hexQuad quad = .ok n

theorem HexQuad.append {quad : List Char} {n : Nat} (h : HexQuad quad n) (rest : List Char) :
    hexQuad (quad ++ rest) = .ok n := by
  obtain ⟨hlen, hn⟩ := h
  match quad, hlen with
  | [a, b, c, d], _ => exact hn

/-- The digits in front of a text. -/
theorem exists_hexQuad {cs : List Char} {n : Nat} (h : hexQuad cs = .ok n) :
    ∃ quad rest, cs = quad ++ rest ∧ HexQuad quad n := by
  match cs, h with
  | a :: b :: c :: d :: rest, h => exact ⟨[a, b, c, d], rest, rfl, rfl, h⟩

theorem HexQuad.quote_not_mem {quad : List Char} {n : Nat} (h : HexQuad quad n) : '"' ∉ quad := by
  obtain ⟨hlen, hn⟩ := h
  have hquote : Text.hexValue? '"' = none := by decide
  match quad, hlen with
  | [a, b, c, d], _ =>
    simp only [hexQuad] at hn
    split at hn
    · rename_i ha hb hc hd
      rintro hmem
      simp only [List.mem_cons, List.not_mem_nil, or_false] at hmem
      rcases hmem with rfl | rfl | rfl | rfl <;> simp_all
    · cases hn

/-! ### The grammar of strings -/

/-- The number of the first half of a surrogate pair. -/
def IsHigh (n : Nat) : Prop := 0xd800 ≤ n ∧ n ≤ 0xdbff

/-- The number of the second half of a surrogate pair. -/
def IsLow (n : Nat) : Prop := 0xdc00 ≤ n ∧ n ≤ 0xdfff

/-- An escape for the second half of a surrogate pair stands in front. -/
def StartsLow (cs : List Char) : Prop :=
  ∃ quad rest n, cs = '\\' :: 'u' :: (quad ++ rest) ∧ HexQuad quad n ∧ IsLow n

/-- The characters of a string as they are written, and those that they denote. -/
inductive SaysChars : List Char → Option (List Char) → Prop
  | nil : SaysChars [] (some [])
  | plain {c : Char} {cs : List Char} {s : Option (List Char)} (hq : c ≠ '"') (hs : c ≠ '\\') (hc : ¬c.toNat < 0x20)
      (h : SaysChars cs s) : SaysChars (c :: cs) (s.map (c :: ·))
  | letter {e c : Char} {cs : List Char} {s : Option (List Char)} (he : unescapeLetter? e = some c)
      (h : SaysChars cs s) : SaysChars ('\\' :: e :: cs) (s.map (c :: ·))
  | number {quad cs : List Char} {n : Nat} {s : Option (List Char)} (hn : HexQuad quad n) (hh : ¬IsHigh n)
      (hl : ¬IsLow n) (h : SaysChars cs s) : SaysChars ('\\' :: 'u' :: (quad ++ cs)) (s.map (Char.ofNat n :: ·))
  | pair {quad quad' cs : List Char} {n m : Nat} {s : Option (List Char)} (hn : HexQuad quad n) (hh : IsHigh n)
      (hm : HexQuad quad' m) (hl : IsLow m) (h : SaysChars cs s) :
      SaysChars ('\\' :: 'u' :: (quad ++ '\\' :: 'u' :: (quad' ++ cs)))
        (s.map (Char.ofNat (0x10000 + (n - 0xd800) * 0x400 + (m - 0xdc00)) :: ·))
  /-- A first half without a second one. -/
  | high {quad cs : List Char} {n : Nat} {s : Option (List Char)} (hn : HexQuad quad n) (hh : IsHigh n)
      (hlone : ¬StartsLow cs) (h : SaysChars cs s) : SaysChars ('\\' :: 'u' :: (quad ++ cs)) none
  /-- A second half without a first one. -/
  | low {quad cs : List Char} {n : Nat} {s : Option (List Char)} (hn : HexQuad quad n) (hl : IsLow n)
      (h : SaysChars cs s) : SaysChars ('\\' :: 'u' :: (quad ++ cs)) none

/-! ### Steps -/

theorem readString_append (taken rest : List Char) : readString taken.length (taken ++ rest) = readString 0 rest := by
  induction taken with
  | nil => rfl
  | cons c taken ih =>
    rw [List.cons_append, List.length_cons, readString]
    exact ih

theorem skipString_append (taken rest : List Char) : skipString taken.length (taken ++ rest) = skipString 0 rest := by
  induction taken with
  | nil => rfl
  | cons c taken ih =>
    rw [List.cons_append, List.length_cons, skipString]
    exact ih

/-- One character is read, with what it takes of the text behind it. -/
theorem readString_cons {c ch : Char} {taken rest : List Char} (hq : c ≠ '"')
    (h : readChar c (taken ++ rest) = .ok (ch, taken.length)) :
    readString 0 (c :: (taken ++ rest)) = (readString 0 rest).map (ch :: ·) := by
  rw [readString]
  simp only [if_neg hq, h]
  change (readString taken.length (taken ++ rest) >>= _) = _
  rw [readString_append]
  rfl

theorem readString_cons_error {c : Char} {rest : List Char} {f : Fault} (hq : c ≠ '"')
    (h : readChar c rest = .error f) : readString 0 (c :: rest) = .error f := by
  rw [readString]
  simp only [if_neg hq, h]
  rfl

/-- One character is skipped, with what it takes of the text behind it. -/
theorem skipString_cons {c : Char} {taken rest : List Char} (hq : c ≠ '"')
    (h : skipChar c (taken ++ rest) = .ok taken.length) :
    skipString 0 (c :: (taken ++ rest)) = skipString 0 rest := by
  rw [skipString]
  simp only [if_neg hq, h]
  exact skipString_append taken rest

theorem readChar_backslash (e : Char) (digits : List Char) :
    readChar '\\' (e :: digits) =
      if e = 'u' then (numberedEscape digits).map fun (ch, used) => (ch, used + 1)
      else match unescapeLetter? e with
        | some ch => .ok (ch, 1)
        | none => .error .malformed := rfl

theorem skipChar_backslash (e : Char) (digits : List Char) :
    skipChar '\\' (e :: digits) =
      if e = 'u' then (hexQuad digits).map fun _ => 5
      else if (unescapeLetter? e).isSome then .ok 1
      else .error .malformed := rfl

theorem ne_u_of_unescapeLetter? {e c : Char} (h : unescapeLetter? e = some c) : e ≠ 'u' := by
  rintro rfl
  have hu : unescapeLetter? 'u' = none := by decide
  rw [hu] at h
  cases h

/-- An escape of four digits is skipped. -/
theorem HexQuad.skipString {quad : List Char} {n : Nat} (h : HexQuad quad n) (rest : List Char) :
    skipString 0 ('\\' :: 'u' :: (quad ++ rest)) = Json.skipString 0 rest := by
  have hlen : ('u' :: quad).length = 5 := by rw [List.length_cons, h.1]
  rw [← List.cons_append]
  refine skipString_cons (by decide) ?_
  rw [List.cons_append, skipChar_backslash, if_pos rfl, h.append, hlen]
  rfl

theorem lowSurrogate_eq_ok_iff {cs : List Char} {n : Nat} :
    lowSurrogate cs = .ok n ↔ ∃ quad rest, cs = '\\' :: 'u' :: (quad ++ rest) ∧ HexQuad quad n ∧ IsLow n := by
  constructor
  · intro h
    match cs, h with
    | c :: cs, h =>
      rw [lowSurrogate.eq_def] at h
      simp only at h
      split at h
      · cases h
      · rename_i hc
        split at h
        · cases h
        · split at h
          · cases h
          · rename_i hu
            obtain ⟨m, hm, h⟩ := bind_eq_ok_iff.1 h
            split at h
            · rename_i hlow
              cases h
              obtain ⟨quad, rest, rfl, hquad⟩ := exists_hexQuad hm
              rw [not_not.1 hc, not_not.1 hu]
              exact ⟨quad, rest, rfl, hquad, hlow⟩
            · cases h
  · rintro ⟨quad, rest, rfl, hquad, hlow⟩
    refine bind_eq_ok_iff.2 ⟨n, hquad.append rest, ?_⟩
    exact if_pos hlow

section Numbered

variable {quad : List Char} {n : Nat} (h : HexQuad quad n) (rest : List Char)
include h

theorem HexQuad.numberedEscape_high (hh : IsHigh n) :
    numberedEscape (quad ++ rest) =
      (lowSurrogate rest).map fun m => (Char.ofNat (0x10000 + (n - 0xd800) * 0x400 + (m - 0xdc00)), 10) := by
  rw [numberedEscape, h.append, List.drop_left' h.1]
  change (if 0xd800 ≤ n ∧ n ≤ 0xdbff then _ else _) = _
  rw [if_pos (show 0xd800 ≤ n ∧ n ≤ 0xdbff from hh)]
  cases lowSurrogate rest with
  | error _ => rfl
  | ok _ => rfl

theorem HexQuad.numberedEscape_low (hl : IsLow n) : numberedEscape (quad ++ rest) = .error .malformed := by
  have hh : ¬(0xd800 ≤ n ∧ n ≤ 0xdbff) := fun hh => absurd (Nat.le_trans hl.1 hh.2) (by decide)
  rw [numberedEscape, h.append]
  change (if 0xd800 ≤ n ∧ n ≤ 0xdbff then _ else if 0xdc00 ≤ n ∧ n ≤ 0xdfff then _ else _) = _
  rw [if_neg hh, if_pos (show 0xdc00 ≤ n ∧ n ≤ 0xdfff from hl)]
  rfl

theorem HexQuad.numberedEscape_other (hh : ¬IsHigh n) (hl : ¬IsLow n) :
    numberedEscape (quad ++ rest) = .ok (Char.ofNat n, 4) := by
  rw [numberedEscape, h.append]
  change (if 0xd800 ≤ n ∧ n ≤ 0xdbff then _ else if 0xdc00 ≤ n ∧ n ≤ 0xdfff then _ else _) = _
  rw [if_neg (show ¬(0xd800 ≤ n ∧ n ≤ 0xdbff) from hh), if_neg (show ¬(0xdc00 ≤ n ∧ n ≤ 0xdfff) from hl)]
  rfl

end Numbered

/-! ### Strings of the grammar are read and skipped -/

variable {cs : List Char} {s : Option (List Char)}

theorem SaysChars.skipString (h : SaysChars cs s) (rest : List Char) :
    skipString 0 (cs ++ '"' :: rest) = .ok rest := by
  induction h with
  | nil => rfl
  | @plain c cs s hq hs hc _ ih =>
    have hskip : skipChar c ([] ++ (cs ++ '"' :: rest)) = .ok 0 := by
      unfold skipChar
      rw [if_neg hc, if_pos hs]
    exact (skipString_cons hq hskip).trans ih
  | @letter e c cs s he _ ih =>
    have hskip : skipChar '\\' ([e] ++ (cs ++ '"' :: rest)) = .ok 1 := by
      rw [List.singleton_append, skipChar_backslash, if_neg (ne_u_of_unescapeLetter? he), he]
      rfl
    exact (skipString_cons (by decide) hskip).trans ih
  | number hn _ _ _ ih | high hn _ _ _ ih | low hn _ _ ih =>
    rw [List.cons_append, List.cons_append, List.append_assoc, hn.skipString, ih]
  | pair hn _ hm _ _ ih =>
    simp only [List.cons_append, List.append_assoc]
    rw [hn.skipString, hm.skipString, ih]

/-- What stands in front of a quote without having one stands in front of the quote alone. -/
theorem exists_append_of_quote {front rest cs rest' : List Char} (h : cs ++ '"' :: rest = front ++ rest')
    (hq : '"' ∉ front) : ∃ more, cs = front ++ more := by
  rcases List.append_eq_append_iff.1 h with ⟨more, rfl, hmore⟩ | ⟨more, hcs, -⟩
  · cases more with
    | nil => exact ⟨[], by simp⟩
    | cons c more =>
      obtain ⟨rfl, -⟩ := List.cons_eq_cons.1 hmore
      exact absurd (List.mem_append_right _ List.mem_cons_self) hq
  · exact ⟨more, hcs⟩

theorem startsLow_of_lowSurrogate {rest : List Char} {n : Nat} (h : lowSurrogate (cs ++ '"' :: rest) = .ok n) :
    StartsLow cs := by
  obtain ⟨quad, rest', hcs, hquad, hlow⟩ := lowSurrogate_eq_ok_iff.1 h
  have hfront : '"' ∉ '\\' :: 'u' :: quad := by
    simp [hquad.quote_not_mem]
  obtain ⟨more, rfl⟩ := exists_append_of_quote (show cs ++ '"' :: rest = ('\\' :: 'u' :: quad) ++ rest' from hcs) hfront
  exact ⟨quad, more, n, rfl, hquad, hlow⟩

theorem toOption_map {α β : Type} {x : Except Fault α} (f : α → β) : (x.map f).toOption = x.toOption.map f := by
  cases x with
  | error _ => rfl
  | ok _ => rfl

/-- **Reading finds what is denoted.** -/
theorem SaysChars.readString (h : SaysChars cs s) (rest : List Char) :
    (readString 0 (cs ++ '"' :: rest)).toOption = s := by
  induction h with
  | nil => rfl
  | @plain c cs s hq hs hc _ ih =>
    have hread : readChar c ([] ++ (cs ++ '"' :: rest)) = .ok (c, 0) := by
      unfold readChar
      rw [if_neg hc, if_pos hs]
    rw [← ih, ← toOption_map]
    exact congrArg Except.toOption (readString_cons hq hread)
  | @letter e c cs s he _ ih =>
    have hread : readChar '\\' ([e] ++ (cs ++ '"' :: rest)) = .ok (c, 1) := by
      rw [List.singleton_append, readChar_backslash, if_neg (ne_u_of_unescapeLetter? he)]
      simp only [he]
    rw [← ih, ← toOption_map]
    exact congrArg Except.toOption (readString_cons (by decide) hread)
  | @number quad cs n s hn hh hl _ ih =>
    have hread : readChar '\\' (('u' :: quad) ++ (cs ++ '"' :: rest)) = .ok (Char.ofNat n, ('u' :: quad).length) := by
      rw [List.cons_append, readChar_backslash, if_pos rfl, hn.numberedEscape_other _ hh hl, List.length_cons, hn.1]
      rfl
    have hcons := readString_cons (by decide) hread
    rw [List.cons_append] at hcons
    rw [← ih, ← toOption_map, List.cons_append, List.cons_append, List.append_assoc, hcons]
  | @pair quad quad' cs n m s hn hh hm hl _ ih =>
    have hread : readChar '\\' (('u' :: quad ++ '\\' :: 'u' :: quad') ++ (cs ++ '"' :: rest)) =
        .ok (Char.ofNat (0x10000 + (n - 0xd800) * 0x400 + (m - 0xdc00)),
          ('u' :: quad ++ '\\' :: 'u' :: quad').length) := by
      have hlow : lowSurrogate ('\\' :: 'u' :: (quad' ++ (cs ++ '"' :: rest))) = .ok m :=
        lowSurrogate_eq_ok_iff.2 ⟨quad', _, rfl, hm, hl⟩
      simp only [List.cons_append, List.append_assoc, readChar_backslash, if_true, hn.numberedEscape_high _ hh, hlow,
        List.length_cons, List.length_append, hn.1, hm.1, Except.map, Nat.reduceAdd]
    have hcons := readString_cons (by decide) hread
    rw [← ih, ← toOption_map, ← hcons]
    simp only [List.cons_append, List.append_assoc]
  | @high quad cs n s hn hh hlone _ ih =>
    cases hlow : lowSurrogate (cs ++ '"' :: rest) with
    | ok m => exact absurd (startsLow_of_lowSurrogate hlow) hlone
    | error f =>
      have hread : readChar '\\' ('u' :: (quad ++ (cs ++ '"' :: rest))) = .error f := by
        rw [readChar_backslash, if_pos rfl, hn.numberedEscape_high _ hh, hlow]
        rfl
      rw [List.cons_append, List.cons_append, List.append_assoc, readString_cons_error (by decide) hread]
      rfl
  | @low quad cs n s hn hl _ ih =>
    have hread : readChar '\\' ('u' :: (quad ++ (cs ++ '"' :: rest))) = .error .malformed := by
      rw [readChar_backslash, if_pos rfl, hn.numberedEscape_low _ hl]
      rfl
    rw [List.cons_append, List.cons_append, List.append_assoc, readString_cons_error (by decide) hread]
    rfl

/-! ### What is skipped is in the grammar -/

/-- Behind the escape of a second half the characters go on. -/
theorem SaysChars.behind_low {quad : List Char} {n : Nat} (h : SaysChars ('\\' :: 'u' :: (quad ++ cs)) s)
    (hn : HexQuad quad n) (hl : IsLow n) : ∃ s', SaysChars cs s' := by
  generalize htext : '\\' :: 'u' :: (quad ++ cs) = text at h
  cases h with
  | nil => cases htext
  | plain _ hs _ _ =>
    cases htext
    exact absurd rfl hs
  | letter he _ =>
    cases htext
    exact absurd rfl (ne_u_of_unescapeLetter? he)
  | number hn' _ _ h | high hn' _ _ h | low hn' _ h =>
    simp only [List.cons.injEq, true_and] at htext
    obtain ⟨-, rfl⟩ := List.append_inj htext (hn.1.trans hn'.1.symm)
    exact ⟨_, h⟩
  | pair hn' hh _ _ _ =>
    simp only [List.cons.injEq, true_and] at htext
    obtain ⟨rfl, -⟩ := List.append_inj htext (hn.1.trans hn'.1.symm)
    obtain rfl := Except.ok.inj (hn.2.symm.trans hn'.2)
    exact absurd (Nat.le_trans hl.1 hh.2) (by decide)

/-- An escape of four digits before a string of the grammar is in the grammar. -/
theorem HexQuad.saysChars {quad : List Char} {n : Nat} (hn : HexQuad quad n) (h : SaysChars cs s) :
    ∃ s', SaysChars ('\\' :: 'u' :: (quad ++ cs)) s' := by
  by_cases hl : IsLow n
  · exact ⟨_, .low hn hl h⟩
  by_cases hh : IsHigh n
  · by_cases hlow : StartsLow cs
    · obtain ⟨quad', more, m, rfl, hm, hl'⟩ := hlow
      obtain ⟨s', h'⟩ := h.behind_low hm hl'
      exact ⟨_, .pair hn hh hm hl' h'⟩
    · exact ⟨_, .high hn hh hlow h⟩
  · exact ⟨_, .number hn hh hl h⟩

/-- **Only strings of the grammar are skipped.** -/
theorem saysChars_of_skipString {rest : List Char} (h : skipString 0 cs = .ok rest) :
    ∃ body s, cs = body ++ '"' :: rest ∧ SaysChars body s := by
  induction hlen : cs.length using Nat.strongRecOn generalizing cs with
  | ind len ih =>
    subst hlen
    cases cs with
    | nil => cases h
    | cons c cs =>
      rw [skipString] at h
      split at h
      · rename_i hc
        cases h
        exact ⟨[], _, by rw [hc]; rfl, .nil⟩
      rename_i hq
      obtain ⟨used, hused, hrest⟩ := bind_eq_ok_iff.1 h
      unfold skipChar at hused
      split at hused
      · cases hused
      rename_i hlow
      split at hused
      · rename_i hs
        cases hused
        obtain ⟨body, s, rfl, hbody⟩ := ih _ (Nat.lt_succ_self _) hrest rfl
        exact ⟨c :: body, _, rfl, .plain hq hs hlow hbody⟩
      rename_i hs
      obtain rfl : c = '\\' := not_not.1 hs
      split at hused
      · cases hused
      rename_i e digits
      split at hused
      · rename_i he
        obtain ⟨n, hn, rfl⟩ := map_eq_ok_iff.1 hused
        obtain ⟨quad, more, rfl, hquad⟩ := exists_hexQuad hn
        have hlen : ('u' :: quad).length = 5 := by rw [List.length_cons, hquad.1]
        rw [he, ← List.cons_append, ← hlen, skipString_append] at hrest
        have hmore : more.length < ('\\' :: e :: (quad ++ more)).length := by
          rw [List.length_cons, List.length_cons, List.length_append]
          omega
        obtain ⟨body, s, rfl, hbody⟩ := ih more.length hmore hrest rfl
        obtain ⟨s', hs'⟩ := hquad.saysChars hbody
        exact ⟨_, s', by rw [he]; simp, hs'⟩
      · split at hused
        · rename_i hsome
          cases hused
          obtain ⟨ch, hch⟩ := Option.isSome_iff_exists.1 hsome
          have hdigits : digits.length < ('\\' :: e :: digits).length := by
            rw [List.length_cons, List.length_cons]
            omega
          obtain ⟨body, s, rfl, hbody⟩ := ih digits.length hdigits (skipString_append [e] digits ▸ hrest) rfl
          exact ⟨_, _, rfl, .letter hch hbody⟩
        · cases hused

/-! ### Written strings -/

theorem hexValue?_digitChar : ∀ n < 16, Text.hexValue? (Nat.digitChar n) = some n := by decide

theorem hexQuad_digitChar {n : Nat} (h : n < 0x100) :
    HexQuad ['0', '0', Nat.digitChar (n / 16), Nat.digitChar (n % 16)] n := by
  have h0 : Text.hexValue? '0' = some 0 := by decide
  have hhigh := hexValue?_digitChar (n / 16) (by omega)
  have hlow := hexValue?_digitChar (n % 16) (by omega)
  have hn : ((0 * 16 + 0) * 16 + n / 16) * 16 + n % 16 = n := by omega
  refine ⟨rfl, ?_⟩
  simp only [hexQuad, h0, hhigh, hlow, hn]

/-- Every character is denoted by the way it is written. -/
theorem SaysChars.escapeChar {cs s : List Char} (h : SaysChars cs (some s)) (c : Char) :
    SaysChars (escapeChar c ++ cs) (some (c :: s)) := by
  unfold Json.escapeChar
  split
  · rename_i hc
    have he : unescapeLetter? c = some c := by rcases hc with rfl | rfl <;> decide
    exact .letter he h
  rename_i hc
  split
  · rename_i hlow
    unfold escapeControl
    split
    · subst c
      exact .letter (e := 'b') (by decide) h
    split
    · subst c
      exact .letter (e := 'f') (by decide) h
    split
    · subst c
      exact .letter (e := 'n') (by decide) h
    split
    · subst c
      exact .letter (e := 'r') (by decide) h
    split
    · subst c
      exact .letter (e := 't') (by decide) h
    · have hnumber := SaysChars.number (hexQuad_digitChar (show c.toNat < 0x100 by omega))
        (by unfold IsHigh; omega) (by unfold IsLow; omega) h
      rwa [Char.ofNat_toNat] at hnumber
  · rename_i hlow
    rw [not_or] at hc
    exact .plain hc.1 hc.2 hlow h

theorem saysChars_flatMap (cs : List Char) : SaysChars (cs.flatMap escapeChar) (some cs) := by
  induction cs with
  | nil => exact .nil
  | cons c cs ih => exact ih.escapeChar c

end WordRecords.Json
