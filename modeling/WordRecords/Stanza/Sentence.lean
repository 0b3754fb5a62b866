import WordRecords.Stanza.Entry
import WordRecords.Steps
import WordRecords.SurfaceUnit

/-!
# Sentences of Stanza output

A sentence is read from left to right. An entry for a word is a unit of its own. An entry for a range is a unit of all
words that follow it directly and have their numbers in the range, and these must be as many as the range has numbers.
In the end no word may have a governor past the last word.
-/

namespace WordRecords.Stanza

/-- Why entries make no sentence. -/
inductive Problem
  /-- The identification of an entry has no known form. -/
  | unsupportedId (id : NativeId)
  /-- A unit has no text. -/
  | noText (id : NativeId)
  /-- A word lacks a part of its analysis. -/
  | noField (text : Option String) (field : String)
  /-- A range ends before it begins. -/
  | invertedRange (text : String) (low high : Nat)
  /-- A range holds more numbers than can be counted. -/
  | unsupportedRange (text : String) (low high : Nat)
  /-- A range is not followed by as many words as it has numbers. -/
  | wrongCount (text : String) (low high found expected : Nat)
  /-- A word has a governor past the last word. -/
  | headOutside (nativeId : Nat) (text : String) (head : Int) (words : Nat)
deriving DecidableEq

def Problem.message : Problem → String
  | .unsupportedId id => "unsupported id " ++ id.display
  | .noText id => "token " ++ id.display ++ " has no text"
  | .noField text field => "word '" ++ text.getD "<no text>" ++ "' has no " ++ field
  | .invertedRange text low high => s!"multi-word token '{text}' has inverted range {low}-{high}"
  | .unsupportedRange text low high => s!"multi-word token '{text}' has unsupported range {low}-{high}"
  | .wrongCount text low high found expected =>
    s!"multi-word token '{text}' ({low}-{high}) lists {found} of {expected} words"
  | .headOutside nativeId text head words =>
    s!"word {nativeId} of '{text}' has head {head} outside a sentence of {words} words"

namespace Entry

def surfaceText (e : Entry) : Except Problem String :=
  match e.text with
  | some text => .ok text
  | none => .error (.noText e.id)

/-- A part of the analysis that a word must have. -/
def need {α : Type} (e : Entry) (field : String) : Option α → Except Problem α
  | some value => .ok value
  | none => .error (.noField e.text field)

/-- What an entry says about its offset. -/
def offsetHint (e : Entry) : OffsetHint := ⟨e.startChar, e.misc⟩

/-- The word that an entry describes. Empty features are no features. -/
def toWord (e : Entry) (nativeId : Nat) : Except Problem Word := do
  let head ← e.need "head" e.head
  let pos ← e.need "upos" e.upos
  let dep ← e.need "deprel" e.deprel
  let lemmaForm ← e.need "lemma" e.lemmaForm
  pure {
    nativeId := nativeId
    pos := pos
    features := e.feats.filter fun features => features ≠ ""
    dep := dep
    head := .oneBased head
    lemmaForm := lemmaForm }

end Entry

/-- The words that follow directly and have their numbers in a range, with the entries behind them. -/
def readRun (low high : Nat) : List Entry → Except Problem (List Word × List Entry)
  | [] => .ok ([], [])
  | e :: rest =>
    match e.id.parse? with
    | none => .error (.unsupportedId e.id)
    | some (.range _ _) => .ok ([], e :: rest)
    | some (.word n) =>
      if low ≤ n ∧ n ≤ high then
        match e.toWord n, readRun low high rest with
        | .error p, _ => .error p
        | .ok _, .error p => .error p
        | .ok word, .ok (words, later) => .ok (word :: words, later)
      else .ok ([], e :: rest)

/-- The unit of a range with a given text, where a run of words follows. -/
def rangeUnit (e : Entry) (text : String) (low high : Nat) (words : List Word) : Except Problem SurfaceUnit :=
  if words.length = high - low + 1 then .ok ⟨text, e.offsetHint, .explicit words⟩
  else .error (.wrongCount text low high words.length (high - low + 1))

/-- A range must not end before it begins, and its numbers must be countable. -/
def checkRange (text : String) (low high : Nat) : Except Problem Unit :=
  if high < low then .error (.invertedRange text low high)
  else if countLimit ≤ high - low + 1 then .error (.unsupportedRange text low high)
  else .ok ()

/-- The unit that an entry makes with the entries after it, and what is left of these. -/
def readUnit (e : Entry) (rest : List Entry) : Except Problem (SurfaceUnit × List Entry) :=
  match e.id.parse? with
  | none => .error (.unsupportedId e.id)
  | some (.word n) => do
    let text ← e.surfaceText
    let word ← e.toWord n
    pure (⟨text, e.offsetHint, .single word⟩, rest)
  | some (.range low high) => do
    let text ← e.surfaceText
    checkRange text low high
    let (words, later) ← readRun low high rest
    let unit ← rangeUnit e text low high words
    pure (unit, later)

/-- A run takes nothing but entries from the front. -/
theorem length_readRun {low high : Nat} {es later : List Entry} {words : List Word}
    (h : readRun low high es = .ok (words, later)) : later.length ≤ es.length := by
  induction es generalizing words with
  | nil =>
    cases h
    exact Nat.le_refl _
  | cons e rest ih =>
    rw [readRun] at h
    split at h
    · cases h
    · cases h
      exact Nat.le_refl _
    · split at h
      · split at h
        · cases h
        · cases h
        · rename_i hr
          cases h
          exact Nat.le_succ_of_le (ih hr)
      · cases h
        exact Nat.le_refl _

/-- A unit takes nothing but entries from the front. -/
theorem length_readUnit {e : Entry} {rest later : List Entry} {unit : SurfaceUnit}
    (h : readUnit e rest = .ok (unit, later)) : later.length ≤ rest.length := by
  rw [readUnit] at h
  split at h
  · cases h
  · obtain ⟨_, _, h⟩ := bind_eq_ok_iff.1 h
    obtain ⟨_, _, h⟩ := bind_eq_ok_iff.1 h
    cases h
    exact Nat.le_refl _
  · obtain ⟨_, _, h⟩ := bind_eq_ok_iff.1 h
    obtain ⟨_, _, h⟩ := bind_eq_ok_iff.1 h
    obtain ⟨⟨words, left⟩, hr, h⟩ := bind_eq_ok_iff.1 h
    obtain ⟨_, _, h⟩ := bind_eq_ok_iff.1 h
    cases h
    exact length_readRun hr

def readUnits : List Entry → Except Problem UnitSentence
  | [] => .ok []
  | e :: rest =>
    match h : readUnit e rest with
    | .error p => .error p
    | .ok (unit, later) =>
      have : later.length ≤ rest.length := length_readUnit h
      match readUnits later with
      | .error p => .error p
      | .ok units => .ok (unit :: units)
termination_by es => es.length

/-- The number of words of a sentence. -/
def wordCount (units : UnitSentence) : Nat := (units.flatMap fun unit => unit.decomposition.words).length

/-- The first word of a unit with a governor past the last of `words` words. -/
def headOutside? (words : Nat) (unit : SurfaceUnit) : Option Problem :=
  unit.decomposition.words.findSome? fun word =>
    match word.head with
    | .oneBased head => if words < head then some (.headOutside word.nativeId unit.text head words) else none
    | .absolute _ _ => none

def readSentence (entries : List Entry) : Except Problem UnitSentence := do
  let units ← readUnits entries
  match units.findSome? (headOutside? (wordCount units)) with
  | some p => throw p
  | none => pure units

def readSentences (sentences : List (List Entry)) : Except Problem (List UnitSentence) :=
  sentences.mapM readSentence

end WordRecords.Stanza
