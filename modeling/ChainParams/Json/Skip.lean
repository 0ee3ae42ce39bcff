import ChainParams.Json.StringLiteral
import ChainParams.Json.Numeral

/-!
# ChainParams — passing over JSON values

A member with an unknown key may hold any value. It is passed over without being
kept, whatever its depth: the open brackets are remembered in a list, innermost
first, and no other trace of the value is needed.

A number that breaks off is malformed here, also at the end of the text.

* `skipValue` — the text behind the value that stands in front of it.
-/

namespace ChainParams.Json

/-- The two kinds of bracket. -/
inductive Bracket where
  | square
  | curly

/-- The character that closes a bracket. -/
def Bracket.closing : Bracket → Char
  | .square => ']'
  | .curly => '\x7d'

/-- How far the passing over of a value has come. -/
inductive Pending where
  /-- The value has ended. -/
  | done (rest : List Char)
  /-- Inside these brackets one more value has to follow. -/
  | value (opened : List Bracket) (rest : List Char)

/-- The text that is still in front. -/
def Pending.rest : Pending → List Char
  | .done rest => rest
  | .value _ rest => rest

/-- Passes over a value that opens no bracket; `c` is its first character. -/
def skipScalar (c : Char) (s : List Char) : Except Fault (List Char) :=
  match restOfWord? c with
  | some word => expectWord word s
  | none =>
    if c = '"' then skipString s
    else if c = '-' ∨ c.isDigit then
      match Numeral.scan (c :: s) with
      | .ok (_, r) => .ok r
      | .error _ => .error .malformed
    else .error .malformed

/-- Passes over a key and the colon behind it. -/
def skipKey (s : List Char) : Except Fault (List Char) :=
  match skipBlank s with
  | [] => .error .truncated
  | c :: r =>
    if c = '"' then
      match skipString r with
      | .error f => .error f
      | .ok t => readColon t
    else .error .malformed

/-- Comes to the next value inside a bracket: in a record, its key is passed over. -/
def enterValue (b : Bracket) (opened : List Bracket) (s : List Char) : Except Fault Pending :=
  match b with
  | .square => .ok (.value (b :: opened) s)
  | .curly => (skipKey s).map (.value (b :: opened))

/-- Goes on behind a value that stands inside the given brackets. -/
def leaveValue : List Bracket → List Char → Except Fault Pending
  | [], s => .ok (.done s)
  | b :: opened, s =>
    match readNext b.closing s with
    | .error f => .error f
    | .ok (.close, r) => leaveValue opened r
    | .ok (.more, r) => enterValue b opened r

/-- Goes on behind an opening bracket. -/
def openBracket (b : Bracket) (opened : List Bracket) (s : List Char) : Except Fault Pending :=
  match skipBlank s with
  | [] => .error .truncated
  | c :: r => if c = b.closing then leaveValue opened r else enterValue b opened s

/-- Passes over a value up to its end, or to the first value inside it. -/
def startValue (opened : List Bracket) (s : List Char) : Except Fault Pending :=
  match skipBlank s with
  | [] => .error .truncated
  | c :: r =>
    if c = '[' then openBracket .square opened r
    else if c = '\x7b' then openBracket .curly opened r
    else
      match skipScalar c r with
      | .error f => .error f
      | .ok t => leaveValue opened t

-- ---------------------------------------------------------------------------
-- The text left over
-- ---------------------------------------------------------------------------

theorem length_le_of_skipScalar {c : Char} {s r : List Char} (h : skipScalar c s = .ok r) :
    r.length ≤ s.length := by
  unfold skipScalar at h
  split at h
  · exact length_expectWord_le h
  · split at h
    · exact Nat.le_of_lt (length_lt_of_skipString h)
    · split at h
      · split at h
        · next hn =>
          cases h
          exact Nat.le_of_lt_succ (Numeral.length_lt_of_scan hn)
        · cases h
      · cases h

theorem length_lt_of_skipKey {s r : List Char} (h : skipKey s = .ok r) :
    r.length < s.length := by
  unfold skipKey at h
  split at h
  · cases h
  · next hs =>
    have := length_lt_of_skipBlank hs
    split at h
    · split at h
      · cases h
      · next ht =>
        have := length_lt_of_skipString ht
        have := length_lt_of_readColon h
        omega
    · cases h

theorem length_le_of_enterValue {b : Bracket} {opened : List Bracket} {s : List Char}
    {p : Pending} (h : enterValue b opened s = .ok p) : p.rest.length ≤ s.length := by
  cases b with
  | square =>
    cases h
    exact Nat.le_refl _
  | curly =>
    obtain ⟨t, ht, rfl⟩ := map_eq_ok_iff.mp h
    exact Nat.le_of_lt (length_lt_of_skipKey ht)

theorem length_le_of_leaveValue {opened : List Bracket} {s : List Char} {p : Pending}
    (h : leaveValue opened s = .ok p) : p.rest.length ≤ s.length := by
  induction opened generalizing s with
  | nil =>
    cases h
    exact Nat.le_refl _
  | cons b opened ih =>
    rw [leaveValue] at h
    split at h
    · cases h
    · next hn =>
      have := length_lt_of_readNext hn
      have := ih h
      omega
    · next hn =>
      have := length_lt_of_readNext hn
      have := length_le_of_enterValue h
      omega

theorem length_le_of_openBracket {b : Bracket} {opened : List Bracket} {s : List Char}
    {p : Pending} (h : openBracket b opened s = .ok p) : p.rest.length ≤ s.length := by
  unfold openBracket at h
  split at h
  · cases h
  · next hs =>
    have := length_lt_of_skipBlank hs
    split at h
    · have := length_le_of_leaveValue h
      omega
    · exact length_le_of_enterValue h

theorem length_lt_of_startValue {opened : List Bracket} {s : List Char} {p : Pending}
    (h : startValue opened s = .ok p) : p.rest.length < s.length := by
  unfold startValue at h
  split at h
  · cases h
  · next hs =>
    have := length_lt_of_skipBlank hs
    split at h
    · have := length_le_of_openBracket h
      omega
    · split at h
      · have := length_le_of_openBracket h
        omega
      · split at h
        · cases h
        · next ht =>
          have := length_le_of_skipScalar ht
          have := length_le_of_leaveValue h
          omega

-- ---------------------------------------------------------------------------
-- Whole values
-- ---------------------------------------------------------------------------

/-- Passes over a value and all that has to follow it inside the given brackets. -/
def skipWithin (opened : List Bracket) (s : List Char) : Except Fault (List Char) :=
  match h : startValue opened s with
  | .error f => .error f
  | .ok (.done r) => .ok r
  | .ok (.value inner r) =>
    have : r.length < s.length := length_lt_of_startValue h
    skipWithin inner r
termination_by s.length

/-- Passes over the value in front of a text. -/
def skipValue (s : List Char) : Except Fault (List Char) :=
  skipWithin [] s

theorem length_lt_of_skipWithin {opened : List Bracket} {s r : List Char}
    (h : skipWithin opened s = .ok r) : r.length < s.length := by
  fun_induction skipWithin opened s with
  | case1 => cases h
  | case2 opened s t ht =>
    cases h
    exact length_lt_of_startValue ht
  | case3 opened s inner t ht _ ih =>
    exact Nat.lt_trans (ih h) (length_lt_of_startValue ht)

theorem length_lt_of_skipValue {s r : List Char} (h : skipValue s = .ok r) :
    r.length < s.length :=
  length_lt_of_skipWithin h

end ChainParams.Json
