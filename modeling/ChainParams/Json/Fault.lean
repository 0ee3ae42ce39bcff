import ChainParams.Outcome

/-!
# ChainParams — faults in JSON texts

A text is read from the left, and the first fault met decides the outcome. Every
step of a reader takes the text in front of it and gives back, beside its value, the
text that is left.

* `Fault`      — the three ways in which reading fails.
* `skipBlank`  — the four blanks that may stand between tokens.
* `expectWord` — a word whose first character is known already.
* `readNext`   — what stands behind a value inside brackets.
* `openKey`    — the quote that opens a key.
* `readColon`  — the colon between a key and its value.
-/

namespace ChainParams.Json

/-- Why a text cannot be read as a value of some type. -/
inductive Fault where
  /-- The text is not JSON from some place on. -/
  | malformed
  /-- The text is JSON so far, but not of the type asked for. -/
  | mismatch
  /-- The text ends inside a value. -/
  | truncated
deriving DecidableEq

/-- The outcome of a reading step: a value and the text left over, or a fault. -/
abbrev Outcome (α : Type) := Except Fault (α × List Char)

/-- The blanks of JSON: space, tab, line feed and carriage return. -/
def isBlank (c : Char) : Bool :=
  c = ' ' || c = '\t' || c = '\n' || c = '\r'

/-- Drops the blanks in front of a text. -/
def skipBlank (s : List Char) : List Char :=
  s.dropWhile isBlank

/-- Takes the characters of a word off a text. -/
def expectWord : List Char → List Char → Except Fault (List Char)
  | [], s => .ok s
  | _ :: _, [] => .error .truncated
  | w :: ws, c :: s => if c = w then expectWord ws s else .error .malformed

/-- The rest of the word that a first letter announces: `null`, `true` or `false`. -/
def restOfWord? (c : Char) : Option (List Char) :=
  if c = 'n' then some ['u', 'l', 'l']
  else if c = 't' then some ['r', 'u', 'e']
  else if c = 'f' then some ['a', 'l', 's', 'e']
  else none

/-- What stands behind a value inside brackets. -/
inductive Next where
  /-- The closing bracket. -/
  | close
  /-- A comma, so that one more value has to follow. -/
  | more

/-- Reads what stands behind a value inside brackets that `closing` closes. -/
def readNext (closing : Char) (s : List Char) : Outcome Next :=
  match skipBlank s with
  | [] => .error .truncated
  | c :: r =>
    if c = closing then .ok (.close, r)
    else if c = ',' then .ok (.more, r)
    else .error .malformed

/-- Takes the opening quote of a key off a text; no other value can be a key. -/
def openKey (s : List Char) : Except Fault (List Char) :=
  match skipBlank s with
  | [] => .error .truncated
  | c :: r => if c = '"' then .ok r else .error .malformed

/-- Takes the colon behind a key off a text. -/
def readColon (s : List Char) : Except Fault (List Char) :=
  match skipBlank s with
  | [] => .error .truncated
  | c :: r => if c = ':' then .ok r else .error .malformed

-- ---------------------------------------------------------------------------
-- The text left over
-- ---------------------------------------------------------------------------

theorem skipBlank_suffix (s : List Char) : skipBlank s <:+ s :=
  List.dropWhile_suffix _

theorem length_skipBlank_le (s : List Char) : (skipBlank s).length ≤ s.length :=
  (skipBlank_suffix s).length_le

/-- A character found behind blanks leaves less than there was. -/
theorem length_lt_of_skipBlank {s r : List Char} {c : Char} (h : skipBlank s = c :: r) :
    r.length < s.length := by
  have := length_skipBlank_le s
  rw [h, List.length_cons] at this
  omega

theorem length_expectWord_le {word s r : List Char} (h : expectWord word s = .ok r) :
    r.length ≤ s.length := by
  induction word generalizing s with
  | nil =>
    cases h
    exact Nat.le_refl _
  | cons w ws ih =>
    cases s with
    | nil => simp [expectWord] at h
    | cons c s =>
      rw [expectWord] at h
      split at h
      · exact Nat.le_succ_of_le (ih h)
      · cases h

theorem length_lt_of_readNext {closing : Char} {s r : List Char} {next : Next}
    (h : readNext closing s = .ok (next, r)) : r.length < s.length := by
  unfold readNext at h
  split at h
  · cases h
  · next hs =>
    have := length_lt_of_skipBlank hs
    split at h
    · cases h
      exact this
    · split at h
      · cases h
        exact this
      · cases h

theorem length_lt_of_openKey {s r : List Char} (h : openKey s = .ok r) :
    r.length < s.length := by
  unfold openKey at h
  split at h
  · cases h
  · next hs =>
    split at h
    · cases h
      exact length_lt_of_skipBlank hs
    · cases h

theorem length_lt_of_readColon {s r : List Char} (h : readColon s = .ok r) :
    r.length < s.length := by
  unfold readColon at h
  split at h
  · cases h
  · next hs =>
    split at h
    · cases h
      exact length_lt_of_skipBlank hs
    · cases h

end ChainParams.Json
