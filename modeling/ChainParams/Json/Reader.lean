import ChainParams.Json.Skip

/-!
# ChainParams — typed readers

A reader knows the type that it is after, and reads the text straight into it: a
value of another kind is a mismatch at its first character (after it has been read, if
it is a scalar, so that a fault inside it comes first).

Each reader carries the proof that a value takes at least one character. It is what
lets a list be read to its end without a bound from outside.

* `Reader`          — a way to read one value from the front of a text.
* `Reader.text`, `Reader.flag`, `Reader.natural`, `Reader.list`, `Reader.choice`.
* `Reader.decode`   — a whole text as one value.
-/

namespace ChainParams.Json

/-- A way to read one value from the front of a text. -/
structure Reader (α : Type) where
  run : List Char → Outcome α
  consumes : ∀ {s r : List Char} {a : α}, run s = .ok (a, r) → r.length < s.length

-- ---------------------------------------------------------------------------
-- Values of another kind
-- ---------------------------------------------------------------------------

/-- Reads a number; one too large for double precision is no number. -/
def readNumeral (s : List Char) : Outcome Numeral :=
  match Numeral.scan s with
  | .error .ended => .error .truncated
  | .error .strayed => .error .malformed
  | .ok (n, r) => if n.overflows then .error .malformed else .ok (n, r)

/-- The fault of a step, or a mismatch where the step succeeds. -/
def faultOf {α : Type} (x : Except Fault α) : Fault :=
  match x with
  | .error f => f
  | .ok _ => .mismatch

/-- The fault met at a value that is not of the kind asked for; `c` is its first character. -/
def wrongKind (c : Char) (s : List Char) : Fault :=
  match restOfWord? c with
  | some word => faultOf (expectWord word s)
  | none =>
    if c = '"' then faultOf (readString s)
    else if c = '-' ∨ c.isDigit then faultOf (readNumeral (c :: s))
    else if c = '[' ∨ c = '\x7b' then .mismatch
    else .malformed

theorem length_lt_of_readNumeral {s r : List Char} {n : Numeral}
    (h : readNumeral s = .ok (n, r)) : r.length < s.length := by
  unfold readNumeral at h
  split at h
  · cases h
  · cases h
  · next hn =>
    split at h
    · cases h
    · cases h
      exact Numeral.length_lt_of_scan hn

namespace Reader

variable {α β : Type}

-- ---------------------------------------------------------------------------
-- Scalars
-- ---------------------------------------------------------------------------

/-- Reads a string value as its characters. -/
def readText (s : List Char) : Outcome (List Char) :=
  match skipBlank s with
  | [] => .error .truncated
  | c :: r => if c = '"' then readString r else .error (wrongKind c r)

/-- Reads `true` or `false`. -/
def readFlag (s : List Char) : Outcome Bool :=
  match skipBlank s with
  | [] => .error .truncated
  | c :: r =>
    if c = 't' then (expectWord ['r', 'u', 'e'] r).map fun t => (true, t)
    else if c = 'f' then (expectWord ['a', 'l', 's', 'e'] r).map fun t => (false, t)
    else .error (wrongKind c r)

/-- Reads a whole number below a bound, written without sign, fraction and exponent. -/
def readNatural (bound : Nat) (s : List Char) : Outcome Nat :=
  match skipBlank s with
  | [] => .error .truncated
  | c :: r =>
    if c = '-' ∨ c.isDigit then
      match readNumeral (c :: r) with
      | .error f => .error f
      | .ok (numeral, t) =>
        match numeral.natural? with
        | none => .error .mismatch
        | some n => if n < bound then .ok (n, t) else .error .mismatch
    else .error (wrongKind c r)

theorem length_lt_of_readText {s r cs : List Char} (h : readText s = .ok (cs, r)) :
    r.length < s.length := by
  unfold readText at h
  split at h
  · cases h
  · next hs =>
    split at h
    · exact Nat.lt_trans (length_lt_of_readString h) (length_lt_of_skipBlank hs)
    · cases h

theorem length_lt_of_readFlag {s r : List Char} {b : Bool} (h : readFlag s = .ok (b, r)) :
    r.length < s.length := by
  unfold readFlag at h
  split at h
  · cases h
  · next hs =>
    have := length_lt_of_skipBlank hs
    split at h
    · obtain ⟨t, ht, he⟩ := map_eq_ok_iff.mp h
      cases he
      have := length_expectWord_le ht
      omega
    · split at h
      · obtain ⟨t, ht, he⟩ := map_eq_ok_iff.mp h
        cases he
        have := length_expectWord_le ht
        omega
      · cases h

theorem length_lt_of_readNatural {bound : Nat} {s r : List Char} {n : Nat}
    (h : readNatural bound s = .ok (n, r)) : r.length < s.length := by
  unfold readNatural at h
  split at h
  · cases h
  · next hs =>
    have := length_lt_of_skipBlank hs
    split at h
    · split at h
      · cases h
      · next hn =>
        have := length_lt_of_readNumeral hn
        rw [List.length_cons] at this
        split at h
        · cases h
        · split at h
          · cases h
            omega
          · cases h
    · cases h

/-- A string. -/
def text : Reader String where
  run s := (readText s).map fun (cs, r) => (String.ofList cs, r)
  consumes h := by
    obtain ⟨⟨cs, t⟩, ht, he⟩ := map_eq_ok_iff.mp h
    cases he
    exact length_lt_of_readText ht

/-- A truth value. -/
def flag : Reader Bool where
  run := readFlag
  consumes := length_lt_of_readFlag

/-- A whole number below a bound. -/
def natural (bound : Nat) : Reader Nat where
  run := readNatural bound
  consumes := length_lt_of_readNatural

-- ---------------------------------------------------------------------------
-- Readers from readers
-- ---------------------------------------------------------------------------

/-- Reads a value and turns it into another; a value that has none is a mismatch. -/
def filterMap (f : α → Option β) (reader : Reader α) : Reader β where
  run s :=
    match reader.run s with
    | .error fault => .error fault
    | .ok (a, r) =>
      match f a with
      | some b => .ok (b, r)
      | none => .error .mismatch
  consumes h := by
    split at h
    · cases h
    · next hr =>
      split at h
      · cases h
        exact reader.consumes hr
      · cases h

/-- Reads a value and turns it into another. -/
def map (f : α → β) (reader : Reader α) : Reader β :=
  reader.filterMap fun a => some (f a)

-- ---------------------------------------------------------------------------
-- Lists
-- ---------------------------------------------------------------------------

/-- Reads what follows an element of a list: its further elements and the closing bracket. -/
def readItems (reader : Reader α) (s : List Char) : Outcome (List α) :=
  match hn : readNext ']' s with
  | .error f => .error f
  | .ok (.close, r) => .ok ([], r)
  | .ok (.more, r) =>
    match hr : reader.run r with
    | .error f => .error f
    | .ok (a, t) =>
      have : t.length < s.length :=
        Nat.lt_trans (reader.consumes hr) (length_lt_of_readNext hn)
      (readItems reader t).map fun (as, u) => (a :: as, u)
termination_by s.length

/-- Reads a list from behind its opening bracket. -/
def readListBody (reader : Reader α) (s : List Char) : Outcome (List α) :=
  match skipBlank s with
  | [] => .error .truncated
  | c :: r =>
    if c = ']' then .ok ([], r)
    else
      match reader.run s with
      | .error f => .error f
      | .ok (a, t) => (readItems reader t).map fun (as, u) => (a :: as, u)

/-- Reads a list. -/
def readList (reader : Reader α) (s : List Char) : Outcome (List α) :=
  match skipBlank s with
  | [] => .error .truncated
  | c :: r => if c = '[' then readListBody reader r else .error (wrongKind c r)

theorem length_lt_of_readItems {reader : Reader α} {s r : List Char} {as : List α}
    (h : readItems reader s = .ok (as, r)) : r.length < s.length := by
  fun_induction readItems reader s generalizing as with
  | case1 => cases h
  | case2 s t hn =>
    cases h
    exact length_lt_of_readNext hn
  | case3 => cases h
  | case4 s t hn a u hr _ ih =>
    obtain ⟨⟨bs, v⟩, hv, he⟩ := map_eq_ok_iff.mp h
    cases he
    have := ih hv
    have := reader.consumes hr
    have := length_lt_of_readNext hn
    omega

theorem length_lt_of_readListBody {reader : Reader α} {s r : List Char} {as : List α}
    (h : readListBody reader s = .ok (as, r)) : r.length < s.length := by
  unfold readListBody at h
  split at h
  · cases h
  · next hs =>
    split at h
    · cases h
      exact length_lt_of_skipBlank hs
    · split at h
      · cases h
      · next hr =>
        obtain ⟨⟨bs, v⟩, hv, he⟩ := map_eq_ok_iff.mp h
        cases he
        have := length_lt_of_readItems hv
        have := reader.consumes hr
        omega

theorem length_lt_of_readList {reader : Reader α} {s r : List Char} {as : List α}
    (h : readList reader s = .ok (as, r)) : r.length < s.length := by
  unfold readList at h
  split at h
  · cases h
  · next hs =>
    split at h
    · exact Nat.lt_trans (length_lt_of_readListBody h) (length_lt_of_skipBlank hs)
    · cases h

/-- A list of any length. -/
def list (reader : Reader α) : Reader (List α) where
  run := readList reader
  consumes := length_lt_of_readList

-- ---------------------------------------------------------------------------
-- Choices
-- ---------------------------------------------------------------------------

/-- Reads the word `null`. -/
def readNull (s : List Char) : Except Fault (List Char) :=
  match skipBlank s with
  | [] => .error .truncated
  | c :: r => if c = 'n' then expectWord ['u', 'l', 'l'] r else .error (wrongKind c r)

/-- Reads the closing bracket of a record with a single member. -/
def readClosing (s : List Char) : Except Fault (List Char) :=
  match skipBlank s with
  | [] => .error .truncated
  | c :: r => if c = '\x7d' then .ok r else .error .malformed

/-- Reads a name among some from behind its opening quote; an unknown one is a mismatch. -/
def readName (choices : List (String × α)) (s : List Char) : Outcome α :=
  match readString s with
  | .error f => .error f
  | .ok (name, r) =>
    match choices.lookup (String.ofList name) with
    | none => .error .mismatch
    | some a => .ok (a, r)

/-- Reads a choice in its long form, from behind the opening bracket: the name is the
key of a record that holds `null` and nothing else. -/
def readLongChoice (choices : List (String × α)) (s : List Char) : Outcome α :=
  match openKey s with
  | .error f => .error f
  | .ok r =>
    match readName choices r with
    | .error f => .error f
    | .ok (a, t) =>
      match readColon t with
      | .error f => .error f
      | .ok u =>
        match readNull u with
        | .error f => .error f
        | .ok v => (readClosing v).map fun w => (a, w)

/-- Reads one of some names, in its short form, a string, or in its long form. -/
def readChoice (choices : List (String × α)) (s : List Char) : Outcome α :=
  match skipBlank s with
  | [] => .error .truncated
  | c :: r =>
    if c = '"' then readName choices r
    else if c = '\x7b' then readLongChoice choices r
    else .error .malformed

theorem length_lt_of_readNull {s r : List Char} (h : readNull s = .ok r) :
    r.length < s.length := by
  unfold readNull at h
  split at h
  · cases h
  · next hs =>
    split at h
    · exact Nat.lt_of_le_of_lt (length_expectWord_le h) (length_lt_of_skipBlank hs)
    · cases h

theorem length_lt_of_readClosing {s r : List Char} (h : readClosing s = .ok r) :
    r.length < s.length := by
  unfold readClosing at h
  split at h
  · cases h
  · next hs =>
    split at h
    · cases h
      exact length_lt_of_skipBlank hs
    · cases h

theorem length_lt_of_readName {choices : List (String × α)} {s r : List Char} {a : α}
    (h : readName choices s = .ok (a, r)) : r.length < s.length := by
  unfold readName at h
  split at h
  · cases h
  · next hn =>
    split at h
    · cases h
    · cases h
      exact length_lt_of_readString hn

theorem length_lt_of_readLongChoice {choices : List (String × α)} {s r : List Char} {a : α}
    (h : readLongChoice choices s = .ok (a, r)) : r.length < s.length := by
  unfold readLongChoice at h
  split at h
  · cases h
  · next hk =>
    have := length_lt_of_openKey hk
    split at h
    · cases h
    · next hn =>
      have := length_lt_of_readName hn
      split at h
      · cases h
      · next hc =>
        have := length_lt_of_readColon hc
        split at h
        · cases h
        · next hu =>
          have := length_lt_of_readNull hu
          obtain ⟨v, hv, he⟩ := map_eq_ok_iff.mp h
          cases he
          have := length_lt_of_readClosing hv
          omega

theorem length_lt_of_readChoice {choices : List (String × α)} {s r : List Char} {a : α}
    (h : readChoice choices s = .ok (a, r)) : r.length < s.length := by
  unfold readChoice at h
  split at h
  · cases h
  · next hs =>
    have := length_lt_of_skipBlank hs
    split at h
    · exact Nat.lt_trans (length_lt_of_readName h) this
    · split at h
      · exact Nat.lt_trans (length_lt_of_readLongChoice h) this
      · cases h

/-- One of some names. -/
def choice (choices : List (String × α)) : Reader α where
  run := readChoice choices
  consumes := length_lt_of_readChoice

-- ---------------------------------------------------------------------------
-- Whole texts
-- ---------------------------------------------------------------------------

/-- Reads a text that holds one value and, around it, nothing but blanks. -/
def decodeChars (reader : Reader α) (s : List Char) : Except Fault α :=
  match reader.run s with
  | .error f => .error f
  | .ok (a, r) => if skipBlank r = [] then .ok a else .error .malformed

/-- Reads a text that holds one value. -/
def decode (reader : Reader α) (s : String) : Except Fault α :=
  reader.decodeChars s.toList

end Reader

end ChainParams.Json
