import ChainParams.Json.Fault
import ChainParams.Text.Hex

/-!
# ChainParams — JSON strings

A string is read from behind its opening quote up to and including its closing one.
An escape stands for one character; a character outside the basic plane may be given
by two escapes, a high and a low half, and neither half stands alone.

* `readString` — the characters that a string stands for.
* `skipString` — the same text passed over: escapes need only be well formed, and
  halves may stand alone.
-/

namespace ChainParams.Json

-- ---------------------------------------------------------------------------
-- Escapes
-- ---------------------------------------------------------------------------

/-- The character that a one-letter escape stands for. -/
def letterEscape? (c : Char) : Option Char :=
  if c = '"' ∨ c = '\\' ∨ c = '/' then some c
  else if c = 'b' then some '\x08'
  else if c = 'f' then some '\x0c'
  else if c = 'n' then some '\n'
  else if c = 'r' then some '\r'
  else if c = 't' then some '\t'
  else none

/-- The number that four hexadecimal digits stand for. The text ends too early if
fewer than four bytes of it are left. -/
def readQuad : List Char → Outcome Nat
  | a :: b :: c :: d :: r =>
    match Hex.value? a, Hex.value? b, Hex.value? c, Hex.value? d with
    | some a, some b, some c, some d => .ok (((a * 16 + b) * 16 + c) * 16 + d, r)
    | _, _, _, _ => .error .malformed
  | s => if (String.ofList s).utf8ByteSize < 4 then .error .truncated else .error .malformed

/-- Whether a code unit is the high half of a pair. -/
def isHighHalf (n : Nat) : Bool :=
  0xD800 ≤ n && n ≤ 0xDBFF

/-- Whether a code unit is the low half of a pair. -/
def isLowHalf (n : Nat) : Bool :=
  0xDC00 ≤ n && n ≤ 0xDFFF

/-- The character that a pair of halves stands for. -/
def joinHalves (high low : Nat) : Char :=
  Char.ofNat ((high - 0xD800) * 0x400 + (low - 0xDC00) + 0x10000)

/-- Reads the low half that has to follow a high one. -/
def readLowHalf (high : Nat) (s : List Char) : Outcome Char :=
  match expectWord ['\\', 'u'] s with
  | .error f => .error f
  | .ok t =>
    match readQuad t with
    | .error f => .error f
    | .ok (low, r) =>
      if isLowHalf low then .ok (joinHalves high low, r) else .error .malformed

/-- Reads an escape from behind its backslash. -/
def readEscape : List Char → Outcome Char
  | [] => .error .truncated
  | c :: s =>
    match letterEscape? c with
    | some d => .ok (d, s)
    | none =>
      if c = 'u' then
        match readQuad s with
        | .error f => .error f
        | .ok (n, r) =>
          if isLowHalf n then .error .malformed
          else if isHighHalf n then readLowHalf n r
          else .ok (Char.ofNat n, r)
      else
        .error .malformed

/-- Passes over an escape from behind its backslash. -/
def skipEscape : List Char → Except Fault (List Char)
  | [] => .error .truncated
  | c :: s =>
    if (letterEscape? c).isSome then .ok s
    else if c = 'u' then (readQuad s).map Prod.snd
    else .error .malformed

theorem length_lt_of_readQuad {s r : List Char} {n : Nat} (h : readQuad s = .ok (n, r)) :
    r.length < s.length := by
  unfold readQuad at h
  split at h
  · split at h
    · cases h
      simp only [List.length_cons]
      omega
    · cases h
  · split at h <;> cases h

theorem length_lt_of_readLowHalf {high : Nat} {s r : List Char} {c : Char}
    (h : readLowHalf high s = .ok (c, r)) : r.length < s.length := by
  unfold readLowHalf at h
  split at h
  · cases h
  · next t ht =>
    have := length_expectWord_le ht
    split at h
    · cases h
    · next hq =>
      have := length_lt_of_readQuad hq
      split at h
      · simp only [Except.ok.injEq, Prod.mk.injEq] at h
        rw [← h.2]
        omega
      · cases h

theorem length_lt_of_readEscape {s r : List Char} {c : Char} (h : readEscape s = .ok (c, r)) :
    r.length < s.length := by
  unfold readEscape at h
  split at h
  · cases h
  · split at h
    · cases h
      simp
    · split at h
      · split at h
        · cases h
        · next hq =>
          have := length_lt_of_readQuad hq
          split at h
          · cases h
          · split at h
            · have := length_lt_of_readLowHalf h
              simp only [List.length_cons]
              omega
            · cases h
              simp only [List.length_cons]
              omega
      · cases h

theorem length_lt_of_skipEscape {s r : List Char} (h : skipEscape s = .ok r) :
    r.length < s.length := by
  unfold skipEscape at h
  split at h
  · cases h
  · split at h
    · cases h
      simp
    · split at h
      · obtain ⟨⟨n, t⟩, hq, rfl⟩ := map_eq_ok_iff.mp h
        have := length_lt_of_readQuad hq
        simp only [List.length_cons]
        omega
      · cases h

-- ---------------------------------------------------------------------------
-- Strings
-- ---------------------------------------------------------------------------

/-- Whether a character may not stand in a string as it is. -/
def isControl (c : Char) : Bool :=
  c.toNat < 0x20

/-- Reads a string from behind its opening quote. -/
def readString (s : List Char) : Outcome (List Char) :=
  match s with
  | [] => .error .truncated
  | c :: r =>
    if c = '"' then .ok ([], r)
    else if c = '\\' then
      match h : readEscape r with
      | .error f => .error f
      | .ok (d, t) =>
        have : t.length < r.length := length_lt_of_readEscape h
        (readString t).map fun (ds, u) => (d :: ds, u)
    else if isControl c then .error .malformed
    else (readString r).map fun (ds, u) => (c :: ds, u)
termination_by s.length

/-- Passes over a string from behind its opening quote. -/
def skipString (s : List Char) : Except Fault (List Char) :=
  match s with
  | [] => .error .truncated
  | c :: r =>
    if c = '"' then .ok r
    else if c = '\\' then
      match h : skipEscape r with
      | .error f => .error f
      | .ok t =>
        have : t.length < r.length := length_lt_of_skipEscape h
        skipString t
    else if isControl c then .error .malformed
    else skipString r
termination_by s.length

theorem length_lt_of_readString {s r cs : List Char} (h : readString s = .ok (cs, r)) :
    r.length < s.length := by
  fun_induction readString s generalizing cs with
  | case1 => cases h
  | case2 => cases h; simp
  | case3 => cases h
  | case4 r' d t ht _ _ ih =>
    obtain ⟨⟨ds, u⟩, hu, he⟩ := map_eq_ok_iff.mp h
    cases he
    have := length_lt_of_readEscape ht
    have := ih hu
    simp only [List.length_cons]
    omega
  | case5 => cases h
  | case6 c r' _ _ _ ih =>
    obtain ⟨⟨ds, u⟩, hu, he⟩ := map_eq_ok_iff.mp h
    cases he
    have := ih hu
    simp only [List.length_cons]
    omega

theorem length_lt_of_skipString {s r : List Char} (h : skipString s = .ok r) :
    r.length < s.length := by
  fun_induction skipString s with
  | case1 => cases h
  | case2 => cases h; simp
  | case3 => cases h
  | case4 r' t ht _ _ ih =>
    have := length_lt_of_skipEscape ht
    have := ih h
    simp only [List.length_cons]
    omega
  | case5 => cases h
  | case6 c r' _ _ _ ih =>
    have := ih h
    simp only [List.length_cons]
    omega

end ChainParams.Json
