/-!
# ChainParams — hexadecimal text

Digits of base sixteen, as they stand in digests, magics and key ids. Written
digits are lower case; both cases are read.

* `value?_digit` — a written digit reads back as its value.
* `length_byte` — a byte is always two digits.
-/

namespace ChainParams.Hex

/-- The lower-case digit of a value below sixteen. -/
def digit (n : Nat) : Char :=
  if n < 10 then Char.ofNat ('0'.toNat + n) else Char.ofNat ('a'.toNat + (n - 10))

/-- The value of a digit of either case. -/
def value? (c : Char) : Option Nat :=
  if '0' ≤ c ∧ c ≤ '9' then some (c.toNat - '0'.toNat)
  else if 'a' ≤ c ∧ c ≤ 'f' then some (c.toNat - 'a'.toNat + 10)
  else if 'A' ≤ c ∧ c ≤ 'F' then some (c.toNat - 'A'.toNat + 10)
  else none

/-- A number without leading zeros; zero is one digit. -/
def plain (n : Nat) : List Char :=
  Nat.toDigits 16 n

/-- A number with zeros in front up to `width` digits. -/
def padded (width n : Nat) : List Char :=
  (plain n).leftpad width '0'

/-- A byte as its two digits, high half first. -/
def byte (b : UInt8) : List Char :=
  [digit (b.toNat / 16), digit (b.toNat % 16)]

/-- A run of bytes, two digits each. -/
def bytes (bs : List UInt8) : List Char :=
  bs.flatMap byte

-- ---------------------------------------------------------------------------
-- Written digits read back
-- ---------------------------------------------------------------------------

theorem value?_digit {n : Nat} (h : n < 16) : value? (digit n) = some n := by
  have all : ∀ k : Fin 16, value? (digit k) = some k.val := by decide
  exact all ⟨n, h⟩

theorem length_byte (b : UInt8) : (byte b).length = 2 := rfl

theorem length_bytes (bs : List UInt8) : (bytes bs).length = 2 * bs.length := by
  induction bs with
  | nil => rfl
  | cons b bs ih =>
    simp only [bytes, List.flatMap_cons, List.length_append, length_byte, List.length_cons] at ih ⊢
    omega

end ChainParams.Hex
