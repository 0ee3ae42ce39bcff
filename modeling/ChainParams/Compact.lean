/-!
# ChainParams — compact targets

A proof-of-work target is a natural number of up to 256 bits. Its compact form packs
it into one word: an exponent, which is its length in bytes, in the top byte, and below
it a mantissa, its three leading bytes. Bit 23 is a sign bit. Targets are never
negative, so a word with that bit set stands for zero, and packing keeps it clear by
moving one byte from the mantissa into the exponent.

* `Compact.target`   — the target that a word stands for.
* `Compact.ofTarget` — the word for a target; what does not fit into it is cut off, and
  a target beyond the widest word becomes the largest one.
* `Compact.ones`     — the target of `bits` one bits, the shape of most limits.
-/

namespace ChainParams

/-- A compact target. -/
abbrev Compact := UInt32

/-- The number of bits that a natural number takes up; zero takes none. -/
def bitLength (n : Nat) : Nat :=
  if n = 0 then 0 else n.log2 + 1

/-- The number of bytes that a natural number takes up. -/
def byteLength (n : Nat) : Nat :=
  (bitLength n + 7) / 8

namespace Compact

/-- The value of the sign bit. -/
def signBit : Nat := 0x800000

/-- The largest exponent. -/
def maxExponent : Nat := 0xff

/-- The largest mantissa without the sign bit. -/
def maxMantissa : Nat := 0x7fffff

/-- The bytes in the widest target that a digest can meet. -/
def maxTargetBytes : Nat := 32

/-- The place of the exponent in a word: the number of mantissas below it. -/
def exponentUnit : Nat := 0x1000000

/-- The word with a given exponent and mantissa. -/
def pack (exponent mantissa : Nat) : Compact :=
  UInt32.ofNat (exponent * exponentUnit + mantissa)

/-- The largest word that stands for a target other than zero. -/
def largest : Compact :=
  pack maxExponent maxMantissa

/-- The length in bytes that a word gives. -/
def exponent (c : Compact) : Nat :=
  c.toNat / exponentUnit

/-- The leading bytes that a word gives, sign bit included. -/
def mantissa (c : Compact) : Nat :=
  c.toNat % exponentUnit

/-- Whether the sign bit of a word is set. -/
def isSigned (c : Compact) : Bool :=
  signBit ≤ mantissa c

/-- The target that a word stands for. -/
def target (c : Compact) : Nat :=
  if isSigned c then 0
  else if exponent c ≤ 3 then mantissa c >>> (8 * (3 - exponent c))
  else mantissa c <<< (8 * (exponent c - 3))

/-- The three leading bytes of a number of `size` bytes; a shorter number is filled up
with zero bytes behind it. -/
def leadingBytes (n size : Nat) : Nat :=
  if size ≤ 3 then n <<< (8 * (3 - size)) else n >>> (8 * (size - 3))

/-- The word for a target. -/
def ofTarget (n : Nat) : Compact :=
  let size := byteLength n
  let leading := leadingBytes n size
  if n = 0 then 0
  else if size > maxExponent then largest
  else if leading < signBit then pack size leading
  else if size = maxExponent then largest
  else pack (size + 1) (leading >>> 8)

/-- The target made of one bits alone. -/
def ones (bits : Nat) : Nat :=
  (1 <<< bits) - 1

end Compact

end ChainParams
