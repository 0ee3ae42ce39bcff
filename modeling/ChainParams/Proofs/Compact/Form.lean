import ChainParams.Compact
import Mathlib.Algebra.Order.Ring.Nat

/-!
# ChainParams — the shape of compact targets

A word is an exponent and a mantissa, and packing them in turn loses neither
(`exponent_pack`, `mantissa_pack`). With exponent `e` and mantissa `m` a word without its
sign bit stands for `m * 2^(8 * e) / 2^24`: the mantissa is a fraction of `2^24`, and the
exponent says how many bytes of the product are whole.

Encoding has three ways out and two shifts, in either direction. What they have in common
is one number, the *signed length* of the target: the bytes that it needs with one bit to
spare. That bit is why a target whose top byte is 0x80 or more takes one byte more, and
nothing else in the encoder depends on the top byte. In terms of the signed length the
encoder is one division, and decoding what it gives drops the low bytes and nothing else.

## Results

* `target_eq_div`    — the target of a word by its exponent and mantissa.
* `ofTarget_eq_pack` — the word of a target by its signed length, where one byte holds that.
* `ofTarget_of_wide` — the largest word for every wider target.
* `target_ofTarget`  — encoding and decoding rounds down to a multiple of `keptUnit`.
-/

namespace ChainParams

-- ---------------------------------------------------------------------------
-- Bits and bytes
-- ---------------------------------------------------------------------------

/-- A number is below the power of two of its length. -/
theorem lt_two_pow_bitLength (n : Nat) : n < 2 ^ bitLength n := by
  rw [bitLength]
  split
  · next h => rw [h, pow_zero]; exact Nat.one_pos
  · exact Nat.lt_log2_self

/-- Each bit below the length of a number is worth no more than the number. -/
theorem two_pow_le_of_lt_bitLength {n k : Nat} (h : k < bitLength n) : 2 ^ k ≤ n := by
  rw [bitLength] at h
  split at h
  · omega
  · next hn => exact (Nat.le_log2 hn).mp (by omega)

/-- A number takes up more than `k` bits exactly from `2^k` on. -/
theorem lt_bitLength_iff {n k : Nat} : k < bitLength n ↔ 2 ^ k ≤ n := by
  constructor
  · exact two_pow_le_of_lt_bitLength
  · intro h
    by_contra hlt
    have hpow : 2 ^ bitLength n ≤ 2 ^ k := Nat.pow_le_pow_right (by omega) (by omega)
    have := lt_two_pow_bitLength n
    omega

/-- A number has at most `k` bits exactly below `2^k`. -/
theorem bitLength_le_iff {n k : Nat} : bitLength n ≤ k ↔ n < 2 ^ k := by
  rw [← Nat.not_lt, lt_bitLength_iff, Nat.not_le]

theorem bitLength_mono {n k : Nat} (h : n ≤ k) : bitLength n ≤ bitLength k :=
  bitLength_le_iff.mpr (Nat.lt_of_le_of_lt h (lt_two_pow_bitLength k))

theorem bitLength_pos {n : Nat} (hn : n ≠ 0) : 0 < bitLength n := by
  rw [lt_bitLength_iff, pow_zero]
  omega

theorem two_pow_eq_mul {k i j : Nat} (h : k = i + j) : 2 ^ k = 2 ^ i * 2 ^ j := by
  rw [h, pow_add]

namespace Compact

-- ---------------------------------------------------------------------------
-- Words
-- ---------------------------------------------------------------------------

theorem signBit_eq : signBit = 2 ^ 23 := by decide

theorem exponent_lt (c : Compact) : exponent c < 256 := by
  have := c.toNat_lt
  rw [exponent, exponentUnit]
  omega

/-- The sign bit is clear exactly if the mantissa stays below it. -/
theorem isSigned_eq_false_iff (c : Compact) : isSigned c = false ↔ mantissa c < 2 ^ 23 := by
  rw [isSigned, decide_eq_false_iff_not, signBit_eq, Nat.not_le]

/-- Packing an exponent of one byte and a mantissa of three loses nothing. -/
theorem toNat_pack {e m : Nat} (he : e < 256) (hm : m < 2 ^ 24) :
    (pack e m).toNat = e * exponentUnit + m := by
  rw [pack, UInt32.toNat_ofNat']
  rw [exponentUnit]
  omega

theorem exponent_pack {e m : Nat} (he : e < 256) (hm : m < 2 ^ 24) : exponent (pack e m) = e := by
  rw [exponent, toNat_pack he hm, exponentUnit]
  omega

theorem mantissa_pack {e m : Nat} (he : e < 256) (hm : m < 2 ^ 24) : mantissa (pack e m) = m := by
  rw [mantissa, toNat_pack he hm, exponentUnit]
  omega

-- ---------------------------------------------------------------------------
-- Decoding
-- ---------------------------------------------------------------------------

theorem target_of_isSigned {c : Compact} (h : isSigned c = true) : target c = 0 := by
  rw [target, if_pos h]

/-- The mantissa is a fraction of `2^24`, scaled by the exponent in bytes. -/
theorem target_eq_div {c : Compact} (h : isSigned c = false) :
    target c = mantissa c * 2 ^ (8 * exponent c) / 2 ^ 24 := by
  rw [target, if_neg (by simp [h])]
  -- the shift down drops the bytes behind the number, the shift up adds none
  split
  · next he =>
    have hsplit : 2 ^ 24 = 2 ^ (8 * exponent c) * 2 ^ (8 * (3 - exponent c)) :=
      two_pow_eq_mul (by omega)
    rw [Nat.shiftRight_eq_div_pow, hsplit, Nat.mul_comm (mantissa c),
      Nat.mul_div_mul_left _ _ (Nat.two_pow_pos _)]
  · next he =>
    have hsplit : 2 ^ (8 * exponent c) = 2 ^ (8 * (exponent c - 3)) * 2 ^ 24 :=
      two_pow_eq_mul (by omega)
    rw [Nat.shiftLeft_eq, hsplit, ← Nat.mul_assoc, Nat.mul_div_cancel _ (Nat.two_pow_pos 24)]

/-- From three bytes on the mantissa is whole. -/
theorem target_eq_mul {c : Compact} (h : isSigned c = false) (he : 3 ≤ exponent c) :
    target c = mantissa c * 2 ^ (8 * (exponent c - 3)) := by
  have hsplit : 2 ^ (8 * exponent c) = 2 ^ (8 * (exponent c - 3)) * 2 ^ 24 :=
    two_pow_eq_mul (by omega)
  rw [target_eq_div h, hsplit, ← Nat.mul_assoc, Nat.mul_div_cancel _ (Nat.two_pow_pos 24)]

/-- A word of fewer bytes stands for no more than its mantissa. -/
theorem target_le_mantissa {c : Compact} (h : isSigned c = false) (he : exponent c ≤ 3) :
    target c ≤ mantissa c := by
  rw [target, if_neg (by simp [h]), if_pos he]
  exact Nat.shiftRight_le _ _

/-- The bound that the exponent alone puts on a target. -/
theorem target_le (c : Compact) : target c ≤ (2 ^ 23 - 1) * 2 ^ (8 * (exponent c - 3)) := by
  cases h : isSigned c with
  | true =>
    rw [target_of_isSigned h]
    exact Nat.zero_le _
  | false =>
    have hm : mantissa c ≤ 2 ^ 23 - 1 := by
      have := (isSigned_eq_false_iff c).mp h
      omega
    -- below three bytes the exponent makes the target smaller still
    rcases Nat.le_total 3 (exponent c) with he | he
    · rw [target_eq_mul h he]
      exact Nat.mul_le_mul_right _ hm
    · calc target c ≤ mantissa c := target_le_mantissa h he
        _ ≤ 2 ^ 23 - 1 := hm
        _ ≤ (2 ^ 23 - 1) * 2 ^ (8 * (exponent c - 3)) :=
            Nat.le_mul_of_pos_right _ (Nat.two_pow_pos _)

/-- A target has at most 23 bits above the bytes of its exponent. -/
theorem target_lt_two_pow (c : Compact) : target c < 2 ^ (23 + 8 * (exponent c - 3)) := by
  calc target c ≤ (2 ^ 23 - 1) * 2 ^ (8 * (exponent c - 3)) := target_le c
    _ < 2 ^ 23 * 2 ^ (8 * (exponent c - 3)) :=
        Nat.mul_lt_mul_of_pos_right (by decide) (Nat.two_pow_pos _)
    _ = 2 ^ (23 + 8 * (exponent c - 3)) := (pow_add _ _ _).symm

-- ---------------------------------------------------------------------------
-- Encoding
-- ---------------------------------------------------------------------------

/-- The bytes that a number takes up if its highest bit has to be a spare one. -/
def signedLength (n : Nat) : Nat :=
  bitLength n / 8 + 1

/-- One byte holds the signed length of a target that is not cut off. -/
theorem signedLength_lt {n : Nat} (hfit : bitLength n < 2040) : signedLength n < 256 := by
  rw [signedLength]
  omega

/-- The three leading bytes of a number, counted from its signed length. -/
def signedLeading (n : Nat) : Nat :=
  n * 2 ^ 24 / 2 ^ (8 * signedLength n)

/-- The value of the last bit that encoding a target keeps. -/
def keptUnit (n : Nat) : Nat :=
  2 ^ (8 * (signedLength n - 3))

theorem keptUnit_pos (n : Nat) : 0 < keptUnit n :=
  Nat.two_pow_pos _

/-- At most two bytes and a spare bit: nothing is dropped. -/
theorem keptUnit_eq_one {n : Nat} (hlen : signedLength n ≤ 3) : keptUnit n = 1 := by
  rw [keptUnit, Nat.sub_eq_zero_of_le hlen]
  rfl

/-- Both shifts of the encoder are one division. -/
theorem leadingBytes_eq_div (n size : Nat) :
    leadingBytes n size = n * 2 ^ 24 / 2 ^ (8 * size) := by
  rw [leadingBytes]
  -- up to three bytes a multiple is divided, beyond them a quotient is taken
  split
  · next h =>
    have hsplit : 2 ^ 24 = 2 ^ (8 * (3 - size)) * 2 ^ (8 * size) :=
      two_pow_eq_mul (by omega)
    rw [Nat.shiftLeft_eq, hsplit, ← Nat.mul_assoc, Nat.mul_div_cancel _ (Nat.two_pow_pos _)]
  · next h =>
    have hsplit : 2 ^ (8 * size) = 2 ^ (8 * (size - 3)) * 2 ^ 24 :=
      two_pow_eq_mul (by omega)
    rw [Nat.shiftRight_eq_div_pow, hsplit, Nat.mul_div_mul_right _ _ (Nat.two_pow_pos 24)]

/-- The spare bit keeps the sign bit clear. -/
theorem signedLeading_lt (n : Nat) : signedLeading n < 2 ^ 23 := by
  rw [signedLeading, Nat.div_lt_iff_lt_mul (Nat.two_pow_pos _)]
  -- the signed length has one bit more than the number
  have hn : n < 2 ^ (8 * signedLength n - 1) :=
    Nat.lt_of_lt_of_le (lt_two_pow_bitLength n)
      (Nat.pow_le_pow_right (by omega) (by rw [signedLength]; omega))
  have hsplit : 2 ^ 23 * 2 ^ (8 * signedLength n) = 2 ^ (8 * signedLength n - 1) * 2 ^ 24 := by
    rw [← pow_add, ← pow_add]
    congr 1
    rw [signedLength]
    omega
  rw [hsplit]
  exact Nat.mul_lt_mul_of_pos_right hn (Nat.two_pow_pos 24)

/-- Only a number with a spare bit in its top byte fits without the sign bit. -/
theorem leadingBytes_lt_signBit_iff {n : Nat} (hn : n ≠ 0) :
    leadingBytes n (byteLength n) < signBit ↔ bitLength n % 8 ≠ 0 := by
  rw [leadingBytes_eq_div, signBit_eq]
  constructor
  · intro hlt hmod
    -- the top bit of the number is the top bit of its bytes
    have hsize : 8 * byteLength n = bitLength n := by
      rw [byteLength]
      omega
    have hpos := bitLength_pos hn
    have hge : 2 ^ (bitLength n - 1) ≤ n := two_pow_le_of_lt_bitLength (by omega)
    rw [hsize, Nat.div_lt_iff_lt_mul (Nat.two_pow_pos _)] at hlt
    have hsplit : 2 ^ 23 * 2 ^ bitLength n = 2 ^ (bitLength n - 1) * 2 ^ 24 := by
      rw [← pow_add, ← pow_add]
      congr 1
      omega
    rw [hsplit] at hlt
    have := Nat.lt_of_mul_lt_mul_right hlt
    omega
  · intro hmod
    have hsize : byteLength n = signedLength n := by
      rw [byteLength, signedLength]
      omega
    rw [hsize]
    exact signedLeading_lt n

/-- The word of a target by its signed length. -/
theorem ofTarget_eq_pack {n : Nat} (hn : n ≠ 0) (hfit : bitLength n < 2040) :
    ofTarget n = pack (signedLength n) (signedLeading n) := by
  have hsigned := leadingBytes_lt_signBit_iff hn
  rw [ofTarget]
  simp only [if_neg hn]
  rw [if_neg (by rw [byteLength, maxExponent]; omega)]
  -- a full top byte: the encoder moves one byte out of the way of the sign bit
  by_cases hmod : bitLength n % 8 = 0
  · have hsize : byteLength n + 1 = signedLength n := by
      rw [byteLength, signedLength]
      omega
    rw [if_neg (by rw [hsigned]; omega), if_neg (by rw [byteLength, maxExponent]; omega), hsize,
      leadingBytes_eq_div, Nat.shiftRight_eq_div_pow, Nat.div_div_eq_div_mul, ← pow_add,
      signedLeading, ← hsize, Nat.mul_add]
  · -- there is a bit to spare in the top byte already
    have hsize : byteLength n = signedLength n := by
      rw [byteLength, signedLength]
      omega
    rw [if_pos (hsigned.mpr hmod), leadingBytes_eq_div, hsize, signedLeading]

/-- A target whose signed length is more than a byte can say becomes the largest word. -/
theorem ofTarget_of_wide {n : Nat} (hwide : 2040 ≤ bitLength n) : ofTarget n = largest := by
  have hn : n ≠ 0 := by
    rintro rfl
    simp [bitLength] at hwide
  have hsigned := leadingBytes_lt_signBit_iff hn
  rw [ofTarget]
  simp only [if_neg hn]
  by_cases hlong : byteLength n > maxExponent
  · rw [if_pos hlong]
  · -- 255 bytes exactly, and the top bit is set
    rw [byteLength, maxExponent] at hlong
    rw [if_neg (by rw [byteLength, maxExponent]; omega), if_neg (by rw [hsigned]; omega),
      if_pos (by rw [byteLength, maxExponent]; omega)]

-- ---------------------------------------------------------------------------
-- Encoding and decoding
-- ---------------------------------------------------------------------------

theorem exponent_largest : exponent largest = 255 :=
  exponent_pack (by decide) (by decide)

theorem mantissa_largest : mantissa largest = 2 ^ 23 - 1 :=
  mantissa_pack (by decide) (by decide)

theorem target_largest : target largest = (2 ^ 23 - 1) * 2 ^ (8 * (exponent largest - 3)) := by
  have hs : isSigned largest = false := by
    rw [isSigned_eq_false_iff, mantissa_largest]
    decide
  rw [target_eq_mul hs (by rw [exponent_largest]; decide), mantissa_largest]

/-- The exponent of a word is the signed length of its target. -/
theorem exponent_ofTarget {n : Nat} (hn : n ≠ 0) (hfit : bitLength n < 2040) :
    exponent (ofTarget n) = signedLength n := by
  have hlead := signedLeading_lt n
  rw [ofTarget_eq_pack hn hfit]
  exact exponent_pack (signedLength_lt hfit) (by omega)

/-- The mantissa of a word is the leading bytes of its target. -/
theorem mantissa_ofTarget {n : Nat} (hn : n ≠ 0) (hfit : bitLength n < 2040) :
    mantissa (ofTarget n) = signedLeading n := by
  have hlead := signedLeading_lt n
  rw [ofTarget_eq_pack hn hfit]
  exact mantissa_pack (signedLength_lt hfit) (by omega)

theorem isSigned_ofTarget {n : Nat} (hn : n ≠ 0) (hfit : bitLength n < 2040) :
    isSigned (ofTarget n) = false := by
  rw [isSigned_eq_false_iff, mantissa_ofTarget hn hfit]
  exact signedLeading_lt n

/-- Decoding the word of a target gives the target without its low bytes. -/
theorem target_ofTarget {n : Nat} (hfit : bitLength n < 2040) :
    target (ofTarget n) = n / keptUnit n * keptUnit n := by
  by_cases hn : n = 0
  · subst hn
    rw [Nat.zero_div, Nat.zero_mul]
    rfl
  have he := exponent_ofTarget hn hfit
  have hm := mantissa_ofTarget hn hfit
  have hs := isSigned_ofTarget hn hfit
  rcases Nat.le_total 3 (signedLength n) with hlen | hlen
  · have hsplit : 2 ^ (8 * signedLength n) = keptUnit n * 2 ^ 24 := by
      rw [keptUnit, ← pow_add]
      congr 1
      omega
    rw [target_eq_mul hs (by omega), he, hm, signedLeading, hsplit,
      Nat.mul_div_mul_right _ _ (Nat.two_pow_pos 24), keptUnit]
  · have hsplit : n * 2 ^ 24 = n * 2 ^ (8 * (3 - signedLength n)) * 2 ^ (8 * signedLength n) := by
      rw [Nat.mul_assoc, ← pow_add]
      congr 2
      omega
    rw [target_eq_div hs, he, hm, keptUnit_eq_one hlen, Nat.div_one, Nat.mul_one, signedLeading,
      hsplit, Nat.mul_div_cancel _ (Nat.two_pow_pos _), ← hsplit,
      Nat.mul_div_cancel _ (Nat.two_pow_pos 24)]

end Compact

end ChainParams
