import ChainParams.Proofs.Compact.Canonical

/-!
# ChainParams — compact targets in word arithmetic

A target can have any size, but all that is done to its leading bytes fits into words of
32 bits. `ofTargetByWords` and `targetByWords` do it there: the leading bytes are moved into
a word, where zero would have to stand in for a number that the word does not hold; the sign
bit is tested by a mask; the exponent is shifted into its place.

Nothing goes wrong on the way. A number of `size` bytes is below `2^(8 * size)`, so its
three leading bytes are below `2^24`, aligned or not (`leadingBytes_lt`). Both the number
that is moved into a word and the one that is shifted there stay within the word, and the
exponent and the mantissa do not overlap when they are put together (`pack_eq_or`).

## Results

* `word?_short`, `word?_long` — the number that is moved into a word fits into it.
* `toNat_leadingWord`         — the leading bytes in a word are the leading bytes.
* `ofTargetByWords_eq`        — encoding in words is encoding.
* `targetByWords_eq`          — decoding in words is decoding.
-/

namespace ChainParams

/-- A number as a word, if one word holds it. -/
def word? (n : Nat) : Option UInt32 :=
  if n < UInt32.size then some (UInt32.ofNat n) else none

namespace Compact

/-- The three leading bytes of a number of `size` bytes, in a word. -/
def leadingWord (n size : Nat) : UInt32 :=
  if size ≤ 3 then (word? n).getD 0 <<< UInt32.ofNat (8 * (3 - size))
  else (word? (n >>> (8 * (size - 3)))).getD 0

/-- The largest exponent beside the largest mantissa. -/
def largestByWords : UInt32 :=
  UInt32.ofNat maxExponent <<< 24 ||| UInt32.ofNat maxMantissa

/-- The word for a target, put together by word arithmetic. -/
def ofTargetByWords (n : Nat) : UInt32 :=
  let size := byteLength n
  let exponent := UInt32.ofNat size
  let leading := leadingWord n size
  if n = 0 then 0
  else if size > maxExponent then largestByWords
  else if leading &&& 0x800000 = 0 then exponent <<< 24 ||| leading
  else if exponent = UInt32.ofNat maxExponent then largestByWords
  else (exponent + 1) <<< 24 ||| leading >>> 8

/-- The target that a word stands for, taken apart by word arithmetic. -/
def targetByWords (c : UInt32) : Nat :=
  let mantissa := c &&& 0x7fffff
  let exponent := c >>> 24
  if c &&& 0x800000 ≠ 0 then 0
  else if exponent ≤ 3 then (mantissa >>> (8 * (3 - exponent))).toNat
  else mantissa.toNat <<< (8 * (exponent - 3)).toNat

-- ---------------------------------------------------------------------------
-- Words that hold what is moved into them
-- ---------------------------------------------------------------------------

theorem word?_of_lt {n : Nat} (h : n < 2 ^ 32) : word? n = some (UInt32.ofNat n) :=
  if_pos h

theorem lt_two_pow_byteLength (n : Nat) : n < 2 ^ (8 * byteLength n) :=
  Nat.lt_of_lt_of_le (lt_two_pow_bitLength n)
    (Nat.pow_le_pow_right (by omega) (by rw [byteLength]; omega))

/-- A number of at most three bytes fits into a word. -/
theorem word?_short {n : Nat} (h : byteLength n ≤ 3) : word? n = some (UInt32.ofNat n) := by
  refine word?_of_lt ?_
  calc n < 2 ^ (8 * byteLength n) := lt_two_pow_byteLength n
    _ ≤ 2 ^ 32 := Nat.pow_le_pow_right (by omega) (by omega)

/-- The leading bytes are three at most. -/
theorem leadingBytes_lt (n : Nat) : leadingBytes n (byteLength n) < 2 ^ 24 := by
  rw [leadingBytes_eq_div, Nat.div_lt_iff_lt_mul (Nat.two_pow_pos _), Nat.mul_comm (2 ^ 24)]
  exact Nat.mul_lt_mul_of_pos_right (lt_two_pow_byteLength n) (Nat.two_pow_pos 24)

theorem leadingBytes_of_long {n size : Nat} (h : 3 < size) :
    leadingBytes n size = n >>> (8 * (size - 3)) := by
  rw [leadingBytes, if_neg (by omega)]

/-- Of a longer number the three leading bytes do. -/
theorem word?_long {n : Nat} (h : 3 < byteLength n) :
    word? (n >>> (8 * (byteLength n - 3))) =
      some (UInt32.ofNat (n >>> (8 * (byteLength n - 3)))) := by
  refine word?_of_lt ?_
  rw [← leadingBytes_of_long h]
  exact Nat.lt_trans (leadingBytes_lt n) (by decide)

/-- A word that is shifted up within its 32 bits loses none of them. -/
theorem toNat_shiftLeft_of_lt {w : UInt32} {k : Nat} (hk : k < 32) (h : w.toNat * 2 ^ k < 2 ^ 32) :
    (w <<< UInt32.ofNat k).toNat = w.toNat * 2 ^ k := by
  have hShift : (UInt32.ofNat k).toNat % 32 = k := by
    rw [UInt32.toNat_ofNat']
    omega
  rw [UInt32.toNat_shiftLeft, hShift, Nat.shiftLeft_eq, Nat.mod_eq_of_lt h]

/-- A short number loses no bit when it is moved up to three bytes. -/
theorem toNat_short_shiftLeft {n : Nat} (h : byteLength n ≤ 3) :
    (UInt32.ofNat n <<< UInt32.ofNat (8 * (3 - byteLength n))).toNat =
      n * 2 ^ (8 * (3 - byteLength n)) := by
  have hLead : n * 2 ^ (8 * (3 - byteLength n)) < 2 ^ 32 := by
    have hlt := leadingBytes_lt n
    rw [leadingBytes, if_pos h, Nat.shiftLeft_eq] at hlt
    omega
  have hWord : (UInt32.ofNat n).toNat = n := by
    have hle : n ≤ n * 2 ^ (8 * (3 - byteLength n)) :=
      Nat.le_mul_of_pos_right _ (Nat.two_pow_pos _)
    exact UInt32.toNat_ofNat_of_lt' (Nat.lt_of_le_of_lt hle hLead)
  rw [toNat_shiftLeft_of_lt (by omega) (by rw [hWord]; exact hLead), hWord]

theorem toNat_long {n : Nat} (h : 3 < byteLength n) :
    (UInt32.ofNat (n >>> (8 * (byteLength n - 3)))).toNat = n >>> (8 * (byteLength n - 3)) := by
  rw [← leadingBytes_of_long h]
  exact UInt32.toNat_ofNat_of_lt' (Nat.lt_trans (leadingBytes_lt n) (by decide))

/-- The leading bytes in a word are the leading bytes. -/
theorem toNat_leadingWord (n : Nat) :
    (leadingWord n (byteLength n)).toNat = leadingBytes n (byteLength n) := by
  rw [leadingWord]
  split
  · next h =>
    rw [word?_short h, Option.getD_some, toNat_short_shiftLeft h, leadingBytes, if_pos h,
      Nat.shiftLeft_eq]
  · next h =>
    have hlong : 3 < byteLength n := Nat.lt_of_not_le h
    rw [word?_long hlong, Option.getD_some, toNat_long hlong, leadingBytes_of_long hlong]

/-- The leading bytes leave the top byte of their word free. -/
theorem toNat_leadingWord_lt (n : Nat) : (leadingWord n (byteLength n)).toNat < 2 ^ 24 := by
  rw [toNat_leadingWord]
  exact leadingBytes_lt n

/-- The leading bytes without the last one. -/
theorem toNat_leadingWord_shiftRight (n : Nat) :
    (leadingWord n (byteLength n) >>> 8).toNat = leadingBytes n (byteLength n) >>> 8 := by
  rw [UInt32.toNat_shiftRight, toNat_leadingWord]
  rfl

-- ---------------------------------------------------------------------------
-- Encoding
-- ---------------------------------------------------------------------------

theorem exponentUnit_eq : exponentUnit = 2 ^ 24 := by decide

/-- An exponent of one byte loses no bit when it is moved into its place. -/
theorem toNat_exponent_shiftLeft {e : Nat} (he : e < 256) :
    (UInt32.ofNat e <<< 24).toNat = e * 2 ^ 24 := by
  have hExponent : (UInt32.ofNat e).toNat = e := by
    rw [UInt32.toNat_ofNat']
    omega
  have h := toNat_shiftLeft_of_lt (w := UInt32.ofNat e) (k := 24) (by decide) (by omega)
  rw [hExponent] at h
  exact h

/-- An exponent of one byte and a mantissa of three do not overlap. -/
theorem pack_eq_or {e : Nat} {m : UInt32} (he : e < 256) (hm : m.toNat < 2 ^ 24) :
    UInt32.ofNat e <<< 24 ||| m = pack e m.toNat := by
  rw [← UInt32.toNat_inj, UInt32.toNat_or, toNat_exponent_shiftLeft he, ← Nat.shiftLeft_eq,
    ← Nat.shiftLeft_add_eq_or_of_lt hm, toNat_pack he hm, Nat.shiftLeft_eq, exponentUnit_eq]

/-- The mask tests what the comparison with the sign bit does. -/
theorem and_signBit_eq_zero_iff_of_lt {w : UInt32} (h : w.toNat < 2 ^ 24) :
    w &&& 0x800000 = 0 ↔ w.toNat < signBit := by
  rw [and_signBit_eq_zero_iff, isSigned_eq_false_iff, signBit_eq]
  rw [mantissa, exponentUnit]
  omega

/-- Exponents that fit into a byte are told apart in words. -/
theorem ofNat_eq_maxExponent_iff {size : Nat} (h : ¬ size > maxExponent) :
    UInt32.ofNat size = UInt32.ofNat maxExponent ↔ size = maxExponent := by
  have hSize : (UInt32.ofNat size).toNat = size := by
    rw [maxExponent] at h
    rw [UInt32.toNat_ofNat']
    omega
  rw [← UInt32.toNat_inj, hSize]
  rfl

/-- **Encoding in words is encoding.** -/
theorem ofTargetByWords_eq (n : Nat) : ofTargetByWords n = ofTarget n := by
  have hWord := toNat_leadingWord n
  have hlt := toNat_leadingWord_lt n
  have hSign := and_signBit_eq_zero_iff_of_lt hlt
  have hLargest : largestByWords = largest := by decide
  rw [ofTargetByWords, ofTarget]
  simp only [hLargest, hSign, hWord]
  -- along the ways out of the encoder, in its order; both forms take the same one
  by_cases hzero : n = 0
  · rw [if_pos hzero, if_pos hzero]
  by_cases hwide : byteLength n > maxExponent
  · rw [if_neg hzero, if_neg hzero, if_pos hwide, if_pos hwide]
  have hbytes : byteLength n ≤ 255 := Nat.le_of_not_lt hwide
  rw [if_neg hzero, if_neg hzero, if_neg hwide, if_neg hwide]
  by_cases hspare : leadingBytes n (byteLength n) < signBit
  · rw [if_pos hspare, if_pos hspare, pack_eq_or (by omega) hlt, hWord]
  rw [if_neg hspare, if_neg hspare]
  have hFull := ofNat_eq_maxExponent_iff hwide
  by_cases hfull : byteLength n = maxExponent
  · rw [if_pos (hFull.mpr hfull), if_pos hfull]
  · -- one byte of the mantissa makes room for the sign bit
    have hmore : byteLength n < 255 := Nat.lt_of_le_of_ne hbytes hfull
    have hCut : (leadingWord n (byteLength n) >>> 8).toNat < 2 ^ 24 := by
      rw [UInt32.toNat_shiftRight]
      exact Nat.lt_of_le_of_lt (Nat.shiftRight_le _ _) hlt
    rw [if_neg (mt hFull.mp hfull), if_neg hfull, ← UInt32.ofNat_one, ← UInt32.ofNat_add,
      pack_eq_or (by omega) hCut, toNat_leadingWord_shiftRight]

-- ---------------------------------------------------------------------------
-- Decoding
-- ---------------------------------------------------------------------------

/-- How far a short mantissa is moved down. -/
theorem toNat_shortShift {e : UInt32} (h : e ≤ 3) : (8 * (3 - e)).toNat = 8 * (3 - e.toNat) := by
  rw [UInt32.toNat_mul, UInt32.toNat_sub_of_le _ _ h]
  show 8 * (3 - e.toNat) % 2 ^ 32 = 8 * (3 - e.toNat)
  omega

/-- How far a longer one is moved up. -/
theorem toNat_longShift {e : UInt32} (h : 3 ≤ e) (hlt : e.toNat < 256) :
    (8 * (e - 3)).toNat = 8 * (e.toNat - 3) := by
  rw [UInt32.toNat_mul, UInt32.toNat_sub_of_le _ _ h]
  show 8 * (e.toNat - 3) % 2 ^ 32 = 8 * (e.toNat - 3)
  omega

/-- **Decoding in words is decoding.** -/
theorem targetByWords_eq (c : UInt32) : targetByWords c = target c := by
  have he := exponent_eq_shiftRight c
  have hlt := exponent_lt c
  have hShort : c >>> 24 ≤ 3 ↔ exponent c ≤ 3 := by
    rw [UInt32.le_iff_toNat_le, he]
    rfl
  rw [targetByWords, target]
  simp only [ne_eq, and_signBit_eq_zero_iff, hShort]
  cases hs : isSigned c with
  | true => rfl
  | false =>
    have hm : (c &&& 0x7fffff).toNat = mantissa c := by
      rw [toNat_and_maxMantissa, Nat.mod_eq_of_lt ((isSigned_eq_false_iff c).mp hs)]
    simp only [not_true_eq_false, Bool.false_eq_true, if_false]
    -- the exponent decides about the direction of the shift, in both forms alike
    by_cases hshort : exponent c ≤ 3
    · rw [if_pos hshort, if_pos hshort, UInt32.toNat_shiftRight,
        toNat_shortShift (hShort.mpr hshort), hm, ← he, Nat.mod_eq_of_lt (by omega)]
    · have hLong : (3 : UInt32) ≤ c >>> 24 := by
        rw [UInt32.le_iff_toNat_le, ← he]
        exact Nat.le_of_not_le hshort
      rw [if_neg hshort, if_neg hshort, toNat_longShift hLong (by omega), hm, ← he]

end Compact

end ChainParams
