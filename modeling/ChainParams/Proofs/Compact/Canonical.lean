import ChainParams.Proofs.Compact.Rounding
import Mathlib.Data.Nat.Bitwise

/-!
# ChainParams — canonical words

Many words stand for one target: a word with its sign bit stands for zero whatever else it
holds, and a mantissa with leading zeros can give a byte to the exponent. The encoder gives
one of them, and which one can be read off the word: it is zero, or it is *normal* — the
sign bit is clear, the mantissa has no more than seven leading zeros behind that bit, and
what decoding shifts out of a short mantissa is zero.

A normal word stands for a target whose signed length is its exponent, since the top bit of
the mantissa is one of the eight that the signed length allows (`signedLength_target`).
Nothing was shifted out, so the leading bytes of the target are the mantissa, and the
encoder puts the same word together again.

## Results

* `isCanonical_ofTarget`   — the encoder gives canonical words only.
* `ofTarget_target`        — a canonical word is the one of its target.
* `target_ofTarget_target` — no decoded target loses anything by encoding.
* `isCanonical_iff_fields` — the canonical words by the bits of their fields.
* `canonical_words`        — the canonical words are the fixed points and the image.
-/

namespace ChainParams

namespace Compact

-- ---------------------------------------------------------------------------
-- The fields of a word
-- ---------------------------------------------------------------------------

/-- A word is its exponent and its mantissa. -/
theorem pack_exponent_mantissa (c : Compact) : pack (exponent c) (mantissa c) = c := by
  rw [pack, exponent, mantissa, Nat.mul_comm, Nat.div_add_mod]
  exact UInt32.ofNat_toNat

/-- The exponent is the top byte. -/
theorem exponent_eq_shiftRight (c : Compact) : exponent c = (c >>> 24).toNat := by
  rw [UInt32.toNat_shiftRight, Nat.shiftRight_eq_div_pow]
  rfl

/-- The mantissa without its top bit is the low 23 bits. -/
theorem toNat_and_maxMantissa (c : Compact) : (c &&& 0x7fffff).toNat = mantissa c % 2 ^ 23 := by
  rw [UInt32.toNat_and, show (0x7fffff : UInt32).toNat = 2 ^ 23 - 1 from rfl,
    Nat.and_two_pow_sub_one_eq_mod, mantissa, exponentUnit]
  omega

/-- The sign bit is the top bit of the mantissa. -/
theorem and_signBit_eq_zero_iff (c : Compact) : c &&& 0x800000 = 0 ↔ isSigned c = false := by
  rw [isSigned_eq_false_iff, ← UInt32.toNat_inj, UInt32.toNat_and,
    show (0x800000 : UInt32).toNat = 2 ^ 23 from rfl, Nat.and_two_pow, UInt32.toNat_zero,
    Nat.testBit_eq_decide_div_mod_eq, mantissa, exponentUnit]
  rw [Nat.mul_eq_zero, Bool.toNat_eq_zero, decide_eq_false_iff_not]
  omega

-- ---------------------------------------------------------------------------
-- Canonical words
-- ---------------------------------------------------------------------------

/-- The form of the words for targets other than zero. -/
structure IsNormal (c : Compact) : Prop where
  unsigned : isSigned c = false
  exponent_pos : 1 ≤ exponent c
  le_mantissa : 2 ^ 15 ≤ mantissa c
  /-- In a word of fewer than three bytes nothing stands behind them. -/
  dvd_mantissa : exponent c < 3 → 2 ^ (8 * (3 - exponent c)) ∣ mantissa c

/-- The words that encoding can give. -/
def IsCanonical (c : Compact) : Prop :=
  c = 0 ∨ IsNormal c

theorem IsCanonical.unsigned {c : Compact} (h : IsCanonical c) : isSigned c = false := by
  rcases h with rfl | h
  · rfl
  · exact h.unsigned

/-- With one bit to spare in the top byte, the leading bytes have 16 bits at least. -/
theorem signedLeading_ge {n : Nat} (hn : n ≠ 0) : 2 ^ 15 ≤ signedLeading n := by
  have hpos := bitLength_pos hn
  have hge : 2 ^ (bitLength n - 1) ≤ n := two_pow_le_of_lt_bitLength (by omega)
  rw [signedLeading, Nat.le_div_iff_mul_le (Nat.two_pow_pos _)]
  -- the top bit of the number is moved up by 24, and at most eight bits are spare
  calc 2 ^ 15 * 2 ^ (8 * signedLength n) = 2 ^ (15 + 8 * signedLength n) := (pow_add _ _ _).symm
    _ ≤ 2 ^ (bitLength n - 1 + 24) :=
        Nat.pow_le_pow_right (by omega) (by rw [signedLength]; omega)
    _ = 2 ^ (bitLength n - 1) * 2 ^ 24 := pow_add _ _ _
    _ ≤ n * 2 ^ 24 := Nat.mul_le_mul_right _ hge

/-- The leading bytes of a short number are the number with zero bytes behind it. -/
theorem dvd_signedLeading {n : Nat} (hlen : signedLength n < 3) :
    2 ^ (8 * (3 - signedLength n)) ∣ signedLeading n := by
  have hsplit : 2 ^ 24 = 2 ^ (8 * (3 - signedLength n)) * 2 ^ (8 * signedLength n) :=
    two_pow_eq_mul (by omega)
  rw [signedLeading, hsplit, ← Nat.mul_assoc, Nat.mul_div_cancel _ (Nat.two_pow_pos _)]
  exact Nat.dvd_mul_left _ _

/-- The largest word is normal, so cutting a target off gives a canonical word too. -/
theorem isNormal_largest : IsNormal largest where
  unsigned := by rw [isSigned_eq_false_iff, mantissa_largest]; decide
  exponent_pos := by rw [exponent_largest]; decide
  le_mantissa := by rw [mantissa_largest]; decide
  dvd_mantissa h := by rw [exponent_largest] at h; omega

/-- Encoding gives canonical words only. -/
theorem isCanonical_ofTarget (n : Nat) : IsCanonical (ofTarget n) := by
  by_cases hn : n = 0
  · subst hn
    exact Or.inl rfl
  refine Or.inr ?_
  -- a target that one byte of exponent measures, and one that is cut off
  rcases Nat.lt_or_ge (bitLength n) 2040 with hfit | hwide
  · have he := exponent_ofTarget hn hfit
    have hm := mantissa_ofTarget hn hfit
    refine ⟨isSigned_ofTarget hn hfit, ?_, ?_, ?_⟩
    · rw [he, signedLength]
      omega
    · rw [hm]
      exact signedLeading_ge hn
    · rw [he, hm]
      exact dvd_signedLeading
  · rw [ofTarget_of_wide hwide]
    exact isNormal_largest

-- ---------------------------------------------------------------------------
-- The target of a canonical word
-- ---------------------------------------------------------------------------

/-- Decoding a normal word drops nothing of the mantissa. -/
theorem IsNormal.target_mul {c : Compact} (h : IsNormal c) :
    target c * 2 ^ 24 = mantissa c * 2 ^ (8 * exponent c) := by
  rw [target_eq_div h.unsigned]
  refine Nat.div_mul_cancel ?_
  -- a short mantissa is moved down over zeros, and a long one is only moved up
  rcases Nat.lt_or_ge (exponent c) 3 with he | he
  · have hsplit : 2 ^ 24 = 2 ^ (8 * (3 - exponent c)) * 2 ^ (8 * exponent c) :=
      two_pow_eq_mul (by omega)
    rw [hsplit]
    exact Nat.mul_dvd_mul_right (h.dvd_mantissa he) _
  · exact Nat.dvd_mul_left_of_dvd (Nat.pow_dvd_pow 2 (by omega)) _

/-- The exponent of a normal word is the signed length of its target. -/
theorem IsNormal.signedLength_target {c : Compact} (h : IsNormal c) :
    signedLength (target c) = exponent c := by
  have hpos := h.exponent_pos
  have hmul := h.target_mul
  have hm := (isSigned_eq_false_iff c).mp h.unsigned
  -- the target leaves the top bit of its top byte alone, because the mantissa does
  have hlt : target c < 2 ^ (8 * exponent c - 1) := by
    refine Nat.lt_of_mul_lt_mul_right (a := 2 ^ 24) ?_
    calc target c * 2 ^ 24 = mantissa c * 2 ^ (8 * exponent c) := hmul
      _ < 2 ^ 23 * 2 ^ (8 * exponent c) := Nat.mul_lt_mul_of_pos_right hm (Nat.two_pow_pos _)
      _ = 2 ^ (8 * exponent c - 1) * 2 ^ 24 := by
          rw [← pow_add, ← pow_add]
          congr 1
          omega
  have hupper : bitLength (target c) ≤ 8 * exponent c - 1 := bitLength_le_iff.mpr hlt
  -- and it reaches into that byte, or up to its edge, because the mantissa has 16 bits
  have hlower : 8 * (exponent c - 1) ≤ bitLength (target c) := by
    rcases Nat.eq_or_lt_of_le hpos with hone | hmore
    · rw [← hone]
      omega
    · have hge : 2 ^ (8 * exponent c - 9) ≤ target c := by
        refine Nat.le_of_mul_le_mul_right (c := 2 ^ 24) ?_ (Nat.two_pow_pos 24)
        calc 2 ^ (8 * exponent c - 9) * 2 ^ 24 = 2 ^ 15 * 2 ^ (8 * exponent c) := by
              rw [← pow_add, ← pow_add]
              congr 1
              omega
          _ ≤ mantissa c * 2 ^ (8 * exponent c) := Nat.mul_le_mul_right _ h.le_mantissa
          _ = target c * 2 ^ 24 := hmul.symm
      have := lt_bitLength_iff.mpr hge
      omega
  rw [signedLength]
  omega

/-- A canonical word is the one of its target. -/
theorem ofTarget_target {c : Compact} (h : IsCanonical c) : ofTarget (target c) = c := by
  rcases h with rfl | h
  · rfl
  have hlen := h.signedLength_target
  -- a normal word does not stand for zero, as its mantissa is not zero
  have hne : target c ≠ 0 := by
    intro hzero
    have hmul := h.target_mul
    have hm := h.le_mantissa
    rw [hzero, Nat.zero_mul] at hmul
    have := Nat.mul_pos (Nat.lt_of_lt_of_le (by decide) hm) (Nat.two_pow_pos (8 * exponent c))
    omega
  have hfit : bitLength (target c) < 2040 := by
    have := exponent_lt c
    rw [signedLength] at hlen
    omega
  have hlead : signedLeading (target c) = mantissa c := by
    rw [signedLeading, hlen, h.target_mul, Nat.mul_div_cancel _ (Nat.two_pow_pos _)]
  rw [ofTarget_eq_pack hne hfit, hlen, hlead, pack_exponent_mantissa]

/-- A word is canonical exactly if decoding and encoding gives it back. -/
theorem isCanonical_iff_ofTarget_target (c : Compact) :
    IsCanonical c ↔ ofTarget (target c) = c := by
  constructor
  · exact ofTarget_target
  · intro h
    rw [← h]
    exact isCanonical_ofTarget _

-- ---------------------------------------------------------------------------
-- Targets that come from words
-- ---------------------------------------------------------------------------

/-- The target of a word, canonical or not, is one that the encoder does not cut off. -/
theorem bitLength_target_lt (c : Compact) : bitLength (target c) < 2040 := by
  have he := exponent_lt c
  have hbits : bitLength (target c) ≤ 23 + 8 * (exponent c - 3) :=
    bitLength_le_iff.mpr (target_lt_two_pow c)
  omega

/-- No decoded target loses anything by encoding. -/
theorem target_ofTarget_target (c : Compact) : target (ofTarget (target c)) = target c := by
  rw [target_ofTarget (bitLength_target_lt c)]
  exact Nat.le_antisymm (Nat.div_mul_le_self _ _) (target_le_of_target_le (Nat.le_refl _))

-- ---------------------------------------------------------------------------
-- Canonical words by their bits
-- ---------------------------------------------------------------------------

/-- The canonical words by the bits of their fields. -/
theorem isCanonical_iff_fields (c : Compact) :
    IsCanonical c ↔ c = 0 ∨ (c &&& 0x800000 = 0 ∧ 1 ≤ (c >>> 24).toNat ∧
      0x8000 ≤ (c &&& 0x7fffff).toNat ∧
      ((c >>> 24).toNat < 3 → 2 ^ (8 * (3 - (c >>> 24).toNat)) ∣ (c &&& 0x7fffff).toNat)) := by
  rw [IsCanonical, and_signBit_eq_zero_iff, ← exponent_eq_shiftRight, toNat_and_maxMantissa]
  refine or_congr_right ?_
  -- with the sign bit clear, the low 23 bits are the mantissa
  constructor
  · rintro ⟨hs, he, hm, hdvd⟩
    rw [Nat.mod_eq_of_lt ((isSigned_eq_false_iff c).mp hs)]
    exact ⟨hs, he, hm, hdvd⟩
  · rintro ⟨hs, he, hm, hdvd⟩
    rw [Nat.mod_eq_of_lt ((isSigned_eq_false_iff c).mp hs)] at hm hdvd
    exact ⟨hs, he, hm, hdvd⟩

/--
**The canonical words.** Encoding the target of a word gives the word back exactly if the
word is zero, or its sign bit is clear, its exponent is not zero, its mantissa is at least
0x8000, and an exponent below three leaves no bits behind it. These are the words that
encoding gives, so that encoding, decoding and encoding again is encoding. And encoding a
target that comes from any word, canonical or not, loses nothing of it.
-/
theorem canonical_words :
    (∀ c : Compact, ofTarget (target c) = c ↔
      c = 0 ∨ (c &&& 0x800000 = 0 ∧ 1 ≤ (c >>> 24).toNat ∧ 0x8000 ≤ (c &&& 0x7fffff).toNat ∧
        ((c >>> 24).toNat < 3 →
          2 ^ (8 * (3 - (c >>> 24).toNat)) ∣ (c &&& 0x7fffff).toNat))) ∧
    (∀ c : Compact, ofTarget (target c) = c ↔ ∃ n, ofTarget n = c) ∧
    (∀ n, ofTarget (target (ofTarget n)) = ofTarget n) ∧
    (∀ c : Compact, target (ofTarget (target c)) = target c) := by
  have himage : ∀ n, ofTarget (target (ofTarget n)) = ofTarget n :=
    fun n => ofTarget_target (isCanonical_ofTarget n)
  refine ⟨fun c => ?_, fun c => ?_, himage, target_ofTarget_target⟩
  · rw [← isCanonical_iff_ofTarget_target, isCanonical_iff_fields]
  · constructor
    · intro h
      exact ⟨target c, h⟩
    · rintro ⟨n, rfl⟩
      exact himage n

end Compact

end ChainParams
