import ChainParams.Proofs.Compact.WordArithmetic

/-!
# ChainParams — compact targets in closed form

Encoding counts bytes, shifts one way or the other, moves a byte out of the way of the sign
bit and leaves early in three places. All of it is one formula: the word of `n` is
`e * 2^24 + n * 2^24 / 2^(8 * e)`, where `e` counts the bytes of `n` with one bit to spare,
until `e` is more than a byte can say. Decoding is the same fraction the other way round.

## Results

* `toNat_ofTarget`         — the word of a target as a number.
* `ofTarget_of_two_pow_le` — the targets that saturate.
* `target_eq_fields`       — the target of a word by the bits of its fields.
* `closed_form`            — both formulas, and word arithmetic that never leaves a word.
-/

namespace ChainParams

namespace Compact

/-- The targets that are not cut off, by their bits and by their size. -/
theorem bitLength_lt_2040_iff {n : Nat} : bitLength n < 2040 ↔ n < 2 ^ 2039 := by
  rw [Nat.lt_succ_iff, bitLength_le_iff]

/-- The word of a target is its signed length above its leading bytes. -/
theorem toNat_ofTarget {n : Nat} (hn : n ≠ 0) (hfit : n < 2 ^ 2039) :
    (ofTarget n).toNat = signedLength n * 2 ^ 24 + signedLeading n := by
  have hbits := bitLength_lt_2040_iff.mpr hfit
  have hlead := signedLeading_lt n
  rw [ofTarget_eq_pack hn hbits, toNat_pack (signedLength_lt hbits) (by omega), exponentUnit_eq]

theorem largest_eq : largest = 0xff7fffff := by decide

/-- From `2^2039` on every target becomes the largest word. -/
theorem ofTarget_of_two_pow_le {n : Nat} (h : 2 ^ 2039 ≤ n) : ofTarget n = 0xff7fffff := by
  rw [← largest_eq]
  exact ofTarget_of_wide (lt_bitLength_iff.mpr h)

theorem target_eq_fields {c : Compact} (h : c &&& 0x800000 = 0) :
    target c = (c &&& 0x7fffff).toNat * 2 ^ (8 * (c >>> 24).toNat) / 2 ^ 24 := by
  have hs := (and_signBit_eq_zero_iff c).mp h
  have hm := (isSigned_eq_false_iff c).mp hs
  rw [target_eq_div hs, ← exponent_eq_shiftRight, toNat_and_maxMantissa, Nat.mod_eq_of_lt hm]

/-- A word with its sign bit set stands for zero. -/
theorem target_of_signBit {c : Compact} (h : c &&& 0x800000 ≠ 0) : target c = 0 := by
  refine target_of_isSigned ?_
  rw [← Bool.not_eq_false]
  exact mt (and_signBit_eq_zero_iff c).mpr h

/--
**Compact targets in closed form.** Zero is the word zero; a target below `2^2039` is its
exponent `e` beside the mantissa `n * 2^24 / 2^(8 * e)`, which leaves the sign bit clear; and
every other target is the largest word. A word without its sign bit stands for its mantissa
times `2^(8 * e) / 2^24`, rounded down, and one with its sign bit for zero.

Word arithmetic comes to the same: what is moved into a word fits into it, so that nothing
has to stand in for it, and shifting it or the exponent up drops no bit.
-/
theorem closed_form :
    ofTarget 0 = 0 ∧
    (∀ n, 0 < n → n < 2 ^ 2039 →
      (ofTarget n).toNat =
        (bitLength n / 8 + 1) * 2 ^ 24 + n * 2 ^ 24 / 2 ^ (8 * (bitLength n / 8 + 1)) ∧
      n * 2 ^ 24 / 2 ^ (8 * (bitLength n / 8 + 1)) < 2 ^ 23) ∧
    (∀ n, 2 ^ 2039 ≤ n → ofTarget n = 0xff7fffff) ∧
    (∀ c : Compact, c &&& 0x800000 = 0 →
      target c = (c &&& 0x7fffff).toNat * 2 ^ (8 * (c >>> 24).toNat) / 2 ^ 24) ∧
    (∀ c : Compact, c &&& 0x800000 ≠ 0 → target c = 0) ∧
    (∀ n, ofTargetByWords n = ofTarget n) ∧
    (∀ c : Compact, targetByWords c = target c) ∧
    (∀ n, byteLength n ≤ 3 → ∃ w, word? n = some w ∧
      (w <<< UInt32.ofNat (8 * (3 - byteLength n))).toNat = n * 2 ^ (8 * (3 - byteLength n))) ∧
    (∀ n, 3 < byteLength n → ∃ w, word? (n >>> (8 * (byteLength n - 3))) = some w ∧
      w.toNat = n / 2 ^ (8 * (byteLength n - 3))) ∧
    (∀ e, e < 256 → (UInt32.ofNat e <<< 24).toNat = e * 2 ^ 24) := by
  refine ⟨rfl, fun n hn hfit => ?_, fun n => ofTarget_of_two_pow_le, fun c => target_eq_fields,
    fun c => target_of_signBit, ofTargetByWords_eq, targetByWords_eq, fun n hshort => ?_,
    fun n hlong => ?_, fun e => toNat_exponent_shiftLeft⟩
  · exact ⟨toNat_ofTarget (by omega) hfit, signedLeading_lt n⟩
  · exact ⟨_, word?_short hshort, toNat_short_shiftLeft hshort⟩
  · refine ⟨_, word?_long hlong, ?_⟩
    rw [← Nat.shiftRight_eq_div_pow]
    exact toNat_long hlong

/-- A number whose only byte has its top bit set gives that bit a byte of its own. -/
example : ofTarget 0x80 = 0x02008000 := by decide

end Compact

end ChainParams
