import ChainParams.Proofs.Compact.ClosedForm

/-!
# ChainParams — the precision of compact targets

Decoding the word of a target gives the target without its low bytes, which is the target
rounded down to a multiple of `keptUnit`. That unit is a power of two below the top bit, so
rounding keeps the top bit (`bitLength_target_ofTarget`), and at least fifteen more bits stand
above what is dropped: the error is less than one part in `2^15`. It comes close to that
where the top byte has its top bit set, since only two bytes are kept then.

The largest word is the word of every target from its own on: the next multiple of the unit
is `2^2039`, and from there on targets are cut off.

## Results

* `bitLength_target_ofTarget` — a decoded target is as long as the one that was encoded.
* `error_lt`                  — it is smaller by less than one part in `2^15`.
* `target_ofTarget_eq_iff`    — it is the same one if its low bytes are zero.
* `ofTarget_eq_largest_iff`   — the targets of the largest word.
* `precision`                 — all of this by the bits of the target.
-/

namespace ChainParams

namespace Compact

/-- The unit that encoding rounds to, by the length of the target. -/
theorem keptUnit_eq (n : Nat) : keptUnit n = 2 ^ (8 * (bitLength n / 8 - 2)) := by
  rw [keptUnit, signedLength]
  rfl

/-- Encoding never rounds up. -/
theorem target_ofTarget_le {n : Nat} (hfit : bitLength n < 2040) : target (ofTarget n) ≤ n := by
  rw [target_ofTarget hfit]
  exact Nat.div_mul_le_self n _

-- ---------------------------------------------------------------------------
-- What is kept
-- ---------------------------------------------------------------------------

/-- The top bit of a target is a multiple of the unit that it is rounded to. -/
theorem bitLength_target_ofTarget {n : Nat} (hn : n ≠ 0) (hfit : bitLength n < 2040) :
    bitLength (target (ofTarget n)) = bitLength n := by
  have hpos := bitLength_pos hn
  -- rounding down to a multiple does not go below the top bit, which is one
  have hTop : 2 ^ (bitLength n - 1) ≤ target (ofTarget n) := by
    rw [target_ofTarget hfit]
    refine le_div_mul_of_dvd ?_ (two_pow_le_of_lt_bitLength (by omega))
    rw [keptUnit_eq]
    exact Nat.pow_dvd_pow 2 (by omega)
  have hUpper := bitLength_mono (target_ofTarget_le hfit)
  have hLower := lt_bitLength_iff.mpr hTop
  omega

/-- What is dropped is less than one unit, and a target of four signed bytes or more has at
least `2^15` units. -/
theorem error_lt {n : Nat} (hn : n ≠ 0) (hfit : bitLength n < 2040) :
    2 ^ 15 * (n - target (ofTarget n)) < n := by
  rw [target_ofTarget hfit]
  rcases Nat.lt_or_ge 3 (signedLength n) with hlen | hlen
  · have hDropped : n - n / keptUnit n * keptUnit n < keptUnit n := by
      have hle := Nat.div_mul_le_self n (keptUnit n)
      have hlt := Nat.lt_div_mul_add (a := n) (keptUnit_pos n)
      omega
    calc 2 ^ 15 * (n - n / keptUnit n * keptUnit n)
        < 2 ^ 15 * keptUnit n := Nat.mul_lt_mul_of_pos_left hDropped (Nat.two_pow_pos 15)
      _ ≤ n / keptUnit n * keptUnit n := le_keptUnit_mul hlen
      _ ≤ n := Nat.div_mul_le_self n _
  · rw [keptUnit_eq_one hlen, Nat.div_one, Nat.mul_one, Nat.sub_self, Nat.mul_zero]
    omega

/-- Nothing is lost of a target whose low bytes are zero. -/
theorem target_ofTarget_eq_iff {n : Nat} (hfit : bitLength n < 2040) :
    target (ofTarget n) = n ↔ keptUnit n ∣ n := by
  rw [target_ofTarget hfit]
  constructor
  · intro h
    exact ⟨n / keptUnit n, by rw [Nat.mul_comm, h]⟩
  · exact Nat.div_mul_cancel

/-- A target is a multiple of the unit if it is short, or if its low bytes are zero. -/
theorem keptUnit_dvd_iff (n : Nat) :
    keptUnit n ∣ n ↔ bitLength n < 24 ∨ 2 ^ (8 * (bitLength n / 8 - 2)) ∣ n := by
  rw [← keptUnit_eq]
  constructor
  · exact Or.inr
  · rintro (hshort | hdvd)
    · rw [keptUnit_eq_one (by rw [signedLength]; omega)]
      exact Nat.one_dvd n
    · exact hdvd

-- ---------------------------------------------------------------------------
-- The largest word
-- ---------------------------------------------------------------------------

theorem target_largest_eq : target largest = 0x7fffff * 2 ^ 2016 := by
  have hExponent : 8 * (exponent largest - 3) = 2016 := by rw [exponent_largest]
  have hMantissa : 2 ^ 23 - 1 = 0x7fffff := by decide
  rw [target_largest, hExponent, hMantissa]

/-- The next multiple of the unit is beyond the largest word. -/
theorem two_pow_2039_eq : 2 ^ 2039 = (0x7fffff + 1) * 2 ^ 2016 := by
  have hNext : 0x7fffff + 1 = 2 ^ 23 := by decide
  rw [hNext]
  exact two_pow_eq_mul rfl

/-- From the target of the largest word on, a target that is not cut off has 2039 bits. -/
theorem bitLength_of_largest {n : Nat} (hfit : bitLength n < 2040)
    (h : 0x7fffff * 2 ^ 2016 ≤ n) : bitLength n = 2039 := by
  have hTop : 2 ^ 2038 ≤ n := by
    calc 2 ^ 2038 = 2 ^ 22 * 2 ^ 2016 := two_pow_eq_mul rfl
      _ ≤ 0x7fffff * 2 ^ 2016 := Nat.mul_le_mul_right _ (by decide)
      _ ≤ n := h
  have := lt_bitLength_iff.mpr hTop
  omega

/-- A target between that of the largest word and `2^2039` has the largest mantissa. -/
theorem ofTarget_of_target_largest_le {n : Nat} (hfit : bitLength n < 2040)
    (h : 0x7fffff * 2 ^ 2016 ≤ n) : ofTarget n = largest := by
  have hlen := bitLength_of_largest hfit h
  have hn : n ≠ 0 := by
    rintro rfl
    simp [bitLength] at hlen
  have hSize : signedLength n = 255 := by rw [signedLength, hlen]
  -- it lies between two multiples of the unit with no other between them
  have hLead : signedLeading n = 0x7fffff := by
    have hsplit : 2 ^ (8 * 255) = 2 ^ 2016 * 2 ^ 24 := two_pow_eq_mul rfl
    have hUpper : n < (0x7fffff + 1) * 2 ^ 2016 := by
      rw [← two_pow_2039_eq]
      exact bitLength_lt_2040_iff.mp hfit
    rw [signedLeading, hSize, hsplit, Nat.mul_div_mul_right _ _ (Nat.two_pow_pos 24)]
    exact Nat.div_eq_of_lt_le h hUpper
  rw [ofTarget_eq_pack hn hfit, hSize, hLead]
  rfl

/-- The targets of the largest word, cut off or not. -/
theorem ofTarget_eq_largest_iff (n : Nat) : ofTarget n = largest ↔ 0x7fffff * 2 ^ 2016 ≤ n := by
  rcases Nat.lt_or_ge (bitLength n) 2040 with hfit | hwide
  · constructor
    · intro h
      rw [← target_largest_eq, ← h]
      exact target_ofTarget_le hfit
    · exact ofTarget_of_target_largest_le hfit
  · refine iff_of_true (ofTarget_of_wide hwide) ?_
    calc 0x7fffff * 2 ^ 2016 ≤ (0x7fffff + 1) * 2 ^ 2016 := Nat.mul_le_mul_right _ (Nat.le_succ _)
      _ = 2 ^ 2039 := two_pow_2039_eq.symm
      _ ≤ n := two_pow_le_of_lt_bitLength hwide

/--
**The precision of compact targets.** Encoding a target below `2^2039` and decoding it again
keeps its length in bits and loses less than one part in `2^15` of it; it loses nothing
exactly if the target has fewer than 24 bits or all but its leading bytes are zero. The
largest word is the word of the targets from `0x7fffff * 2^2016` on.
-/
theorem precision (n : Nat) :
    (0 < n → n < 2 ^ 2039 →
      bitLength (target (ofTarget n)) = bitLength n ∧
      target (ofTarget n) ≤ n ∧ 2 ^ 15 * (n - target (ofTarget n)) < n ∧
      (target (ofTarget n) = n ↔
        bitLength n < 24 ∨ 2 ^ (8 * (bitLength n / 8 - 2)) ∣ n)) ∧
    (ofTarget n = 0xff7fffff ↔ 0x7fffff * 2 ^ 2016 ≤ n) := by
  refine ⟨fun hpos hlt => ?_, ?_⟩
  · have hn : n ≠ 0 := by omega
    have hfit := bitLength_lt_2040_iff.mpr hlt
    refine ⟨bitLength_target_ofTarget hn hfit, target_ofTarget_le hfit, error_lt hn hfit, ?_⟩
    rw [target_ofTarget_eq_iff hfit, keptUnit_dvd_iff]
  · rw [← largest_eq]
    exact ofTarget_eq_largest_iff n

/-- With the top bit of the top byte set two bytes are kept of three, and the error comes close
to one part in `2^15`. -/
example : target (ofTarget 0x8000ff) = 0x800000 ∧ 0x8000ff < 2 ^ 15 * (0xff + 2) := by decide

end Compact

end ChainParams
