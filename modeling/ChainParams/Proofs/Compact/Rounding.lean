import ChainParams.Proofs.Compact.Form

/-!
# ChainParams — compact targets round down

A word holds 23 bits of a target at most, so encoding loses something. It loses as little
as possible: among the targets of *all* words, those that the encoder never gives
included, decoding the word of `n` gives the greatest one that does not exceed `n`.

A competing word either has an exponent at least as large as the encoder's, and then its
target is a multiple of the unit that the encoder rounds to; or it has a smaller one, and
then even its largest mantissa stays below the leading bits that the encoder keeps.

## Results

* `target_le_largest`          — no word stands for more than the largest one.
* `isGreatest_target_ofTarget` — encoding and decoding is the best approximation from below.
-/

namespace ChainParams

namespace Compact

/-- No word stands for more than the largest one. -/
theorem target_le_largest (c : Compact) : target c ≤ target largest := by
  have hexp : exponent c ≤ exponent largest := by
    have := exponent_lt c
    rw [exponent_largest]
    omega
  rw [target_largest]
  calc target c ≤ (2 ^ 23 - 1) * 2 ^ (8 * (exponent c - 3)) := target_le c
    _ ≤ (2 ^ 23 - 1) * 2 ^ (8 * (exponent largest - 3)) :=
        Nat.mul_le_mul_left _ (Nat.pow_le_pow_right (by omega) (by omega))

/-- A number of four bytes or more, counted with a spare bit, keeps at least 16 bits. -/
theorem le_keptUnit_mul {n : Nat} (hlen : 3 < signedLength n) :
    2 ^ 15 * keptUnit n ≤ n / keptUnit n * keptUnit n := by
  refine Nat.mul_le_mul_right _ ((Nat.le_div_iff_mul_le (keptUnit_pos n)).mpr ?_)
  rw [keptUnit, ← pow_add]
  rw [signedLength] at hlen ⊢
  exact two_pow_le_of_lt_bitLength (by omega)

/-- Rounding down to a multiple of a unit does not go below another multiple. -/
theorem le_div_mul_of_dvd {n m unit : Nat} (hdvd : unit ∣ m) (h : m ≤ n) :
    m ≤ n / unit * unit := by
  calc m = m / unit * unit := (Nat.div_mul_cancel hdvd).symm
    _ ≤ n / unit * unit := Nat.mul_le_mul_right _ (Nat.div_le_div_right h)

/-- A word whose target does not exceed a number is no better than the number with its low
bytes dropped. -/
theorem target_le_of_target_le {n : Nat} {c : Compact} (hc : target c ≤ n) :
    target c ≤ n / keptUnit n * keptUnit n := by
  rcases Nat.lt_or_ge 3 (signedLength n) with hlen | hlen
  · rcases Nat.lt_or_ge (exponent c) (signedLength n) with hexp | hexp
    · -- the exponent is smaller: the largest mantissa is below the bits that are kept
      calc target c ≤ 2 ^ (23 + 8 * (exponent c - 3)) := Nat.le_of_lt (target_lt_two_pow c)
        _ ≤ 2 ^ (15 + 8 * (signedLength n - 3)) := Nat.pow_le_pow_right (by omega) (by omega)
        _ = 2 ^ 15 * keptUnit n := pow_add _ _ _
        _ ≤ n / keptUnit n * keptUnit n := le_keptUnit_mul hlen
    · -- the exponent is as large: the target is a multiple of the unit
      cases hs : isSigned c with
      | true =>
        rw [target_of_isSigned hs]
        exact Nat.zero_le _
      | false =>
        have hsplit : target c =
            mantissa c * 2 ^ (8 * (exponent c - signedLength n)) * keptUnit n := by
          rw [target_eq_mul hs (by omega), keptUnit, Nat.mul_assoc, ← pow_add]
          congr 2
          omega
        exact le_div_mul_of_dvd (hsplit ▸ Nat.dvd_mul_left _ _) hc
  · -- nothing is dropped of a short number
    rw [keptUnit_eq_one hlen, Nat.div_one, Nat.mul_one]
    exact hc

/--
**Encoding is the best approximation from below.** The target of the word of `n` does not
exceed `n`, and no word, in whatever form, stands for a target between the two.
-/
theorem isGreatest_target_ofTarget (n : Nat) :
    target (ofTarget n) ≤ n ∧ ∀ c : Compact, target c ≤ n → target c ≤ target (ofTarget n) := by
  -- a target that is cut off exceeds what any word stands for
  rcases Nat.lt_or_ge (bitLength n) 2040 with hfit | hwide
  · rw [target_ofTarget hfit]
    exact ⟨Nat.div_mul_le_self n _, fun c hc => target_le_of_target_le hc⟩
  · rw [ofTarget_of_wide hwide]
    refine ⟨?_, fun c _ => target_le_largest c⟩
    calc target largest = (2 ^ 23 - 1) * 2 ^ (8 * (exponent largest - 3)) := target_largest
      _ ≤ 2 ^ 23 * 2 ^ (8 * (exponent largest - 3)) := Nat.mul_le_mul_right _ (Nat.sub_le _ _)
      _ = 2 ^ (23 + 8 * (exponent largest - 3)) := (pow_add _ _ _).symm
      _ ≤ n := two_pow_le_of_lt_bitLength (by rw [exponent_largest]; omega)

end Compact

end ChainParams
