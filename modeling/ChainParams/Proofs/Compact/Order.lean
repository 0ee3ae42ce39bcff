import ChainParams.Proofs.Compact.Precision

/-!
# ChainParams — the order of compact targets

The exponent stands above the mantissa in a word, so words are compared by their exponents
first. Encoding keeps the order of targets because the exponent of a target's word is its
signed length, which does not fall as the target grows, and because two targets of one
signed length are divided by the same number. A top byte that reaches 0x80 takes a byte from
the mantissa and raises the exponent, which is all that the comparison sees.

Decoding keeps the order of the words that encoding gives, since each is the word of its own
target. It does not keep the order of all words: a mantissa with leading zeros can stand
behind a larger exponent.

## Results

* `ofTarget_mono`           — a larger target has no smaller word.
* `IsCanonical.lt_iff`      — canonical words are ordered as their targets are.
* `order_of_words`          — the same for the words that encoding gives.
-/

namespace ChainParams

namespace Compact

theorem signedLength_mono {n k : Nat} (h : n ≤ k) : signedLength n ≤ signedLength k :=
  Nat.succ_le_succ (Nat.div_le_div_right (bitLength_mono h))

/-- Targets of one signed length are cut off at the same place. -/
theorem signedLeading_mono {n k : Nat} (h : n ≤ k) (hlen : signedLength n = signedLength k) :
    signedLeading n ≤ signedLeading k := by
  rw [signedLeading, signedLeading, hlen]
  exact Nat.div_le_div_right (Nat.mul_le_mul_right _ h)

/-- No word that encoding gives is above the largest one. -/
theorem ofTarget_le_largest (n : Nat) : ofTarget n ≤ largest := by
  have hLargest : largest.toNat = 255 * 2 ^ 24 + (2 ^ 23 - 1) := by decide
  by_cases hn : n = 0
  · subst hn
    exact UInt32.zero_le
  rcases Nat.lt_or_ge (bitLength n) 2040 with hfit | hwide
  · have hlead := signedLeading_lt n
    have hlen := signedLength_lt hfit
    rw [UInt32.le_iff_toNat_le, toNat_ofTarget hn (bitLength_lt_2040_iff.mp hfit), hLargest]
    omega
  · rw [ofTarget_of_wide hwide]
    exact UInt32.le_refl _

/-- The words of targets are ordered by signed length first, then by leading bytes. -/
theorem ofTarget_mono {n k : Nat} (h : n ≤ k) : ofTarget n ≤ ofTarget k := by
  by_cases hn : n = 0
  · subst hn
    exact UInt32.zero_le
  rcases Nat.lt_or_ge (bitLength k) 2040 with hfit | hwide
  · have hk : k ≠ 0 := by omega
    have hnfit : bitLength n < 2040 := Nat.lt_of_le_of_lt (bitLength_mono h) hfit
    rw [UInt32.le_iff_toNat_le, toNat_ofTarget hn (bitLength_lt_2040_iff.mp hnfit),
      toNat_ofTarget hk (bitLength_lt_2040_iff.mp hfit)]
    -- a greater exponent outweighs any mantissa; with the same exponent the mantissas decide
    rcases Nat.lt_or_eq_of_le (signedLength_mono h) with hlen | hlen
    · have hlead := signedLeading_lt n
      omega
    · have hlead := signedLeading_mono h hlen
      omega
  · rw [ofTarget_of_wide hwide]
    exact ofTarget_le_largest n

-- ---------------------------------------------------------------------------
-- Canonical words
-- ---------------------------------------------------------------------------

/-- Canonical words are ordered as their targets, since each is the word of its own. -/
theorem IsCanonical.le_of_target_le {c d : Compact} (hc : IsCanonical c) (hd : IsCanonical d)
    (h : target c ≤ target d) : c ≤ d := by
  calc c = ofTarget (target c) := (ofTarget_target hc).symm
    _ ≤ ofTarget (target d) := ofTarget_mono h
    _ = d := ofTarget_target hd

/-- The order of canonical words is that of their targets, strictly. -/
theorem IsCanonical.lt_iff {c d : Compact} (hc : IsCanonical c) (hd : IsCanonical d) :
    c < d ↔ target c < target d := by
  constructor
  · intro hlt
    by_contra hge
    have hle := hd.le_of_target_le hc (Nat.le_of_not_lt hge)
    exact UInt32.lt_irrefl c (UInt32.lt_of_lt_of_le hlt hle)
  · intro hlt
    have hle := hc.le_of_target_le hd (Nat.le_of_lt hlt)
    refine UInt32.lt_of_le_of_ne hle ?_
    rintro rfl
    exact Nat.lt_irrefl _ hlt

/--
**Compact targets keep their order.** A larger target has no smaller word; of two words that
encoding gives, the smaller one stands for the smaller target; and so two targets have words
in strict order exactly if what is left of them after decoding is in that order.
-/
theorem order_of_words :
    (∀ n k, n ≤ k → ofTarget n ≤ ofTarget k) ∧
    (∀ c d : Compact, (∃ n, ofTarget n = c) → (∃ k, ofTarget k = d) →
      (c < d ↔ target c < target d)) ∧
    (∀ n k, ofTarget n < ofTarget k ↔ target (ofTarget n) < target (ofTarget k)) := by
  refine ⟨fun n k => ofTarget_mono, ?_, fun n k => ?_⟩
  · rintro _ _ ⟨n, rfl⟩ ⟨k, rfl⟩
    exact (isCanonical_ofTarget n).lt_iff (isCanonical_ofTarget k)
  · exact (isCanonical_ofTarget n).lt_iff (isCanonical_ofTarget k)

/-- Not so for other words: this one has the larger exponent and the smaller target. -/
example : (0x017f0000 : Compact) < 0x02000100 ∧ target 0x02000100 < target 0x017f0000 := by
  decide

end Compact

end ChainParams
