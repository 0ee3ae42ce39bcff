import ChainParams.Profile.Builtin
import ChainParams.Proofs.Profile.Sound
import Mathlib.Tactic.Ring

/-!
# ChainParams — the blocks between two changes of difficulty

The times of a profile are given to the nanosecond, but the interval is the quotient of their whole
seconds. How many blocks a timespan really has room for is the quotient of the full times, and the
two are compared here.

What is cut off of the timespan is less than a second, and a block that takes a second or more
does not fit into it: the interval never falls short. What is cut off of the time of a block counts
once for each block of the interval, and these nanoseconds have to fit into what division leaves of
the timespan (`mul_toNanos_le_iff`). Where they do not, the interval is too long, but its blocks
never take twice the timespan, because cutting off at most halves the time of a block
(`mul_toNanos_le_double`). Blocks of less than a second count as no time at all, and then the
interval is zero.

## Results

* `Duration.lt_succ_mul_toNanos` — the interval does not fall short.
* `Duration.mul_toNanos_le_iff`  — when it is not too long.
* `Profile.interval_against_nanos` — how far the interval is that of the full times.
* `Profile.interval_too_long`    — it is not always.
-/

namespace ChainParams

namespace Duration

/-- The quotient of two durations in whole seconds. -/
def quotient (a b : Duration) : Nat :=
  a.seconds.toNat / b.seconds.toNat

theorem toNat_seconds_pos {d : Duration} (h : d.seconds ≠ 0) : 0 < d.seconds.toNat :=
  Nat.pos_of_ne_zero fun hzero => h (UInt64.toNat_inj.mp hzero)

variable (a b : Duration)

/-- A duration is shorter than one more than its whole seconds. -/
theorem toNanos_lt : a.toNanos < (a.seconds.toNat + 1) * nanosPerSecond := by
  have hnanos := a.nanos_lt
  rw [toNanos, Nat.succ_mul]
  exact Nat.add_lt_add_left hnanos _

/-- One more than the quotient of whole seconds does not fit. -/
theorem lt_succ_mul_toNanos (hb : 0 < b.seconds.toNat) :
    a.toNanos < (quotient a b + 1) * b.toNanos := by
  have hquot : a.seconds.toNat + 1 ≤ (quotient a b + 1) * b.seconds.toNat := by
    rw [Nat.mul_comm]
    exact Nat.lt_mul_div_succ _ hb
  calc a.toNanos
      < (a.seconds.toNat + 1) * nanosPerSecond := toNanos_lt a
    _ ≤ (quotient a b + 1) * b.seconds.toNat * nanosPerSecond := Nat.mul_le_mul_right _ hquot
    _ ≤ (quotient a b + 1) * b.toNanos := by
        rw [Nat.mul_assoc]
        exact Nat.mul_le_mul_left _ (Nat.le_add_right _ _)

/-- The quotient fits exactly if its nanoseconds fit into what is left of the division. -/
theorem mul_toNanos_le_iff :
    quotient a b * b.toNanos ≤ a.toNanos ↔
      quotient a b * b.nanos.toNat ≤
        a.seconds.toNat % b.seconds.toNat * nanosPerSecond + a.nanos.toNat := by
  -- the whole seconds are those of the quotient and those that division leaves
  have hsplit : a.seconds.toNat * nanosPerSecond =
      quotient a b * (b.seconds.toNat * nanosPerSecond) +
        a.seconds.toNat % b.seconds.toNat * nanosPerSecond := by
    rw [← Nat.mul_assoc, ← Nat.add_mul, quotient, Nat.mul_comm (_ / _), Nat.div_add_mod]
  rw [toNanos, toNanos, Nat.mul_add, hsplit]
  omega

/-- Less than half of `b` is cut off, so that the quotient takes at most twice the time. -/
theorem mul_toNanos_le_double (hb : 0 < b.seconds.toNat) :
    quotient a b * b.toNanos ≤ 2 * a.toNanos := by
  calc quotient a b * b.toNanos
      ≤ quotient a b * ((b.seconds.toNat + 1) * nanosPerSecond) :=
        Nat.mul_le_mul_left _ (Nat.le_of_lt (toNanos_lt b))
    _ ≤ quotient a b * (2 * b.seconds.toNat * nanosPerSecond) :=
        Nat.mul_le_mul_left _ (Nat.mul_le_mul_right _ (by omega))
    _ = 2 * (quotient a b * b.seconds.toNat * nanosPerSecond) := by ring
    _ ≤ 2 * (a.seconds.toNat * nanosPerSecond) :=
        Nat.mul_le_mul_left _ (Nat.mul_le_mul_right _ (Nat.div_mul_le_self _ _))
    _ ≤ 2 * a.toNanos := Nat.mul_le_mul_left _ (Nat.le_add_right _ _)

/-- The quotient of the full durations and that of their whole seconds. -/
theorem quotient_bounds (hb : 0 < b.seconds.toNat) :
    a.toNanos / b.toNanos ≤ quotient a b ∧
      quotient a b ≤ 2 * (a.toNanos / b.toNanos) + 1 := by
  have hpos : 0 < b.toNanos :=
    Nat.lt_of_lt_of_le (Nat.mul_pos hb (by decide)) (Nat.le_add_right _ _)
  refine ⟨Nat.le_of_lt_succ ((Nat.div_lt_iff_lt_mul hpos).mpr (lt_succ_mul_toNanos a b hb)), ?_⟩
  have hdouble := mul_toNanos_le_double a b hb
  have hlt := Nat.lt_mul_div_succ a.toNanos hpos
  have hmul : quotient a b * b.toNanos < (2 * (a.toNanos / b.toNanos) + 2) * b.toNanos := by
    calc quotient a b * b.toNanos
        ≤ 2 * a.toNanos := hdouble
      _ < 2 * (b.toNanos * (a.toNanos / b.toNanos + 1)) := by omega
      _ = (2 * (a.toNanos / b.toNanos) + 2) * b.toNanos := by ring
  exact Nat.le_of_lt_succ (Nat.lt_of_mul_lt_mul_right hmul)

end Duration

namespace Profile

/-- Exactly so many whole blocks fit into the timespan of a profile. -/
def FitsBlocks (p : Profile) (k : Nat) : Prop :=
  k * p.targetTimePerBlock.toNanos ≤ p.targetTimespan.toNanos ∧
    p.targetTimespan.toNanos < (k + 1) * p.targetTimePerBlock.toNanos

/-- The interval is the quotient of the whole seconds, which fits into its word. -/
theorem toNat_retargetInterval (p : Profile) :
    p.retargetInterval.toNat = p.targetTimespan.quotient p.targetTimePerBlock :=
  UInt64.toNat_div _ _

/-- Blocks of less than a second have no whole seconds to divide by. -/
theorem retargetInterval_of_short {p : Profile} (h : p.targetTimePerBlock.seconds = 0) :
    p.retargetInterval = 0 := by
  rw [retargetInterval, h]
  exact UInt64.div_zero

/-- Blocks of a second or more: the interval is right exactly if it is not too long. -/
theorem fitsBlocks_iff {p : Profile} (h : p.targetTimePerBlock.seconds ≠ 0) :
    p.FitsBlocks p.retargetInterval.toNat ↔
      p.retargetInterval.toNat * p.targetTimePerBlock.nanos.toNat ≤
        p.targetTimespan.seconds.toNat % p.targetTimePerBlock.seconds.toNat * nanosPerSecond +
          p.targetTimespan.nanos.toNat := by
  rw [toNat_retargetInterval, FitsBlocks, ← Duration.mul_toNanos_le_iff]
  exact and_iff_left (Duration.lt_succ_mul_toNanos _ _ (Duration.toNat_seconds_pos h))

/--
**The interval against the full times.** If a block takes less than a second, the interval is zero,
which is right only if the timespan is shorter than a block. If it takes a second or more, the
interval is never short of the blocks that fit into the timespan, and at most one more than twice
as many; it is their number exactly if the nanoseconds of its blocks fit into what is left of the
timespan once whole seconds are divided. For blocks of whole seconds that is always so.
-/
theorem interval_against_nanos (p : Profile) (h : 0 < p.targetTimePerBlock.toNanos) :
    (p.targetTimePerBlock.seconds = 0 →
      p.retargetInterval = 0 ∧
      (p.FitsBlocks 0 ↔ p.targetTimespan.toNanos < p.targetTimePerBlock.toNanos)) ∧
    (p.targetTimePerBlock.seconds ≠ 0 →
      p.targetTimespan.toNanos / p.targetTimePerBlock.toNanos ≤ p.retargetInterval.toNat ∧
      p.retargetInterval.toNat ≤
        2 * (p.targetTimespan.toNanos / p.targetTimePerBlock.toNanos) + 1 ∧
      (p.FitsBlocks p.retargetInterval.toNat ↔
        p.retargetInterval.toNat * p.targetTimePerBlock.nanos.toNat ≤
          p.targetTimespan.seconds.toNat % p.targetTimePerBlock.seconds.toNat * 1000000000 +
            p.targetTimespan.nanos.toNat)) ∧
    (p.targetTimePerBlock.nanos = 0 → p.FitsBlocks p.retargetInterval.toNat) := by
  refine ⟨fun hshort => ⟨retargetInterval_of_short hshort, ?_⟩, fun hlong => ?_, fun hwhole => ?_⟩
  · rw [FitsBlocks, Nat.zero_mul, Nat.zero_add, Nat.one_mul]
    exact and_iff_right (Nat.zero_le _)
  · obtain ⟨hle, hge⟩ := Duration.quotient_bounds p.targetTimespan p.targetTimePerBlock
      (Duration.toNat_seconds_pos hlong)
    rw [← toNat_retargetInterval] at hle hge
    exact ⟨hle, hge, fitsBlocks_iff hlong⟩
  · have hlong : p.targetTimePerBlock.seconds ≠ 0 := by
      intro hzero
      rw [Duration.toNanos, hzero, hwhole] at h
      exact absurd h (by decide)
    rw [fitsBlocks_iff hlong, hwhole]
    exact Nat.zero_le _

/-- Blocks of one and a half seconds in a timespan of three. -/
def halfSeconds : Profile :=
  { simnet with targetTimespan := .ofSeconds 3, targetTimePerBlock := .ofParts 1 500000000 }

/-- Two blocks of one and a half seconds fit into three seconds, but the interval is three, though
the profile has no defect. On the main network it is right. -/
theorem interval_of_halfSeconds :
    halfSeconds.validate = .ok () ∧ halfSeconds.retargetInterval = 3 ∧
    halfSeconds.targetTimespan.toNanos / halfSeconds.targetTimePerBlock.toNanos = 2 ∧
    ¬ halfSeconds.FitsBlocks 3 ∧ mainnet.FitsBlocks 30 := by
  have hsound := sound_ofNetwork .simnet
  have hvalid : halfSeconds.validate = .ok () :=
    (validate_eq_ok_iff halfSeconds).mpr ⟨hsound.ordered, hsound.deployments, hsound.window_ne_zero,
      hsound.threshold_le, hsound.limit_fits, hsound.limit_packed, hsound.hrp_wellFormed,
      hsound.hrp_lower⟩
  obtain ⟨-, hlong, -⟩ := interval_against_nanos halfSeconds (by decide)
  obtain ⟨-, -, hfits⟩ := hlong (by decide)
  obtain ⟨-, -, hwhole⟩ := interval_against_nanos mainnet (by decide)
  refine ⟨hvalid, by decide, by decide, fun h => ?_, hwhole (by decide)⟩
  exact absurd (hfits.mp h) (by decide)

/-- The interval is not always the number of blocks in the timespan. -/
theorem interval_too_long :
    ¬ ∀ p : Profile, 0 < p.targetTimePerBlock.toNanos → p.FitsBlocks p.retargetInterval.toNat := by
  intro h
  obtain ⟨hfits, -⟩ := h halfSeconds (by decide)
  exact absurd hfits (by decide)

end Profile

end ChainParams
