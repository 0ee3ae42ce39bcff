/-!
# ChainParams — durations

A span of time in whole seconds and the nanoseconds beyond them, which are fewer than a
second.

* `Duration.ofParts` — a duration from any number of nanoseconds; full seconds are carried.
* `Duration.toNanos` — the whole span in nanoseconds.

## Results

* `Duration.toNanos_ofParts` — the carry keeps the span, if there is room for it.
-/

namespace ChainParams

/-- The nanoseconds in a second. -/
def nanosPerSecond : Nat := 1000000000

/-- A span of time. -/
structure Duration where
  seconds : UInt64
  nanos : UInt32
  nanos_lt : nanos.toNat < nanosPerSecond := by decide
deriving DecidableEq

namespace Duration

/-- A span of whole seconds. -/
def ofSeconds (seconds : UInt64) : Duration :=
  { seconds, nanos := 0 }

/-- A span of whole minutes. -/
def ofMinutes (minutes : UInt64) : Duration :=
  ofSeconds (60 * minutes)

/-- A span of seconds and any number of nanoseconds, of which full seconds are carried. There has
to be room for the carry (`toNanos_ofParts`): past the largest word the seconds wrap around here,
where a program has to end instead. -/
def ofParts (seconds : UInt64) (nanos : UInt32) : Duration where
  seconds := seconds + UInt64.ofNat (nanos.toNat / nanosPerSecond)
  nanos := UInt32.ofNat (nanos.toNat % nanosPerSecond)
  nanos_lt := by
    have h : nanos.toNat % nanosPerSecond < nanosPerSecond := Nat.mod_lt _ (by decide)
    rw [UInt32.toNat_ofNat_of_lt' (Nat.lt_trans h (by decide))]
    exact h

/-- The whole span in nanoseconds. -/
def toNanos (d : Duration) : Nat :=
  d.seconds.toNat * nanosPerSecond + d.nanos.toNat

/-- Where there is room for the carry, the span is that of its parts. -/
theorem toNanos_ofParts {seconds : UInt64} {nanos : UInt32}
    (h : seconds.toNat + nanos.toNat / nanosPerSecond < UInt64.size) :
    (ofParts seconds nanos).toNanos = seconds.toNat * nanosPerSecond + nanos.toNat := by
  have hcarry : (UInt64.ofNat (nanos.toNat / nanosPerSecond)).toNat =
      nanos.toNat / nanosPerSecond :=
    UInt64.toNat_ofNat_of_lt' (by omega)
  have hnanos : (UInt32.ofNat (nanos.toNat % nanosPerSecond)).toNat =
      nanos.toNat % nanosPerSecond :=
    UInt32.toNat_ofNat_of_lt' (Nat.lt_of_le_of_lt (Nat.mod_le _ _) nanos.toNat_lt)
  have hseconds : (seconds + UInt64.ofNat (nanos.toNat / nanosPerSecond)).toNat =
      seconds.toNat + nanos.toNat / nanosPerSecond := by
    rw [UInt64.toNat_add, hcarry]
    exact Nat.mod_eq_of_lt h
  show (seconds + UInt64.ofNat _).toNat * nanosPerSecond + (UInt32.ofNat _).toNat = _
  rw [hseconds, hnanos, Nat.add_mul, Nat.add_assoc, Nat.mul_comm (_ / _), Nat.div_add_mod]

end Duration

end ChainParams
