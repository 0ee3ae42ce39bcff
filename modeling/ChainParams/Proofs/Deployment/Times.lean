import ChainParams.Proofs.Calendar.Gregorian
import ChainParams.Proofs.Profile.Rules

/-!
# ChainParams — the times of a deployment in UTC

The times of a deployment are unsigned words, far more seconds than the calendar has. On the way
into the calendar they can be lost at two places: signed words end at half the range, which is
where the mark of a deployment that never expires stands, and the calendar ends with its last year.
What is left of a time is never another time.

The last second of the calendar follows from the order of dates. Years never go down, so the days
of the calendar are those before the first day of the year behind its last
(`year_le_lastYear_iff`). It lies far below the largest signed word. So what is no signed word is
not in the calendar either (`ofSeconds?_eq_bind`), and the mark for never needs no check of its own
(`expireUtc?_eq`).

## Results

* `Utc.before_iff`             — moments are in the order of their seconds.
* `Utc.ofSeconds?_eq_none_iff` — the end of the calendar.
* `Deployment.times_in_utc`    — which times become moments, which moments, and their order.
-/

namespace ChainParams

namespace Utc

-- ---------------------------------------------------------------------------
-- The order of moments
-- ---------------------------------------------------------------------------

/-- The time of day of a moment, in seconds. -/
def secondOfDay (t : Utc) : Nat :=
  t.timestamp % secondsPerDay

/-- The order of moments by the calendar and the clock: by date, then by the time of day. -/
def Before (s t : Utc) : Prop :=
  s.date.Precedes t.date ∨ s.date = t.date ∧ s.secondOfDay < t.secondOfDay

/-- Moments are in the order of their seconds. -/
theorem before_iff (s t : Utc) : s.Before t ↔ s.timestamp < t.timestamp := by
  unfold Before date secondOfDay
  rw [Date.precedes_ofDays_iff, Date.ofDays_inj]
  unfold secondsPerDay
  omega

-- ---------------------------------------------------------------------------
-- The end of the calendar
-- ---------------------------------------------------------------------------

/-- The last second of the last year. -/
def lastSecond : Nat := 8210266876799

/-- The days of the calendar are those before the first day of the year behind its last. -/
theorem year_le_lastYear_iff (days : Nat) :
    (Date.ofDays days).year ≤ lastYear ↔ days < 95026237 := by
  have hlast : (Date.ofDays 95026236).year = lastYear := by decide
  have hbeyond : (Date.ofDays 95026237).year = lastYear + 1 := by decide
  -- years never go back, so the two days at the end of the calendar settle all others
  constructor
  · intro h
    by_contra hge
    have hmono := Date.year_le_year (Nat.not_lt.mp hge)
    omega
  · intro h
    have hmono := Date.year_le_year (Nat.le_sub_one_of_lt h)
    exact Nat.le_trans hmono (Nat.le_of_eq hlast)

/-- The moment of a number of seconds is the one that many seconds after the start of 1970. -/
theorem ofSeconds?_eq_some_iff (seconds : Nat) (t : Utc) :
    ofSeconds? seconds = some t ↔ t.timestamp = seconds := by
  unfold ofSeconds?
  constructor
  · intro h
    split at h
    · rw [← Option.some.inj h]
    · cases h
  · rintro rfl
    exact dif_pos t.year_le

/-- The calendar ends with the last second of its last year. -/
theorem ofSeconds?_eq_none_iff (seconds : Nat) :
    ofSeconds? seconds = none ↔ lastSecond < seconds := by
  -- a second is in the calendar with its day
  have hday : seconds / secondsPerDay < 95026237 ↔ seconds ≤ lastSecond := by
    unfold secondsPerDay lastSecond
    omega
  rw [ofSeconds?, dite_eq_right_iff, ← Nat.not_le, ← hday, ← year_le_lastYear_iff]
  constructor
  · intro h hyear
    cases h hyear
  · intro h hyear
    exact absurd hyear h

theorem timestamp_le (t : Utc) : t.timestamp ≤ lastSecond := by
  have hsome := (ofSeconds?_eq_some_iff t.timestamp t).mpr rfl
  by_contra hlt
  rw [(ofSeconds?_eq_none_iff _).mpr (Nat.not_le.mp hlt)] at hsome
  cases hsome

/-- The date of a moment lies as many steps of the calendar behind the start of 1970 as it has
full days. -/
theorem date_eq_iterate (t : Utc) :
    t.date = Date.next^[t.timestamp / secondsPerDay] Date.epoch :=
  Date.ofDays_eq_iterate _

/-- Up to there every number of seconds is a moment, on the date that many full days lead to. -/
theorem exists_ofSeconds? {seconds : Nat} (h : seconds ≤ lastSecond) :
    ∃ t, ofSeconds? seconds = some t ∧ t.timestamp = seconds ∧
      t.date = Date.next^[seconds / secondsPerDay] Date.epoch := by
  have hsome : ofSeconds? seconds ≠ none := by
    rw [Ne, ofSeconds?_eq_none_iff]
    exact Nat.not_lt.mpr h
  obtain ⟨t, ht⟩ := Option.ne_none_iff_exists'.mp hsome
  have hseconds := (ofSeconds?_eq_some_iff seconds t).mp ht
  exact ⟨t, ht, hseconds, hseconds ▸ t.date_eq_iterate⟩

end Utc

namespace Deployment

-- ---------------------------------------------------------------------------
-- Signed words
-- ---------------------------------------------------------------------------

/-- A word as a signed one, if it is not beyond the largest of these. -/
def signedWord? (w : UInt64) : Option Int64 :=
  if w ≤ never then some w.toInt64 else none

theorem toInt_toInt64 {w : UInt64} (h : w ≤ never) : w.toInt64.toInt = w.toNat := by
  have hlt : 2 * w.toNat < 2 ^ 64 := by
    have hle : w.toNat ≤ 0x7fffffffffffffff := UInt64.le_iff_toNat_le.mp h
    omega
  exact BitVec.toInt_eq_toNat_of_lt hlt

/-- A word becomes the signed word of the same value, or none if there is no such word. -/
theorem signedWord?_eq_some_iff (w : UInt64) (s : Int64) :
    signedWord? w = some s ↔ s.toInt = w.toNat := by
  unfold signedWord?
  split
  next hfits =>
    rw [Option.some.injEq, ← Int64.toInt_inj, toInt_toInt64 hfits]
    exact eq_comm
  next hwide =>
    constructor
    · intro h
      cases h
    · intro h
      have hmax := Int64.toInt_lt s
      refine absurd (UInt64.le_iff_toNat_le.mpr ?_) hwide
      show w.toNat ≤ 2 ^ 63 - 1
      omega

/-- Only beyond the largest signed word there is none of the same value. -/
theorem signedWord?_eq_none_iff (w : UInt64) : signedWord? w = none ↔ never < w := by
  rw [signedWord?, ite_eq_right_iff, ← UInt64.not_le]
  constructor
  · intro h hfits
    cases h hfits
  · intro h hfits
    exact absurd hfits h

/-- By way of a signed word a time reaches the calendar unchanged. What is no signed word is beyond
the calendar too. -/
theorem ofSeconds?_eq_bind (w : UInt64) :
    Utc.ofSeconds? w.toNat = (signedWord? w).bind fun s => Utc.ofSeconds? s.toInt.toNat := by
  cases hs : signedWord? w with
  | some s => rw [Option.bind_some, (signedWord?_eq_some_iff w s).mp hs, Int.toNat_natCast]
  | none =>
    -- the largest signed word lies far behind the last second of the calendar
    have hlt : 0x7fffffffffffffff < w.toNat :=
      UInt64.lt_iff_toNat_lt.mp ((signedWord?_eq_none_iff w).mp hs)
    rw [Option.bind_none, Utc.ofSeconds?_eq_none_iff]
    exact Nat.lt_trans (by decide) hlt

-- ---------------------------------------------------------------------------
-- Opening and closing
-- ---------------------------------------------------------------------------

/-- The mark of a deployment that never expires is beyond the calendar. -/
theorem expireUtc?_eq (d : Deployment) : d.expireUtc? = Utc.ofSeconds? d.expireTime.toNat := by
  unfold expireUtc? isNeverExpiring
  split
  next hnever =>
    rw [of_decide_eq_true hnever]
    exact ((Utc.ofSeconds?_eq_none_iff _).mpr (by decide)).symm
  next => rfl

/-- A window that closes in the calendar opens before. -/
theorem startTime_lt_of_expireUtc? {d : Deployment} {e : Utc} (h : d.hasValidWindow = true)
    (he : d.expireUtc? = some e) : d.startTime.toNat < e.timestamp := by
  have hseconds := he
  rw [expireUtc?_eq, Utc.ofSeconds?_eq_some_iff] at hseconds
  -- a deployment that never expires closes at no moment
  rcases (hasValidWindow_iff_never d).mp h with hnever | hlt
  · have hnone : d.expireUtc? = none := if_pos (decide_eq_true hnever)
    rw [hnone] at he
    cases he
  · rw [hseconds]
    exact UInt64.lt_iff_toNat_lt.mp hlt

/-- A window that closes in the calendar opens in it before. -/
theorem exists_startUtc?_before {d : Deployment} {e : Utc} (h : d.hasValidWindow = true)
    (he : d.expireUtc? = some e) :
    ∃ s, d.startUtc? = some s ∧ s.timestamp < e.timestamp ∧ s.Before e := by
  have hlt := startTime_lt_of_expireUtc? h he
  obtain ⟨s, hs, hseconds, -⟩ :=
    Utc.exists_ofSeconds? (Nat.le_of_lt (Nat.lt_of_lt_of_le hlt e.timestamp_le))
  rw [← hseconds] at hlt
  exact ⟨s, hs, hlt, (Utc.before_iff s e).mpr hlt⟩

/--
**The times of a deployment in UTC.** A time of at most 8210266876799 seconds becomes the moment of
so many seconds, whose date lies so many full days behind the start of 1970; a later time becomes
none, and so does the mark for never. It makes no difference that times go through signed words.
A window that is valid and closes in the calendar opens there too, at an earlier moment.
-/
theorem times_in_utc (d : Deployment) :
    (d.startTime.toNat ≤ 8210266876799 →
      ∃ t, d.startUtc? = some t ∧ t.timestamp = d.startTime.toNat ∧
        t.date = Date.next^[d.startTime.toNat / 86400] Date.epoch) ∧
    (8210266876799 < d.startTime.toNat → d.startUtc? = none) ∧
    (d.expireTime.toNat ≤ 8210266876799 →
      ∃ t, d.expireUtc? = some t ∧ t.timestamp = d.expireTime.toNat ∧
        t.date = Date.next^[d.expireTime.toNat / 86400] Date.epoch) ∧
    (8210266876799 < d.expireTime.toNat → d.expireUtc? = none) ∧
    (d.isNeverExpiring = true → d.expireUtc? = none) ∧
    d.startUtc? = (signedWord? d.startTime).bind (fun s => Utc.ofSeconds? s.toInt.toNat) ∧
    d.expireUtc? = (signedWord? d.expireTime).bind (fun s => Utc.ofSeconds? s.toInt.toNat) ∧
    (d.hasValidWindow = true → ∀ e, d.expireUtc? = some e →
      ∃ s, d.startUtc? = some s ∧ s.timestamp < e.timestamp ∧ s.Before e) := by
  refine ⟨Utc.exists_ofSeconds?, (Utc.ofSeconds?_eq_none_iff _).mpr, ?_, ?_, ?_,
    ofSeconds?_eq_bind _, ?_, fun h _ => exists_startUtc?_before h⟩
  · rw [expireUtc?_eq]
    exact Utc.exists_ofSeconds?
  · rw [expireUtc?_eq]
    exact (Utc.ofSeconds?_eq_none_iff _).mpr
  · intro hnever
    exact if_pos hnever
  · rw [expireUtc?_eq]
    exact ofSeconds?_eq_bind _

/-- A window from the 28th of January 2017 to the first second of the 31st of January 2018. Of two
deployments that never expire one starts in the last second of the calendar, the other in none. -/
theorem window_of_2017 :
    let d : Deployment := ⟨0, 1485561600, 1517356801⟩
    (d.hasValidWindow = true ∧ ∃ s e, d.startUtc? = some s ∧ d.expireUtc? = some e ∧
      s.date = ⟨2017, 1, 28⟩ ∧ e.date = ⟨2018, 1, 31⟩ ∧ s.Before e) ∧
    (∃ t, (⟨0, 8210266876799, never⟩ : Deployment).startUtc? = some t ∧
      t.date = ⟨262142, 12, 31⟩) ∧
    (⟨0, 8210266876800, never⟩ : Deployment).startUtc? = none ∧
    (⟨0, 8210266876800, never⟩ : Deployment).expireUtc? = none := by
  intro d
  have hvalid : d.hasValidWindow = true := by decide
  obtain ⟨-, -, hexpire, -, -, -, -, hwindow⟩ := times_in_utc d
  obtain ⟨e, he, -, hedate⟩ := hexpire (by decide)
  obtain ⟨s, hs, -, hbefore⟩ := hwindow hvalid e he
  obtain ⟨s', hs', -, hsdate⟩ := (times_in_utc d).1 (by decide)
  obtain rfl : s' = s := Option.some.inj (hs'.symm.trans hs)
  obtain ⟨t, ht, -, htdate⟩ := (times_in_utc ⟨0, 8210266876799, never⟩).1 (by decide)
  obtain ⟨-, hlate, -, -, hnever, -⟩ := times_in_utc ⟨0, 8210266876800, never⟩
  rw [← Date.ofDays_eq_iterate] at hsdate hedate htdate
  refine ⟨⟨hvalid, s', e, hs, he, ?_, ?_, hbefore⟩, ⟨t, ht, ?_⟩, hlate (by decide), hnever rfl⟩
  · rw [hsdate]
    decide +kernel
  · rw [hedate]
    decide +kernel
  · rw [htdate]
    decide +kernel

end Deployment

end ChainParams
