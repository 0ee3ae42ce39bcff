import ChainParams.Calendar
import Mathlib.Logic.Function.Iterate
import Mathlib.Order.Monotone.Basic
import Mathlib.Tactic.IntervalCases

/-!
# ChainParams — the Gregorian calendar

The date a number of days after the start of 1970 is computed by quotients: cycles of 400 years,
years of a cycle, months of a year. Here it is compared with the rules of the calendar, which say
no more than which day comes after a day: the next one of the month, or the first of the next
month, months having 30 or 31 days and February 28, or 29 in a leap year.

The computation counts years from March, so that the leap day is the last of its year. It is
followed from a day to the next at three levels. In a month the day goes up by one; behind the last
day of a month comes the first of the next (`next_ofMarch_of_last`), and behind the last of February
the first day of the year (`next_ofMarch_february`); years of a cycle lie end to end
(`daysBeforeYear_succ`), and behind 400 of them the next cycle begins. That the quotient which gives
the year is right needs its two ends alone, since it never goes down (`yearOfCycle_eq`).

## Results

* `ofDays_succ`         — the date one day later is the next one.
* `ofDays_eq_iterate`   — so dates go from the start of 1970 day by day.
* `precedes_ofDays_iff` — dates are in the order of days.
-/

namespace ChainParams

namespace Date

-- ---------------------------------------------------------------------------
-- The rules of the calendar
-- ---------------------------------------------------------------------------

/-- Whether a year has a leap day. -/
def IsLeap (year : Nat) : Prop :=
  year % 4 = 0 ∧ (year % 100 ≠ 0 ∨ year % 400 = 0)

instance (year : Nat) : Decidable (IsLeap year) :=
  inferInstanceAs (Decidable (_ ∧ _))

/-- The days in a month of a year. -/
def daysInMonth (year month : Nat) : Nat :=
  if month = 2 then (if IsLeap year then 29 else 28)
  else if month = 4 ∨ month = 6 ∨ month = 9 ∨ month = 11 then 30
  else 31

/-- The day after a day. -/
def next (d : Date) : Date :=
  if d.day < daysInMonth d.year d.month then { d with day := d.day + 1 }
  else if d.month < 12 then { year := d.year, month := d.month + 1, day := 1 }
  else { year := d.year + 1, month := 1, day := 1 }

/-- The start of 1970. -/
def epoch : Date where
  year := 1970
  month := 1
  day := 1

/-- The order of dates: by year, then by month, then by day. -/
def Precedes (a b : Date) : Prop :=
  a.year < b.year ∨ a.year = b.year ∧ (a.month < b.month ∨ a.month = b.month ∧ a.day < b.day)

-- ---------------------------------------------------------------------------
-- Months
-- ---------------------------------------------------------------------------

/-- The date of a day in a month, where years and their months are counted from March and days
from zero. -/
def ofMarch (year month day : Nat) : Date where
  year := year + (if month < 10 then 0 else 1)
  month := if month < 10 then month + 3 else month - 9
  day := day + 1

/-- The length of the month in which such a date lies. -/
def daysInMarchMonth (year month : Nat) : Nat :=
  daysInMonth (ofMarch year month 0).year (ofMarch year month 0).month

/-- The days in a year that is counted from March: its leap day is that of the next year. -/
def daysInYear (year : Nat) : Nat :=
  if IsLeap (year + 1) then 366 else 365

/-- Every month but the last of the year is as long as the sums over months have it. -/
theorem daysInMarchMonth_eq (year : Nat) {month : Nat} (h : month < 11) :
    daysInMarchMonth year month = daysBeforeMonth (month + 1) - daysBeforeMonth month := by
  interval_cases month <;> rfl

/-- February has what the year leaves. -/
theorem daysInMarchMonth_february (year : Nat) :
    daysInMarchMonth year 11 = daysInYear year - daysBeforeMonth 11 := by
  show (if IsLeap (year + 1) then 29 else 28) = daysInYear year - 337
  unfold daysInYear
  split <;> rfl

theorem next_ofMarch_of_lt {year month day : Nat} (h : day + 1 < daysInMarchMonth year month) :
    (ofMarch year month day).next = ofMarch year month (day + 1) :=
  if_pos h

/-- Behind the last day of a month comes the first of the next one, in the year from March. -/
theorem next_ofMarch_of_last {year month day : Nat} (hmonth : month < 11)
    (h : day + 1 = daysInMarchMonth year month) :
    (ofMarch year month day).next = ofMarch year (month + 1) 0 := by
  have hlast : ¬ day + 1 < daysInMarchMonth year month := Nat.not_lt.mpr (Nat.le_of_eq h.symm)
  refine (if_neg hlast).trans ?_
  interval_cases month <;> rfl

/-- Behind the last day of February comes the first day of March, in the next year. -/
theorem next_ofMarch_february {year day : Nat} (h : day + 1 = daysInMarchMonth year 11) :
    (ofMarch year 11 day).next = ofMarch (year + 1) 0 0 :=
  if_neg (Nat.not_lt.mpr (Nat.le_of_eq h.symm))

-- ---------------------------------------------------------------------------
-- Days of a year
-- ---------------------------------------------------------------------------

/-- The date of a day of a year, both counted from March. -/
def ofDayOfYear (year day : Nat) : Date :=
  ofMarch year (monthOfYear day) (day - daysBeforeMonth (monthOfYear day))

/-- The month of a day begins at the day or before it, and the next one begins later. -/
theorem monthOfYear_bounds (day : Nat) :
    daysBeforeMonth (monthOfYear day) ≤ day ∧ day < daysBeforeMonth (monthOfYear day + 1) := by
  unfold daysBeforeMonth monthOfYear
  omega

/-- No other month has the day between its ends. -/
theorem monthOfYear_eq {month day : Nat} (hlow : daysBeforeMonth month ≤ day)
    (hhigh : day < daysBeforeMonth (month + 1)) : monthOfYear day = month := by
  unfold daysBeforeMonth at hlow hhigh
  unfold monthOfYear
  omega

theorem daysInYear_bounds (year : Nat) : 365 ≤ daysInYear year ∧ daysInYear year ≤ 366 := by
  unfold daysInYear
  split <;> decide

theorem monthOfYear_le {year day : Nat} (h : day < daysInYear year) : monthOfYear day ≤ 11 := by
  have hyear := (daysInYear_bounds year).2
  unfold monthOfYear
  omega

/-- A day of a year that its month has not used up is a day of that month. -/
theorem lt_daysInMarchMonth {year month day : Nat} (hmonth : month ≤ 11)
    (hhigh : day < daysBeforeMonth (month + 1)) (h : day < daysInYear year)
    (hlow : daysBeforeMonth month ≤ day) :
    day - daysBeforeMonth month < daysInMarchMonth year month := by
  -- February alone depends on the year
  rcases Nat.lt_or_eq_of_le hmonth with hlt | rfl
  · rw [daysInMarchMonth_eq year hlt]
    omega
  · rw [daysInMarchMonth_february]
    omega

/-- A day of a year and the next one. -/
theorem next_ofDayOfYear {year day : Nat} (h : day + 1 < daysInYear year) :
    (ofDayOfYear year day).next = ofDayOfYear year (day + 1) := by
  obtain ⟨hlow, hhigh⟩ := monthOfYear_bounds day
  have hmonth := monthOfYear_le (Nat.lt_of_succ_lt h)
  rcases Nat.lt_or_ge (day + 1) (daysBeforeMonth (monthOfYear day + 1)) with hlt | hge
  · -- the month is not over, and the next day lies in it
    have hsame : monthOfYear (day + 1) = monthOfYear day := monthOfYear_eq (by omega) hlt
    have hlength := lt_daysInMarchMonth hmonth hlt h (by omega)
    rw [ofDayOfYear, ofDayOfYear, hsame, next_ofMarch_of_lt (by omega)]
    congr 1
    omega
  · -- February does not end before the year does
    have hinner : monthOfYear day < 11 := by
      have hyear := (daysInYear_bounds year).2
      unfold daysBeforeMonth at hge
      omega
    have hnext : monthOfYear (day + 1) = monthOfYear day + 1 := by
      refine monthOfYear_eq hge ?_
      unfold daysBeforeMonth at *
      omega
    have hlength := daysInMarchMonth_eq year hinner
    rw [ofDayOfYear, ofDayOfYear, hnext, next_ofMarch_of_last hinner (by omega)]
    congr 1
    omega

/-- The last day of a year and the first of the next. -/
theorem next_ofDayOfYear_of_last {year day : Nat} (h : day + 1 = daysInYear year) :
    (ofDayOfYear year day).next = ofDayOfYear (year + 1) 0 := by
  have hyear := daysInYear_bounds year
  have hmonth : monthOfYear day = 11 := by
    unfold monthOfYear
    omega
  have hlength := daysInMarchMonth_february year
  have hbefore : daysBeforeMonth 11 = 337 := rfl
  rw [ofDayOfYear, hmonth]
  exact next_ofMarch_february (by omega)

-- ---------------------------------------------------------------------------
-- Years of a cycle
-- ---------------------------------------------------------------------------

/-- Leap years come again after 400 years. -/
theorem daysInYear_add_cycles (cycle year : Nat) :
    daysInYear (cycle * 400 + year) = daysInYear year := by
  have hleap : IsLeap (cycle * 400 + year + 1) ↔ IsLeap (year + 1) := by
    unfold IsLeap
    omega
  unfold daysInYear
  simp only [hleap]

/-- Years of a cycle lie end to end. -/
theorem daysBeforeYear_succ {year : Nat} (h : year < 399) :
    daysBeforeYear (year + 1) = daysBeforeYear year + daysInYear year := by
  unfold daysBeforeYear daysInYear
  -- together the quotients grow by one in leap years alone
  split
  next hleap =>
    unfold IsLeap at hleap
    omega
  next hleap =>
    unfold IsLeap at hleap
    omega

/-- A later day of a cycle does not lie in an earlier year. -/
theorem monotone_yearOfCycle : Monotone yearOfCycle := by
  refine monotone_nat_of_le_succ fun day => ?_
  unfold yearOfCycle
  exact Nat.div_le_div_right (by omega)

/-- The quotient gives the year at both of its ends, in each year of a cycle. -/
theorem yearOfCycle_ends : ∀ year < 400,
    yearOfCycle (daysBeforeYear year) = year ∧
      yearOfCycle (daysBeforeYear year + daysInYear year - 1) = year := by
  decide +kernel

/-- The quotient gives the year of a day of a cycle. -/
theorem yearOfCycle_eq {year day : Nat} (hyear : year < 400) (hday : day < daysInYear year) :
    yearOfCycle (daysBeforeYear year + day) = year := by
  obtain ⟨hfirst, hlast⟩ := yearOfCycle_ends year hyear
  -- between the ends of a year the quotient has no room to move
  have hle : yearOfCycle (daysBeforeYear year) ≤ yearOfCycle (daysBeforeYear year + day) :=
    monotone_yearOfCycle (Nat.le_add_right _ _)
  have hge : yearOfCycle (daysBeforeYear year + day) ≤
      yearOfCycle (daysBeforeYear year + daysInYear year - 1) :=
    monotone_yearOfCycle (by omega)
  omega

-- ---------------------------------------------------------------------------
-- Days of the calendar
-- ---------------------------------------------------------------------------

/-- Where a number of days after the start of 1970 lies: the cycle, the year of the cycle and the
day of the year. -/
structure Place (days cycle year day : Nat) : Prop where
  sum_eq : days + daysBeforeEpoch = cycle * daysPerCycle + (daysBeforeYear year + day)
  year_lt : year < 400
  day_lt : day < daysInYear year

/-- The days of the last year end with the cycle. -/
theorem daysBeforeYear_add_lt {year day : Nat} (hyear : year < 400) (hday : day < daysInYear year) :
    daysBeforeYear year + day < daysPerCycle := by
  -- the last year of a cycle is a leap year, and needs its length exactly
  rcases Nat.lt_or_ge year 399 with hlt | hge
  · have hlength := (daysInYear_bounds year).2
    unfold daysBeforeYear daysPerCycle
    omega
  · obtain rfl : year = 399 := by omega
    have hlength : daysInYear 399 = 366 := rfl
    have hbefore : daysBeforeYear 399 = 145731 := rfl
    unfold daysPerCycle
    omega

/-- The date is computed from where the day lies. -/
theorem Place.ofDays_eq {days cycle year day : Nat} (h : Place days cycle year day) :
    ofDays days = ofDayOfYear (cycle * 400 + year) day := by
  have hlt := daysBeforeYear_add_lt h.year_lt h.day_lt
  -- the quotients by the length of a cycle give back the cycle and the day in it
  have hcycle : (days + daysBeforeEpoch) / daysPerCycle = cycle := by
    rw [h.sum_eq]
    unfold daysPerCycle at *
    omega
  have hrest : (days + daysBeforeEpoch) % daysPerCycle = daysBeforeYear year + day := by
    rw [h.sum_eq]
    unfold daysPerCycle at *
    omega
  have hyear := yearOfCycle_eq h.year_lt h.day_lt
  show ofDayOfYear ((days + daysBeforeEpoch) / daysPerCycle * 400 +
      yearOfCycle ((days + daysBeforeEpoch) % daysPerCycle))
    ((days + daysBeforeEpoch) % daysPerCycle -
      daysBeforeYear (yearOfCycle ((days + daysBeforeEpoch) % daysPerCycle))) = _
  rw [hcycle, hrest, hyear, Nat.add_sub_cancel_left]

/-- A day later is a day later in the year, or the first day of the next year, or that of the next
cycle. -/
theorem Place.succ {days cycle year day : Nat} (h : Place days cycle year day) :
    Place (days + 1) cycle year (day + 1) ∨
      day + 1 = daysInYear year ∧
        (Place (days + 1) cycle (year + 1) 0 ∨ year = 399 ∧ Place (days + 1) (cycle + 1) 0 0) := by
  obtain ⟨hsum, hyear, hday⟩ := h
  -- the year goes on, or it ends, and then its cycle goes on or ends with it
  rcases Nat.lt_or_eq_of_le hday with hlt | hlast
  · exact Or.inl ⟨by omega, hyear, hlt⟩
  · have hpos (other : Nat) : 0 < daysInYear other :=
      Nat.lt_of_lt_of_le (by decide) (daysInYear_bounds other).1
    refine Or.inr ⟨hlast, ?_⟩
    rcases Nat.lt_or_ge year 399 with hinner | hend
    · have hnext := daysBeforeYear_succ hinner
      exact Or.inl ⟨by omega, by omega, hpos _⟩
    · obtain rfl : year = 399 := by omega
      have hlength : daysInYear 399 = 366 := rfl
      have hbefore : daysBeforeYear 399 = 145731 := rfl
      have hfirst : daysBeforeYear 0 = 0 := rfl
      refine Or.inr ⟨rfl, ?_, by decide, hpos _⟩
      unfold daysPerCycle at *
      omega

/-- Every day lies somewhere in the cycles. -/
theorem exists_place (days : Nat) : ∃ cycle year day, Place days cycle year day := by
  induction days with
  -- the start of 1970 is the first of January, 306 days into the year 1969 from March
  | zero => exact ⟨4, 369, 306, by decide, by decide, by decide⟩
  | succ days ih =>
    obtain ⟨cycle, year, day, h⟩ := ih
    rcases h.succ with h | ⟨-, h | ⟨-, h⟩⟩
    · exact ⟨_, _, _, h⟩
    · exact ⟨_, _, _, h⟩
    · exact ⟨_, _, _, h⟩

/-- **Dates follow one another.** The date one day later is the next one of the calendar. -/
theorem ofDays_succ (days : Nat) : ofDays (days + 1) = (ofDays days).next := by
  obtain ⟨cycle, year, day, h⟩ := exists_place days
  have hlength := daysInYear_add_cycles cycle year
  rw [h.ofDays_eq]
  -- inside a year, at the end of one, and at the end of a cycle, which is also the end of a year
  rcases h.succ with hsucc | ⟨hlast, hsucc | ⟨rfl, hsucc⟩⟩
  · rw [hsucc.ofDays_eq, next_ofDayOfYear (hlength ▸ hsucc.day_lt)]
  · rw [hsucc.ofDays_eq, next_ofDayOfYear_of_last (hlast.trans hlength.symm), Nat.add_assoc]
  · rw [hsucc.ofDays_eq, next_ofDayOfYear_of_last (hlast.trans hlength.symm), Nat.succ_mul]

/-- The date a number of days after the start of 1970 is so many steps of the calendar away. -/
theorem ofDays_eq_iterate (days : Nat) : ofDays days = next^[days] epoch := by
  induction days with
  | zero => rfl
  | succ days ih => rw [ofDays_succ, ih, Function.iterate_succ_apply']

-- ---------------------------------------------------------------------------
-- The order of dates
-- ---------------------------------------------------------------------------

theorem precedes_next (d : Date) : d.Precedes d.next := by
  unfold next Precedes
  split
  · exact Or.inr ⟨rfl, Or.inr ⟨rfl, Nat.lt_succ_self _⟩⟩
  · split
    · exact Or.inr ⟨rfl, Or.inl (Nat.lt_succ_self _)⟩
    · exact Or.inl (Nat.lt_succ_self _)

theorem Precedes.trans {a b c : Date} (hab : a.Precedes b) (hbc : b.Precedes c) :
    a.Precedes c := by
  unfold Precedes at *
  omega

theorem Precedes.asymm {a b : Date} (h : a.Precedes b) : ¬ b.Precedes a := by
  unfold Precedes at *
  omega

theorem Precedes.year_le {a b : Date} (h : a.Precedes b) : a.year ≤ b.year := by
  unfold Precedes at h
  omega

/-- Later days have later dates. -/
theorem precedes_ofDays {m n : Nat} (h : m < n) : (ofDays m).Precedes (ofDays n) := by
  induction n, h using Nat.le_induction with
  | base =>
    rw [ofDays_succ]
    exact precedes_next _
  | succ n _ ih =>
    rw [ofDays_succ]
    exact ih.trans (precedes_next _)

theorem year_le_year {m n : Nat} (h : m ≤ n) : (ofDays m).year ≤ (ofDays n).year := by
  rcases Nat.lt_or_eq_of_le h with hlt | rfl
  · exact (precedes_ofDays hlt).year_le
  · exact Nat.le_refl _

/-- Dates are in the order of days. -/
theorem precedes_ofDays_iff (m n : Nat) : (ofDays m).Precedes (ofDays n) ↔ m < n := by
  refine ⟨fun h => ?_, precedes_ofDays⟩
  by_contra hle
  rcases Nat.lt_or_eq_of_le (Nat.not_lt.mp hle) with hlt | rfl
  · exact h.asymm (precedes_ofDays hlt)
  · exact h.asymm h

/-- Different days have different dates. -/
theorem ofDays_inj {m n : Nat} : ofDays m = ofDays n ↔ m = n := by
  refine ⟨fun h => ?_, congrArg ofDays⟩
  have hmn := precedes_ofDays_iff m n
  have hnm := precedes_ofDays_iff n m
  rw [h, precedes_ofDays_iff] at hmn hnm
  omega

end Date

end ChainParams
