import Mathlib.Tactic.IntervalCases

/-!
# Laforge.Go.Time

Go's `time.Time`, as far as the revision records use it: the instant, and the offset from UTC
of the location the time is expressed in; and the proleptic Gregorian calendar of `time.go`
that turns one into the other.

1. `absYearDay` and `monthDay` are `absDate`: the year is found by cutting the days since the
   absolute epoch into cycles of 400, 100, 4 and 1 years; the month, by guessing from 31-day
   months and correcting once (`monthOfDay`).  `absClock` is the time of day.
2. `dateUnix` is `Date` for fields in range, the only way `parseRFC3339` calls it: there `norm`
   changes nothing, and for the years 0 to 9999 the `uint64` arithmetic does not wrap.

`dateUnix_absDate` is the calendar's law: the date and clock of an absolute time give it back.
-/

namespace Laforge.Go

/-- A `time.Time`.  A Go time is an instant together with a location; of the location only its
offset from UTC at that instant shows in any text the model writes, so that is what is kept.
(A time read from `time.Now` also carries a monotonic clock reading, which no text shows.) -/
structure Time where
  /-- Whole seconds since 1970-01-01T00:00:00Z. -/
  unixSec : Int
  /-- Nanoseconds into that second. -/
  nsec : Nat
  nsec_lt : nsec < 1000000000
  /-- Seconds east of UTC of the time's location at this instant. -/
  offset : Int
deriving DecidableEq

/-! ## The calendar -/

/-- `secondsPerDay`. -/
def secondsPerDay : Nat := 86400

/-- `daysPer400Years`. -/
def daysPer400Years : Nat := 365 * 400 + 97

/-- `daysPer100Years`. -/
def daysPer100Years : Nat := 365 * 100 + 24

/-- `daysPer4Years`. -/
def daysPer4Years : Nat := 365 * 4 + 1

/-- `absoluteZeroYear`: the year the absolute clock counts from.  It is 1 modulo 400, so its
cycles of 400 years are the Gregorian ones. -/
def absoluteZeroYear : Int := -292277022399

/-- `unixToInternal + internalToAbsolute`: seconds from the absolute epoch to 1970. -/
def unixToAbsolute : Int := 9223372028715321600

/-- `isLeap`. -/
def isLeap (year : Int) : Bool := year % 4 = 0 && (year % 100 ≠ 0 || year % 400 = 0)

/-- `daysBefore[m]`: the days of a non-leap year before month `m + 1`. -/
def daysBefore : Nat → Nat
  | 0 => 0 | 1 => 31 | 2 => 59 | 3 => 90 | 4 => 120 | 5 => 151 | 6 => 181
  | 7 => 212 | 8 => 243 | 9 => 273 | 10 => 304 | 11 => 334 | _ => 365

/-- `daysIn(m, year)`. -/
def daysIn (m : Nat) (year : Int) : Nat :=
  if m = 2 ∧ isLeap year then 29 else daysBefore m - daysBefore (m - 1)

/-- `absDate(abs, false)`: the year of an absolute time, and the day in that year from 0. -/
def absYearDay (abs : Nat) : Int × Nat :=
  let d := abs / secondsPerDay
  -- 400-year cycles
  let n := d / daysPer400Years
  let y := 400 * n
  let d := d - daysPer400Years * n
  -- 100-year cycles; the last is a day longer, which the `n / 4` takes back
  let n := d / daysPer100Years
  let n := n - n / 4
  let y := y + 100 * n
  let d := d - daysPer100Years * n
  -- 4-year cycles
  let n := d / daysPer4Years
  let y := y + 4 * n
  let d := d - daysPer4Years * n
  -- years; the last is a leap year, and again `n / 4` takes its extra day back
  let n := d / 365
  let n := n - n / 4
  let y := y + n
  let d := d - 365 * n
  (y + absoluteZeroYear, d)

/-- The month of `absDate(abs, true)` after the leap day is set aside: guess the month from
31-day months, then move to the next one if the day is past its start. -/
def monthOfDay (day : Nat) : Nat × Nat :=
  let month := day / 31
  let fin := daysBefore (month + 1)
  if fin ≤ day then (month + 2, day - fin + 1) else (month + 1, day - daysBefore month + 1)

/-- The month and day of `absDate(abs, true)` for the `yday`th day of a year. -/
def monthDay (leap : Bool) (yday : Nat) : Nat × Nat :=
  if leap ∧ yday = 31 + 29 - 1 then (2, 29)
  else monthOfDay (if leap ∧ 31 + 29 - 1 < yday then yday - 1 else yday)

/-- `absDate(abs, true)`: year, month and day. -/
def absDate (abs : Nat) : Int × Nat × Nat :=
  let yd := absYearDay abs
  let md := monthDay (isLeap yd.1) yd.2
  (yd.1, md.1, md.2)

/-- `absClock`: hour, minute and second. -/
def absClock (abs : Nat) : Nat × Nat × Nat :=
  let sec := abs % secondsPerDay
  (sec / 3600, sec % 3600 / 60, sec % 60)

/-- `daysSinceEpoch(year)`: days from the absolute epoch to January 1 of `year`. -/
def daysSinceEpoch (year : Int) : Nat :=
  let y := (year - absoluteZeroYear).toNat
  let n := y / 400
  let y := y - 400 * n
  let d := daysPer400Years * n
  let n := y / 100
  let y := y - 100 * n
  let d := d + daysPer100Years * n
  let n := y / 4
  let y := y - 4 * n
  let d := d + daysPer4Years * n
  d + 365 * y

/-- `Date(year, month, day, hour, min, sec, nsec, UTC).Unix()` for fields in range. -/
def dateUnix (year : Int) (month day hour min sec : Nat) : Int :=
  let d := daysSinceEpoch year + daysBefore (month - 1) +
    (if isLeap year ∧ 3 ≤ month then 1 else 0) + (day - 1)
  ((d * secondsPerDay + (hour * 3600 + min * 60 + sec) : Nat) : Int) - unixToAbsolute

example : absDate (Int.toNat (951782400 + unixToAbsolute)) = (2000, 2, 29) := by decide
example : dateUnix 2000 2 29 0 0 0 = 951782400 := by decide

namespace Time

/-- The zero `time.Time`: January 1, year 1, 00:00:00 UTC. -/
def zero : Time := ⟨-62135596800, 0, by decide, 0⟩

/-- Two times are the same instant (`Time.Equal`). -/
def Equal (t u : Time) : Prop := t.unixSec = u.unixSec ∧ t.nsec = u.nsec

/-- The time's wall-clock seconds in its own location, counted from 1970-01-01T00:00:00. -/
def localSec (t : Time) : Int := t.unixSec + t.offset

/-- `t.abs()`, as `locabs` computes it: the local seconds from the absolute epoch, as a
`uint64`. -/
def abs (t : Time) : Nat := ((t.localSec + unixToAbsolute) % 2 ^ 64).toNat

/-- `t.Year()`. -/
def year (t : Time) : Int := (absYearDay t.abs).1

/-- The local time is in the years 0 to 9999: from 0000-01-01T00:00:00 to before
10000-01-01T00:00:00. -/
def InYearRange (t : Time) : Prop := -62167219200 ≤ t.localSec ∧ t.localSec < 253402300800

end Time

/-! ## The calendar's law -/

theorem daysIn_le (m : Nat) (year : Int) : daysIn m year ≤ 31 := by
  unfold daysIn
  split_ifs
  · decide
  · rcases Nat.lt_or_ge m 13 with h | h
    · interval_cases m <;> decide
    · have h1 : daysBefore m = 365 := by
        rw [daysBefore.eq_def]; split <;> omega
      have h2 : 365 ≤ daysBefore (m - 1) := by
        rw [daysBefore.eq_def]; split <;> omega
      omega

/-- A year of the absolute calendar, by its place in the cycles of 400, 100, 4 and 1 years. -/
theorem daysSinceEpoch_cycles {e c100 c4 c1 : Nat} (h100 : c100 ≤ 3) (h4 : c4 ≤ 24)
    (h1 : c1 ≤ 3) :
    daysSinceEpoch (((400 * e + 100 * c100 + 4 * c4 + c1 : Nat) : Int) + absoluteZeroYear) =
      daysPer400Years * e + daysPer100Years * c100 + daysPer4Years * c4 + 365 * c1 := by
  simp only [daysSinceEpoch, add_sub_cancel_right, Int.toNat_ofNat, daysPer400Years,
    daysPer100Years, daysPer4Years]
  omega

/-- The leap years are the last of each 4-year cycle, but for the last of a 100-year cycle that is
not the last of the 400. -/
theorem isLeap_cycles {e c100 c4 c1 : Nat} (h100 : c100 ≤ 3) (h4 : c4 ≤ 24) (h1 : c1 ≤ 3) :
    isLeap (((400 * e + 100 * c100 + 4 * c4 + c1 : Nat) : Int) + absoluteZeroYear) = true ↔
      c1 = 3 ∧ (c4 ≠ 24 ∨ c100 = 3) := by
  simp only [isLeap, absoluteZeroYear, Bool.and_eq_true, Bool.or_eq_true, decide_eq_true_eq]
  omega

/-- What `absYearDay` computes: the cycles it cut off, and a day of the year that is 365 only
in a leap year. -/
theorem absYearDay_cycles (abs : Nat) : ∃ e c100 c4 c1, c100 ≤ 3 ∧ c4 ≤ 24 ∧ c1 ≤ 3 ∧
    (absYearDay abs).1 = ((400 * e + 100 * c100 + 4 * c4 + c1 : Nat) : Int) + absoluteZeroYear ∧
    daysPer400Years * e + daysPer100Years * c100 + daysPer4Years * c4 + 365 * c1 +
      (absYearDay abs).2 = abs / secondsPerDay ∧
    ((absYearDay abs).2 < 365 ∨ (absYearDay abs).2 = 365 ∧ c1 = 3 ∧ (c4 ≠ 24 ∨ c100 = 3)) := by
  simp only [absYearDay]
  generalize abs / secondsPerDay = d
  generalize hr1 : d - daysPer400Years * (d / daysPer400Years) = r1
  generalize hq : r1 / daysPer100Years = q
  generalize hr2 : r1 - daysPer100Years * (q - q / 4) = r2
  generalize hr3 : r2 - daysPer4Years * (r2 / daysPer4Years) = r3
  simp only [daysPer400Years, daysPer100Years, daysPer4Years] at *
  exact ⟨d / 146097, q - q / 4, r2 / 1461, r3 / 365 - r3 / 365 / 4, by omega, by omega, by omega,
    rfl, by omega, by omega⟩

/-- A day of the year with the leap day set aside lies in the month `monthOfDay` names. -/
theorem monthOfDay_spec {day : Nat} (h : day < 365) :
    let md := monthOfDay day
    1 ≤ md.1 ∧ md.1 ≤ 12 ∧ 1 ≤ md.2 ∧ md.2 ≤ daysBefore md.1 - daysBefore (md.1 - 1) ∧
      daysBefore (md.1 - 1) + (md.2 - 1) = day ∧ (3 ≤ md.1 ↔ 59 ≤ day) := by
  have hm : day / 31 ≤ 11 := by omega
  have hlo : 31 * (day / 31) ≤ day := by omega
  have hhi : day < 31 * (day / 31) + 31 := by omega
  simp only [monthOfDay]
  generalize day / 31 = month at *
  split_ifs <;> dsimp only <;> interval_cases month <;> simp only [daysBefore] at * <;> omega

/-- `monthDay` gives a valid month and day, and the days before it add up to the day of the
year. -/
theorem monthDay_spec (leap : Bool) {yday : Nat} (h : yday < 365 + (if leap then 1 else 0)) :
    let md := monthDay leap yday
    1 ≤ md.1 ∧ md.1 ≤ 12 ∧ 1 ≤ md.2 ∧
      md.2 ≤ (if md.1 = 2 ∧ leap then 29 else daysBefore md.1 - daysBefore (md.1 - 1)) ∧
      daysBefore (md.1 - 1) + (if leap ∧ 3 ≤ md.1 then 1 else 0) + (md.2 - 1) = yday := by
  cases leap with
  | false =>
    simp only [monthDay, Bool.false_eq_true, false_and, ↓reduceIte, and_false, add_zero] at h ⊢
    obtain ⟨h1, h2, h3, h4, h5, -⟩ := monthOfDay_spec h
    exact ⟨h1, h2, h3, h4, h5⟩
  | true =>
    simp only [monthDay, ↓reduceIte, true_and, and_true] at h ⊢
    by_cases h59 : yday = 31 + 29 - 1
    · simp only [h59, ↓reduceIte]
      decide
    have hday : (if 31 + 29 - 1 < yday then yday - 1 else yday) < 365 := by split_ifs <;> omega
    obtain ⟨h1, h2, h3, h4, h5, h6⟩ := monthOfDay_spec hday
    rw [if_neg h59]
    generalize monthOfDay (if 31 + 29 - 1 < yday then yday - 1 else yday) = md at *
    obtain ⟨m, dd⟩ := md
    dsimp only at *
    refine ⟨h1, h2, h3, ?_, ?_⟩
    · split_ifs with hm
      · subst hm; simp only [daysBefore] at h4; omega
      · exact h4
    · split_ifs at h5 h6 ⊢ <;> omega

/-- The day of the year is 365 only in a leap year. -/
theorem absYearDay_yday_lt (abs : Nat) :
    (absYearDay abs).2 < 365 + (if isLeap (absYearDay abs).1 then 1 else 0) := by
  obtain ⟨e, c100, c4, c1, h100, h4, h1, hy, -, hd⟩ := absYearDay_cycles abs
  have hl := @isLeap_cycles e c100 c4 c1 h100 h4 h1
  rw [hy]
  split_ifs with h <;> simp only [h, true_iff, Bool.false_eq_true, false_iff] at hl <;> omega

/-- The date `absDate` gives is a valid one. -/
theorem absDate_valid (abs : Nat) :
    let ymd := absDate abs
    1 ≤ ymd.2.1 ∧ ymd.2.1 ≤ 12 ∧ 1 ≤ ymd.2.2 ∧ ymd.2.2 ≤ daysIn ymd.2.1 ymd.1 := by
  obtain ⟨h1, h2, h3, h4, -⟩ := monthDay_spec _ (absYearDay_yday_lt abs)
  exact ⟨h1, h2, h3, h4⟩

/-- `dateUnix` with the days of the year gathered in one sum. -/
theorem dateUnix_eq (year : Int) (month day hour min sec : Nat) :
    dateUnix year month day hour min sec = ((daysSinceEpoch year + (daysBefore (month - 1) +
      (if isLeap year ∧ 3 ≤ month then 1 else 0) + (day - 1))) * secondsPerDay +
      (hour * 3600 + min * 60 + sec) : Nat) - unixToAbsolute := by
  simp only [dateUnix, Nat.add_assoc]

/-- **The date and clock of an absolute time give it back.** -/
theorem dateUnix_absDate (abs : Nat) :
    dateUnix (absDate abs).1 (absDate abs).2.1 (absDate abs).2.2 (absClock abs).1
      (absClock abs).2.1 (absClock abs).2.2 = abs - unixToAbsolute := by
  obtain ⟨e, c100, c4, c1, h100, h4, h1, hy, hsum, -⟩ := absYearDay_cycles abs
  obtain ⟨-, -, -, -, hyday⟩ := monthDay_spec _ (absYearDay_yday_lt abs)
  have hdays : daysSinceEpoch (absYearDay abs).1 =
      daysPer400Years * e + daysPer100Years * c100 + daysPer4Years * c4 + 365 * c1 := by
    rw [hy, daysSinceEpoch_cycles h100 h4 h1]
  rw [dateUnix_eq]
  simp only [absDate, absClock]
  rw [hyday, hdays]
  simp only [secondsPerDay] at *
  omega

/-! ## Times in the years 0 to 9999 -/

/-- Days since the absolute epoch that fall in the years 0 to 9999 (days 145731 to 3798155 of
the cycle containing year 0) lie in those years. -/
theorem cycles_year_bounds {e c100 c4 c1 yday : Nat} (h100 : c100 ≤ 3) (h4 : c4 ≤ 24)
    (h1 : c1 ≤ 3) (hd : yday < 365 ∨ yday = 365 ∧ c1 = 3 ∧ (c4 ≠ 24 ∨ c100 = 3))
    (hlo : 145731 ≤ 146097 * e + 36524 * c100 + 1461 * c4 + 365 * c1 + yday)
    (hhi : 146097 * e + 36524 * c100 + 1461 * c4 + 365 * c1 + yday < 145731 + 3652425) :
    399 ≤ 400 * e + 100 * c100 + 4 * c4 + c1 ∧ 400 * e + 100 * c100 + 4 * c4 + c1 ≤ 399 + 9999 := by
  constructor
  · by_contra hlt
    obtain rfl : e = 0 := by omega
    obtain rfl : c100 = 3 := by omega
    obtain rfl : c4 = 24 := by omega
    omega
  · by_contra hlt
    obtain rfl : e = 25 := by omega
    obtain rfl : c100 = 3 := by omega
    obtain rfl : c4 = 24 := by omega
    omega

namespace Time

/-- A local time in the years 0 to 9999 does not wrap around the `uint64` absolute clock. -/
theorem abs_eq {t : Time} (h : t.InYearRange) : (t.abs : Int) = t.localSec + unixToAbsolute := by
  simp only [abs, InYearRange, unixToAbsolute] at *
  rw [Int.toNat_of_nonneg (by omega), Int.emod_eq_of_lt (by omega) (by omega)]

/-- A local time in the years 0 to 9999 has its `Year()` there. -/
theorem year_mem {t : Time} (h : t.InYearRange) : 0 ≤ t.year ∧ t.year ≤ 9999 := by
  have ha := abs_eq h
  simp only [InYearRange, unixToAbsolute] at h ha
  have hD : 106751990353566 ≤ t.abs / secondsPerDay ∧ t.abs / secondsPerDay < 106751994005991 := by
    simp only [secondsPerDay]; omega
  obtain ⟨e, c100, c4, c1, h100, h4, h1, hy, hsum, hd⟩ := absYearDay_cycles t.abs
  rw [year, hy, absoluteZeroYear]
  generalize t.abs / secondsPerDay = D at hD hsum
  generalize (absYearDay t.abs).2 = yday at hsum hd
  simp only [daysPer400Years, daysPer100Years, daysPer4Years] at hsum
  have hyd : yday ≤ 365 := by rcases hd with h | h <;> omega
  have he : 730692555 ≤ e := by clear hy hd; omega
  obtain ⟨e', rfl⟩ := Nat.exists_eq_add_of_le he
  have := @cycles_year_bounds e' c100 c4 c1 _ h100 h4 h1 hd (by clear hy hd; omega)
    (by clear hy hd; omega)
  clear hd hsum hD
  omega

end Time

end Laforge.Go
