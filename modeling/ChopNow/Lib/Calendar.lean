import Mathlib.Algebra.Order.Group.Int
import Mathlib.Order.Bounds.Basic
import Mathlib.Tactic

/-! Dates as ECMAScript has them: milliseconds since the start of 1970, read in the proleptic
Gregorian calendar in UTC. Setting the date and reading it are inverse to each other, so that
days can be added to the date without regard to months and years. -/

namespace Calendar

/-! Years and months, by the number of a day since 1 January 1970. -/

def isLeapYear (year : ℤ) : Bool := year % 4 == 0 && (year % 100 != 0 || year % 400 == 0)

/-- 1 January of the year. -/
def dayFromYear (year : ℤ) : ℤ := 365 * (year - 1970) + (year - 1969) / 4 - (year - 1901) / 100 + (year - 1601) / 400

/-- By whole cycles of 400, 100 and 4 years since 1601. -/
def yearFromDay (day : ℤ) : ℤ :=
  let n := day + 134774
  let century := min 3 (n % 146097 / 36524)
  let inCentury := n % 146097 - 36524 * century
  1601 + 400 * (n / 146097) + 100 * century + 4 * (inCentury / 1461) + min 3 (inCentury % 1461 / 365)

theorem dayFromYear_succ (year : ℤ) :
    dayFromYear (year + 1) = dayFromYear year + 365 + if isLeapYear year then 1 else 0 := by
  unfold dayFromYear isLeapYear
  split <;> simp only [Bool.and_eq_true, Bool.or_eq_true, beq_iff_eq, bne_iff_ne] at * <;> omega

theorem yearFromDay_spec (day : ℤ) :
    dayFromYear (yearFromDay day) ≤ day ∧ day < dayFromYear (yearFromDay day + 1) := by
  unfold yearFromDay dayFromYear
  generalize hn : day + 134774 = n
  obtain rfl : day = n - 134774 := by omega
  simp only
  generalize hc : min 3 (n % 146097 / 36524) = c
  generalize hm : n % 146097 - 36524 * c = m
  generalize hy : min 3 (m % 1461 / 365) = y
  -- the place in each of the three cycles
  have hc₀ : 0 ≤ c ∧ c ≤ 3 := by omega
  have hm₀ : 0 ≤ m ∧ m ≤ 36524 ∧ (c ≤ 2 → m < 36524) := by omega
  have hq₀ : 0 ≤ m / 1461 ∧ m / 1461 ≤ 24 := by omega
  have hr₀ : 0 ≤ m % 1461 ∧ m % 1461 < 1461 := by omega
  have hy₀ : 0 ≤ y ∧ y ≤ 3 ∧ 365 * y ≤ m % 1461 ∧ (y ≤ 2 → m % 1461 < 365 * (y + 1)) := by omega
  have hn' : n = 146097 * (n / 146097) + 36524 * c + m := by omega
  have hm' : m = 1461 * (m / 1461) + m % 1461 := by omega
  generalize n / 146097 = era at *
  generalize m / 1461 = q at *
  generalize m % 1461 = r at *
  clear hc hm hy hn
  have e₁ : (1601 + 400 * era + 100 * c + 4 * q + y - 1969) / 4 = 100 * era + 25 * c + q - 92 := by omega
  have e₂ : (1601 + 400 * era + 100 * c + 4 * q + y - 1901) / 100 = 4 * era + c - 3 := by omega
  have e₃ : (1601 + 400 * era + 100 * c + 4 * q + y - 1601) / 400 = era := by omega
  have f₁ : (1601 + 400 * era + 100 * c + 4 * q + y + 1 - 1969) / 4 = 100 * era + 25 * c + q - 92 + (y + 1) / 4 := by
    omega
  have f₂ : (1601 + 400 * era + 100 * c + 4 * q + y + 1 - 1901) / 100 = 4 * era + c - 3 + (4 * q + y + 1) / 100 := by
    omega
  have f₃ : (1601 + 400 * era + 100 * c + 4 * q + y + 1 - 1601) / 400 = era + (100 * c + 4 * q + y + 1) / 400 := by
    omega
  rw [e₁, e₂, e₃, f₁, f₂, f₃]
  clear e₁ e₂ e₃ f₁ f₂ f₃
  constructor
  · omega
  · by_cases hy₂ : y ≤ 2
    · -- no cycle ends with this year
      have g₁ : (y + 1) / 4 = 0 := by omega
      have g₂ : (4 * q + y + 1) / 100 = 0 := by omega
      have g₃ : (100 * c + 4 * q + y + 1) / 400 = 0 := by omega
      omega
    · by_cases hq₂ : q ≤ 23
      · omega
      · by_cases hc₂ : c ≤ 2 <;> omega

/-- The days before the month. -/
def monthStart (leap : Bool) (month : Fin 12) : ℤ :=
  (if leap then ![0, 31, 60, 91, 121, 152, 182, 213, 244, 274, 305, 335]
    else ![0, 31, 59, 90, 120, 151, 181, 212, 243, 273, 304, 334]) month

def monthLength (leap : Bool) (month : Fin 12) : ℤ :=
  ![31, if leap then 29 else 28, 31, 30, 31, 30, 31, 31, 30, 31, 30, 31] month

/-- The month of a day of the year, counted from 0. -/
def monthOf (leap : Bool) (day : ℤ) : Fin 12 :=
  if day < monthStart leap 1 then 0
  else if day < monthStart leap 2 then 1
  else if day < monthStart leap 3 then 2
  else if day < monthStart leap 4 then 3
  else if day < monthStart leap 5 then 4
  else if day < monthStart leap 6 then 5
  else if day < monthStart leap 7 then 6
  else if day < monthStart leap 8 then 7
  else if day < monthStart leap 9 then 8
  else if day < monthStart leap 10 then 9
  else if day < monthStart leap 11 then 10
  else 11

theorem monthOf_spec {leap : Bool} {day : ℤ} (hlo : 0 ≤ day) (hhi : day < 365 + if leap then 1 else 0) :
    monthStart leap (monthOf leap day) ≤ day ∧
      day < monthStart leap (monthOf leap day) + monthLength leap (monthOf leap day) := by
  have hall : ∀ leap, ∀ n : ℕ, n < 365 + (if leap then 1 else 0) → monthStart leap (monthOf leap n) ≤ n ∧
      (n : ℤ) < monthStart leap (monthOf leap n) + monthLength leap (monthOf leap n) := by decide +kernel
  obtain ⟨n, rfl⟩ := Int.eq_ofNat_of_zero_le hlo
  exact hall leap n (by exact_mod_cast hhi)

/-- A date of the calendar. The month is counted from 0. -/
structure Civil where
  year : ℤ
  month : Fin 12
  date : ℤ
  valid : 1 ≤ date ∧ date ≤ monthLength (isLeapYear year) month

def dayWithinYear (day : ℤ) : ℤ := day - dayFromYear (yearFromDay day)

theorem dayWithinYear_spec (day : ℤ) :
    0 ≤ dayWithinYear day ∧ dayWithinYear day < 365 + if isLeapYear (yearFromDay day) then 1 else 0 := by
  obtain ⟨hlo, hhi⟩ := yearFromDay_spec day
  rw [dayFromYear_succ] at hhi
  unfold dayWithinYear
  constructor <;> omega

/-- YearFromTime, MonthFromTime and DateFromTime. -/
def civil (day : ℤ) : Civil where
  year := yearFromDay day
  month := monthOf (isLeapYear (yearFromDay day)) (dayWithinYear day)
  date := dayWithinYear day - monthStart (isLeapYear (yearFromDay day))
    (monthOf (isLeapYear (yearFromDay day)) (dayWithinYear day)) + 1
  valid := by
    obtain ⟨hlo, hhi⟩ := dayWithinYear_spec day
    obtain ⟨hstart, hend⟩ := monthOf_spec hlo hhi
    constructor <;> omega

/-- MakeDay: months and days beyond their range carry over. -/
def makeDay (year month date : ℤ) : ℤ :=
  dayFromYear (year + month / 12) +
    monthStart (isLeapYear (year + month / 12)) (Fin.ofNat 12 (month % 12).toNat) + date - 1

theorem makeDay_civil (day days : ℤ) :
    makeDay (civil day).year (civil day).month ((civil day).date + days) = day + days := by
  have hyear : (civil day).year + ((civil day).month : ℤ) / 12 = (civil day).year := by omega
  have hmonth : Fin.ofNat 12 (((civil day).month : ℤ) % 12).toNat = (civil day).month := by
    ext
    simp
    omega
  rw [makeDay, hyear, hmonth]
  simp only [civil, dayWithinYear]
  omega

/-! Instants. -/

def MS_PER_DAY : ℤ := 86400000

def MS_PER_HOUR : ℤ := 3600000

/-- A `Date` reaches 100 000 000 days from the epoch. -/
def MAX_TIME : ℤ := 100000000 * MS_PER_DAY

/-- A valid `Date`. -/
structure Instant where
  time : ℤ
  valid : -MAX_TIME ≤ time ∧ time ≤ MAX_TIME

/-- `none` is an invalid `Date`. -/
def timeClip (time : ℤ) : Option Instant :=
  if h : -MAX_TIME ≤ time ∧ time ≤ MAX_TIME then some ⟨time, h⟩ else none

def day (time : ℤ) : ℤ := time / MS_PER_DAY

def timeWithinDay (time : ℤ) : ℤ := time % MS_PER_DAY

/-- 0 is Sunday. -/
def weekDay (time : ℤ) : ℤ := (day time + 4) % 7

def makeTime (hour min sec ms : ℤ) : ℤ := hour * MS_PER_HOUR + min * 60000 + sec * 1000 + ms

def makeDate (day time : ℤ) : ℤ := day * MS_PER_DAY + time

namespace Instant

def getUTCDay (t : Instant) : ℤ := weekDay t.time

def getUTCHours (t : Instant) : ℤ := timeWithinDay t.time / MS_PER_HOUR

def getUTCDate (t : Instant) : ℤ := (civil (day t.time)).date

def setUTCDate (t : Instant) (date : ℤ) : Option Instant :=
  timeClip (makeDate (makeDay (civil (day t.time)).year (civil (day t.time)).month date) (timeWithinDay t.time))

def setUTCHours (t : Instant) (hour min sec ms : ℤ) : Option Instant :=
  timeClip (makeDate (day t.time) (makeTime hour min sec ms))

/-- Adding to the date adds days. -/
theorem setUTCDate_add (t : Instant) (days : ℤ) :
    t.setUTCDate (t.getUTCDate + days) = timeClip (t.time + days * MS_PER_DAY) := by
  rw [setUTCDate, getUTCDate, makeDay_civil]
  congr 1
  simp only [makeDate, day, timeWithinDay, MS_PER_DAY]
  omega

end Instant

/-! What comes round once in a period. -/

/-- The first of the instants that differ from `phase` by whole periods, after `t`. -/
def nextAt (period phase t : ℤ) : ℤ := phase + period * ((t - phase) / period + 1)

theorem nextAt_isLeast {period phase : ℤ} (hperiod : 0 < period) (t : ℤ) :
    IsLeast { n | t < n ∧ period ∣ n - phase } (nextAt period phase t) := by
  refine ⟨⟨?_, (t - phase) / period + 1, by rw [nextAt]; ring⟩, ?_⟩
  · have hlt := Int.lt_ediv_add_one_mul_self (t - phase) hperiod
    rw [nextAt, mul_comm period]
    omega
  · rintro n ⟨hlt, k, hk⟩
    have hle : (t - phase) / period < k := Int.ediv_lt_of_lt_mul hperiod (by rw [mul_comm, ← hk]; omega)
    calc nextAt period phase t ≤ phase + period * k := by rw [nextAt]; gcongr; exact hle
      _ = n := by omega

end Calendar
