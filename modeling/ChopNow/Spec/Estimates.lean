import ChopNow.Lib.Calendar

/-! The next-payout estimates of FinanceService, and the two crons that they speak of. -/

namespace ChopNow

open Calendar

def DOUALA_OFFSET_MS : ℤ := 60 * 60 * 1000

def nextSundayAt02DoualaUtc (now : Instant) : Option Instant := do
  let wallClock ← timeClip (now.time + DOUALA_OFFSET_MS)
  let dow := wallClock.getUTCDay
  let hour := wallClock.getUTCHours
  let daysAhead :=
    if dow = 0 ∧ hour < 2 then 0
    else
      let daysAhead := (7 - dow) % 7
      if daysAhead = 0 then 7 else daysAhead
  let target ← wallClock.setUTCDate (wallClock.getUTCDate + daysAhead)
  let target ← target.setUTCHours 2 0 0 0
  timeClip (target.time - DOUALA_OFFSET_MS)

def nextMorningAt06DoualaUtc (now : Instant) : Option Instant := do
  let wallClock ← timeClip (now.time + DOUALA_OFFSET_MS)
  let target ← wallClock.setUTCHours 6 0 0 0
  let target ← if target.time ≤ wallClock.time then target.setUTCDate (target.getUTCDate + 1) else some target
  timeClip (target.time - DOUALA_OFFSET_MS)

/-! The crons, in Douala's time. -/

/-- `0 2 * * 0`. -/
def SundayAt02 (time : ℤ) : Prop :=
  weekDay (time + DOUALA_OFFSET_MS) = 0 ∧ timeWithinDay (time + DOUALA_OFFSET_MS) = 2 * MS_PER_HOUR

/-- `0 6 * * *`. -/
def MorningAt06 (time : ℤ) : Prop := timeWithinDay (time + DOUALA_OFFSET_MS) = 6 * MS_PER_HOUR

end ChopNow
