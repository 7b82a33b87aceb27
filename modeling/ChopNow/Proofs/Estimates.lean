import ChopNow.Spec.Estimates

/-! The estimates are the next runs of the crons, up to where `Date` ends. -/

namespace ChopNow

open Calendar

/-- What the functions can return of an instant that they have found on Douala's clock. -/
def estimate (time : ℤ) : Option Instant :=
  if time + DOUALA_OFFSET_MS ≤ MAX_TIME then timeClip time else none

section

variable {now : Instant} {time : ℤ}

theorem sundayAt02_iff : SundayAt02 time ↔
    7 * MS_PER_DAY ∣ time - (3 * MS_PER_DAY + 2 * MS_PER_HOUR - DOUALA_OFFSET_MS) := by
  simp only [SundayAt02, weekDay, day, timeWithinDay, MS_PER_DAY, MS_PER_HOUR, DOUALA_OFFSET_MS]
  omega

theorem morningAt06_iff : MorningAt06 time ↔ MS_PER_DAY ∣ time - (6 * MS_PER_HOUR - DOUALA_OFFSET_MS) := by
  simp only [MorningAt06, timeWithinDay, MS_PER_DAY, MS_PER_HOUR, DOUALA_OFFSET_MS]
  omega

theorem nextSunday_isLeast (t : ℤ) : IsLeast { n | t < n ∧ SundayAt02 n }
    (nextAt (7 * MS_PER_DAY) (3 * MS_PER_DAY + 2 * MS_PER_HOUR - DOUALA_OFFSET_MS) t) := by
  simp only [sundayAt02_iff]
  exact nextAt_isLeast (by decide) t

theorem nextMorning_isLeast (t : ℤ) : IsLeast { n | t < n ∧ MorningAt06 n }
    (nextAt MS_PER_DAY (6 * MS_PER_HOUR - DOUALA_OFFSET_MS) t) := by
  simp only [morningAt06_iff]
  exact nextAt_isLeast (by decide) t

theorem estimate_of_gt (h : MAX_TIME < time + DOUALA_OFFSET_MS) : estimate time = none := if_neg (not_le.2 h)

theorem timeClip_back (hlo : -MAX_TIME ≤ time + DOUALA_OFFSET_MS) :
    ((timeClip (time + DOUALA_OFFSET_MS)).bind fun target => timeClip (target.time - DOUALA_OFFSET_MS)) =
      estimate time := by
  by_cases hin : time + DOUALA_OFFSET_MS ≤ MAX_TIME
  · rw [timeClip, dif_pos ⟨hlo, hin⟩, Option.bind_some, add_sub_cancel_right, estimate, if_pos hin]
  · rw [timeClip, dif_neg fun h => hin h.2, Option.bind_none, estimate, if_neg hin]

theorem timeClip_of_gt (h : MAX_TIME < time) : timeClip time = none := dif_neg fun hin => absurd hin.2 (not_le.2 h)

/-- An instant after `now` is not before the first. -/
theorem estimate_time (h : now.time < time) :
    (estimate time).map Instant.time = if time + DOUALA_OFFSET_MS ≤ MAX_TIME then some time else none := by
  have hlo := now.valid.1
  unfold estimate
  split
  · next hle =>
    have hvalid : time ≤ MAX_TIME := by
      simp only [DOUALA_OFFSET_MS] at hle
      omega
    rw [timeClip, dif_pos ⟨by omega, hvalid⟩, Option.map_some]
  · rfl

/-- Days ahead, an hour of that day, and back to UTC. The last of these dates is the first to
reach the end of `Date`. -/
theorem hour_ahead {wall days hour : ℤ} (hwall : -MAX_TIME ≤ wall) (hdays : 0 ≤ days) (hlo : 1 ≤ hour) :
    ((timeClip (wall + days * MS_PER_DAY)).bind fun target => (target.setUTCHours hour 0 0 0).bind fun target =>
      timeClip (target.time - DOUALA_OFFSET_MS)) =
        estimate ((day wall + days) * MS_PER_DAY + hour * MS_PER_HOUR - DOUALA_OFFSET_MS) := by
  have hday : day (wall + days * MS_PER_DAY) = day wall + days := by
    simp only [day, MS_PER_DAY]
    omega
  have hfirst : -100000000 ≤ day wall := by
    simp only [day, MAX_TIME, MS_PER_DAY] at *
    omega
  by_cases hclip : wall + days * MS_PER_DAY ≤ MAX_TIME
  · have hsome : timeClip (wall + days * MS_PER_DAY) = some ⟨wall + days * MS_PER_DAY,
        by simp only [MS_PER_DAY]; omega, hclip⟩ := dif_pos _
    rw [hsome, Option.bind_some, Instant.setUTCHours, hday]
    have htarget : makeDate (day wall + days) (makeTime hour 0 0 0) =
        (day wall + days) * MS_PER_DAY + hour * MS_PER_HOUR := by simp [makeDate, makeTime]
    rw [htarget, ← timeClip_back, sub_add_cancel]
    simp only [MAX_TIME, MS_PER_DAY, MS_PER_HOUR]
    omega
  · rw [timeClip_of_gt (not_le.1 hclip), Option.bind_none, estimate_of_gt]
    simp only [day, MAX_TIME, MS_PER_DAY, MS_PER_HOUR, DOUALA_OFFSET_MS] at *
    omega

/-- Where Douala's clock has run out, so has the estimate. -/
theorem wall_clock {period phase : ℤ} (hperiod : 0 < period) (f : Instant → Option Instant)
    (h : ∀ wall : Instant, wall.time = now.time + DOUALA_OFFSET_MS → f wall = estimate (nextAt period phase now.time)) :
    (timeClip (now.time + DOUALA_OFFSET_MS)).bind f = estimate (nextAt period phase now.time) := by
  by_cases hwall : now.time + DOUALA_OFFSET_MS ≤ MAX_TIME
  · have hvalid : -MAX_TIME ≤ now.time + DOUALA_OFFSET_MS := by
      have hlo := now.valid.1
      simp only [DOUALA_OFFSET_MS]
      omega
    rw [timeClip, dif_pos ⟨hvalid, hwall⟩, Option.bind_some]
    exact h _ rfl
  · have hlater : now.time < nextAt period phase now.time := (nextAt_isLeast hperiod now.time).1.1
    rw [timeClip_of_gt (not_le.1 hwall), Option.bind_none, estimate_of_gt (by omega)]

theorem nextSunday_eq : nextSundayAt02DoualaUtc now =
    estimate (nextAt (7 * MS_PER_DAY) (3 * MS_PER_DAY + 2 * MS_PER_HOUR - DOUALA_OFFSET_MS) now.time) := by
  refine wall_clock (by decide) _ fun wall hwall => ?_
  simp only [Option.bind_eq_bind, Instant.setUTCDate_add]
  rw [hour_ahead wall.valid.1]
  · congr 1
    simp only [Instant.getUTCDay, Instant.getUTCHours, nextAt, weekDay, day, timeWithinDay, MS_PER_DAY, MS_PER_HOUR,
      DOUALA_OFFSET_MS] at *
    split_ifs <;> omega
  · split
    · exact le_rfl
    · split <;> omega
  · decide

theorem nextMorning_eq : nextMorningAt06DoualaUtc now =
    estimate (nextAt MS_PER_DAY (6 * MS_PER_HOUR - DOUALA_OFFSET_MS) now.time) := by
  refine wall_clock (by decide) _ fun wall hwall => ?_
  obtain ⟨hlo, hhi⟩ := wall.valid
  simp only [Option.bind_eq_bind, Instant.setUTCDate_add, Instant.setUTCHours]
  have hmorning : makeDate (day wall.time) (makeTime 6 0 0 0) = day wall.time * MS_PER_DAY + 6 * MS_PER_HOUR := by
    simp [makeDate, makeTime]
  rw [hmorning]
  have hvalid : -MAX_TIME ≤ day wall.time * MS_PER_DAY + 6 * MS_PER_HOUR := by
    simp only [day, MAX_TIME, MS_PER_DAY, MS_PER_HOUR] at *
    omega
  by_cases hin : day wall.time * MS_PER_DAY + 6 * MS_PER_HOUR ≤ MAX_TIME
  · rw [timeClip, dif_pos ⟨hvalid, hin⟩, Option.bind_some]
    by_cases hpast : day wall.time * MS_PER_DAY + 6 * MS_PER_HOUR ≤ wall.time
    · have hnext : nextAt MS_PER_DAY (6 * MS_PER_HOUR - DOUALA_OFFSET_MS) now.time + DOUALA_OFFSET_MS =
          day wall.time * MS_PER_DAY + 6 * MS_PER_HOUR + 1 * MS_PER_DAY := by
        simp only [nextAt, day, MS_PER_DAY, MS_PER_HOUR, DOUALA_OFFSET_MS] at *
        omega
      rw [if_pos hpast, ← timeClip_back, hnext]
      rw [hnext]
      exact hvalid.trans (le_add_of_nonneg_right (by decide))
    · have hnext : nextAt MS_PER_DAY (6 * MS_PER_HOUR - DOUALA_OFFSET_MS) now.time + DOUALA_OFFSET_MS =
          day wall.time * MS_PER_DAY + 6 * MS_PER_HOUR := by
        simp only [nextAt, day, MS_PER_DAY, MS_PER_HOUR, DOUALA_OFFSET_MS] at *
        omega
      rw [if_neg hpast, Option.bind_some, estimate, if_pos (hnext ▸ hin)]
      exact congrArg timeClip (sub_eq_of_eq_add hnext.symm)
  · rw [timeClip_of_gt (not_le.1 hin), Option.bind_none, estimate_of_gt]
    simp only [nextAt, day, MAX_TIME, MS_PER_DAY, MS_PER_HOUR, DOUALA_OFFSET_MS] at *
    omega

/-- Each estimate is the least of those instants, while Douala's clock can show it; after that
there is none. -/
theorem estimates_are_next_runs (now : Instant) :
    (∃ t, IsLeast { n | now.time < n ∧ SundayAt02 n } t ∧
        (nextSundayAt02DoualaUtc now).map Instant.time = if t + DOUALA_OFFSET_MS ≤ MAX_TIME then some t else none) ∧
      ∃ t, IsLeast { n | now.time < n ∧ MorningAt06 n } t ∧
        (nextMorningAt06DoualaUtc now).map Instant.time = if t + DOUALA_OFFSET_MS ≤ MAX_TIME then some t else none :=
  ⟨⟨_, nextSunday_isLeast _, by rw [nextSunday_eq, estimate_time (nextSunday_isLeast _).1.1]⟩,
    ⟨_, nextMorning_isLeast _, by rw [nextMorning_eq, estimate_time (nextMorning_isLeast _).1.1]⟩⟩

/-- From Monday noon, 18 May 2026, to the Sunday after. -/
example : (nextSundayAt02DoualaUtc ⟨1779105600000, by decide⟩).map Instant.time = some 1779584400000 := by decide

/-- At the last instant of all neither is a valid date. -/
theorem no_estimate_at_the_end : ¬∀ now : Instant,
    (∃ t, IsLeast { n | now.time < n ∧ SundayAt02 n } t ∧ (nextSundayAt02DoualaUtc now).map Instant.time = some t) ∧
      ∃ t, IsLeast { n | now.time < n ∧ MorningAt06 n } t ∧ (nextMorningAt06DoualaUtc now).map Instant.time = some t := by
  intro h
  obtain ⟨t, -, ht⟩ := (h ⟨MAX_TIME, by decide⟩).1
  have hnone : nextSundayAt02DoualaUtc ⟨MAX_TIME, by decide⟩ = none := by decide
  rw [hnone] at ht
  cases ht

end

end ChopNow
