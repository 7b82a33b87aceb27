import Mathlib.Data.List.DropRight
import ChopNow.Spec.Breaker

/-! The breaker read off the calls it let through: its three fields are a function of
the failures at the end of that list. -/

namespace ChopNow

open CircuitState

/-- The failures since the last success. -/
def trailingFailures (log : List WrapCall) : List WrapCall := log.rtakeWhile fun call => !call.succeeds

/-- The breaker after the calls of `log`. -/
def CircuitBreaker.after (log : List WrapCall) : CircuitBreaker :=
  if (trailingFailures log).length < THRESHOLD_FAILURES then
    { state := closed, consecutiveFailures := (trailingFailures log).length }
  else
    { state := opened
      consecutiveFailures := THRESHOLD_FAILURES
      openedAt := ((trailingFailures log).getLast?.map (·.endedAt)).getD 0 }

/-! The trailing failures after one more call. -/

variable {log : List WrapCall} {call : WrapCall}

theorem trailingFailures_succeeded (log : List WrapCall) (h : call.succeeds = true) :
    trailingFailures (log ++ [call]) = [] :=
  List.rtakeWhile_concat_neg _ _ _ (by simp [h])

theorem trailingFailures_failed (log : List WrapCall) (h : call.succeeds = false) :
    trailingFailures (log ++ [call]) = trailingFailures log ++ [call] :=
  List.rtakeWhile_concat_pos _ _ _ (by simp [h])

/-! The breaker of a log, below the threshold and from it on. -/

theorem CircuitBreaker.after_of_lt (h : (trailingFailures log).length < THRESHOLD_FAILURES) :
    after log = { state := closed, consecutiveFailures := (trailingFailures log).length } := if_pos h

theorem CircuitBreaker.after_of_le (h : THRESHOLD_FAILURES ≤ (trailingFailures log).length) :
    after log =
      { state := opened
        consecutiveFailures := THRESHOLD_FAILURES
        openedAt := ((trailingFailures log).getLast?.map (·.endedAt)).getD 0 } := if_neg (not_lt.2 h)

/-- Whatever let a call in, its success empties the count. -/
theorem CircuitBreaker.onSuccess_eq (b : CircuitBreaker) : b.onSuccess = {} := rfl

theorem CircuitBreaker.after_succeeded (h : call.succeeds = true) : after (log ++ [call]) = {} := by
  have hnone := trailingFailures_succeeded log h
  rw [after_of_lt (by simp [hnone, THRESHOLD_FAILURES]), hnone]
  rfl

theorem CircuitBreaker.after_failed (h : call.succeeds = false) :
    after (log ++ [call]) =
      if (trailingFailures log).length + 1 < THRESHOLD_FAILURES then
        { state := closed, consecutiveFailures := (trailingFailures log).length + 1 }
      else
        { state := opened, consecutiveFailures := THRESHOLD_FAILURES, openedAt := call.endedAt } := by
  have hone := trailingFailures_failed log h
  unfold after
  simp [hone]

/-- In the state of a log a call is let in unless the threshold was met a moment ago. -/
theorem CircuitBreaker.enter_after (now : Time) :
    (after log).enter now = none ↔
      ∃ last, (trailingFailures log).getLast? = some last ∧
        THRESHOLD_FAILURES ≤ (trailingFailures log).length ∧ now - last.endedAt < OPEN_DURATION_MS := by
  by_cases h : (trailingFailures log).length < THRESHOLD_FAILURES
  · rw [after_of_lt h]
    simp only [enter, reduceCtorEq, if_false, false_iff]
    rintro ⟨_, -, hle, -⟩
    exact absurd h (not_lt.2 hle)
  · have hle := not_lt.1 h
    rw [after_of_le hle]
    cases hlast : (trailingFailures log).getLast? with
    | none =>
      rw [List.getLast?_eq_none_iff] at hlast
      simp [hlast, THRESHOLD_FAILURES] at hle
    | some last => simp [enter, hle]

/-- A call that is let in leaves the breaker of the log with it at the end. -/
theorem CircuitBreaker.wrap_after (call : WrapCall) :
    ((after log).wrap call).1 =
      if ((after log).wrap call).2 = .circuitOpen then after log else after (log ++ [call]) := by
  unfold wrap
  cases henter : (after log).enter call.startedAt with
  | none => simp
  | some b =>
    cases hsucceeds : call.succeeds with
    | true => simp [after_succeeded hsucceeds, onSuccess_eq]
    | false =>
      simp only [Bool.false_eq_true, if_false, reduceCtorEq]
      rw [after_failed hsucceeds]
      by_cases h : (trailingFailures log).length < THRESHOLD_FAILURES
      · -- CLOSED: the failure is counted, and may be the one that trips
        rw [after_of_lt h] at henter
        obtain rfl : _ = b := by simpa [enter] using henter
        by_cases htrips : THRESHOLD_FAILURES ≤ (trailingFailures log).length + 1
        · have heq : (trailingFailures log).length + 1 = THRESHOLD_FAILURES := by omega
          simp [onFailure, heq]
        · simp [onFailure, htrips, not_le.1 htrips]
      · -- OPEN past the cool-down: the trial fails and the count stays as it is
        have hle := not_lt.1 h
        rw [after_of_le hle] at henter
        have hnot : ¬(trailingFailures log).length + 1 < THRESHOLD_FAILURES := by omega
        simp only [enter, if_true] at henter
        split at henter
        · cases henter
        · obtain rfl := Option.some.inj henter
          simp [onFailure, hnot]

/-! Whole sequences of calls. -/

namespace CircuitBreaker

theorem wrapAll_append (b : CircuitBreaker) (calls : List WrapCall) (call : WrapCall) :
    b.wrapAll (calls ++ [call]) = ((b.wrapAll calls).wrap call).1 := by simp [wrapAll]

theorem invoked_append (b : CircuitBreaker) (calls : List WrapCall) (call : WrapCall) :
    b.invoked (calls ++ [call]) =
      b.invoked calls ++ if ((b.wrapAll calls).wrap call).2 = .circuitOpen then [] else [call] := by
  induction calls generalizing b with
  | nil => rfl
  | cons first calls ih =>
    have hrest := ih (b.wrap first).1
    simp only [List.cons_append, invoked, hrest, wrapAll, List.foldl_cons]
    split
    · rfl
    · rfl

/-- The breaker is always the one of its log. -/
theorem wrapAll_eq_after (calls : List WrapCall) :
    ({} : CircuitBreaker).wrapAll calls = after (({} : CircuitBreaker).invoked calls) := by
  induction calls using List.reverseRecOn with
  | nil => rfl
  | append_singleton calls call ih =>
    rw [wrapAll_append, invoked_append, ih, wrap_after]
    split
    · simp
    · rfl

end CircuitBreaker

theorem wrap_circuitOpen_iff {b : CircuitBreaker} {call : WrapCall} :
    (b.wrap call).2 = .circuitOpen ↔ b.enter call.startedAt = none := by
  unfold CircuitBreaker.wrap
  cases b.enter call.startedAt with
  | none => simp
  | some b =>
    cases call.succeeds
    all_goals simp

/-- After any calls the breaker is CLOSED with the number of failures since the last
success, or OPEN since the last failure once there are enough of them, and it turns a call
away exactly in the time after that failure. -/
theorem breaker_counts (calls : List WrapCall) :
    let breaker := ({} : CircuitBreaker).wrapAll calls
    let failures := trailingFailures (({} : CircuitBreaker).invoked calls)
    (failures.length < THRESHOLD_FAILURES →
      breaker.state = closed ∧ breaker.consecutiveFailures = failures.length) ∧
    (THRESHOLD_FAILURES ≤ failures.length →
      breaker.state = opened ∧ ∃ last, failures.getLast? = some last ∧ breaker.openedAt = last.endedAt) ∧
    ∀ call, (breaker.wrap call).2 = .circuitOpen ↔
      ∃ last, failures.getLast? = some last ∧ THRESHOLD_FAILURES ≤ failures.length ∧
        call.startedAt - last.endedAt < OPEN_DURATION_MS := by
  intro breaker failures
  have hbreaker : breaker = .after (({} : CircuitBreaker).invoked calls) := CircuitBreaker.wrapAll_eq_after calls
  refine ⟨fun hlt => ?_, fun hle => ?_, fun call => ?_⟩
  · rw [hbreaker, CircuitBreaker.after_of_lt hlt]
    exact ⟨rfl, rfl⟩
  · rw [hbreaker, CircuitBreaker.after_of_le hle]
    obtain ⟨last, hlast⟩ : ∃ last, failures.getLast? = some last := by
      cases h : failures.getLast? with
      | none =>
        rw [List.getLast?_eq_none_iff] at h
        simp [h, THRESHOLD_FAILURES] at hle
      | some last => exact ⟨last, rfl⟩
    refine ⟨rfl, last, hlast, ?_⟩
    show ((failures.getLast?.map (·.endedAt)).getD 0) = last.endedAt
    rw [hlast]
    rfl
  · rw [wrap_circuitOpen_iff, hbreaker, CircuitBreaker.enter_after]

end ChopNow
