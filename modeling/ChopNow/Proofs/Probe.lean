import ChopNow.Spec.Breaker

/-! Overlapping calls and the trial that HALF_OPEN allows. -/

namespace ChopNow

open Interleave CircuitState

/-- The call started since the breaker last left CLOSED. -/
def Circuit.isTrial (s : Circuit) (t : RunningCall) : Bool := t.openings == s.openings

/-- Until the breaker closes again, one trial runs at most. -/
def OneTrial (s : Circuit) (ts : List RunningCall) : Prop := s.breaker.state ≠ closed → ts.countP s.isTrial ≤ 1

/-- What a move has to respect: one trial at most afterwards, and the breaker closes only
when a call succeeds that started after the cool-down. -/
def KeepsTrial : Guard Circuit RunningCall CircuitEvent Bool
  | s, us, .event n =>
    OneTrial (circuitEvent s n).1 ((circuitEvent s n).2 ++ us) ∧
      (s.breaker.state ≠ closed → (circuitEvent s n).1.breaker.state ≠ closed)
  | s, us, .step t succeeds =>
    OneTrial (circuitStep s succeeds) us ∧
      (s.breaker.state ≠ closed → (circuitStep s succeeds).breaker.state = closed →
        succeeds = true ∧ s.isTrial t = true ∧ s.trippedAt + OPEN_DURATION_MS ≤ t.startedAt)

/-- No call comes in while the breaker is HALF_OPEN, nor past the cool-down while an
overtaken trial still runs, and an older call succeeds only while the breaker is CLOSED. -/
def Untangled : Guard Circuit RunningCall CircuitEvent Bool
  | s, us, .event .wrap =>
    s.breaker.state ≠ halfOpen ∧
      (s.breaker.state = opened → s.breaker.openedAt + OPEN_DURATION_MS ≤ s.clock → us.countP s.isTrial = 0)
  | s, _, .step t true => s.breaker.state ≠ closed → s.isTrial t = true
  | _, _, _ => True

/-! What each move does. -/

/-- Turned away, let in as the trial, or simply let in. -/
inductive Entered (s : Circuit) : Circuit × List RunningCall → Prop
  | turnedAway (hopened : s.breaker.state = opened) (hhot : s.clock - s.breaker.openedAt < OPEN_DURATION_MS) :
      Entered s (s, [])
  | trial (hopened : s.breaker.state = opened) (hcool : OPEN_DURATION_MS ≤ s.clock - s.breaker.openedAt) :
      Entered s ({ s with breaker := { s.breaker with state := halfOpen } }, [⟨s.openings, s.clock⟩])
  | through (hother : s.breaker.state ≠ opened) : Entered s (s, [⟨s.openings, s.clock⟩])

theorem circuitEvent_wrap (s : Circuit) : Entered s (circuitEvent s .wrap) := by
  simp only [circuitEvent, CircuitBreaker.enter]
  by_cases hopened : s.breaker.state = opened
  · by_cases hhot : s.clock - s.breaker.openedAt < OPEN_DURATION_MS
    · simpa [hopened, hhot] using Entered.turnedAway hopened hhot
    · have htrial := Entered.trial hopened (not_lt.1 hhot)
      simpa [hopened, hhot, Circuit.set] using htrial
  · have hthrough := Entered.through hopened
    have hset : s.set s.breaker = s := by
      unfold Circuit.set
      split
      · next h => exact absurd h.1 h.2
      · rfl
    simpa [hopened, hset] using hthrough

/-- Closed by a success; counted or tripped by a failure while CLOSED; kept open by any
other failure. -/
inductive Completed (s : Circuit) : Bool → Circuit → Prop
  | succeeded : Completed s true { s with breaker := {} }
  | counted (b : CircuitBreaker) (hclosed : s.breaker.state = closed) (hstate : b.state = closed)
      (hopened : b.openedAt = s.breaker.openedAt) : Completed s false { s with breaker := b }
  | tripped (b : CircuitBreaker) (hclosed : s.breaker.state = closed) (hstate : b.state = opened)
      (hopened : b.openedAt = s.clock) :
      Completed s false { s with breaker := b, openings := s.openings + 1, trippedAt := s.clock }
  | kept (b : CircuitBreaker) (hother : s.breaker.state ≠ closed) (hstate : b.state = opened)
      (hopened : b.openedAt = s.clock ∨ b.openedAt = s.breaker.openedAt) : Completed s false { s with breaker := b }

theorem circuitStep_true (s : Circuit) : circuitStep s true = { s with breaker := {} } := by
  simp [circuitStep, CircuitBreaker.onSuccess, Circuit.set]

theorem circuitStep_cases (s : Circuit) (succeeds : Bool) : Completed s succeeds (circuitStep s succeeds) := by
  cases succeeds with
  | true =>
    rw [circuitStep_true]
    exact .succeeded
  | false =>
    simp only [circuitStep, CircuitBreaker.onFailure, Bool.false_eq_true, if_false]
    cases hstate : s.breaker.state with
    | closed =>
      by_cases htrips : THRESHOLD_FAILURES ≤ s.breaker.consecutiveFailures + 1
      · simpa [htrips, Circuit.set, hstate] using Completed.tripped _ hstate rfl rfl
      · simpa [htrips, Circuit.set, hstate] using Completed.counted
          { s.breaker with consecutiveFailures := s.breaker.consecutiveFailures + 1 } hstate hstate rfl
    | opened =>
      by_cases htrips : THRESHOLD_FAILURES ≤ s.breaker.consecutiveFailures + 1
      · simpa [htrips, Circuit.set, hstate] using Completed.kept _ (by simp [hstate]) rfl (.inl rfl)
      · simpa [htrips, Circuit.set, hstate] using Completed.kept
          { s.breaker with consecutiveFailures := s.breaker.consecutiveFailures + 1 } (by simp [hstate]) hstate
          (.inr rfl)
    | halfOpen => simpa [Circuit.set, hstate] using Completed.kept _ (by simp [hstate]) rfl (.inl rfl)

/-! What holds in every run. -/

/-- The order of events in time, and that HALF_OPEN has its trial. -/
structure Timely (s : Circuit) (us : List RunningCall) : Prop where
  tripped : s.breaker.state ≠ closed → s.trippedAt ≤ s.breaker.openedAt
  known : ∀ t ∈ us, t.openings ≤ s.openings ∧ t.startedAt ≤ s.clock
  earlier : ∀ t ∈ us, t.openings < s.openings → t.startedAt ≤ s.trippedAt
  cooled : ∀ t ∈ us, t.openings = s.openings → s.breaker.state ≠ closed →
    s.trippedAt + OPEN_DURATION_MS ≤ t.startedAt
  openedAt : s.breaker.openedAt ≤ s.clock
  trial : s.breaker.state = halfOpen → ∃ t ∈ us, t.openings = s.openings

variable {s : Circuit} {us vs : List RunningCall} {t : RunningCall}

theorem Timely.tick (h : Timely s us) (elapsed : Time) : Timely { s with clock := s.clock + elapsed } us where
  tripped := h.tripped
  known := fun u hu => ⟨(h.known u hu).1, Nat.le_add_right_of_le (h.known u hu).2⟩
  earlier := h.earlier
  cooled := h.cooled
  openedAt := Nat.le_add_right_of_le h.openedAt
  trial := h.trial

theorem Timely.wrap (h : Timely s us) {r : Circuit × List RunningCall} (hr : Entered s r) :
    Timely r.1 (r.2 ++ us) := by
  cases hr with
  | turnedAway => exact h
  | trial hopened hcool =>
    have htripped : s.trippedAt ≤ s.breaker.openedAt := h.tripped (by simp [hopened])
    refine ⟨fun _ => htripped, ?_, ?_, ?_, h.openedAt, fun _ => ⟨_, List.mem_cons_self, rfl⟩⟩
    · simpa using h.known
    · simpa using h.earlier
    · intro u hu hsince _
      rcases List.mem_cons.1 hu with rfl | hu
      · calc s.trippedAt + OPEN_DURATION_MS
            ≤ s.breaker.openedAt + OPEN_DURATION_MS := Nat.add_le_add_right htripped _
          _ ≤ s.clock := Nat.add_le_of_le_sub' h.openedAt hcool
      · exact h.cooled u hu hsince (by simp [hopened])
  | through hother =>
    refine ⟨h.tripped, by simpa using h.known, by simpa using h.earlier, ?_, h.openedAt,
      fun _ => ⟨_, List.mem_cons_self, rfl⟩⟩
    intro u hu hsince hopen
    rcases List.mem_cons.1 hu with rfl | hu
    · -- HALF_OPEN: its trial came in earlier, and past the cool-down
      have hhalf : s.breaker.state = halfOpen := by
        cases hstate : s.breaker.state with
        | closed => exact absurd hstate hopen
        | opened => exact absurd hstate hother
        | halfOpen => rfl
      obtain ⟨first, hfirst, hfirstSince⟩ := h.trial hhalf
      exact (h.cooled first hfirst hfirstSince hopen).trans (h.known first hfirst).2
    · exact h.cooled u hu hsince hopen

theorem Timely.step (h : Timely s (us ++ t :: vs)) {succeeds : Bool} {s' : Circuit}
    (hs : Completed s succeeds s') : Timely s' (us ++ vs) := by
  have hsub : ∀ u ∈ us ++ vs, u ∈ us ++ t :: vs := fun u hu => mem_middle.2 (.inr hu)
  cases hs with
  | succeeded =>
    exact ⟨fun hopen => absurd rfl hopen, fun u hu => h.known u (hsub u hu), fun u hu => h.earlier u (hsub u hu),
      fun _ _ _ hopen => absurd rfl hopen, Nat.zero_le _, fun hhalf => by cases hhalf⟩
  | counted b hclosed hstate hopened =>
    refine ⟨fun hopen => absurd hstate hopen, fun u hu => h.known u (hsub u hu), fun u hu => h.earlier u (hsub u hu),
      fun _ _ _ hopen => absurd hstate hopen, ?_, fun hhalf => ?_⟩
    · simpa only [hopened] using h.openedAt
    · simp [hstate] at hhalf
  | tripped b hclosed hstate hopened =>
    refine ⟨fun _ => hopened.ge, fun u hu => ?_, fun u hu _ => (h.known u (hsub u hu)).2, fun u hu hsince _ => ?_,
      hopened.le, fun hhalf => ?_⟩
    · obtain ⟨hle, hstarted⟩ := h.known u (hsub u hu)
      exact ⟨Nat.le_succ_of_le hle, hstarted⟩
    · have hle := (h.known u (hsub u hu)).1
      rw [hsince] at hle
      exact absurd hle (Nat.not_succ_le_self _)
    · simp [hstate] at hhalf
  | kept b hother hstate hopened =>
    have htripped := h.tripped hother
    have hclock := h.openedAt
    refine ⟨fun _ => ?_, fun u hu => h.known u (hsub u hu), fun u hu => h.earlier u (hsub u hu),
      fun u hu hsince _ => h.cooled u (hsub u hu) hsince hother, ?_, fun hhalf => ?_⟩
    · rcases hopened with hnow | hsame
      · exact (htripped.trans hclock).trans hnow.ge
      · exact hsame ▸ htripped
    · rcases hopened with hnow | hsame
      · exact hnow.le
      · exact hsame.le.trans hclock
    · simp [hstate] at hhalf

theorem timely_reach {now : Time} {q : Pool Circuit RunningCall} {ok : Guard Circuit RunningCall CircuitEvent Bool}
    (h : circuitMachine.Reach ok ⟨.start now, []⟩ q) : Timely q.shared q.threads := by
  refine h.invariant (J := Timely) ?_ ?_ ?_
  · exact ⟨fun hopen => absurd rfl hopen, by simp, by simp, by simp, Nat.zero_le _, fun hhalf => by cases hhalf⟩
  · intro s us n s' ts _ hs _ hev
    obtain ⟨rfl, rfl⟩ := Prod.mk.inj (Option.some.inj hev)
    cases n with
    | tick elapsed => exact hs.tick elapsed
    | wrap => exact hs.wrap (circuitEvent_wrap s)
  · intro s us vs t succeeds s' ts _ hs _ hst
    obtain ⟨rfl, rfl⟩ := Prod.mk.inj (Option.some.inj hst)
    exact hs.step (circuitStep_cases s succeeds)

/-! What the moves do to the trials. -/

/-- A call that is let in while the breaker is not CLOSED is a trial. -/
theorem oneTrial_cons (s : Circuit) (us : List RunningCall) (now : Time) :
    OneTrial s (⟨s.openings, now⟩ :: us) ↔ s.breaker.state ≠ closed → us.countP s.isTrial = 0 := by
  simp [OneTrial, Circuit.isTrial]

theorem Timely.trials_pos (hs : Timely s us) (hhalf : s.breaker.state = halfOpen) : us.countP s.isTrial ≠ 0 := by
  obtain ⟨t, ht, hsince⟩ := hs.trial hhalf
  have hpos := List.countP_pos_iff.2 ⟨t, ht, show s.isTrial t = true by simpa [Circuit.isTrial] using hsince⟩
  exact hpos.ne'

theorem keepsTrial_wrap (hs : Timely s us) (hone : OneTrial s us) :
    KeepsTrial s us (.event .wrap) ↔ Untangled s us (.event .wrap) := by
  have hr := circuitEvent_wrap s
  simp only [KeepsTrial, Untangled]
  generalize circuitEvent s .wrap = r at hr
  cases hr with
  | turnedAway hopened hhot =>
    have hnot : ¬s.breaker.openedAt + OPEN_DURATION_MS ≤ s.clock := fun hle =>
      absurd (Nat.le_sub_of_add_le' hle) (not_le.2 hhot)
    simp [hopened, hnot, hone]
  | trial hopened hcool =>
    have hle := Nat.add_le_of_le_sub' hs.openedAt hcool
    have hcons := oneTrial_cons { s with breaker := { s.breaker with state := halfOpen } } us s.clock
    have hsame : us.countP (Circuit.isTrial { s with breaker := { s.breaker with state := halfOpen } }) =
      us.countP s.isTrial := rfl
    simp only [hsame] at hcons
    simp [hopened, hle, hcons]
  | through hother =>
    have hcons := oneTrial_cons s us s.clock
    cases hstate : s.breaker.state with
    | closed => simp [hcons, hstate]
    | opened => exact absurd hstate hother
    | halfOpen =>
      -- the trial is still there, so this call would be the second
      have hpos := hs.trials_pos hstate
      simp [hcons, hstate, hpos]

theorem keepsTrial_tick (hone : OneTrial s us) (elapsed : Time) : KeepsTrial s us (.event (.tick elapsed)) :=
  ⟨hone, fun hopen => hopen⟩

theorem keepsTrial_step (hs : Timely s (us ++ t :: vs)) (hone : OneTrial s (us ++ t :: vs)) (succeeds : Bool) :
    KeepsTrial s (us ++ vs) (.step t succeeds) ↔ Untangled s (us ++ vs) (.step t succeeds) := by
  have hc := circuitStep_cases s succeeds
  have hcount : (us ++ vs).countP s.isTrial ≤ (us ++ t :: vs).countP s.isTrial := by
    rw [countP_middle]
    exact Nat.le_add_right _ _
  simp only [KeepsTrial]
  generalize circuitStep s succeeds = s' at hc
  cases hc with
  | succeeded =>
    have hcooled : s.isTrial t = true → s.breaker.state ≠ closed → s.trippedAt + OPEN_DURATION_MS ≤ t.startedAt :=
      fun htrial hopen => hs.cooled t (mem_middle.2 (.inl rfl)) (by simpa [Circuit.isTrial] using htrial) hopen
    simp only [Untangled, OneTrial]
    constructor
    · exact fun h hopen => (h.2 hopen trivial).2.1
    · exact fun h => ⟨fun hopen => absurd rfl hopen, fun hopen _ => ⟨trivial, h hopen, hcooled (h hopen) hopen⟩⟩
  | counted b hclosed hstate hopened => simp [Untangled, OneTrial, hclosed, hstate]
  | tripped b hclosed hstate hopened =>
    -- every call that runs came in before the breaker opened
    have hold : (us ++ vs).countP (Circuit.isTrial
        { s with breaker := b, openings := s.openings + 1, trippedAt := s.clock }) = 0 := by
      refine List.countP_eq_zero.2 fun u hu => ?_
      have hle := (hs.known u (mem_middle.2 (.inr hu))).1
      have hne : u.openings ≠ s.openings + 1 := fun heq => absurd (heq ▸ hle) (Nat.not_succ_le_self _)
      simpa [Circuit.isTrial] using hne
    simp [Untangled, OneTrial, hold, hclosed]
  | kept b hother hstate hopened =>
    have hle : (us ++ vs).countP (Circuit.isTrial { s with breaker := b }) ≤ 1 := hcount.trans (hone hother)
    have hopen : b.state ≠ closed := by simp [hstate]
    exact iff_of_true ⟨fun _ => hle, fun _ hclosed => absurd hclosed hopen⟩ trivial

/-- While every move is untangled the breaker has one trial at most; and it is the moves
that are not untangled, and no others, that give it a second or close it otherwise. -/
theorem one_trial_iff {now : Time} {q : Pool Circuit RunningCall}
    (h : circuitMachine.Reach Untangled ⟨.start now, []⟩ q) :
    OneTrial q.shared q.threads ∧
      (∀ n, KeepsTrial q.shared q.threads (.event n) ↔ Untangled q.shared q.threads (.event n)) ∧
      ∀ us t vs succeeds, q.threads = us ++ t :: vs →
        (KeepsTrial q.shared (us ++ vs) (.step t succeeds) ↔ Untangled q.shared (us ++ vs) (.step t succeeds)) := by
  have htimely := timely_reach h
  have hone : OneTrial q.shared q.threads := by
    refine h.invariant (J := OneTrial) (fun hopen => absurd rfl hopen) ?_ ?_
    · intro s us n s' ts hr hs hok hev
      obtain ⟨rfl, rfl⟩ := Prod.mk.inj (Option.some.inj hev)
      cases n with
      | tick elapsed => exact hs
      | wrap => exact ((keepsTrial_wrap (timely_reach hr) hs).2 hok).1
    · intro s us vs t succeeds s' ts hr hs hok hst
      obtain ⟨rfl, rfl⟩ := Prod.mk.inj (Option.some.inj hst)
      exact ((keepsTrial_step (timely_reach hr) hs succeeds).2 hok).1
  refine ⟨hone, fun n => ?_, fun us t vs succeeds hq => ?_⟩
  · cases n with
    | tick elapsed => exact iff_of_true (keepsTrial_tick hone elapsed) trivial
    | wrap => exact keepsTrial_wrap htimely hone
  · rw [hq] at htimely hone
    exact keepsTrial_step htimely hone succeeds

def fiveFailures : List (Act CircuitEvent Bool) :=
  (List.replicate THRESHOLD_FAILURES [.event .wrap, .step 0 false]).flatten

/-- Two calls come in together once the cool-down is over; and a call from before the
breaker opened succeeds a moment after. -/
theorem two_trials_and_a_late_success :
    ¬(∀ q, circuitMachine.Reach anyMove ⟨.start 0, []⟩ q → OneTrial q.shared q.threads) ∧
      ¬∀ s us t vs, circuitMachine.Reach anyMove ⟨.start 0, []⟩ ⟨s, us ++ t :: vs⟩ → s.breaker.state ≠ closed →
        (circuitStep s true).breaker.state = closed → s.isTrial t = true := by
  constructor
  · intro h
    obtain ⟨q, hq, ht⟩ := Machine.reach_of_test circuitMachine anyMove (fun _ _ _ => true)
      (fun _ _ _ _ => trivial) ⟨.start 0, []⟩ (fiveFailures ++ [.event (.tick 60000), .event .wrap, .event .wrap])
      (fun q => q.shared.breaker.state == halfOpen && q.threads.countP q.shared.isTrial == 2) (by decide +kernel)
    simp only [Bool.and_eq_true, beq_iff_eq] at ht
    have hone := h q hq (by simp [ht.1])
    rw [ht.2] at hone
    exact absurd hone (by decide)
  · intro h
    obtain ⟨q, hq, ht⟩ := Machine.reach_of_test circuitMachine anyMove (fun _ _ _ => true)
      (fun _ _ _ _ => trivial) ⟨.start 0, []⟩ (.event .wrap :: fiveFailures)
      (fun q => q.shared.breaker.state == opened && q.threads == [⟨0, 0⟩] && q.shared.openings == 1)
      (by decide +kernel)
    simp only [Bool.and_eq_true, beq_iff_eq] at ht
    obtain ⟨⟨hopened, hthreads⟩, hopenings⟩ := ht
    have hq' : q = ⟨q.shared, [] ++ ⟨0, 0⟩ :: []⟩ := by
      cases q
      simpa using hthreads
    rw [hq'] at hq
    have htrial := h _ [] _ [] hq (by simp [hopened])
      (by rw [circuitStep_true])
    simp [Circuit.isTrial, hopenings] at htrial

def untangledB (s : Circuit) (us : List RunningCall) : Move RunningCall CircuitEvent Bool → Bool
  | .event .wrap => s.breaker.state != halfOpen && us.countP s.isTrial == 0
  | .step t true => s.isTrial t
  | _ => true

theorem untangled_of_bool (s : Circuit) (us : List RunningCall) (m : Move RunningCall CircuitEvent Bool)
    (h : untangledB s us m = true) : Untangled s us m := by
  unfold Untangled
  split
  · simp only [untangledB, Bool.and_eq_true, bne_iff_ne, beq_iff_eq] at h
    exact ⟨h.1, fun _ _ => h.2⟩
  · exact fun _ => h
  · trivial

/-- The first trial fails, and the second is on its way. -/
theorem second_trial_alone :
    ∃ q, circuitMachine.Reach Untangled ⟨.start 0, []⟩ q ∧ q.shared.breaker.state = halfOpen ∧
      OneTrial q.shared q.threads ∧ ¬KeepsTrial q.shared q.threads (.event .wrap) := by
  obtain ⟨q, hq, ht⟩ := Machine.reach_of_test circuitMachine Untangled untangledB untangled_of_bool ⟨.start 0, []⟩
    (fiveFailures ++ [.event (.tick 60000), .event .wrap, .step 0 false, .event (.tick 60000), .event .wrap])
    (fun q => q.shared.breaker.state == halfOpen) (by decide +kernel)
  have hhalf : q.shared.breaker.state = halfOpen := by simpa using ht
  obtain ⟨hone, hevent, -⟩ := one_trial_iff hq
  exact ⟨q, hq, hhalf, hone, fun hkeeps => ((hevent .wrap).1 hkeeps).1 hhalf⟩

end ChopNow
