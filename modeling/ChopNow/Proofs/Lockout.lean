import ChopNow.Proofs.RecoveryCodes

/-! How many passwords are tried before the account is locked. A call reads the lock, takes
its time to compare, and only then counts a wrong password. -/

namespace ChopNow

open Interleave

/-- Past the lock, with its password still to be compared. -/
def AdminThread.comparing : AdminThread → Bool
  | .login (.verifying ..) => true
  | _ => false

/-- A wrong password that is not counted yet. -/
def AdminThread.uncounted : AdminThread → Bool
  | .login .wrong => true
  | _ => false

def AdminThread.isLocking : AdminThread → Bool
  | .login .locking => true
  | _ => false

def AdminThread.isMatched : AdminThread → Bool
  | .login (.matched _) => true
  | _ => false

/-- The wrong passwords in the counter. -/
def AdminDb.recorded (db : AdminDb) : ℕ := db.attempts.elim 0 Prod.fst

/-- Nobody signs in or unlocks the account, and the window stays open. -/
def onlyGuesses : Guard AdminDb AdminThread AdminEvent AdminReply := fun db _ m =>
  match m with
  | .event .unlock => False
  | .event (.tick elapsed) => ∀ counter ∈ db.attempts, db.clock + elapsed < counter.2
  | .step (.login (.verifying hash password _)) .ok => hash ≠ password
  | _ => True

/-- A call that finds no lock is one of the first five, with those counted and those that are
past the lock. What a wrong password writes to Redis lands. -/
def readsLockInTurn : Guard AdminDb AdminThread AdminEvent AdminReply := fun db us m =>
  match m with
  | .step (.login (.found ..)) .ok => db.locked = false →
      db.recorded + (us.countP AdminThread.comparing + us.countP AdminThread.uncounted) < LOCKOUT_THRESHOLD
  | .step (.login .wrong) .fail | .step (.login .locking) .fail => False
  | _ => True

/-- No attempt stands recorded. -/
structure AdminDb.Untried (db : AdminDb) : Prop where
  attempts : db.attempts = none
  unlocked : db.locked = false
  verified : db.verified = 0

/-! By the numbers of calls that compare, that have a wrong password to count, and that lock. -/

structure Guessed (db : AdminDb) (comparing uncounted locking : ℕ) : Prop where
  counted : db.verified = db.recorded + uncounted
  bounded : db.recorded + (comparing + uncounted) ≤ LOCKOUT_THRESHOLD
  live : ∀ counter ∈ db.attempts, db.clock < counter.2
  closed : db.recorded < LOCKOUT_THRESHOLD ∨ db.locked = true ∨ 0 < locking

namespace Guessed

variable {db : AdminDb} {c u l : ℕ} {attempts : ℕ × Time}

theorem untried (h : db.Untried) : Guessed db 0 0 0 where
  counted := by simp [AdminDb.recorded, h.attempts, h.verified]
  bounded := by simp [AdminDb.recorded, h.attempts]
  live := by simp [h.attempts]
  closed := .inl (by simp [AdminDb.recorded, h.attempts, LOCKOUT_THRESHOLD])

theorem read (h : Guessed db c u l) (hroom : db.recorded + (c + u) < LOCKOUT_THRESHOLD) : Guessed db (c + 1) u l :=
  { h with bounded := by omega }

theorem given_up (h : Guessed db (c + 1) u l) : Guessed db c u l :=
  { h with bounded := by have := h.bounded; omega }

theorem wrong (h : Guessed db (c + 1) u l) : Guessed { db with verified := db.verified + 1 } c (u + 1) l where
  counted := by have := h.counted; simp only [AdminDb.recorded] at *; omega
  bounded := by have := h.bounded; simp only [AdminDb.recorded] at *; omega
  live := h.live
  closed := h.closed

/-- While the counter is live, it goes up by one. -/
theorem recorded_incr (h : Guessed db c u l) :
    (incrWithTTL db.attempts db.clock LOCKOUT_WINDOW_SECONDS).1 = db.recorded + 1 ∧
      db.clock < (incrWithTTL db.attempts db.clock LOCKOUT_WINDOW_SECONDS).2 := by
  unfold incrWithTTL AdminDb.recorded
  cases hattempts : db.attempts with
  | none => exact ⟨rfl, by simp [LOCKOUT_WINDOW_SECONDS]⟩
  | some counter =>
    have hlive := h.live counter hattempts
    simp only [if_pos hlive]
    exact ⟨rfl, hlive⟩

theorem counted_one (h : Guessed db c (u + 1) l) (hattempts : attempts = incrWithTTL db.attempts db.clock LOCKOUT_WINDOW_SECONDS) :
    Guessed { db with attempts := some attempts } c u (l + if LOCKOUT_THRESHOLD ≤ attempts.1 then 1 else 0) := by
  obtain ⟨hcount, hlive⟩ := h.recorded_incr
  rw [← hattempts] at hcount hlive
  have hcounted := h.counted
  have hbounded := h.bounded
  refine ⟨?_, ?_, ?_, ?_⟩
  · simp only [AdminDb.recorded, Option.elim_some]
    omega
  · simp only [AdminDb.recorded, Option.elim_some]
    omega
  · rintro _ ⟨⟩
    exact hlive
  · simp only [AdminDb.recorded, Option.elim_some]
    split
    · exact .inr (.inr (by omega))
    · exact .inl (by omega)

theorem locked (h : Guessed db c u (l + 1)) : Guessed { db with locked := true } c u l :=
  { h with closed := .inr (.inl rfl) }

theorem later (h : Guessed db c u l) {elapsed : Time} (hopen : ∀ counter ∈ db.attempts, db.clock + elapsed < counter.2) :
    Guessed { db with clock := db.clock + elapsed } c u l := { h with live := hopen }

end Guessed

/-! Runs. -/

structure Bounded (db : AdminDb) (us : List AdminThread) : Prop where
  guessed : Guessed db (us.countP AdminThread.comparing) (us.countP AdminThread.uncounted)
    (us.countP AdminThread.isLocking)
  unmatched : ∀ t ∈ us, t.isMatched = false

section

variable {check : TotpCheck} {s₀ s s' : AdminDb} {q : Pool AdminDb AdminThread} {us vs ts : List AdminThread}
  {t : AdminThread} {e : AdminReply}

theorem Guessed.same {c u l : ℕ} (h : Guessed s c u l) (hattempts : s'.attempts = s.attempts)
    (hlocked : s'.locked = s.locked) (hverified : s'.verified = s.verified) (hclock : s'.clock = s.clock) :
    Guessed s' c u l := by
  have hrecorded : s'.recorded = s.recorded := congrArg (Option.elim · 0 Prod.fst) hattempts
  constructor
  · rw [hverified, hrecorded]
    exact h.counted
  · rw [hrecorded]
    exact h.bounded
  · rw [hattempts, hclock]
    exact h.live
  · rw [hrecorded, hlocked]
    exact h.closed

theorem bounded_event {n : AdminEvent} (h : Bounded s us) (hok : onlyGuesses s us (.event n))
    (hev : (adminMachine check).event s n = some (s', ts)) : Bounded s' (ts ++ us) := by
  obtain ⟨rfl, rfl⟩ := admin_event hev
  cases n with
  | tick elapsed => exact ⟨h.guessed.later hok, h.unmatched⟩
  | writeUser user => exact ⟨h.guessed.same rfl rfl rfl rfl, h.unmatched⟩
  | unlock => exact hok.elim
  | startEnrollment | confirmEnrollment | verifyTotpChallenge | login =>
    exact ⟨h.guessed, List.forall_mem_cons.2 ⟨rfl, h.unmatched⟩⟩

theorem bounded_step (h : Bounded s (us ++ t :: vs)) (hok : (onlyGuesses.and readsLockInTurn) s (us ++ vs) (.step t e))
    (hst : (adminMachine check).step s t e = some (s', ts)) : Bounded s' (ts ++ (us ++ vs)) := by
  obtain ⟨t', rfl, hmove⟩ := admin_cases hst
  obtain ⟨hg, hm⟩ := h
  obtain ⟨hmine, hothers⟩ := forall_middle.1 hm
  simp only [countP_middle] at hg
  have hgoal : t'.isMatched = false → Guessed s' ((us ++ vs).countP AdminThread.comparing + if t'.comparing then 1 else 0)
      ((us ++ vs).countP AdminThread.uncounted + if t'.uncounted then 1 else 0)
      ((us ++ vs).countP AdminThread.isLocking + if t'.isLocking then 1 else 0) → Bounded s' ([t'] ++ (us ++ vs)) := by
    intro hmatched hguessed
    refine ⟨?_, List.forall_mem_cons.2 ⟨hmatched, hothers⟩⟩
    simpa only [List.singleton_append, List.countP_cons] using hguessed
  cases hmove with
  | start h => cases h <;> exact hgoal rfl (hg.same rfl rfl rfl rfl)
  | confirm h => cases h <;> exact hgoal rfl (hg.same rfl rfl rfl rfl)
  | verify h => cases h <;> exact hgoal rfl (hg.same rfl rfl rfl rfl)
  | login h =>
    cases h with
    | thrown =>
      rename_i t
      cases t with
      | verifying => exact hgoal rfl hg.given_up
      | wrong | locking => exact hok.2.elim
      | _ => exact hgoal rfl hg
    | unlocked unlocked => exact hgoal rfl (hg.read (hok.2 unlocked))
    | right => exact absurd rfl hok.1
    | wrong differs => exact hgoal rfl hg.wrong
    | counted raised left =>
      have hcounted := hg.counted_one raised
      rw [if_neg (not_le.2 left)] at hcounted
      exact hgoal rfl hcounted
    | exhausted raised reached =>
      have hcounted := hg.counted_one raised
      rw [if_pos reached] at hcounted
      exact hgoal rfl hcounted
    | locked => exact hgoal rfl hg.locked
    | reset => cases hmine
    | challenged => exact hgoal rfl (hg.same rfl rfl rfl rfl)
    | _ => exact hgoal rfl hg

theorem lockout_reach (h₀ : s₀.Untried)
    (hq : (adminMachine check).Reach (onlyGuesses.and readsLockInTurn) ⟨s₀, []⟩ q) : Bounded q.shared q.threads := by
  refine hq.invariant ⟨.untried h₀, by simp⟩ ?_ ?_
  · exact fun s us n s' ts _ h hok hev => bounded_event h hok.1 hev
  · exact fun s us vs t e s' ts _ h hok hst => bounded_step h hok hst

/-- While every call reads the lock in turn, no more than five passwords are compared; and
once the fifth is counted and the lock is set, every call is refused. -/
theorem lockout_bounds_guessing (h₀ : s₀.Untried)
    (hq : (adminMachine check).Reach (onlyGuesses.and readsLockInTurn) ⟨s₀, []⟩ q) :
    q.shared.verified ≤ LOCKOUT_THRESHOLD ∧
      (q.shared.verified = LOCKOUT_THRESHOLD → (∀ t ∈ q.threads, t.uncounted = false ∧ t.isLocking = false) →
        ∀ hash password role, (adminMachine check).step q.shared (.login (.found hash password role)) .ok =
          some (q.shared, [.login (.done (.error .accountLocked))])) := by
  obtain ⟨⟨hcounted, hbounded, -, hclosed⟩, -⟩ := lockout_reach h₀ hq
  refine ⟨by omega, fun hfive hidle hash password role => ?_⟩
  have huncounted : q.threads.countP AdminThread.uncounted = 0 := by simpa using fun t ht => (hidle t ht).1
  have hlocking : q.threads.countP AdminThread.isLocking = 0 := by simpa using fun t ht => (hidle t ht).2
  have hlocked : q.shared.locked = true := by
    rcases hclosed with hfew | hlocked | hpos
    · omega
    · exact hlocked
    · omega
  simp [adminMachine, adminStep, Login.step, hlocked]

end

/-- The password is 5. -/
def untriedAdmin : AdminDb where
  user := some ⟨.admin, some 5⟩
  totp := none
  recoveryCodes := []
  nextCode := 0
  attempts := none
  locked := false
  challenges := fun _ => none
  clock := 0
  verified := 0

theorem untriedAdmin_untried : untriedAdmin.Untried := ⟨rfl, rfl, rfl⟩

def onlyGuessesB (db : AdminDb) (_ : List AdminThread) (m : Move AdminThread AdminEvent AdminReply) : Bool :=
  match m with
  | .event .unlock => false
  | .event (.tick elapsed) => db.attempts.all fun counter => decide (db.clock + elapsed < counter.2)
  | .step (.login (.verifying hash password _)) .ok => hash != password
  | _ => true

theorem onlyGuesses_of_bool (db : AdminDb) (us : List AdminThread) (m : Move AdminThread AdminEvent AdminReply)
    (h : onlyGuessesB db us m = true) : onlyGuesses db us m := by
  unfold onlyGuesses
  split
  · cases h
  · intro counter hcounter
    simpa [onlyGuessesB, Option.mem_def.1 hcounter] using h
  · simpa [onlyGuessesB] using h
  · trivial

/-- Six calls read the lock before the first of them has counted: all six passwords are compared. -/
theorem six_passwords_compared : ¬∀ (check : TotpCheck) s₀ q, s₀.Untried →
    (adminMachine check).Reach onlyGuesses ⟨s₀, []⟩ q → q.shared.verified ≤ LOCKOUT_THRESHOLD := by
  intro h
  obtain ⟨q, hq, ht⟩ := Machine.reach_of_test (adminMachine countingCheck) onlyGuesses onlyGuessesB
    onlyGuesses_of_bool ⟨untriedAdmin, []⟩
    (List.replicate 6 (.event (.login 9)) ++ List.replicate 6 (.step 5 .ok) ++ List.replicate 6 (.step 5 .ok) ++
      List.replicate 6 (.step 5 .ok))
    (fun q => q.shared.verified == 6) (by decide +kernel)
  have hle := h _ _ q untriedAdmin_untried hq
  rw [beq_iff_eq.1 ht] at hle
  exact absurd hle (by decide)

def readsLockInTurnB (db : AdminDb) (us : List AdminThread) (m : Move AdminThread AdminEvent AdminReply) : Bool :=
  match m with
  | .step (.login (.found ..)) .ok => db.locked ||
      Nat.blt (db.recorded + (us.countP AdminThread.comparing + us.countP AdminThread.uncounted)) LOCKOUT_THRESHOLD
  | .step (.login .wrong) .fail | .step (.login .locking) .fail => false
  | _ => true

theorem inTurn_of_bool (db : AdminDb) (us : List AdminThread) (m : Move AdminThread AdminEvent AdminReply)
    (h : (onlyGuessesB db us m && readsLockInTurnB db us m) = true) : (onlyGuesses.and readsLockInTurn) db us m := by
  rw [Bool.and_eq_true] at h
  refine ⟨onlyGuesses_of_bool db us m h.1, ?_⟩
  have hturn := h.2
  unfold readsLockInTurn
  split
  · intro hunlocked
    simpa [readsLockInTurnB, hunlocked] using hturn
  · cases hturn
  · cases hturn
  · trivial

def guessOnce : List (Act AdminEvent AdminReply) :=
  [.event (.login 9), .step 0 .ok, .step 0 .ok, .step 0 .ok, .step 0 .ok]

/-- Five wrong passwords, one call after the other; the right one is then refused. -/
theorem five_guesses_lock :
    ∃ q, (adminMachine countingCheck).Reach (onlyGuesses.and readsLockInTurn) ⟨untriedAdmin, []⟩ q ∧
      (adminMachine countingCheck).step q.shared (.login (.found 5 5 .admin)) .ok =
        some (q.shared, [.login (.done (.error .accountLocked))]) := by
  obtain ⟨q, hq, ht⟩ := Machine.reach_of_test (adminMachine countingCheck) (onlyGuesses.and readsLockInTurn)
    (fun db us m => onlyGuessesB db us m && readsLockInTurnB db us m) inTurn_of_bool ⟨untriedAdmin, []⟩
    ((List.replicate 5 guessOnce).flatten ++ [.step 0 .ok])
    (fun q => q.shared.verified == 5 && q.threads.all fun t => !t.uncounted && !t.isLocking) (by decide +kernel)
  simp only [Bool.and_eq_true, beq_iff_eq, List.all_eq_true, Bool.not_eq_true'] at ht
  exact ⟨q, hq, (lockout_bounds_guessing untriedAdmin_untried hq).2 ht.1 ht.2 5 5 .admin⟩

end ChopNow
