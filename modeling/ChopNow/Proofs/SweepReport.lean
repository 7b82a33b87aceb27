import Mathlib.Algebra.Group.Prod
import ChopNow.Proofs.BooksStep
import ChopNow.Spec.PayoutSweep

/-! The closing log line of a payout sweep, whatever else happens to the books meanwhile. The
payouts of a sweep are known by the moment it started, which is where their period ends; sweeps
that started at the same moment share them. -/

namespace ChopNow

open Interleave Tally

def PayoutSweepKind.pays : PayoutSweepKind → Party → Bool
  | .vendors, .vendor _ | .riders, .rider _ => true
  | _, _ => false

/-- The payouts of a kind whose period ends at `t`. -/
def Books.endingAt (b : Books) (kind : PayoutSweepKind) (t : Time) : List Payout :=
  b.payouts.filter fun p => kind.pays p.party && p.periodEnd == t

/-- Their number, and what they pay. -/
def Books.paidAt (b : Books) (kind : PayoutSweepKind) (t : Time) : ℕ × ℤ :=
  ((b.endingAt kind t).map fun p => (1, p.netXAF)).sum

/-- When a sweep of the kind started. -/
def CronThread.startedAt (kind : PayoutSweepKind) : CronThread → Option Time
  | .sweep (.findMany k t) | .sweep (.trying k t ..) | .sweep (.completed k t _) => if k = kind then some t else none
  | _ => none

/-- Where the period of the next payout ends, once that is known. -/
def Scheduler.periodEnd : Scheduler → Option Time
  | .checkKyc _ _ scheduledFor => some scheduledFor
  | .readBalance job | .countDisputes job _ | .readLastPayout job _ => job.sweptAt
  | .findExisting _ _ _ periodEnd | .transact _ _ _ periodEnd => some periodEnd
  | .readRequest .. | .done _ => none

/-- Whose payout it is going to be. -/
def Scheduler.paysFor (kind : PayoutSweepKind) : Scheduler → Prop
  | .checkKyc .. => kind = .riders
  | .readRequest .. => kind = .vendors
  | .readBalance job | .countDisputes job _ | .readLastPayout job _ | .findExisting job .. | .transact job .. =>
    kind.pays job.party = true
  | .done _ => True

def CronThread.periodEnd : CronThread → Option Time
  | .call t => t.periodEnd
  | .sweep (.findMany _ startedAt) | .sweep (.trying _ startedAt ..) | .sweep (.completed _ startedAt _) => some startedAt
  | .sweep .crashed => none

/-- Nobody's period ends in the future, and a sweep's row has its sweep's. -/
def CronThread.Knows (db : SweepDb) (u : CronThread) : Prop :=
  (∀ e ∈ u.periodEnd, e ≤ db.books.clock) ∧
    match u with
    | .sweep (.trying kind startedAt _ t _ _) => t.periodEnd = some startedAt ∧ t.paysFor kind
    | _ => True

/-- No payout's period ends in the future. -/
def Books.Ended (b : Books) : Prop := ∀ p ∈ b.payouts, p.periodEnd < b.clock

section

variable {b b' : Books} {t t' : Scheduler} {e : Reply} {startedAt : Time} {report : SweepReport} {kind : PayoutSweepKind}

/-! One step of a scheduler. -/

theorem checkBalance_error {job : PayoutJob} {balanceXAF netXAF : ℤ} :
    job.checkBalance balanceXAF ≠ .error (.scheduled netXAF) := by
  intro h
  cases job with
  | cashout request adminUserId vendor momoPhone =>
    simp only [PayoutJob.checkBalance] at h
    split at h <;> cases h
  | _ =>
    simp only [PayoutJob.checkBalance] at h
    split at h
    · cases h
    · split at h <;> cases h

/-- A scheduler books one payout, with its last statement, and then it says so. -/
theorem scheduler_payouts (h : t.step b e = some (b', t')) :
    (b'.payouts = b.payouts ∧ ∀ netXAF, t' ≠ .done (.scheduled netXAF)) ∨
      ∃ job balance periodStart periodEnd, t = .transact job balance periodStart periodEnd ∧
        b.commitPayout job balance periodStart periodEnd = .ok b' ∧ t' = .done (.scheduled balance.balanceXAF) := by
  cases e with
  | fail reason => cases t <;> cases h <;> exact .inl ⟨rfl, by simp⟩
  | accepted ref => cases t <;> cases h
  | refused reason => cases t <;> cases h
  | lost ref reason => cases t <;> cases h
  | ok =>
    cases t with
    | transact job balance periodStart periodEnd =>
      simp only [Scheduler.step] at h
      split at h <;> cases h
      · exact .inl ⟨rfl, by simp⟩
      · exact .inr ⟨job, balance, periodStart, periodEnd, rfl, ‹_›, rfl⟩
    | readBalance job =>
      simp only [Scheduler.step] at h
      split at h
      · next outcome hcheck =>
        cases h
        refine .inl ⟨rfl, fun netXAF heq => ?_⟩
        obtain rfl := Scheduler.done.inj heq
        exact checkBalance_error hcheck
      · split at h <;> cases h <;> exact .inl ⟨rfl, by simp⟩
    | done outcome => cases h
    | _ =>
      simp only [Scheduler.step] at h
      repeat' split at h
      all_goals cases h
      all_goals exact .inl ⟨rfl, by simp⟩

/-- The end of the period is where it was, or it is now. -/
theorem SchedulerMove.periodEnd (h : SchedulerMove b t b' t') :
    (∃ outcome, t' = .done outcome) ∨ t'.periodEnd = t.periodEnd ∧ b'.clock = b.clock ∨
      (∃ job balance, t = .readLastPayout job balance) ∧ t.periodEnd = none ∧ t'.periodEnd = some b.clock ∧
        b'.clock = b.clock + 1 := by
  cases h with
  | finish outcome | schedule outcome => exact .inl ⟨_, rfl⟩
  | @readBalance job next hpos hnext => rcases hnext with rfl | rfl <;> exact .inr (.inl ⟨rfl, rfl⟩)
  | sweepPeriod balance hcreated hswept => exact .inr (.inl ⟨hswept.symm, rfl⟩)
  | cashoutPeriod balance hcreated hswept => exact .inr (.inr ⟨⟨_, _, rfl⟩, hswept, rfl, rfl⟩)
  | _ => exact .inr (.inl ⟨rfl, rfl⟩)

/-- Whose payout it is stays as it was. -/
theorem SchedulerMove.paysFor (h : SchedulerMove b t b' t') (ht : t.paysFor kind) : t'.paysFor kind := by
  cases h with
  | finish | schedule => trivial
  | eligible => exact ht ▸ rfl
  | requested => exact ht ▸ rfl
  | readBalance hpos hnext => rcases hnext with rfl | rfl <;> exact ht
  | _ => exact ht

theorem SchedulerMove.clock_le (h : SchedulerMove b t b' t') : b.clock ≤ b'.clock := by
  cases h with
  | schedule outcome hcommit => exact (commitPayout_ok hcommit).clock ▸ Nat.le_succ _
  | cashoutPeriod => exact Nat.le_succ _
  | _ => exact le_rfl

/-- One step of a scheduler, in a sweep or on its own: no payout, or the one of its period. -/
theorem scheduler_books (h : t.step b e = some (b', t')) :
    (b'.payouts = b.payouts ∧ ∀ netXAF, t' ≠ .done (.scheduled netXAF)) ∨
      ∃ p, b'.payouts = b.payouts ++ [p] ∧ b'.clock = b.clock + 1 ∧ t.periodEnd = some p.periodEnd ∧
        (∀ kind : PayoutSweepKind, t.paysFor kind → kind.pays p.party = true) ∧ t' = .done (.scheduled p.netXAF) := by
  rcases scheduler_payouts h with hquiet | ⟨job, balance, periodStart, periodEnd, rfl, hcommit, rfl⟩
  · exact .inl hquiet
  · exact .inr ⟨_, (commitPayout_ok hcommit).payouts, (commitPayout_ok hcommit).clock, rfl, fun _ hkind => hkind, rfl⟩

/-! Payouts that come, and payouts that change their status. -/

theorem Books.Ended.keep (h : b.Ended) (hpayouts : ∀ p' ∈ b'.payouts, ∃ p ∈ b.payouts, p'.periodEnd = p.periodEnd)
    (hclock : b.clock ≤ b'.clock) : b'.Ended := by
  intro p' hp'
  obtain ⟨p, hp, heq⟩ := hpayouts p' hp'
  exact heq ▸ (h p hp).trans_le hclock

theorem Books.Ended.event (h : b.Ended) (n : BooksEvent) : (booksEvent b n).1.Ended := by
  refine h.keep (fun p' hp' => ?_) (booksEvent_ledger b n).1
  rcases booksEvent_payouts b n with hp | ⟨id, x, rfl⟩
  · exact ⟨p', hp ▸ hp', rfl⟩
  · obtain ⟨p, hp, hs⟩ := mem_writePayout hp'
    exact ⟨p, hp, hs.periodEnd⟩

theorem Books.Ended.append {p : Payout} (h : b.Ended) (hb : b'.payouts = b.payouts ++ [p]) (hend : p.periodEnd ≤ b.clock)
    (hclock : b'.clock = b.clock + 1) : b'.Ended := by
  intro q hq
  rw [hb, List.mem_append, List.mem_singleton] at hq
  rw [hclock]
  rcases hq with hq | rfl
  · exact (h q hq).trans (Nat.lt_succ_self _)
  · exact Nat.lt_succ_of_le hend

theorem Books.Ended.step (h : b.Ended) (hst : t.step b e = some (b', t')) (ht : ∀ s ∈ t.periodEnd, s ≤ b.clock) :
    b'.Ended := by
  rcases scheduler_books hst with ⟨hsame, -⟩ | ⟨p, hp, hclock, hend, -⟩
  · exact h.keep (fun p hp => ⟨p, hsame ▸ hp, rfl⟩) (schedulerMove_of_step hst).clock_le
  · exact h.append hp (ht _ hend) hclock

theorem periodEnd_past (hst : t.step b e = some (b', t')) (ht : ∀ s ∈ t.periodEnd, s ≤ b.clock) :
    ∀ s ∈ t'.periodEnd, s ≤ b'.clock := by
  intro s hs
  rcases (schedulerMove_of_step hst).periodEnd with ⟨outcome, rfl⟩ | ⟨hsame, hclock⟩ | ⟨-, -, hnow, hclock⟩
  · cases hs
  · exact hclock ▸ ht s (hsame ▸ hs)
  · obtain rfl := Option.some.inj (hnow.symm.trans hs)
    exact hclock ▸ Nat.le_succ _

/-! A sweep counts a payout when its row says that it is scheduled. -/

variable {db db' : SweepDb} {u : CronThread}

theorem loop_periodEnd (k : PayoutSweepKind) (startedAt : Time) (report : SweepReport) (rest : List SweepRow) :
    (CronThread.sweep (.loop k startedAt report rest)).periodEnd = some startedAt := by
  cases rest <;> rfl

theorem loop_startedAt (k : PayoutSweepKind) (startedAt : Time) (report : SweepReport) (rest : List SweepRow) :
    (CronThread.sweep (.loop k startedAt report rest)).startedAt kind = if k = kind then some startedAt else none := by
  cases rest <;> rfl

theorem loop_knows {k : PayoutSweepKind} {rest : List SweepRow} (hpast : startedAt ≤ db.books.clock) :
    (CronThread.sweep (.loop k startedAt report rest)).Knows db := by
  refine ⟨fun e he => ?_, ?_⟩
  · rw [loop_periodEnd] at he
    exact Option.some.inj he ▸ hpast
  · cases rest with
    | nil => trivial
    | cons row rest => exact ⟨by cases k <;> rfl, by cases k <;> rfl⟩

/-- A step of a sweep is that of its scheduler, or writes nothing. -/
theorem sweep_step {s s' : PayoutSweep} {e : SweepReply} (h : s.step db e = some (db', s')) (hended : db.books.Ended)
    (hs : (CronThread.sweep s).Knows db) :
    db'.books.Ended ∧ db.books.clock ≤ db'.books.clock ∧ (CronThread.sweep s').Knows db' ∧
      ∀ kind at_, (CronThread.sweep s').startedAt kind = some at_ → (CronThread.sweep s).startedAt kind = some at_ := by
  cases s with
  | findMany k startedAt =>
    cases e with
    | found rows =>
      simp only [PayoutSweep.step] at h
      split at h <;> cases h
      exact ⟨hended, le_rfl, loop_knows (hs.1 _ rfl), fun kind at_ hstart => (loop_startedAt ..).symm.trans hstart⟩
    | statement e =>
      cases e with
      | fail reason =>
        cases h
        exact ⟨hended, le_rfl, ⟨nofun, trivial⟩, nofun⟩
      | _ => cases h
  | trying k startedAt row t rest report =>
    cases e with
    | found rows => cases h
    | statement e =>
      obtain ⟨⟨b', t'⟩, hst, heq⟩ := Option.map_eq_some_iff.1 h
      obtain ⟨rfl, rfl⟩ := Prod.mk.inj heq
      obtain ⟨hpast, hend, hpays⟩ := hs
      have hmove := schedulerMove_of_step hst
      have hpast' : startedAt ≤ b'.clock := (hpast _ rfl).trans hmove.clock_le
      refine ⟨hended.step hst fun s hs => ?_, hmove.clock_le, ?_⟩
      · exact Option.some.inj (hend.symm.trans hs) ▸ hpast _ rfl
      rcases hmove.periodEnd with ⟨outcome, rfl⟩ | ⟨hsame, -⟩ | ⟨-, hnone, -⟩
      · exact ⟨loop_knows hpast', fun kind at_ hstart => (loop_startedAt ..).symm.trans hstart⟩
      · have hnext : PayoutSweep.next k startedAt row rest report t' = .trying k startedAt row t' rest report := by
          cases t' with
          | done outcome => rw [hend] at hsame; cases hsame
          | _ => rfl
        rw [hnext]
        refine ⟨⟨fun s hs => Option.some.inj hs ▸ hpast', hsame.trans hend, hmove.paysFor hpays⟩, fun kind at_ hstart => hstart⟩
      · rw [hend] at hnone
        cases hnone
  | completed k startedAt report => cases h
  | crashed => cases h

theorem CronThread.Knows.keep (h : u.Knows db) (hclock : db.books.clock ≤ db'.books.clock) : u.Knows db' :=
  ⟨fun e he => (h.1 e he).trans hclock, h.2⟩

theorem cron_arrival (n : CronEvent) (hended : db.books.Ended) : (cronEvent db n).1.books.Ended ∧
    db.books.clock ≤ (cronEvent db n).1.books.clock ∧ ∀ u ∈ (cronEvent db n).2, u.Knows (cronEvent db n).1 := by
  cases n with
  | accounts vendors vendorType riders riderPhone => exact ⟨hended, le_rfl, List.forall_mem_nil _⟩
  | sweep kind =>
    refine ⟨hended, le_rfl, List.forall_mem_singleton.2 ⟨fun e he => ?_, trivial⟩⟩
    exact (Option.some.inj he).symm.le
  | books n =>
    refine ⟨hended.event n, (booksEvent_ledger db.books n).1, ?_⟩
    cases n with
    | tryScheduleVendorPayout vendor momoPhone elapsed | tryScheduleRiderPayout rider momoPhone elapsed =>
      refine List.forall_mem_singleton.2 ⟨fun e he => ?_, trivial⟩
      obtain rfl := Option.some.inj he
      exact (Nat.sub_le _ _).trans (Nat.le_succ _)
    | approveCashoutRequest request adminUserId => exact List.forall_mem_singleton.2 ⟨nofun, trivial⟩
    | _ => exact List.forall_mem_nil _

end

/-- Whatever happens meanwhile: other sweeps, cashouts, deliveries, transfers that fail and are retried. -/
theorem cron_knows {ok : Guard SweepDb CronThread CronEvent SweepReply} {db₀ : SweepDb} {q : Pool SweepDb CronThread}
    (hpayouts : db₀.books.payouts = []) (h : cronMachine.Reach ok ⟨db₀, []⟩ q) :
    q.shared.books.Ended ∧ ∀ u ∈ q.threads, u.Knows q.shared := by
  refine h.stable (I := fun db => db.books.Ended) (L := fun db u => u.Knows db) ?_ ?_ ?_ ?_
  · simp [Books.Ended, hpayouts]
  · simp
  · intro db us n db' ts _ hended _ hev
    obtain ⟨rfl, rfl⟩ := Prod.mk.inj (Option.some.inj hev)
    obtain ⟨hended', hclock, hnew⟩ := cron_arrival n hended
    exact ⟨hended', hnew, fun u hu => hu.keep hclock⟩
  · intro db us vs u e db' ts _ hended hu _ hst
    cases u with
    | call t =>
      cases e with
      | found rows => cases hst
      | statement e =>
        obtain ⟨⟨b', t'⟩, hstep, heq⟩ := Option.map_eq_some_iff.1 hst
        obtain ⟨rfl, rfl⟩ := Prod.mk.inj heq
        refine ⟨hended.step hstep hu.1, ?_, fun u' hu' => hu'.keep (schedulerMove_of_step hstep).clock_le⟩
        exact List.forall_mem_singleton.2 ⟨periodEnd_past hstep hu.1, trivial⟩
    | sweep s =>
      obtain ⟨⟨db'', s'⟩, hstep, heq⟩ := Option.map_eq_some_iff.1 hst
      obtain ⟨rfl, rfl⟩ := Prod.mk.inj heq
      obtain ⟨hended', hclock, hknows, -⟩ := sweep_step hstep hended hu
      exact ⟨hended', List.forall_mem_singleton.2 hknows, fun u' hu' => hu'.keep hclock⟩

/-! Cashouts keep apart from the vendors' sweeps. -/

/-- Where the period of a cashout ends. -/
def CronThread.callEnd : CronThread → Option Time
  | .call t => t.periodEnd
  | .sweep _ => none

def CashoutEnded (db : SweepDb) : CronThread → Prop
  | .call t => t.paysFor .vendors ∧ ∀ e ∈ t.periodEnd, e < db.books.clock
  | .sweep _ => True

def CashoutApart (t u : CronThread) : Prop :=
  (∀ e ∈ t.callEnd, u.startedAt .vendors ≠ some e) ∧ ∀ e ∈ u.callEnd, t.startedAt .vendors ≠ some e

theorem CashoutApart.call {t : Scheduler} {u : CronThread} (h : ∀ e ∈ t.periodEnd, u.startedAt .vendors ≠ some e) :
    CashoutApart (.call t) u :=
  ⟨h, fun _ _ hstart => by cases hstart⟩

theorem CashoutApart.sweep {s : PayoutSweep} {u : CronThread}
    (h : ∀ e ∈ u.callEnd, (CronThread.sweep s).startedAt .vendors ≠ some e) : CashoutApart (.sweep s) u :=
  ⟨fun _ he => (by cases he), h⟩

theorem CashoutEnded.keep {db db' : SweepDb} {u : CronThread} (h : CashoutEnded db u) (hclock : db.books.clock ≤ db'.books.clock) :
    CashoutEnded db' u := by
  cases u with
  | call t => exact ⟨h.1, fun e he => (h.2 e he).trans_le hclock⟩
  | sweep s => trivial

/-- The example's vendor is a restaurant. -/
def exampleSweepDb : SweepDb where
  books := exampleBooks
  vendorType _ := .restaurant
  riderPhone _ := "+237670000001"

def asCron : Act BooksEvent Reply → Act CronEvent SweepReply
  | .event n => .event (.books n)
  | .step i e => .step i (.statement e)

end ChopNow
