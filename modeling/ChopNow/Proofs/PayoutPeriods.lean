import ChopNow.Lib.InTurn
import ChopNow.Lib.Periods
import ChopNow.Proofs.BooksStep

/-! The periods of a party's payouts. The start is read off whichever payout is settled
at the moment, so it moves back when one fails; that no two payouts of a party start
together keeps the periods in one chain all the same. -/

namespace ChopNow

open Interleave Periods

/-- The payouts of a party, in the order they were created. -/
def Books.payoutsOf (b : Books) (party : Party) : List Payout := b.payouts.filter fun p => decide (p.party = party)

/-- Laid end to end from when the party joined, without overlap and without a gap. -/
structure PeriodsChain (joined : Time) (payouts : List Payout) : Prop where
  chained : Chained Payout.periodStart Payout.periodEnd joined payouts
  apart : payouts.Pairwise fun p q => ∀ t, ¬(Spans Payout.periodStart Payout.periodEnd p t ∧
    Spans Payout.periodStart Payout.periodEnd q t)
  covered : ∀ t, joined < t → t ≤ finish Payout.periodEnd joined payouts →
    ∃! p, p ∈ payouts ∧ Spans Payout.periodStart Payout.periodEnd p t

def BooksEvent.schedules : BooksEvent → Bool
  | .tryScheduleVendorPayout .. | .tryScheduleRiderPayout .. | .approveCashoutRequest .. => true
  | _ => false

/-- `scheduledFor` is the clock at the call. -/
def BooksEvent.startsNow : BooksEvent → Bool
  | .tryScheduleVendorPayout _ _ elapsed | .tryScheduleRiderPayout _ _ elapsed => elapsed == 0
  | _ => true

/-- One scheduling call after the other, each on the clock; the writes to orders and payouts at
any time. -/
def oneCallAtATime : Guard Books Scheduler BooksEvent Reply := fun _ us m =>
  match m with
  | .event n => n.startsNow = true ∧ (n.schedules = true → ∀ u ∈ us, u.isDone = true)
  | .step .. => True

/-- Later than everything that was paid out so far. -/
structure AfterPeriods (party : Party) (joined : Time) (b : Books) (t : Time) : Prop where
  joined : joined < t
  ended : ∀ p ∈ b.payoutsOf party, p.periodEnd < t

structure PeriodsInv (party : Party) (joined : Time) (b : Books) : Prop where
  createdAt : b.createdAt party = some joined
  now : AfterPeriods party joined b b.clock
  chained : Chained Payout.periodStart Payout.periodEnd joined (b.payoutsOf party)

/-- The period that is about to be written. -/
structure PeriodRead (party : Party) (joined : Time) (b : Books) (periodStart periodEnd : Time) : Prop where
  start : periodStart = joined ∨ ∃ p ∈ b.payoutsOf party, periodStart = p.periodEnd
  after : AfterPeriods party joined b periodEnd
  past : periodEnd < b.clock

/-- When the sweep of this call started. -/
def Scheduler.sweep (party : Party) : Scheduler → Option Time
  | .checkKyc rider _ scheduledFor => if party = .rider rider then some scheduledFor else none
  | .readBalance job | .countDisputes job _ | .readLastPayout job _ => if party = job.party then job.sweptAt else none
  | _ => none

def Scheduler.period (party : Party) : Scheduler → Option (Time × Time)
  | .findExisting job _ periodStart periodEnd | .transact job _ periodStart periodEnd =>
    if party = job.party then some (periodStart, periodEnd) else none
  | _ => none

structure PeriodLocal (party : Party) (joined : Time) (b : Books) (t : Scheduler) : Prop where
  inv : PeriodsInv party joined b
  sweep : ∀ now ∈ t.sweep party, AfterPeriods party joined b now ∧ now < b.clock
  period : ∀ r ∈ t.period party, PeriodRead party joined b r.1 r.2

section

variable {party : Party} {joined : Time} {b b' : Books} {t : Scheduler} {now : Time}

theorem mem_payoutsOf {p : Payout} : p ∈ b.payoutsOf party ↔ p ∈ b.payouts ∧ p.party = party := by
  simp [Books.payoutsOf]

/-- The chain, with what follows from it. -/
theorem PeriodsInv.chain (h : PeriodsInv party joined b) : PeriodsChain joined (b.payoutsOf party) where
  chained := h.chained
  apart := h.chained.apart
  covered := fun _ => h.chained.covered

/-! Nothing that a status move, an order or a tick does touches a period. -/

/-- The same periods, at a later time. -/
structure KeepsPeriods (party : Party) (b b' : Books) : Prop where
  clock : b.clock ≤ b'.clock
  periods : (b'.payoutsOf party).map (fun p => (p.periodStart, p.periodEnd)) =
    (b.payoutsOf party).map fun p => (p.periodStart, p.periodEnd)
  createdAt : b'.createdAt party = b.createdAt party

theorem KeepsPeriods.ends (h : KeepsPeriods party b b') (p : Time → Prop) :
    (∃ q ∈ b'.payoutsOf party, p q.periodEnd) ↔ ∃ q ∈ b.payoutsOf party, p q.periodEnd := by
  have hends := congrArg (List.map Prod.snd) h.periods
  simp only [List.map_map, Function.comp_def] at hends
  have hiff : ∀ qs : List Payout, (∃ q ∈ qs, p q.periodEnd) ↔ ∃ e ∈ qs.map (·.periodEnd), p e := fun qs => by simp
  rw [hiff, hiff, hends]

theorem AfterPeriods.keep (h : AfterPeriods party joined b now) (hk : KeepsPeriods party b b') :
    AfterPeriods party joined b' now where
  joined := h.joined
  ended := fun q hq => by
    by_contra hnot
    obtain ⟨p, hp, hlate⟩ := (hk.ends fun e => ¬e < now).1 ⟨q, hq, hnot⟩
    exact hlate (h.ended p hp)

theorem AfterPeriods.later {now' : Time} (h : AfterPeriods party joined b now) (hle : now ≤ now') :
    AfterPeriods party joined b now' where
  joined := h.joined.trans_le hle
  ended := fun p hp => (h.ended p hp).trans_le hle

theorem PeriodsInv.keep (h : PeriodsInv party joined b) (hk : KeepsPeriods party b b') : PeriodsInv party joined b' where
  createdAt := hk.createdAt.trans h.createdAt
  now := (h.now.keep hk).later hk.clock
  chained := h.chained.congr hk.periods

theorem PeriodLocal.keep (h : PeriodLocal party joined b t) (hk : KeepsPeriods party b b') :
    PeriodLocal party joined b' t where
  inv := h.inv.keep hk
  sweep := fun now hnow => ⟨(h.sweep now hnow).1.keep hk, (h.sweep now hnow).2.trans_le hk.clock⟩
  period := fun r hr => by
    obtain ⟨hstart, hafter, hpast⟩ := h.period r hr
    exact ⟨hstart.imp_right (hk.ends fun e => r.1 = e).2, hafter.keep hk, hpast.trans_le hk.clock⟩

/-- A change of rows that keeps parties and periods keeps the list of periods. -/
theorem periods_map {f : Payout → Payout} (hf : ∀ p, SamePayout p (f p)) (payouts : List Payout) :
    ((payouts.map f).filter fun p => decide (p.party = party)).map (fun p => (p.periodStart, p.periodEnd)) =
      (payouts.filter fun p => decide (p.party = party)).map fun p => (p.periodStart, p.periodEnd) := by
  rw [List.filter_map, List.map_map]
  have hparty : ((fun p : Payout => decide (p.party = party)) ∘ f) = fun p => decide (p.party = party) := by
    funext p
    simp only [Function.comp, (hf p).party]
  rw [hparty]
  exact List.map_congr_left fun p _ => by simp only [Function.comp, (hf p).periodStart, (hf p).periodEnd]

theorem booksEvent_periods (b : Books) (n : BooksEvent) : KeepsPeriods party b (booksEvent b n).1 where
  clock := (booksEvent_ledger b n).1
  periods := by
    rcases booksEvent_payouts b n with hp | ⟨id, x, rfl⟩
    · simp only [Books.payoutsOf, hp]
    · refine periods_map (fun p => ?_) b.payouts
      split
      · exact x.apply_same p b.clock
      · exact .refl p
  createdAt := (booksEvent_moves b n).createdAt party

/-! Steps of the one call at work. -/

/-- The latest end of a settled payout is the end of a payout. -/
theorem cutoff_end (b : Books) (createdAt : Time) :
    (b.cutoff party).getD createdAt = createdAt ∨
      ∃ p ∈ b.payoutsOf party, (b.cutoff party).getD createdAt = p.periodEnd := by
  cases h : b.cutoff party with
  | none => exact .inl rfl
  | some e =>
    obtain ⟨p, hp, rfl⟩ := List.mem_map.1 (List.max?_mem h)
    have hparty : decide (p.party = party) && p.isSettling := (List.mem_filter.1 hp).2
    exact .inr ⟨p, mem_payoutsOf.2 ⟨(List.mem_filter.1 hp).1, by simpa using (Bool.and_eq_true_iff.1 hparty).1⟩, rfl⟩

/-- Another party's payout. -/
theorem payoutsOf_append_other {p : Payout} (hp : b'.payouts = b.payouts ++ [p]) (hother : p.party ≠ party) :
    b'.payoutsOf party = b.payoutsOf party := by
  simp [Books.payoutsOf, hp, hother]

theorem payoutsOf_append {p : Payout} (hp : b'.payouts = b.payouts ++ [p]) (hown : p.party = party) :
    b'.payoutsOf party = b.payoutsOf party ++ [p] := by
  simp [Books.payoutsOf, hp, hown]

/-- The heart: where no payout of the party starts, one that starts at an end starts at
the last end. -/
theorem PeriodsInv.schedule {job : PayoutJob} {balance : PartyBalance} {periodStart periodEnd : Time}
    (h : PeriodsInv party joined b) (hr : party = job.party → PeriodRead party joined b periodStart periodEnd)
    (hb' : b.commitPayout job balance periodStart periodEnd = .ok b') : PeriodsInv party joined b' := by
  have hc := commitPayout_ok hb'
  have hcreatedAt : b'.createdAt party = some joined := by
    cases party <;> simpa [Books.createdAt, hc.vendors, hc.riders] using h.createdAt
  have hlater : b.clock < b'.clock := hc.clock ▸ Nat.lt_succ_self _
  by_cases hparty : party = job.party
  · obtain ⟨hstart, hafter, hpast⟩ := hr hparty
    have hrows : b'.payoutsOf party = _ := payoutsOf_append hc.payouts hparty.symm
    have hlt : periodStart < periodEnd := by
      rcases hstart with rfl | ⟨p, hp, rfl⟩
      · exact hafter.joined
      · exact hafter.ended p hp
    have hfree : ∀ p ∈ b.payoutsOf party, p.periodStart ≠ periodStart := fun p hp hs =>
      hc.fresh p (mem_payoutsOf.1 hp).1 ⟨(mem_payoutsOf.1 hp).2.trans hparty, hs⟩
    have hlast := h.chained.eq_finish hstart hfree
    refine ⟨hcreatedAt, ⟨h.now.joined.trans hlater, fun p hp => ?_⟩, ?_⟩
    · rw [hrows] at hp
      rcases List.mem_append.1 hp with hp | hp
      · exact (h.now.ended p hp).trans hlater
      · obtain rfl := List.mem_singleton.1 hp
        exact hpast.trans hlater
    · rw [hrows]
      exact h.chained.append hlast hlt
  · have hrows : b'.payoutsOf party = b.payoutsOf party := payoutsOf_append_other hc.payouts (Ne.symm hparty)
    exact ⟨hcreatedAt, ⟨h.now.joined.trans hlater, fun p hp => (h.now.ended p (hrows ▸ hp)).trans hlater⟩, hrows ▸ h.chained⟩

/-- Between two steps a call is busy. -/
def Scheduler.busy (t : Scheduler) : Bool := !t.isDone

theorem PeriodLocal.inTurn (h : PeriodLocal party joined b t) : InTurn Scheduler.busy (PeriodsInv party joined)
    (PeriodLocal party joined) b [t] := by
  cases hbusy : t.busy with
  | false => exact .of_idle (by simpa using hbusy) h.inv
  | true => exact .inr ⟨t, by simp [hbusy], h⟩

theorem scheduler_periods {t' : Scheduler} (hL : PeriodLocal party joined b t) (h : SchedulerMove b t b' t') :
    PeriodLocal party joined b' t' := by
  cases h with
  | finish outcome => exact ⟨hL.inv, by simp [Scheduler.sweep], by simp [Scheduler.period]⟩
  | eligible rider momoPhone scheduledFor => exact ⟨hL.inv, hL.sweep, by simp [Scheduler.period]⟩
  | requested request adminUserId vendor momoPhone =>
    refine ⟨hL.inv, fun now hnow => ?_, by simp [Scheduler.period]⟩
    simp [Scheduler.sweep, PayoutJob.sweptAt] at hnow
  | readBalance hpos hnext =>
    rcases hnext with rfl | rfl
    · exact ⟨hL.inv, hL.sweep, by simp [Scheduler.period]⟩
    · exact ⟨hL.inv, hL.sweep, by simp [Scheduler.period]⟩
  | undisputed job balance => exact ⟨hL.inv, hL.sweep, by simp [Scheduler.period]⟩
  | @sweepPeriod job balance createdAt scheduledFor hcreated hswept =>
    refine ⟨hL.inv, by simp [Scheduler.sweep], fun r hr => ?_⟩
    simp only [Scheduler.period, Option.mem_def, Option.ite_none_right_eq_some, Option.some.injEq] at hr
    obtain ⟨rfl, rfl⟩ := hr
    obtain ⟨hafter, hpast⟩ := hL.sweep scheduledFor (by simp [Scheduler.sweep, hswept])
    obtain rfl : joined = createdAt := Option.some.inj (hL.inv.createdAt.symm.trans hcreated)
    exact ⟨cutoff_end b joined, hafter, hpast⟩
  | @cashoutPeriod job balance createdAt hcreated hswept =>
    have hk : KeepsPeriods party b { b with clock := b.clock + 1 } := ⟨Nat.le_succ _, rfl, by cases party <;> rfl⟩
    refine ⟨hL.inv.keep hk, by simp [Scheduler.sweep], fun r hr => ?_⟩
    simp only [Scheduler.period, Option.mem_def, Option.ite_none_right_eq_some, Option.some.injEq] at hr
    obtain ⟨rfl, rfl⟩ := hr
    obtain rfl : joined = createdAt := Option.some.inj (hL.inv.createdAt.symm.trans hcreated)
    exact ⟨cutoff_end b joined, hL.inv.now.keep hk, Nat.lt_succ_self _⟩
  | unscheduled job balance periodStart periodEnd => exact ⟨hL.inv, by simp [Scheduler.sweep], hL.period⟩
  | @schedule job balance periodStart periodEnd b' outcome hb' =>
    refine ⟨hL.inv.schedule (fun hparty => ?_) hb', by simp [Scheduler.sweep], by simp [Scheduler.period]⟩
    exact hL.period (periodStart, periodEnd) (by simp [Scheduler.period, hparty])

/-- A call that starts reads the clock first, if it reads it for its period at all. -/
theorem booksEvent_periodLocal {n : BooksEvent} {u : Scheduler} (h : PeriodsInv party joined b)
    (hnow : n.startsNow = true) (hu : u ∈ (booksEvent b n).2) : PeriodLocal party joined (booksEvent b n).1 u := by
  have hk : KeepsPeriods party b (booksEvent b n).1 := booksEvent_periods b n
  refine ⟨h.keep hk, fun now hsweep => ?_, fun r hr => ?_⟩
  · cases n <;> simp only [booksEvent, List.not_mem_nil, List.mem_singleton] at hu <;> subst hu
    all_goals simp only [Scheduler.sweep, PayoutJob.sweptAt, Option.mem_def, Option.ite_none_right_eq_some,
      Option.some.injEq, reduceCtorEq] at hsweep
    all_goals
      obtain ⟨-, rfl⟩ := hsweep
      obtain rfl := beq_iff_eq.1 hnow
      exact ⟨h.now.keep hk, Nat.lt_succ_self _⟩
  · cases n <;> simp only [booksEvent, List.not_mem_nil, List.mem_singleton] at hu <;> subst hu <;> cases hr

end

/-- Whatever happens to the payouts in between, the periods of a party form a chain from
the day it joined. -/
theorem periods_chain {b₀ : Books} {party : Party} {joined : Time} (hpayouts : b₀.payouts = [])
    (hjoined : b₀.createdAt party = some joined) (hpast : joined < b₀.clock) {q : Pool Books Scheduler}
    (h : booksMachine.Reach oneCallAtATime ⟨b₀, []⟩ q) : PeriodsChain joined (q.shared.payoutsOf party) := by
  have hnone : b₀.payoutsOf party = [] := by simp [Books.payoutsOf, hpayouts]
  have h₀ : PeriodsInv party joined b₀ :=
    ⟨hjoined, ⟨hpast, by simp [hnone]⟩, by rw [hnone]; trivial⟩
  have hturn : InTurn Scheduler.busy (PeriodsInv party joined) (PeriodLocal party joined) q.shared q.threads := by
    refine h.inTurn ?_ (.of_idle (by simp) h₀) ?_ ?_ ?_
    · intro b t e ht
      cases t with
      | done outcome => cases e <;> rfl
      | _ => cases ht
    · intro b us n b' ts hok hev _ hI
      obtain ⟨rfl, rfl⟩ := booksMachine_event hev
      cases hts : (booksEvent b n).2 with
      | nil => exact .of_idle (by simp) (hI.keep (booksEvent_periods b n))
      | cons t rest =>
        have hone : rest = [] := by cases n <;> simp [booksEvent] at hts <;> exact hts.2
        subst hone
        exact (booksEvent_periodLocal hI hok.1 (by rw [hts]; exact .head _)).inTurn
    · intro b us n b' ts t hok hev ht hbusy hL
      obtain ⟨rfl, rfl⟩ := booksMachine_event hev
      have hquiet : n.schedules = false := by
        by_contra hs
        have hdone := hok.2 (by simpa using hs) t ht
        simp [Scheduler.busy, hdone] at hbusy
      refine ⟨?_, hL.keep (booksEvent_periods b n)⟩
      cases n <;> first | rfl | cases hquiet
    · intro b us t e b' ts _ hst hL
      obtain ⟨t', rfl, hmove⟩ := booksMachine_step hst
      exact (scheduler_periods hL hmove).inTurn
  have hinv : PeriodsInv party joined q.shared := by
    rcases hturn with ⟨-, hI⟩ | ⟨t, -, hL⟩
    · exact hI
    · exact hL.inv
  exact hinv.chain

/-- One of the vendor's orders, from payment to delivery. -/
def deliveryOf (id : OrderId) : List (Act BooksEvent Reply) := [
  .event (.order (.payment { exampleOrder with id := id } ⟨900, some "+237677000001"⟩ 1)),
  .event (.serve id (.write .acceptOrder)),
  .event (.serve id (.write (.assignRider 1))),
  .event (.serve id .pickUp),
  .event (.order (.delivery { pickedUpOrder with id := id } ⟨200, 650, 550⟩ 2))]

/-- The cron schedules one payout, the worker locks it, the next order is delivered twice
over and the cron schedules another; then the first fails. -/
def twoPayouts : List (Act BooksEvent Reply) :=
  deliveryOf 1 ++ [.event (.tryScheduleVendorPayout 1 "+237677000001" 0),
    .step 0 .ok, .step 0 .ok, .step 0 .ok, .step 0 .ok, .step 0 .ok, .event (.payout 0 .lockRow)] ++
  deliveryOf 2 ++ deliveryOf 3 ++ [.event (.tryScheduleVendorPayout 1 "+237677000001" 0),
    .step 0 .ok, .step 0 .ok, .step 0 .ok, .step 0 .ok, .step 0 .ok, .event (.payout 0 (.onFail "timeout"))]

def threeOrders : Books :=
  { exampleBooks with orders := [exampleOrder, { exampleOrder with id := 2 }, { exampleOrder with id := 3 }] }

def oneCallAtATimeB (_ : Books) (us : List Scheduler) (m : Move Scheduler BooksEvent Reply) : Bool :=
  match m with
  | .event n => n.startsNow && (!n.schedules || us.all Scheduler.isDone)
  | .step .. => true

theorem oneCallAtATime_of_bool {b : Books} {us : List Scheduler} {m : Move Scheduler BooksEvent Reply}
    (h : oneCallAtATimeB b us m = true) : oneCallAtATime b us m := by
  cases m with
  | event n =>
    obtain ⟨hnow, hdone⟩ := (Bool.and_eq_true _ _).mp h
    refine ⟨hnow, fun hn u hu => ?_⟩
    simp only [hn, Bool.not_true, Bool.false_or] at hdone
    exact List.all_eq_true.1 hdone u hu
  | step t e => trivial

theorem two_periods_chained :
    ∃ q, booksMachine.Reach oneCallAtATime ⟨threeOrders, []⟩ q ∧
      (q.shared.payoutsOf (.vendor 1)).map (fun p => (p.periodStart, p.periodEnd, p.status)) =
        [(0, 3, .failed), (3, 9, .pending)] ∧ PeriodsChain 0 (q.shared.payoutsOf (.vendor 1)) := by
  obtain ⟨q, hq, ht⟩ := Machine.reach_of_test booksMachine oneCallAtATime oneCallAtATimeB
    (fun _ _ _ => oneCallAtATime_of_bool) ⟨threeOrders, []⟩ twoPayouts
    (fun q => (q.shared.payoutsOf (.vendor 1)).map (fun p => (p.periodStart, p.periodEnd, p.status)) ==
      [(0, 3, .failed), (3, 9, .pending)])
    (by decide +kernel)
  exact ⟨q, hq, by simpa using ht, periods_chain rfl rfl (by decide) hq⟩

end ChopNow
