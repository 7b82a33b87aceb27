import ChopNow.Lib.Alone
import ChopNow.Proofs.PayoutPeriods

/-! Whether a party's earnings can be paid out. A payout is keyed by where its period starts,
and that is read off the settled payouts only: while one that starts there is neither paid
nor on its way, it stands in the way of the next. -/

namespace ChopNow

open Alone Interleave

def Reply.isOk : Reply → Bool
  | .ok => true
  | _ => false

/-- The call is alone and every statement lands: it schedules the party's whole balance. -/
def Books.PaysOut (b : Books) (n : BooksEvent) (party : Party) : Prop :=
  ∃ t b' p, (booksEvent b n).2 = [t] ∧
    Runs Scheduler.step Reply.isOk (booksEvent b n).1 t b' (.done (.scheduled (b.balance party).balanceXAF)) ∧
    b'.payouts = b.payouts ++ [p] ∧ p.party = party ∧ p.netXAF = (b.balance party).balanceXAF

/-- A call that finds enough to pay out, and nothing that speaks against it. -/
inductive Books.Due (b : Books) : BooksEvent → Party → Prop
  | vendor {vendor : VendorId} {momoPhone : Phone} {elapsed : Time}
    (enough : MIN_VENDOR_PAYOUT_XAF ≤ (b.getVendorBalance vendor).balanceXAF)
    (clear : b.openDisputes vendor = 0) : Due b (.tryScheduleVendorPayout vendor momoPhone elapsed) (.vendor vendor)
  | cashout {request : RequestId} {adminUserId : UserId} {r : VendorCashoutRequest} {vendor : Vendor}
    (asked : b.cashouts.find? (fun r => r.id == request) = some r) (pending : r.status = .pendingApproval)
    (known : b.vendors.find? (fun row => row.id == r.vendorId) = some vendor)
    (enough : MIN_CASHOUT_XAF ≤ (b.getVendorBalance vendor.id).balanceXAF) (clear : b.openDisputes vendor.id = 0) :
    Due b (.approveCashoutRequest request adminUserId) (.vendor vendor.id)
  | rider {rider : RiderId} {momoPhone : Phone} {elapsed : Time} {row : Rider}
    (known : b.riders.find? (fun row => row.id == rider) = some row)
    (kyc : missingKyc row = []) (enough : MIN_RIDER_PAYOUT_XAF ≤ (b.getRiderBalance rider).balanceXAF) :
    Due b (.tryScheduleRiderPayout rider momoPhone elapsed) (.rider rider)

/-- No payout of the party starts where the next one would: at the end of its latest payout that is
PAID or IN_FLIGHT, or when it joined. -/
def Books.unblocked (b : Books) (party : Party) (joined : Time) : Prop :=
  ∀ p ∈ b.payouts, p.party = party → p.periodStart ≠ (b.cutoff party).getD joined

section

variable {b b' : Books} {party : Party} {joined : Time} {job : PayoutJob} {balance : PartyBalance}
  {periodStart periodEnd : Time} {outcome outcome' : ScheduleOutcome} {t t' : Scheduler}

theorem runs_ok_iff (hst : t.step b .ok = some (b', t')) {b'' : Books} (hne : t ≠ .done outcome) :
    Runs Scheduler.step Reply.isOk b t b'' (.done outcome) ↔ Runs Scheduler.step Reply.isOk b' t' b'' (.done outcome) :=
  Runs.forced_iff rfl (fun e he => by cases e <;> first | rfl | cases he) hst hne

theorem runs_done_iff : Runs Scheduler.step Reply.isOk b (.done outcome') b' (.done outcome) ↔
    b' = b ∧ outcome' = outcome := by
  refine ⟨fun h => ?_, fun ⟨hb, ho⟩ => by rw [hb, ho]; exact .refl⟩
  obtain ⟨hb, ho⟩ := h.stopped fun e => by cases e <;> rfl
  exact ⟨hb, (Scheduler.done.inj ho).symm⟩

/-- The transaction goes through where the key is free, there is something to pay, and the request is there. -/
theorem commitPayout_exists (periodEnd : Time) (hfree : ∀ p ∈ b.payouts, p.party = job.party → p.periodStart ≠ periodStart)
    (hnet : balance.balanceXAF ≠ 0)
    (hrequest : ∀ request adminUserId vendor momoPhone, job = .cashout request adminUserId vendor momoPhone →
      (b.cashouts.any fun r => r.id == request) = true) :
    ∃ b', b.commitPayout job balance periodStart periodEnd = .ok b' := by
  have hcreated : b.createPayout (job.row b.payouts.length balance periodStart periodEnd) = .ok _ :=
    Books.createPayout_ok_iff.2 ⟨fun q hq hsame => hfree q hq hsame.1 hsame.2, rfl⟩
  have hsound := (payoutInput_sound_iff (job.row b.payouts.length balance periodStart periodEnd)
    (job.description (job.row b.payouts.length balance periodStart periodEnd))).2 hnet
  have hbooked := (Books.record_ok_iff (b := { b with
    payouts := b.payouts ++ [job.row b.payouts.length balance periodStart periodEnd] })).2 ⟨hsound, _, rfl, rfl⟩
  simp only [Books.commitPayout, bind, Except.bind, hcreated, hbooked]
  cases job with
  | vendorCron vendor momoPhone scheduledFor => exact ⟨_, rfl⟩
  | riderCron rider momoPhone scheduledFor => exact ⟨_, rfl⟩
  | cashout request adminUserId vendor momoPhone =>
    have hrow := hrequest request adminUserId vendor momoPhone rfl
    exact ⟨_, if_pos hrow⟩

theorem commits_iff (periodStart periodEnd : Time) (hnet : balance.balanceXAF ≠ 0)
    (hrequest : ∀ request adminUserId vendor momoPhone, job = .cashout request adminUserId vendor momoPhone →
      (b.cashouts.any fun r => r.id == request) = true) :
    (∃ b' p, b.commitPayout job balance periodStart periodEnd = .ok b' ∧ b'.payouts = b.payouts ++ [p] ∧
      p.party = job.party ∧ p.netXAF = balance.balanceXAF) ↔
    ∀ p ∈ b.payouts, p.party = job.party → p.periodStart ≠ periodStart := by
  constructor
  · rintro ⟨b', p, hcommit, -⟩ q hq hparty hstart
    exact (commitPayout_ok hcommit).fresh q hq ⟨hparty, hstart⟩
  · intro hfree
    obtain ⟨b', hcommit⟩ := commitPayout_exists periodEnd hfree hnet hrequest
    exact ⟨b', _, hcommit, (commitPayout_ok hcommit).payouts, rfl, rfl⟩

/-! The way to the transaction. -/

theorem transact_runs {netXAF : ℤ} :
    Runs Scheduler.step Reply.isOk b (.transact job balance periodStart periodEnd) b' (.done (.scheduled netXAF)) ↔
      b.commitPayout job balance periodStart periodEnd = .ok b' ∧ balance.balanceXAF = netXAF := by
  cases hcommit : b.commitPayout job balance periodStart periodEnd with
  | error err =>
    have hst : (Scheduler.transact job balance periodStart periodEnd).step b .ok = some (b, .done (.failed err)) := by
      simp [Scheduler.step, hcommit]
    rw [runs_ok_iff hst (fun h => by cases h), runs_done_iff]
    simp
  | ok b₁ =>
    have hst : (Scheduler.transact job balance periodStart periodEnd).step b .ok =
        some (b₁, .done (.scheduled balance.balanceXAF)) := by
      simp [Scheduler.step, hcommit]
    rw [runs_ok_iff hst (fun h => by cases h), runs_done_iff]
    simp [eq_comm]

theorem findExisting_runs {netXAF : ℤ} :
    Runs Scheduler.step Reply.isOk b (.findExisting job balance periodStart periodEnd) b' (.done (.scheduled netXAF)) ↔
      b.commitPayout job balance periodStart periodEnd = .ok b' ∧ balance.balanceXAF = netXAF := by
  cases hfound : b.payoutOf job.party periodStart with
  | some p =>
    have hst : (Scheduler.findExisting job balance periodStart periodEnd).step b .ok =
        some (b, .done (.alreadyScheduled p.id)) := by
      simp [Scheduler.step, hfound]
    rw [runs_ok_iff hst (fun h => by cases h), runs_done_iff]
    constructor
    · intro h
      cases h.2
    · rintro ⟨hcommit, -⟩
      rw [payoutOf_none_iff.2 fun q hq hparty hstart => (commitPayout_ok hcommit).fresh q hq ⟨hparty, hstart⟩] at hfound
      cases hfound
  | none =>
    have hst : (Scheduler.findExisting job balance periodStart periodEnd).step b .ok =
        some (b, .transact job balance periodStart periodEnd) := by
      simp [Scheduler.step, hfound]
    rw [runs_ok_iff hst (fun h => by cases h), transact_runs]

/-- A cron's call from the last payout it looks for. -/
theorem cron_runs (job : PayoutJob) {scheduledFor : Time} {netXAF : ℤ} (hjoined : b.createdAt job.party = some joined)
    (hswept : job.sweptAt = some scheduledFor) :
    Runs Scheduler.step Reply.isOk b (.readLastPayout job balance) b' (.done (.scheduled netXAF)) ↔
      b.commitPayout job balance ((b.cutoff job.party).getD joined) scheduledFor = .ok b' ∧
        balance.balanceXAF = netXAF := by
  have hst : (Scheduler.readLastPayout job balance).step b .ok =
      some (b, .findExisting job balance ((b.cutoff job.party).getD joined) scheduledFor) := by
    cases job <;> simp_all [Scheduler.step, PayoutJob.sweptAt]
  rw [runs_ok_iff hst (fun h => by cases h), findExisting_runs]

theorem cashout_runs (job : PayoutJob) {netXAF : ℤ} (hjoined : b.createdAt job.party = some joined) (hswept : job.sweptAt = none) :
    Runs Scheduler.step Reply.isOk b (.readLastPayout job balance) b' (.done (.scheduled netXAF)) ↔
      { b with clock := b.clock + 1 }.commitPayout job balance ((b.cutoff job.party).getD joined) b.clock = .ok b' ∧
        balance.balanceXAF = netXAF := by
  have hst : (Scheduler.readLastPayout job balance).step b .ok = some ({ b with clock := b.clock + 1 },
      .transact job balance ((b.cutoff job.party).getD joined) b.clock) := by
    cases job <;> simp_all [Scheduler.step, PayoutJob.sweptAt]
  rw [runs_ok_iff hst (fun h => by cases h), transact_runs]

/-- With enough to pay out and no refund pending, the call comes to its last payout. -/
theorem readBalance_runs (job : PayoutJob) (henough : job.checkBalance (b.balance job.party).balanceXAF = .ok ())
    (hclear : ∀ vendor, job.party = .vendor vendor → b.openDisputes vendor = 0) :
    Runs Scheduler.step Reply.isOk b (.readBalance job) b' (.done outcome) ↔
      Runs Scheduler.step Reply.isOk b (.readLastPayout job (b.balance job.party)) b' (.done outcome) := by
  have hdisputes : ∀ vendor, job.party = .vendor vendor → (Scheduler.countDisputes job (b.balance job.party)).step b .ok =
      some (b, .readLastPayout job (b.balance job.party)) := by
    intro vendor hparty
    have hzero := hclear vendor hparty
    cases job <;> simp_all [Scheduler.step, PayoutJob.party]
  cases hjob : job.party with
  | vendor vendor =>
    have hst : (Scheduler.readBalance job).step b .ok = some (b, .countDisputes job (b.balance job.party)) := by
      simp only [Scheduler.step, henough]
      cases job <;> first | rfl | cases hjob
    rw [runs_ok_iff hst (fun h => by cases h), runs_ok_iff (hdisputes vendor hjob) (fun h => by cases h), hjob]
  | rider rider =>
    have hst : (Scheduler.readBalance job).step b .ok = some (b, .readLastPayout job (b.balance job.party)) := by
      simp only [Scheduler.step, henough]
      cases job <;> first | rfl | cases hjob
    rw [runs_ok_iff hst (fun h => by cases h), hjob]

/-- The call, left alone, comes to the transaction of `job` on `b₂`. -/
structure ComesTo (b : Books) (n : BooksEvent) (job : PayoutJob) (periodStart : Time) : Prop where
  way : ∃ (t : Scheduler) (b₁ b₂ : Books) (periodEnd : Time), booksEvent b n = (b₁, [t]) ∧
    b₂.payouts = b.payouts ∧ b₂.cashouts = b.cashouts ∧
    ∀ b' netXAF, Runs Scheduler.step Reply.isOk b₁ t b' (.done (.scheduled netXAF)) ↔
      b₂.commitPayout job (b.balance job.party) periodStart periodEnd = .ok b' ∧ (b.balance job.party).balanceXAF = netXAF
  net : (b.balance job.party).balanceXAF ≠ 0
  request : ∀ request adminUserId vendor momoPhone, job = .cashout request adminUserId vendor momoPhone →
    (b.cashouts.any fun r => r.id == request) = true

theorem ComesTo.paysOut_iff {n : BooksEvent} (h : ComesTo b n job periodStart) :
    b.PaysOut n job.party ↔ ∀ p ∈ b.payouts, p.party = job.party → p.periodStart ≠ periodStart := by
  obtain ⟨t, b₁, b₂, periodEnd, hev, hpayouts, hcashouts, hruns⟩ := h.way
  have hcommits := commits_iff (b := b₂) periodStart periodEnd h.net
    fun request adminUserId vendor momoPhone hjob => hcashouts ▸ h.request request adminUserId vendor momoPhone hjob
  rw [← hpayouts, ← hcommits]
  constructor
  · rintro ⟨t', b', p, ht, hrun, hrest⟩
    rw [hev] at ht hrun
    obtain rfl := (List.cons.inj ht).1
    exact ⟨b', p, ((hruns b' _).1 hrun).1, by rw [hpayouts]; exact hrest⟩
  · rintro ⟨b', p, hcommit, hrest⟩
    refine ⟨t, b', p, by rw [hev], ?_, by rw [← hpayouts]; exact hrest⟩
    rw [hev]
    exact (hruns b' _).2 ⟨hcommit, rfl⟩

theorem Books.Due.comesTo {n : BooksEvent} (hdue : b.Due n party) (hjoined : b.createdAt party = some joined) :
    ∃ job, job.party = party ∧ ComesTo b n job ((b.cutoff party).getD joined) := by
  cases hdue with
  | @vendor vendor momoPhone elapsed enough clear =>
    have hmin : (500 : ℤ) ≤ (b.getVendorBalance vendor).balanceXAF := enough
    have hcheck : (PayoutJob.vendorCron vendor momoPhone (b.clock - elapsed)).checkBalance
        (b.getVendorBalance vendor).balanceXAF = .ok () := by
      rw [PayoutJob.checkBalance, if_neg (by omega), if_neg (not_lt.2 enough)]
    refine ⟨.vendorCron vendor momoPhone (b.clock - elapsed), rfl, ⟨_, _, { b with clock := b.clock + 1 },
      b.clock - elapsed, rfl, rfl, rfl, fun b' netXAF => ?_⟩, (by show (b.getVendorBalance vendor).balanceXAF ≠ 0; omega), fun _ _ _ _ h => by cases h⟩
    rw [readBalance_runs (b := { b with clock := b.clock + 1 }) (.vendorCron vendor momoPhone (b.clock - elapsed)) hcheck
      fun v hv => by cases hv; exact clear]
    exact cron_runs (b := { b with clock := b.clock + 1 }) (.vendorCron vendor momoPhone (b.clock - elapsed)) hjoined rfl
  | @cashout request adminUserId r vendor asked pending known enough clear =>
    have hmin : (500 : ℤ) ≤ (b.getVendorBalance vendor.id).balanceXAF := enough
    have hcheck : (PayoutJob.cashout request adminUserId vendor.id vendor.momoPhone).checkBalance
        (b.getVendorBalance vendor.id).balanceXAF = .ok () := by
      rw [PayoutJob.checkBalance, if_neg (not_lt.2 enough)]
    have hrequest : (b.cashouts.any fun r => r.id == request) = true :=
      List.any_eq_true.2 ⟨r, List.mem_of_find?_eq_some asked, by simpa using List.find?_some asked⟩
    have hst : (Scheduler.readRequest request adminUserId).step b .ok =
        some (b, .readBalance (.cashout request adminUserId vendor.id vendor.momoPhone)) := by
      simp [Scheduler.step, asked, pending, known]
    refine ⟨.cashout request adminUserId vendor.id vendor.momoPhone, rfl, ⟨_, _, { b with clock := b.clock + 1 }, b.clock,
      rfl, rfl, rfl, fun b' netXAF => ?_⟩, (by show (b.getVendorBalance vendor.id).balanceXAF ≠ 0; omega),
      fun _ _ _ _ h => by cases h; exact hrequest⟩
    rw [runs_ok_iff hst (fun h => by cases h), readBalance_runs
      (.cashout request adminUserId vendor.id vendor.momoPhone) hcheck fun v hv => by cases hv; exact clear]
    exact cashout_runs (.cashout request adminUserId vendor.id vendor.momoPhone) hjoined rfl
  | @rider rider momoPhone elapsed row known kyc enough =>
    have hmin : (1000 : ℤ) ≤ (b.getRiderBalance rider).balanceXAF := enough
    have hcheck : (PayoutJob.riderCron rider momoPhone (b.clock - elapsed)).checkBalance
        (b.getRiderBalance rider).balanceXAF = .ok () := by
      rw [PayoutJob.checkBalance, if_neg (by omega), if_neg (not_lt.2 enough)]
    have hst : (Scheduler.checkKyc rider momoPhone (b.clock - elapsed)).step { b with clock := b.clock + 1 } .ok =
        some ({ b with clock := b.clock + 1 }, .readBalance (.riderCron rider momoPhone (b.clock - elapsed))) := by
      simp [Scheduler.step, known, kyc]
    refine ⟨.riderCron rider momoPhone (b.clock - elapsed), rfl, ⟨_, _, { b with clock := b.clock + 1 },
      b.clock - elapsed, rfl, rfl, rfl, fun b' netXAF => ?_⟩, (by show (b.getRiderBalance rider).balanceXAF ≠ 0; omega), fun _ _ _ _ h => by cases h⟩
    rw [runs_ok_iff hst (fun h => by cases h), readBalance_runs (b := { b with clock := b.clock + 1 })
      (.riderCron rider momoPhone (b.clock - elapsed)) hcheck fun v hv => by cases hv]
    exact cron_runs (b := { b with clock := b.clock + 1 }) (.riderCron rider momoPhone (b.clock - elapsed)) hjoined rfl

end

/-- Earnings that are due are paid out if and only if no payout is in the way. -/
theorem earnings_paid_iff (b : Books) (n : BooksEvent) (party : Party) (joined : Time) (hdue : b.Due n party)
    (hjoined : b.createdAt party = some joined) : b.PaysOut n party ↔ b.unblocked party joined := by
  obtain ⟨job, rfl, hcomes⟩ := hdue.comesTo hjoined
  exact hcomes.paysOut_iff

/-! An order is delivered after the last payout was scheduled. -/

/-- The vendor's cron schedules a payout. -/
def vendorSchedule : List (Act BooksEvent Reply) :=
  [.event (.tryScheduleVendorPayout 1 "+237677000001" 0), .step 0 .ok, .step 0 .ok, .step 0 .ok, .step 0 .ok, .step 0 .ok]

/-- The vendor is owed 1800 and the books are otherwise in order. -/
theorem due_of_eq {b : Books} (hbalance : (b.getVendorBalance 1).balanceXAF = 1800) (hclear : b.openDisputes 1 = 0) :
    b.Due (.tryScheduleVendorPayout 1 "+237677000001" 0) (.vendor 1) :=
  .vendor (by rw [hbalance]; decide) hclear

/-- The first payout still waits for its transfer. -/
theorem pending_payout_blocks :
    ¬ ∀ (b₀ : Books) (q : Pool Books Scheduler), b₀.payouts = [] → booksMachine.Reach oneCallAtATime ⟨b₀, []⟩ q →
      ∀ n party, q.shared.Due n party → q.shared.PaysOut n party := by
  intro h
  obtain ⟨q, hq, ht⟩ := Machine.reach_of_test booksMachine oneCallAtATime oneCallAtATimeB
    (fun _ _ _ => oneCallAtATime_of_bool) ⟨threeOrders, []⟩ (deliveryOf 1 ++ vendorSchedule ++ deliveryOf 2)
    (fun q => decide ((q.shared.getVendorBalance 1).balanceXAF = 1800 ∧ q.shared.openDisputes 1 = 0 ∧
      q.shared.createdAt (.vendor 1) = some 0 ∧
      (q.shared.payouts.any fun p => decide (p.party = .vendor 1 ∧
        p.periodStart = (q.shared.cutoff (.vendor 1)).getD 0)) = true)) (by decide +kernel)
  obtain ⟨hbalance, hclear, hjoined, hblocked⟩ := of_decide_eq_true ht
  have hdue := due_of_eq hbalance hclear
  obtain ⟨job, hparty, hcomes⟩ := hdue.comesTo hjoined
  obtain ⟨p, hp, hsame⟩ := List.any_eq_true.1 hblocked
  obtain ⟨hown, hstart⟩ := of_decide_eq_true hsame
  have hpays := h threeOrders q rfl hq _ _ hdue
  rw [← hparty] at hpays
  exact hcomes.paysOut_iff.1 hpays p hp (hown.trans hparty.symm) hstart

/-- Once it is on its way, the next one can be scheduled. -/
theorem later_earnings_paid :
    ∃ q, booksMachine.Reach oneCallAtATime ⟨threeOrders, []⟩ q ∧
      q.shared.Due (.tryScheduleVendorPayout 1 "+237677000001" 0) (.vendor 1) ∧
      q.shared.PaysOut (.tryScheduleVendorPayout 1 "+237677000001" 0) (.vendor 1) := by
  obtain ⟨q, hq, ht⟩ := Machine.reach_of_test booksMachine oneCallAtATime oneCallAtATimeB
    (fun _ _ _ => oneCallAtATime_of_bool) ⟨threeOrders, []⟩
    (deliveryOf 1 ++ vendorSchedule ++ [.event (.payout 0 .lockRow)] ++ deliveryOf 2 ++ deliveryOf 3)
    (fun q => decide ((q.shared.getVendorBalance 1).balanceXAF = 1800 ∧ q.shared.openDisputes 1 = 0 ∧
      q.shared.createdAt (.vendor 1) = some 0 ∧
      (q.shared.payouts.all fun p => decide (p.party = .vendor 1 →
        p.periodStart ≠ (q.shared.cutoff (.vendor 1)).getD 0)) = true)) (by decide +kernel)
  obtain ⟨hbalance, hclear, hjoined, hfree⟩ := of_decide_eq_true ht
  have hdue := due_of_eq hbalance hclear
  refine ⟨q, hq, hdue, (earnings_paid_iff _ _ _ _ hdue hjoined).2 fun p hp => ?_⟩
  exact of_decide_eq_true (List.all_eq_true.1 hfree p hp)

end ChopNow
