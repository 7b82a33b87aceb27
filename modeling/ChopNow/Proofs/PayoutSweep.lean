import ChopNow.Lib.Batch
import ChopNow.Proofs.Balance
import ChopNow.Proofs.Earnings
import ChopNow.Proofs.SweepReport
import ChopNow.Proofs.VendorAccount

/-! A payout sweep that nobody disturbs. Its rows are independent: what one of them books or
throws is nothing to the others. -/

namespace ChopNow

open Alone Batch Interleave

def anyReply {ε : Type} : ε → Bool := fun _ => true

def PayoutSweepKind.minimum : PayoutSweepKind → ℤ
  | .vendors => MIN_VENDOR_PAYOUT_XAF
  | .riders => MIN_RIDER_PAYOUT_XAF

def PayoutSweepKind.job (kind : PayoutSweepKind) (startedAt : Time) (row : SweepRow) : PayoutJob :=
  match kind with
  | .vendors => .vendorCron row.id row.momoPhone startedAt
  | .riders => .riderCron row.id row.momoPhone startedAt

/-- Enough is owed, and nothing speaks against paying it out. -/
structure Books.MayPay (b : Books) (kind : PayoutSweepKind) (party : Party) : Prop where
  enough : kind.minimum ≤ (b.balance party).balanceXAF
  clear : ∀ vendor, party = .vendor vendor → b.openDisputes vendor = 0
  kyc : ∀ rider, party = .rider rider → ∃ row, b.riders.find? (fun row => row.id == rider) = some row ∧ missingKyc row = []
  joined : ∃ joined, b.createdAt party = some joined ∧ b.unblocked party joined

section

variable {b b' b₁ : Books} {kind : PayoutSweepKind} {startedAt : Time} {row : SweepRow} {party other : Party}
  {t t₁ : Scheduler} {outcome : ScheduleOutcome} {job : PayoutJob}

/-! One row. -/

/-- What the loop catches. -/
def ScheduleOutcome.isThrown : ScheduleOutcome → Bool
  | .thrown _ | .failed _ => true
  | _ => false

/-- How a row ends that is left alone. -/
inductive RowDone (kind : PayoutSweepKind) (startedAt : Time) (row : SweepRow) (b : Books) : ScheduleOutcome → Books → Prop
  | threw {outcome : ScheduleOutcome} : outcome.isThrown = true → RowDone kind startedAt row b outcome b
  | refused {outcome : ScheduleOutcome} : ¬b.MayPay kind (kind.party row.id) → RowDone kind startedAt row b outcome b
  | scheduled {outcome : ScheduleOutcome} {periodStart : Time} {b' : Books} : outcome.isThrown = false →
      b.MayPay kind (kind.party row.id) →
      b.commitPayout (kind.job startedAt row) (b.balance (kind.party row.id)) periodStart startedAt = .ok b' →
      RowDone kind startedAt row b outcome b'

theorem runs_next (hst : t.step b .ok = some (b₁, t₁)) (hne : t ≠ .done outcome)
    (h : Runs Scheduler.step anyReply b t b' (.done outcome)) :
    (outcome.isThrown = true ∧ b' = b) ∨ Runs Scheduler.step anyReply b₁ t₁ b' (.done outcome) := by
  obtain ⟨e, b₂, t₂, -, hst', hrest⟩ := h.next hne
  cases e with
  | ok =>
    obtain ⟨rfl, rfl⟩ := Prod.mk.inj (Option.some.inj (hst.symm.trans hst'))
    exact .inr hrest
  | fail reason =>
    have hthrown : b₂ = b ∧ t₂ = .done (.thrown reason) := by
      cases t <;> first | cases hst | (cases hst'; exact ⟨rfl, rfl⟩)
    obtain ⟨rfl, rfl⟩ := hthrown
    obtain ⟨rfl, heq⟩ := hrest.stopped fun e => by cases e <;> rfl
    obtain rfl := Scheduler.done.inj heq
    exact .inl ⟨rfl, rfl⟩
  | accepted ref => cases t <;> cases hst'
  | refused reason => cases t <;> cases hst'
  | lost ref reason => cases t <;> cases hst'

theorem runs_finish {found : ScheduleOutcome} (hst : t.step b .ok = some (b₁, .done found)) (hne : t ≠ .done outcome)
    (h : Runs Scheduler.step anyReply b t b' (.done outcome)) :
    (outcome.isThrown = true ∧ b' = b) ∨ b' = b₁ ∧ outcome = found := by
  refine (runs_next hst hne h).imp_right fun hrest => ?_
  obtain ⟨rfl, heq⟩ := hrest.stopped fun e => by cases e <;> rfl
  exact ⟨rfl, Scheduler.done.inj heq⟩

theorem transact_done {balance : PartyBalance} {periodStart : Time}
    (h : Runs Scheduler.step anyReply b (.transact job balance periodStart startedAt) b' (.done outcome)) :
    (outcome.isThrown = true ∧ b' = b) ∨
      (b.commitPayout job balance periodStart startedAt = .ok b' ∧ outcome = .scheduled balance.balanceXAF) := by
  cases hcommit : b.commitPayout job balance periodStart startedAt with
  | error err =>
    have hst : (Scheduler.transact job balance periodStart startedAt).step b .ok = some (b, .done (.failed err)) := by
      simp [Scheduler.step, hcommit]
    rcases runs_finish hst (by simp) h with hthrown | ⟨rfl, rfl⟩
    · exact .inl hthrown
    · exact .inl ⟨rfl, rfl⟩
  | ok b₁ =>
    have hst : (Scheduler.transact job balance periodStart startedAt).step b .ok =
        some (b₁, .done (.scheduled balance.balanceXAF)) := by
      simp [Scheduler.step, hcommit]
    rcases runs_finish hst (by simp) h with hthrown | ⟨rfl, rfl⟩
    · exact .inl hthrown
    · exact .inr ⟨rfl, rfl⟩

theorem findExisting_done {balance : PartyBalance} {periodStart : Time}
    (h : Runs Scheduler.step anyReply b (.findExisting job balance periodStart startedAt) b' (.done outcome)) :
    (outcome.isThrown = true ∧ b' = b) ∨ (b.payoutOf job.party periodStart ≠ none ∧ b' = b) ∨
      (b.commitPayout job balance periodStart startedAt = .ok b' ∧ outcome = .scheduled balance.balanceXAF) := by
  cases hfound : b.payoutOf job.party periodStart with
  | some p =>
    have hst : (Scheduler.findExisting job balance periodStart startedAt).step b .ok =
        some (b, .done (.alreadyScheduled p.id)) := by
      simp [Scheduler.step, hfound]
    rcases runs_finish hst (by simp) h with hthrown | ⟨rfl, -⟩
    · exact .inl hthrown
    · exact .inr (.inl ⟨Option.some_ne_none p, rfl⟩)
  | none =>
    have hst : (Scheduler.findExisting job balance periodStart startedAt).step b .ok =
        some (b, .transact job balance periodStart startedAt) := by
      simp [Scheduler.step, hfound]
    rcases runs_next hst (by simp) h with hthrown | hrest
    · exact .inl hthrown
    · exact (transact_done hrest).imp_right .inr

/-- From the last payout on. -/
theorem readLastPayout_done {balance : PartyBalance} (hswept : job.sweptAt = some startedAt)
    (h : Runs Scheduler.step anyReply b (.readLastPayout job balance) b' (.done outcome)) :
    (outcome.isThrown = true ∧ b' = b) ∨
      (¬(∃ joined, b.createdAt job.party = some joined ∧ b.unblocked job.party joined) ∧ b' = b) ∨
      ∃ joined, b.createdAt job.party = some joined ∧ b.unblocked job.party joined ∧
        b.commitPayout job balance ((b.cutoff job.party).getD joined) startedAt = .ok b' ∧
        outcome = .scheduled balance.balanceXAF := by
  cases hcreated : b.createdAt job.party with
  | none =>
    have hst : (Scheduler.readLastPayout job balance).step b .ok = some (b, .done (.thrown "createdAt of null")) := by
      simp [Scheduler.step, hcreated]
    rcases runs_finish hst (by simp) h with hthrown | ⟨rfl, rfl⟩
    · exact .inl hthrown
    · exact .inl ⟨rfl, rfl⟩
  | some joined =>
    have hst : (Scheduler.readLastPayout job balance).step b .ok =
        some (b, .findExisting job balance ((b.cutoff job.party).getD joined) startedAt) := by
      cases job <;> simp_all [Scheduler.step, PayoutJob.sweptAt]
    rcases runs_next hst (by simp) h with hthrown | hrest
    · exact .inl hthrown
    rcases findExisting_done hrest with hthrown | ⟨hfound, rfl⟩ | ⟨hcommit, rfl⟩
    · exact .inl hthrown
    · refine .inr (.inl ⟨?_, rfl⟩)
      rintro ⟨joined', heq, hfree⟩
      obtain rfl := Option.some.inj heq
      exact hfound (payoutOf_none_iff.2 hfree)
    · refine .inr (.inr ⟨joined, rfl, ?_, hcommit, rfl⟩)
      exact fun p hp hparty hstart => (commitPayout_ok hcommit).fresh p hp ⟨hparty, hstart⟩

theorem two_thresholds {ε : Type} {low small : ε} {x minimum : ℤ} (hmin : 0 < minimum) :
    (if x ≤ 0 then Except.error low else if x < minimum then Except.error small else Except.ok ()) = Except.ok () ↔
      minimum ≤ x := by
  by_cases hpos : x ≤ 0
  · rw [if_pos hpos]
    exact ⟨fun h => (by cases h), fun h => by omega⟩
  · rw [if_neg hpos]
    by_cases hsmall : x < minimum
    · rw [if_pos hsmall]
      exact ⟨fun h => (by cases h), fun h => by omega⟩
    · rw [if_neg hsmall]
      exact ⟨fun _ => not_lt.1 hsmall, fun _ => rfl⟩

theorem checkBalance_cron_iff (kind : PayoutSweepKind) (startedAt : Time) (row : SweepRow) {balanceXAF : ℤ} :
    (kind.job startedAt row).checkBalance balanceXAF = .ok () ↔ kind.minimum ≤ balanceXAF := by
  cases kind with
  | vendors => exact two_thresholds (by decide)
  | riders => exact two_thresholds (by decide)

theorem job_party : (kind.job startedAt row).party = kind.party row.id := by cases kind <;> rfl

theorem job_swept : (kind.job startedAt row).sweptAt = some startedAt := by cases kind <;> rfl

/-- A balance that is too small ends the row. -/
theorem readBalance_small (hsmall : ¬kind.minimum ≤ (b.balance (kind.party row.id)).balanceXAF)
    (h : Runs Scheduler.step anyReply b (.readBalance (kind.job startedAt row)) b' (.done outcome)) :
    b' = b := by
  cases hcheck : (kind.job startedAt row).checkBalance (b.balance (kind.party row.id)).balanceXAF with
  | ok _ => exact absurd ((checkBalance_cron_iff ..).1 hcheck) hsmall
  | error found =>
    have hst : (Scheduler.readBalance (kind.job startedAt row)).step b .ok = some (b, .done found) := by
      simp only [Scheduler.step, job_party, hcheck]
    rcases runs_finish hst (by simp) h with ⟨-, rfl⟩ | ⟨rfl, -⟩
    · rfl
    · rfl

/-- A balance that is large enough leads on to the last payout, unless a refund is pending. -/
theorem readBalance_enough (henough : kind.minimum ≤ (b.balance (kind.party row.id)).balanceXAF)
    (h : Runs Scheduler.step anyReply b (.readBalance (kind.job startedAt row)) b' (.done outcome)) :
    (outcome.isThrown = true ∧ b' = b) ∨ (¬(∀ vendor, kind.party row.id = .vendor vendor → b.openDisputes vendor = 0) ∧ b' = b) ∨
      (∀ vendor, kind.party row.id = .vendor vendor → b.openDisputes vendor = 0) ∧
        Runs Scheduler.step anyReply b (.readLastPayout (kind.job startedAt row) (b.balance (kind.party row.id))) b'
          (.done outcome) := by
  have hcheck := (checkBalance_cron_iff kind startedAt row).2 henough
  cases kind with
  | riders =>
    have hst : (Scheduler.readBalance (.riderCron row.id row.momoPhone startedAt)).step b .ok =
        some (b, .readLastPayout (.riderCron row.id row.momoPhone startedAt) (b.balance (.rider row.id))) := by
      simp only [PayoutSweepKind.job, PayoutSweepKind.party] at hcheck
      simp only [Scheduler.step, PayoutJob.party, hcheck]
    rcases runs_next hst (by simp) h with hthrown | hrest
    · exact .inl hthrown
    · exact .inr (.inr ⟨fun _ h => (by cases h), hrest⟩)
  | vendors =>
    have hst : (Scheduler.readBalance (.vendorCron row.id row.momoPhone startedAt)).step b .ok =
        some (b, .countDisputes (.vendorCron row.id row.momoPhone startedAt) (b.balance (.vendor row.id))) := by
      simp only [PayoutSweepKind.job, PayoutSweepKind.party] at hcheck
      simp only [Scheduler.step, PayoutJob.party, hcheck]
    rcases runs_next hst (by simp) h with hthrown | hcount
    · exact .inl hthrown
    by_cases hopen : b.openDisputes row.id > 0
    · have hst : (Scheduler.countDisputes (.vendorCron row.id row.momoPhone startedAt) (b.balance (.vendor row.id))).step b .ok =
          some (b, .done .openDisputes) := by
        simp only [Scheduler.step, if_pos hopen]
      rcases runs_finish hst (by simp) hcount with hthrown | ⟨rfl, rfl⟩
      · exact .inl hthrown
      · exact .inr (.inl ⟨fun hclear => hopen.ne' (hclear row.id rfl), rfl⟩)
    · have hst : (Scheduler.countDisputes (.vendorCron row.id row.momoPhone startedAt) (b.balance (.vendor row.id))).step b .ok =
          some (b, .readLastPayout (.vendorCron row.id row.momoPhone startedAt) (b.balance (.vendor row.id))) := by
        simp only [Scheduler.step, if_neg hopen]
      rcases runs_next hst (by simp) hcount with hthrown | hrest
      · exact .inl hthrown
      · refine .inr (.inr ⟨fun vendor hv => ?_, hrest⟩)
        obtain rfl := Party.vendor.inj hv
        omega

theorem readBalance_done (kind : PayoutSweepKind)
    (hkyc : ∀ rider, kind.party row.id = .rider rider →
      ∃ r, b.riders.find? (fun r => r.id == rider) = some r ∧ missingKyc r = [])
    (h : Runs Scheduler.step anyReply b (.readBalance (kind.job startedAt row)) b' (.done outcome)) :
    RowDone kind startedAt row b outcome b' := by
  by_cases henough : kind.minimum ≤ (b.balance (kind.party row.id)).balanceXAF
  · rcases readBalance_enough henough h with ⟨hthrown, rfl⟩ | ⟨hopen, rfl⟩ | ⟨hclear, hrest⟩
    · exact .threw hthrown
    · exact .refused fun hpay => hopen hpay.clear
    rcases readLastPayout_done job_swept hrest with ⟨hthrown, rfl⟩ | ⟨hblocked, rfl⟩ | ⟨joined, hjoined, hfree, hcommit, rfl⟩
    · exact .threw hthrown
    · rw [job_party] at hblocked
      exact .refused fun hpay => hblocked hpay.joined
    · rw [job_party] at hjoined hfree
      exact .scheduled rfl ⟨henough, hclear, hkyc, joined, hjoined, hfree⟩ hcommit
  · obtain rfl := readBalance_small henough h
    exact .refused fun hpay => henough hpay.enough

theorem row_done (h : Runs Scheduler.step anyReply b (kind.trySchedule startedAt row) b' (.done outcome)) :
    RowDone kind startedAt row b outcome b' := by
  cases kind with
  | vendors => exact readBalance_done .vendors nofun h
  | riders =>
    have hnone : ∀ missing, (Scheduler.checkKyc row.id row.momoPhone startedAt).step b .ok =
          some (b, .done (.kycIncomplete missing)) →
        (¬∃ r, b.riders.find? (fun r => r.id == row.id) = some r ∧ missingKyc r = []) →
        RowDone .riders startedAt row b outcome b' := by
      intro missing hst hkyc
      rcases runs_finish hst (by simp) h with ⟨hthrown, rfl⟩ | ⟨rfl, rfl⟩
      · exact .threw hthrown
      · exact .refused fun hpay => hkyc (hpay.kyc row.id rfl)
    cases hfound : b.riders.find? fun r => r.id == row.id with
    | none =>
      refine hnone ["idCardPhotoUrl", "selfiePhotoUrl"] (by simp only [Scheduler.step, hfound]) ?_
      rintro ⟨r, hr, -⟩
      rw [hfound] at hr
      cases hr
    | some r =>
      by_cases hkyc : missingKyc r = []
      · have hst : (Scheduler.checkKyc row.id row.momoPhone startedAt).step b .ok =
            some (b, .readBalance (.riderCron row.id row.momoPhone startedAt)) := by
          simp only [Scheduler.step, hfound, if_pos hkyc]
        rcases runs_next hst (by simp) h with ⟨hthrown, rfl⟩ | hrest
        · exact .threw hthrown
        · refine readBalance_done .riders (fun rider hrider => ?_) hrest
          obtain rfl := Party.rider.inj hrider
          exact ⟨r, hfound, hkyc⟩
      · refine hnone (missingKyc r) (by simp only [Scheduler.step, hfound, if_neg hkyc]) ?_
        rintro ⟨r', hr', hkyc'⟩
        obtain rfl := Option.some.inj (hfound.symm.trans hr')
        exact hkyc hkyc'

/-! Rows do not meet. -/

/-- All that a row reads. -/
structure PartyView where
  balance : PartyBalance
  openDisputes : ℕ
  createdAt : Option Time
  payouts : List Payout
  rider : Option Rider

def Books.view (b : Books) (party : Party) : PartyView where
  balance := b.balance party
  openDisputes := party.vendorId.elim 0 b.openDisputes
  createdAt := b.createdAt party
  payouts := b.payoutsOf party
  rider := party.riderId.bind fun rider => b.riders.find? fun row => row.id == rider

theorem cutoff_eq_payoutsOf (b : Books) (party : Party) :
    b.cutoff party = (((b.payoutsOf party).filter Payout.isSettling).map (·.periodEnd)).max? := by
  simp only [Books.cutoff, Books.payoutsOf, List.filter_filter, Bool.and_comm]

theorem Books.MayPay.congr (hview : b'.view party = b.view party) (h : b.MayPay kind party) : b'.MayPay kind party := by
  have hbalance : b'.balance party = b.balance party := congrArg PartyView.balance hview
  have hopen := congrArg PartyView.openDisputes hview
  have hcreated : b'.createdAt party = b.createdAt party := congrArg PartyView.createdAt hview
  have hpayouts : b'.payoutsOf party = b.payoutsOf party := congrArg PartyView.payouts hview
  have hrider := congrArg PartyView.rider hview
  refine ⟨hbalance ▸ h.enough, ?_, ?_, ?_⟩
  · rintro vendor rfl
    exact hopen.trans (h.clear vendor rfl)
  · rintro rider rfl
    obtain ⟨row, hrow, hkyc⟩ := h.kyc rider rfl
    exact ⟨row, hrider.trans hrow, hkyc⟩
  · obtain ⟨joined, hjoined, hfree⟩ := h.joined
    refine ⟨joined, hcreated.trans hjoined, fun p hp hparty => ?_⟩
    have hmem : p ∈ b'.payoutsOf party := mem_payoutsOf.2 ⟨hp, hparty⟩
    rw [hpayouts] at hmem
    rw [cutoff_eq_payoutsOf, hpayouts, ← cutoff_eq_payoutsOf]
    exact hfree p (mem_payoutsOf.1 hmem).1 hparty

/-- A payout's entries carry nobody else's key. -/
theorem owns_payoutInput {p : Payout} {description : String} {id : EventId} {now : Time} {e : LedgerEntry}
    (hother : other ≠ p.party) (he : e ∈ (payoutInput p description).rows id now) : other.owns e = false := by
  obtain ⟨entry, hentry, rfl⟩ := List.mem_map.1 he
  simp only [payoutInput, List.mem_cons, List.not_mem_nil, or_false] at hentry
  rcases hentry with rfl | rfl <;> cases hp : p.party <;> cases other <;>
    simp_all [Party.owns, Party.vendorId, Party.riderId]
  all_goals exact fun heq => hother heq.symm

/-- The debit of a payout. -/
theorem payable_payoutInput {p : Payout} {description : String} {id : EventId} {now : Time} :
    balanceOf p.party.account p.party.owns ((payoutInput p description).rows id now) = p.netXAF := by
  simp only [balanceOf, payoutInput, RecordTransactionInput.rows, List.map_cons, List.map_nil, Tally.tally_cons,
    Tally.tally_nil]
  cases hp : p.party <;> simp [Party.account, Party.owns, Party.vendorId, Party.riderId]

/-- Sums over a journal that has grown by entries of someone else. -/
theorem sumSince_other {account : LedgerAccount} {f : LedgerEntry → Bool} {rows : Ledger}
    (hcutoff : b'.cutoff other = b.cutoff other) (hledger : b'.ledger = b.ledger ++ rows)
    (hrows : ∀ e ∈ rows, other.owns e = false) : b'.sumSince other account f = b.sumSince other account f := by
  have hnone : balanceOf account (fun e => other.owns e && isAfter (b.cutoff other) e && f e) rows = 0 :=
    Tally.tally_eq_zero fun e he hp => by
      simp only [hrows e he, Bool.false_and, Bool.and_false] at hp
      cases hp
  rw [Books.sumSince, hcutoff, hledger, balanceOf_append, hnone, add_zero, Books.sumSince]

theorem balance_other {rows : Ledger} (hcutoff : b'.cutoff other = b.cutoff other) (hledger : b'.ledger = b.ledger ++ rows)
    (hrows : ∀ e ∈ rows, other.owns e = false) : b'.balance other = b.balance other := by
  cases other with
  | vendor vendor =>
    simp only [Books.balance, Books.getVendorBalance, Books.revenueSince, sumSince_other hcutoff hledger hrows]
  | rider rider =>
    simp only [Books.balance, Books.getRiderBalance, Books.revenueSince, sumSince_other hcutoff hledger hrows]

section

variable {balance : PartyBalance} {periodStart periodEnd : Time}

theorem openDisputes_paid (h : b.commitPayout job balance periodStart periodEnd = .ok b') (vendor : VendorId) :
    b'.openDisputes vendor = b.openDisputes vendor := by
  rw [Books.openDisputes, commitPayout_orders h, List.countP_map, Books.openDisputes]
  refine List.countP_congr fun o _ => ?_
  simp only [Function.comp]
  split <;> rfl

theorem createdAt_paid (h : b.commitPayout job balance periodStart periodEnd = .ok b') (party : Party) :
    b'.createdAt party = b.createdAt party := by
  have hc := commitPayout_ok h
  cases party with
  | vendor vendor => simp only [Books.createdAt, hc.vendors]
  | rider rider => simp only [Books.createdAt, hc.riders]

theorem payoutsOf_paid (h : b.commitPayout job balance periodStart periodEnd = .ok b') (party : Party) :
    b'.payoutsOf party = b.payoutsOf party ++
      if job.party = party then [job.row b.payouts.length balance periodStart periodEnd] else [] := by
  rw [Books.payoutsOf, (commitPayout_ok h).payouts, List.filter_append, List.filter_singleton, Books.payoutsOf]
  by_cases hparty : job.party = party
  · simp [hparty, PayoutJob.row]
  · simp [hparty, PayoutJob.row]

/-- A payout is waiting when it is created. -/
theorem cutoff_paid (h : b.commitPayout job balance periodStart periodEnd = .ok b') (party : Party) :
    b'.cutoff party = b.cutoff party := by
  rw [cutoff_eq_payoutsOf, cutoff_eq_payoutsOf, payoutsOf_paid h, List.filter_append]
  split
  · have hwaits : [job.row b.payouts.length balance periodStart periodEnd].filter Payout.isSettling = [] := rfl
    rw [hwaits, List.append_nil]
  · rw [List.filter_nil, List.append_nil]

/-- A payout is nothing to the other parties. -/
theorem view_other (h : b.commitPayout job balance periodStart periodEnd = .ok b') (hother : other ≠ job.party) :
    b'.view other = b.view other := by
  have hc := commitPayout_ok h
  have hbalance := balance_other (cutoff_paid h other) hc.ledger fun e => owns_payoutInput hother
  have hopen : b'.openDisputes = b.openDisputes := funext (openDisputes_paid h)
  simp only [Books.view, hbalance, hopen, createdAt_paid h, payoutsOf_paid h, if_neg (Ne.symm hother), List.append_nil,
    hc.riders]

/-- A payout of the whole balance leaves nothing, where the last period ended before now. -/
theorem balance_paid (h : b.commitPayout job (b.balance job.party) periodStart periodEnd = .ok b')
    (hended : ∀ p ∈ b.payouts, p.periodEnd < b.clock) : (b'.balance job.party).balanceXAF = 0 := by
  have hc := commitPayout_ok h
  have hnow : ∀ e : LedgerEntry, e.createdAt = b.clock → isAfter (b.cutoff job.party) e = true := by
    intro e he
    cases hcut : b.cutoff job.party with
    | none => rfl
    | some t =>
      obtain ⟨p, hp, -, -, rfl⟩ := mem_of_cutoff hcut
      exact decide_eq_true (he ▸ hended p hp)
  have hnew : balanceOf job.party.account (fun e => job.party.owns e && isAfter (b.cutoff job.party) e && true)
      ((payoutInput (job.row b.payouts.length (b.balance job.party) periodStart periodEnd)
        (job.description (job.row b.payouts.length (b.balance job.party) periodStart periodEnd))).rows
          (job.row b.payouts.length (b.balance job.party) periodStart periodEnd).eventId b.clock) =
      (b.balance job.party).balanceXAF := by
    refine Eq.trans (Tally.tally_congr fun e he => ?_) payable_payoutInput
    simp [hnow e (createdAt_of_mem_rows he), PayoutJob.row]
  have hold := balance_eq b job.party
  rw [balance_eq, Books.sumSince, cutoff_paid h, hc.ledger, balanceOf_append, hnew]
  rw [Books.sumSince] at hold
  omega

end

/-! The loop. -/

/-- A row of the loop, by its party. -/
def handles (kind : PayoutSweepKind) (startedAt : Time) (party : Party) (b : Books) (r : SweepRow × ScheduleOutcome)
    (b' : Books) : Prop :=
  party = kind.party r.1.id ∧ RowDone kind startedAt r.1 b r.2 b'

theorem handles_separate : Separate (handles kind startedAt) fun party b => b.view party := by
  rintro party b ⟨row, outcome⟩ b' ⟨rfl, hdone⟩ other hother
  cases hdone with
  | threw | refused => rfl
  | scheduled _ _ hcommit => exact view_other hcommit (by rwa [job_party])

theorem handles_ended {r : SweepRow × ScheduleOutcome} (h : handles kind startedAt party b r b')
    (hended : startedAt ≤ b.clock ∧ b.Ended) : startedAt ≤ b'.clock ∧ b'.Ended := by
  obtain ⟨-, hdone⟩ := h
  cases hdone with
  | threw | refused => exact hended
  | scheduled _ _ hcommit =>
    have hc := commitPayout_ok hcommit
    exact ⟨hended.1.trans (hc.clock ▸ Nat.le_succ _), hended.2.append hc.payouts hended.1 hc.clock⟩

variable {db db' : SweepDb} {rest rows : List SweepRow} {report report' : SweepReport}

theorem next_cases (kind : PayoutSweepKind) (startedAt : Time) (row : SweepRow) (rest : List SweepRow) (report : SweepReport)
    (t : Scheduler) : (∃ outcome, t = .done outcome ∧
        PayoutSweep.next kind startedAt row rest report t = .loop kind startedAt (report.count row outcome) rest) ∨
      PayoutSweep.next kind startedAt row rest report t = .trying kind startedAt row t rest report := by
  cases t with
  | done outcome => exact .inl ⟨outcome, rfl, rfl⟩
  | _ => exact .inr rfl

/-- The way of a sweep from a row of the loop to the next. -/
theorem trying_runs (h : Runs PayoutSweep.step anyReply db (.trying kind startedAt row t rest report) db'
      (.completed kind startedAt report')) :
    ∃ outcome b₁, Runs Scheduler.step anyReply db.books t b₁ (.done outcome) ∧
      Runs PayoutSweep.step anyReply { db with books := b₁ } (.loop kind startedAt (report.count row outcome) rest) db'
        (.completed kind startedAt report') := by
  have hgeneral : ∀ q : SweepDb × PayoutSweep,
      Relation.ReflTransGen (fun p q : SweepDb × PayoutSweep => ∃ e, anyReply e = true ∧ PayoutSweep.step p.1 p.2 e = some q) q
        (db', .completed kind startedAt report') → ∀ t, q.2 = .trying kind startedAt row t rest report →
      ∃ outcome b₁, Runs Scheduler.step anyReply q.1.books t b₁ (.done outcome) ∧
        Runs PayoutSweep.step anyReply { q.1 with books := b₁ } (.loop kind startedAt (report.count row outcome) rest) db'
          (.completed kind startedAt report') := by
    intro q hq
    induction hq using Relation.ReflTransGen.head_induction_on with
    | refl => exact nofun
    | @head q q' hstep hrest ih =>
      intro t hq
      obtain ⟨e, -, hst⟩ := hstep
      rw [hq] at hst
      cases e with
      | found rows => cases hst
      | statement e =>
        obtain ⟨⟨b₁, t₁⟩, hrow, rfl⟩ := Option.map_eq_some_iff.1 hst
        rcases next_cases kind startedAt row rest report t₁ with ⟨outcome, rfl, hnext⟩ | hnext
        · simp only [hnext] at hrest
          exact ⟨outcome, b₁, .head rfl hrow .refl, hrest⟩
        · obtain ⟨outcome, b₂, hrow', hloop⟩ := ih t₁ hnext
          exact ⟨outcome, b₂, .head rfl hrow hrow', hloop⟩
  exact hgeneral _ h t rfl

/-- A sweep that nobody disturbs is a batch of its rows. -/
theorem loop_ran (h : Runs PayoutSweep.step anyReply db (.loop kind startedAt report rows) db'
      (.completed kind startedAt report')) :
    ∃ handled : List (Party × SweepRow × ScheduleOutcome), handled.map (fun r => r.2.1) = rows ∧
      Ran (handles kind startedAt) db.books handled db'.books ∧
      report'.failedRows = report.failedRows ++ (handled.filter fun r => r.2.2.isThrown).map fun r => r.2.1.id := by
  induction rows generalizing db report with
  | nil =>
    obtain ⟨rfl, heq⟩ := h.stopped fun e => by cases e <;> rfl
    obtain ⟨-, -, rfl⟩ := PayoutSweep.completed.inj heq
    exact ⟨[], rfl, .done _, (List.append_nil _).symm⟩
  | cons row rest ih =>
    obtain ⟨outcome, b₁, hrow, hloop⟩ := trying_runs h
    obtain ⟨handled, hrows, hran, hfailed⟩ := ih hloop
    refine ⟨(kind.party row.id, row, outcome) :: handled, congrArg _ hrows, .row ⟨rfl, row_done hrow⟩ hran, ?_⟩
    rw [hfailed]
    cases outcome <;> simp [SweepReport.count, ScheduleOutcome.isThrown]

/-! What a sweep comes to. -/

/-- One payout of the whole balance. -/
structure Books.PaidOut (b b' : Books) (party : Party) : Prop where
  payout : ∃ p, b'.payoutsOf party = b.payoutsOf party ++ [p] ∧ p.netXAF = (b.balance party).balanceXAF
  settled : (b'.balance party).balanceXAF = 0

/-- The sweep came to the party's row, and nothing was thrown there. -/
def Tried (kind : PayoutSweepKind) (rows : List SweepRow) (report : SweepReport) (party : Party) : Prop :=
  ∃ row ∈ rows, party = kind.party row.id ∧ row.id ∉ report.failedRows

theorem party_injective (kind : PayoutSweepKind) : Function.Injective kind.party := by
  cases kind with
  | vendors => exact fun _ _ h => Party.vendor.inj h
  | riders => exact fun _ _ h => Party.rider.inj h

theorem ran_parties {handled : List (Party × SweepRow × ScheduleOutcome)} (h : Ran (handles kind startedAt) b handled b') :
    handled.map Prod.fst = (handled.map fun r => r.2.1.id).map kind.party := by
  induction h with
  | done s => rfl
  | row hrow _ ih => simpa using ⟨hrow.1, by simpa using ih⟩

/-- A row of a sweep, seen from the books before it and after it. -/
theorem RowDone.result {b₁ b₂ : Books} (h : RowDone kind startedAt row b₁ outcome b₂) (hended : b₁.Ended)
    (hbefore : b₁.view (kind.party row.id) = b.view (kind.party row.id))
    (hafter : b'.view (kind.party row.id) = b₂.view (kind.party row.id)) :
    (outcome.isThrown = false ∧ b.MayPay kind (kind.party row.id) ∧ b.PaidOut b' (kind.party row.id)) ∨
      ((outcome.isThrown = true ∨ ¬b.MayPay kind (kind.party row.id)) ∧
        b'.view (kind.party row.id) = b.view (kind.party row.id)) := by
  cases h with
  | threw hthrown => exact .inr ⟨.inl hthrown, hafter.trans hbefore⟩
  | refused hnot => exact .inr ⟨.inr fun hpay => hnot (hpay.congr hbefore), hafter.trans hbefore⟩
  | scheduled hthrown hpay hcommit =>
    refine .inl ⟨hthrown, hpay.congr hbefore.symm, ?_⟩
    have hpayouts : b'.payoutsOf (kind.party row.id) = b₂.payoutsOf (kind.party row.id) := congrArg PartyView.payouts hafter
    have hbalance : b'.balance (kind.party row.id) = b₂.balance (kind.party row.id) := congrArg PartyView.balance hafter
    have hpayouts₁ : b₁.payoutsOf (kind.party row.id) = b.payoutsOf (kind.party row.id) := congrArg PartyView.payouts hbefore
    have hbalance₁ : b₁.balance (kind.party row.id) = b.balance (kind.party row.id) := congrArg PartyView.balance hbefore
    have hnew := payoutsOf_paid hcommit (kind.party row.id)
    rw [if_pos job_party, hpayouts₁] at hnew
    refine ⟨⟨_, hpayouts.trans hnew, congrArg PartyBalance.balanceXAF hbalance₁⟩, ?_⟩
    rw [hbalance]
    rw [← job_party] at hcommit ⊢
    exact balance_paid hcommit hended

/-- A balance of zero is not paid out. -/
theorem Books.PaidOut.not_again (h : b.PaidOut b' party) : ¬b'.MayPay kind party := by
  intro hpay
  have henough := hpay.enough
  rw [h.settled] at henough
  cases kind with
  | vendors => exact absurd henough (by decide)
  | riders => exact absurd henough (by decide)

theorem mem_failed_iff {handled : List (Party × SweepRow × ScheduleOutcome)} (hids : (handled.map fun r => r.2.1.id).Nodup)
    (hrow : (party, row, outcome) ∈ handled) :
    row.id ∈ ((handled.filter fun r => r.2.2.isThrown).map fun r => r.2.1.id) ↔ outcome.isThrown = true := by
  constructor
  · intro hmem
    obtain ⟨r, hr, hid⟩ := List.mem_map.1 hmem
    obtain ⟨hr, hthrown⟩ := List.mem_filter.1 hr
    obtain rfl := List.inj_on_of_nodup_map hids hr hrow hid
    exact hthrown
  · intro hthrown
    exact List.mem_map.2 ⟨(party, row, outcome), List.mem_filter.2 ⟨hrow, hthrown⟩, rfl⟩

/-- What a sweep does to a party that it tried, and to any other. -/
theorem ran_result {handled : List (Party × SweepRow × ScheduleOutcome)}
    (h : Ran (handles kind startedAt) b handled b') (hstarted : startedAt ≤ b.clock) (hended : b.Ended)
    (hids : (handled.map fun r => r.2.1.id).Nodup)
    (hfailed : report.failedRows = (handled.filter fun r => r.2.2.isThrown).map fun r => r.2.1.id) (party : Party) :
    (b.MayPay kind party ∧ Tried kind (handled.map fun r => r.2.1) report party → b.PaidOut b' party) ∧
      (¬(b.MayPay kind party ∧ Tried kind (handled.map fun r => r.2.1) report party) → b'.view party = b.view party) := by
  have hnodup : (handled.map Prod.fst).Nodup := by
    rw [ran_parties h]
    exact hids.map (party_injective kind)
  by_cases hmem : party ∈ handled.map Prod.fst
  · obtain ⟨⟨party, row, outcome⟩, hrow, rfl⟩ := List.mem_map.1 hmem
    obtain ⟨b₁, b₂, ⟨-, hended₁⟩, ⟨hparty, hdone⟩, hbefore, hafter⟩ := h.apart (I := fun b => startedAt ≤ b.clock ∧ b.Ended)
      handles_separate (fun _ _ _ _ => handles_ended) ⟨hstarted, hended⟩ hnodup hrow
    simp only at hparty hdone hbefore hafter ⊢
    subst hparty
    have hthrown := mem_failed_iff hids hrow
    rw [← hfailed] at hthrown
    have htried : Tried kind (handled.map fun r => r.2.1) report (kind.party row.id) ↔ outcome.isThrown = false := by
      rw [← Bool.not_eq_true, ← hthrown]
      constructor
      · rintro ⟨row', -, hsame, hnot⟩
        exact (party_injective kind hsame).symm ▸ hnot
      · exact fun hnot => ⟨row, List.mem_map.2 ⟨_, hrow, rfl⟩, rfl, hnot⟩
    rw [htried]
    rcases hdone.result hended₁ hbefore hafter with ⟨hok, hpay, hpaid⟩ | ⟨hnot, hview⟩
    · exact ⟨fun _ => hpaid, fun hno => absurd ⟨hpay, hok⟩ hno⟩
    · refine ⟨fun ⟨hpay, hok⟩ => ?_, fun _ => hview⟩
      rcases hnot with hthrew | hnot
      · rw [hok] at hthrew
        cases hthrew
      · exact absurd hpay hnot
  · refine ⟨fun ⟨_, row, hrow, hparty, _⟩ => ?_, fun _ => h.untouched handles_separate hmem⟩
    refine absurd ?_ hmem
    rw [ran_parties h, hparty]
    obtain ⟨r, hr, rfl⟩ := List.mem_map.1 hrow
    exact List.mem_map_of_mem (List.mem_map_of_mem hr)

theorem findMany_runs {db : SweepDb} {startedAt : Time}
    (h : Runs PayoutSweep.step anyReply db (.findMany kind startedAt) db' (.completed kind startedAt report)) :
    ∃ rows, db.mayFind kind rows ∧ Runs PayoutSweep.step anyReply db (.loop kind startedAt { candidates := rows.length } rows) db'
      (.completed kind startedAt report) := by
  obtain ⟨e, db₁, s₁, -, hst, hrest⟩ := h.next nofun
  cases e with
  | found rows =>
    simp only [PayoutSweep.step] at hst
    split at hst
    · next hfind =>
      obtain ⟨rfl, rfl⟩ := Prod.mk.inj (Option.some.inj hst)
      exact ⟨rows, hfind, hrest⟩
    · cases hst
  | statement e =>
    cases e with
    | fail reason =>
      obtain ⟨rfl, rfl⟩ := Prod.mk.inj (Option.some.inj hst)
      obtain ⟨-, heq⟩ := hrest.stopped fun e => by cases e <;> rfl
      cases heq
    | _ => cases hst

end

/-- A sweep that nobody disturbs, from any books that came about in any way. Of its candidates it pays
whoever may be paid and whose row did not throw: one payout of the whole balance. Everybody else's
balance, open disputes and payouts stay as they are; a riders' sweep does tag vendors' orders anew.
What another sweep could still pay are then the rows that threw and those it did not find. -/
theorem sweep_pays {db₀ db db' : SweepDb} {us : List CronThread} {kind : PayoutSweepKind} {report : SweepReport}
    (hpayouts : db₀.books.payouts = []) (h : cronMachine.Reach anyMove ⟨db₀, []⟩ ⟨db, us⟩)
    (hrun : Runs PayoutSweep.step anyReply (cronEvent db (.sweep kind)).1 (.findMany kind db.books.clock) db'
      (.completed kind db.books.clock report)) :
    ∃ rows, db.mayFind kind rows ∧ ∀ party,
      (db.books.MayPay kind party ∧ Tried kind rows report party → db.books.PaidOut db'.books party) ∧
      (¬(db.books.MayPay kind party ∧ Tried kind rows report party) → db'.books.view party = db.books.view party) ∧
      (db'.books.MayPay kind party ↔ db.books.MayPay kind party ∧ ¬Tried kind rows report party) := by
  have hended : db.books.Ended := (cron_knows hpayouts h).1
  obtain ⟨rows, hfind, hloop⟩ := findMany_runs hrun
  obtain ⟨handled, rfl, hran, hfailed⟩ := loop_ran hloop
  have hids : (handled.map fun r => r.2.1.id).Nodup := by simpa only [List.map_map, Function.comp_def] using hfind.1
  have hresult := ran_result hran le_rfl hended hids hfailed
  refine ⟨_, hfind, fun party => ?_⟩
  have hpaid : db.books.MayPay kind party ∧ Tried kind (handled.map fun r => r.2.1) report party →
      db.books.PaidOut db'.books party := fun hboth => by
    obtain ⟨hpayout, hsettled⟩ := (hresult party).1 hboth
    exact ⟨hpayout, hsettled⟩
  have hview : ¬(db.books.MayPay kind party ∧ Tried kind (handled.map fun r => r.2.1) report party) →
      db'.books.view party = db.books.view party := (hresult party).2
  refine ⟨hpaid, hview, ?_⟩
  constructor
  · intro hpay
    by_cases hboth : db.books.MayPay kind party ∧ Tried kind (handled.map fun r => r.2.1) report party
    · exact absurd hpay (hpaid hboth).not_again
    · have hmay := hpay.congr (hview hboth).symm
      exact ⟨hmay, fun htried => hboth ⟨hmay, htried⟩⟩
  · rintro ⟨hmay, hnot⟩
    exact hmay.congr (hview fun hboth => hnot hboth.2)

/-- The vendor's sweep after the example's delivery, with every statement landing. -/
def exampleReplay (db : SweepDb) : Option (SweepDb × PayoutSweep) :=
  replay PayoutSweep.step anyReply (cronEvent db (.sweep .vendors)).1 (.findMany .vendors db.books.clock)
    (.found [⟨1, "+237677000001"⟩] :: List.replicate 5 (.statement .ok))

def replaysTotal (db : SweepDb) (totalXAF : ℤ) : Bool :=
  match exampleReplay db with
  | some (_, .completed kind startedAt report) =>
    decide (kind = .vendors ∧ startedAt = db.books.clock ∧ report.totalXAF = totalXAF)
  | _ => false

theorem one_vendor_swept :
    ∃ (db db' : SweepDb) (us : List CronThread) (report : SweepReport) (rows : List SweepRow),
      cronMachine.Reach anyMove ⟨exampleSweepDb, []⟩ ⟨db, us⟩ ∧ report.totalXAF = 1800 ∧ db.mayFind .vendors rows ∧
      ∀ party, (db.books.MayPay .vendors party ∧ Tried .vendors rows report party → db.books.PaidOut db'.books party) ∧
        (¬(db.books.MayPay .vendors party ∧ Tried .vendors rows report party) →
          db'.books.view party = db.books.view party) ∧
        (db'.books.MayPay .vendors party ↔ db.books.MayPay .vendors party ∧ ¬Tried .vendors rows report party) := by
  obtain ⟨q, hq, ht⟩ := cronMachine.reach_of_test anyMove (fun _ _ _ => true) (fun _ _ _ _ => trivial)
    ⟨exampleSweepDb, []⟩ (deliveryDay.map asCron) (fun q => replaysTotal q.shared 1800) (by decide +kernel)
  unfold replaysTotal at ht
  split at ht
  · next db' kind startedAt report hreplay =>
    obtain ⟨rfl, rfl, htotal⟩ := of_decide_eq_true ht
    obtain ⟨rows, hfind, hparties⟩ := sweep_pays rfl hq (runs_of_replay hreplay)
    exact ⟨q.shared, db', q.threads, report, rows, hq, htotal, hfind, hparties⟩
  · cases ht

end ChopNow
