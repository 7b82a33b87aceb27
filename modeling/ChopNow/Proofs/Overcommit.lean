import ChopNow.Lib.Budget
import ChopNow.Proofs.SweepStep

/-! The float of one sweep: the loop of sweepPendingTransfers spends a budget, and deducts
what it hears of instead of what Campay took. -/

namespace ChopNow

open Budget

/-- Campay as far as its answers go. -/
def answering (balanceXAF : Option ℤ) (transfer : Payout → TransferReply) (refund : Order → TransferReply) :
    CampayClient Unit where
  getBalance c := (c, balanceXAF)
  initiateTransfer c p := (c, transfer p)
  initiateRefund c o := (c, refund o)

/-- Taken is what Campay accepted, counted what the worker deducts. -/
def PayoutOutside.deal (out : PayoutOutside) (transfer : Payout → TransferReply) (p : Payout) : Deal :=
  if out.raceLost p || !(transfer p).accepted then .declined
  else if isCounted out p (transfer p) then .counted
  else .uncounted

/-- No payout that Campay accepts goes uncounted, because the reply or the write of its
reference failed, with another one accepted after it. -/
def LastUncounted (out : PayoutOutside) (transfer : Payout → TransferReply) (table : PayoutTable)
    (startedAt : Time) : Prop :=
  Frugal (out.deal transfer) (table.batch startedAt)

def acceptedXAF {κ : Type} (s : TransferRun κ) : ℤ := (s.accepted.map (·.netXAF)).sum

variable {out : PayoutOutside} {balance : Option ℤ} {transfer : Payout → TransferReply}
  {refund : Order → TransferReply} {s : TransferRun Unit} {p : Payout}

theorem accepted_of_succeeds {reply : TransferReply} (h : reply.succeeds = true) : reply.accepted = true := by
  cases reply with
  | returned => rfl
  | threw => cases h

/-- One visit is one offer. -/
theorem sweepPayout_spends (balance : Option ℤ) (refund : Order → TransferReply) {left : ℤ} (rest : List Payout)
    (hleft : s.remainingBalanceXAF = some left)
    (hp : p ∈ s.table.rows) (hpending : p.status = .pending) :
    ∃ left', (sweepPayout (answering balance transfer refund) out true s p).remainingBalanceXAF = some left' ∧
      (sweepPayout (answering balance transfer refund) out true s p).accepted ++
        taken (·.netXAF) (out.deal transfer) left' rest =
      s.accepted ++ taken (·.netXAF) (out.deal transfer) left (p :: rest) ∧
      leftover (·.netXAF) (out.deal transfer) left' rest =
        leftover (·.netXAF) (out.deal transfer) left (p :: rest) := by
  rcases sweepPayout_cases (answering balance transfer refund) out s hp hpending with
    ⟨hany, heq⟩ | ⟨hany, hlost, heq⟩ | ⟨hany, hlost, heq⟩
  · have hlt : left < p.netXAF := by simpa [hleft] using hany
    refine ⟨left, by rw [heq, hleft], ?_, ?_⟩
    · simp [heq, taken, hlt]
    · simp [leftover, hlt]
  · have hle : ¬left < p.netXAF := by simpa [hleft] using hany
    have hdeal : out.deal transfer p = .declined := by simp [PayoutOutside.deal, hlost]
    refine ⟨left, by rw [heq, hleft], ?_, ?_⟩
    · simp [heq, taken, hle, hdeal]
    · simp [leftover, hle, hdeal]
  · have hle : ¬left < p.netXAF := by simpa [hleft] using hany
    rw [heq]
    cases hcounted : isCounted out p (transfer p) with
    | true =>
      have haccepted : (transfer p).accepted = true := by
        simp only [isCounted, Bool.and_eq_true] at hcounted
        exact accepted_of_succeeds hcounted.1
      have hdeal : out.deal transfer p = .counted := by simp [PayoutOutside.deal, hlost, haccepted, hcounted]
      refine ⟨left - p.netXAF, ?_, ?_, ?_⟩
      · simp [TransferRun.sent, answering, hcounted, hleft]
      · simp [TransferRun.sent, answering, haccepted, taken, hle, hdeal]
      · simp [leftover, hle, hdeal]
    | false =>
      refine ⟨left, by simp [TransferRun.sent, answering, hcounted, hleft], ?_, ?_⟩
      · cases haccepted : (transfer p).accepted with
        | true =>
          have hdeal : out.deal transfer p = .uncounted := by
            simp [PayoutOutside.deal, hlost, haccepted, hcounted]
          simp [TransferRun.sent, answering, haccepted, taken, hle, hdeal]
        | false =>
          have hdeal : out.deal transfer p = .declined := by simp [PayoutOutside.deal, haccepted]
          simp [TransferRun.sent, answering, haccepted, taken, hle, hdeal]
      · have hdeal : out.deal transfer p ≠ .counted := by
          simp only [PayoutOutside.deal, hcounted]
          split
          · exact fun h => by cases h
          · exact fun h => by cases h
        simp [leftover, hle, hdeal]

/-- A whole batch is the loop of the budget. -/
theorem sweep_spends (balance : Option ℤ) (refund : Order → TransferReply) {batch : List Payout} {left : ℤ}
    (hleft : s.remainingBalanceXAF = some left)
    (h : Batch s.table batch) :
    let s' := batch.foldl (sweepPayout (answering balance transfer refund) out true) s
    s'.accepted = s.accepted ++ taken (·.netXAF) (out.deal transfer) left batch ∧
      s'.remainingBalanceXAF = some (leftover (·.netXAF) (out.deal transfer) left batch) := by
  induction batch generalizing s left with
  | nil => simp [taken, leftover, hleft]
  | cons p batch ih =>
    obtain ⟨left', hleft', htaken, hover⟩ :=
      sweepPayout_spends balance refund batch hleft (h.mem p List.mem_cons_self) (h.pending p List.mem_cons_self)
    obtain ⟨haccepted, hremaining⟩ := ih hleft' h.next
    exact ⟨haccepted.trans htaken, hremaining.trans (congrArg some hover)⟩

/-- The transfers that Campay accepts in one sweep are what the loop takes from its balance. -/
theorem sweep_accepted (table : PayoutTable) (startedAt : Time) (balanceXAF : ℤ) :
    (sweepPendingTransfers (answering (some balanceXAF) transfer refund) out true startedAt table ()).accepted =
      taken (·.netXAF) (out.deal transfer) balanceXAF (table.batch startedAt) := by
  have hbalance : (answering (some balanceXAF) transfer refund).getBalance () = ((), some balanceXAF) := rfl
  rw [sweepPendingTransfers_eq _ out table startedAt hbalance]
  generalize hs : ({ table, campay := (), remainingBalanceXAF := some balanceXAF } : TransferRun Unit) = s
  have hleft : s.remainingBalanceXAF = some balanceXAF := by rw [← hs]
  have hbatch : Batch s.table (table.batch startedAt) := by
    rw [← hs]
    exact batch_batch table startedAt
  obtain ⟨haccepted, -⟩ := sweep_spends (some balanceXAF) refund hleft hbatch
  rw [haccepted, ← hs]
  rfl

/-- Whatever the balance, the sweep stays within it exactly when the one payout that Campay
accepts and the worker does not count is the last that Campay accepts. -/
theorem float_kept_iff (out : PayoutOutside) (transfer : Payout → TransferReply) (refund : Order → TransferReply)
    (table : PayoutTable) (startedAt : Time) :
    (∀ balanceXAF, 0 ≤ balanceXAF →
      acceptedXAF (sweepPendingTransfers (answering (some balanceXAF) transfer refund) out true startedAt table ()) ≤
        balanceXAF) ↔ LastUncounted out transfer table startedAt := by
  have hcost : ∀ p ∈ table.batch startedAt, 0 < p.netXAF := fun p hp => table.net_pos p (mem_due_of_batch hp).1
  rw [LastUncounted, ← spent_le_iff hcost]
  refine forall_congr' fun balanceXAF => forall_congr' fun _ => ?_
  rw [acceptedXAF, sweep_accepted]
  rfl

/-- A vendor's payout of 60000 that is due. -/
def duePayout (id : PayoutId) : Payout where
  id := id
  party := .vendor id
  periodStart := 0
  periodEnd := 0
  grossXAF := 60000
  adjustmentsXAF := 0
  netXAF := 60000
  momoPhone := "+237670000001"
  scheduledFor := 0

def twoDuePayouts : PayoutTable where
  rows := [duePayout 1, duePayout 2]
  keys := by decide
  net_pos := by simp [duePayout]

/-- Nothing else goes wrong around a payout. -/
def PayoutOutside.calm : PayoutOutside := ⟨fun _ => 0, fun _ => false, fun _ => none, fun _ => false⟩

/-- Campay takes the first payout and its reply is lost; the float of 100000 then still
seems to cover the second. -/
theorem lost_reply_overcommits :
    ¬ ∀ (out : PayoutOutside) (transfer : Payout → TransferReply) (refund : Order → TransferReply)
      (table : PayoutTable) (startedAt : Time) (balanceXAF : ℤ), 0 ≤ balanceXAF →
      acceptedXAF (sweepPendingTransfers (answering (some balanceXAF) transfer refund) out true startedAt table ()) ≤
        balanceXAF := by
  intro h
  have hboth := h .calm (fun p => if p.id = 1 then .threw true "socket hang up" else .returned 7)
    (fun _ => .returned 8) twoDuePayouts 0 100000 (by decide)
  exact absurd hboth (by decide +kernel)

end ChopNow
