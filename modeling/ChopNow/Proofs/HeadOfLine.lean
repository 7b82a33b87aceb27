import ChopNow.Proofs.Overcommit

/-! Which sweeps send anything: the batch is cut to its size before the rows are looked at. -/

namespace ChopNow

variable {κ : Type}

/-! Transfers. -/

section

variable {client : CampayClient κ} {out : PayoutOutside} {s : TransferRun κ} {p : Payout}

/-- The loop only ever adds to what it has tried. -/
theorem sweepPayout_attempted (h : s.attempted ≠ []) (hp : p ∈ s.table.rows) (hpending : p.status = .pending) :
    (sweepPayout client out true s p).attempted ≠ [] := by
  rcases sweepPayout_cases client out s hp hpending with ⟨-, heq⟩ | ⟨-, -, heq⟩ | ⟨-, -, heq⟩
  · rwa [heq]
  · simp [heq]
  · simp [heq, TransferRun.sent]

theorem sweep_attempted {batch : List Payout} (h : s.attempted ≠ []) (hbatch : Batch s.table batch) :
    (batch.foldl (sweepPayout client out true) s).attempted ≠ [] := by
  induction batch generalizing s with
  | nil => exact h
  | cons p batch ih =>
    exact ih (sweepPayout_attempted h (hbatch.mem p List.mem_cons_self) (hbatch.pending p List.mem_cons_self))
      hbatch.next

/-- Up to the first payout that the balance covers the loop changes nothing, and that
payout it tries. -/
theorem sweep_attempts_iff {batch : List Payout} {balanceXAF : ℤ} (hnone : s.attempted = [])
    (hbalance : s.remainingBalanceXAF = some balanceXAF) (hbatch : Batch s.table batch) :
    (batch.foldl (sweepPayout client out true) s).attempted ≠ [] ↔ ∃ p ∈ batch, p.netXAF ≤ balanceXAF := by
  induction batch with
  | nil => simp [hnone]
  | cons p batch ih =>
    have hp := hbatch.mem p List.mem_cons_self
    have hpending := hbatch.pending p List.mem_cons_self
    rw [List.foldl_cons, List.exists_mem_cons_iff]
    by_cases hle : p.netXAF ≤ balanceXAF
    · have hany : s.remainingBalanceXAF.any (· < p.netXAF) = false := by simp [hbalance, hle]
      refine iff_of_true (sweep_attempted ?_ hbatch.next) (.inl hle)
      rcases sweepPayout_cases client out s hp hpending with ⟨hskip, -⟩ | ⟨-, -, heq⟩ | ⟨-, -, heq⟩
      · rw [hany] at hskip
        cases hskip
      · simp [heq]
      · simp [heq, TransferRun.sent]
    · have hsame : sweepPayout client out true s p = s :=
        sweepPayout_unaffordable (by simpa [hbalance] using not_le.1 hle)
      have hnext : Batch (sweepPayout client out true s p).table batch := hbatch.next
      rw [hsame] at hnext ⊢
      rw [ih hnext]
      simp [hle]

end

/-! Refunds. -/

section

variable {client : CampayClient κ} {out : RefundOutside} {s : RefundRun κ} {o : Order}

@[simp] theorem RefundRun.write_attempted (id : OrderId) (f : Order → Order) :
    (s.write id f).attempted = s.attempted := rfl

@[simp] theorem RefundRun.onFail_attempted (reason : String) : (s.onFail out o reason).attempted = s.attempted := by
  unfold onFail
  split
  · rfl
  · rfl

theorem tryRefund_attempted : (tryRefund client out true s o).1.attempted = s.attempted ++ [o.id] := by
  simp only [tryRefund, Bool.not_true, Bool.false_eq_true, if_false]
  split
  · split
    · exact RefundRun.onFail_attempted _
    · split
      · exact RefundRun.onFail_attempted _
      · exact RefundRun.onFail_attempted _
      · rfl
  · rfl

theorem sweepRefund_attempted :
    (sweepRefund client out true s o).attempted =
      if o.hasPayerPhone then s.attempted ++ [o.id] else s.attempted := by
  unfold sweepRefund
  split
  · exact tryRefund_attempted
  · split
    · rfl
    · rfl

theorem sweepRefunds_attempted (batch : List Order) :
    (batch.foldl (sweepRefund client out true) s).attempted =
      s.attempted ++ (batch.filter Order.hasPayerPhone).map (·.id) := by
  induction batch generalizing s with
  | nil => simp
  | cons o batch ih =>
    rw [List.foldl_cons, ih, sweepRefund_attempted]
    cases hphone : o.hasPayerPhone
    · simp [hphone]
    · simp [hphone]

end

/-! Both workers. -/

/-- A due payout that the fetched balance covers makes the sweep try one. -/
def TransfersMove (client : CampayClient κ) (out : PayoutOutside) (startedAt : Time) (table : PayoutTable)
    (campay : κ) : Prop :=
  ∀ campay' balanceXAF, client.getBalance campay = (campay', some balanceXAF) →
    (∃ p ∈ table.rows, p.transferDue startedAt = true ∧ p.netXAF ≤ balanceXAF) →
    (sweepPendingTransfers client out true startedAt table campay).attempted ≠ []

/-- If a due payout is covered, then one that is covered is among the 25 that have been due
longest in its table. -/
def CoveredAtTheHead (client : CampayClient κ) (startedAt : Time) (table : PayoutTable) (campay : κ) : Prop :=
  ∀ campay' balanceXAF, client.getBalance campay = (campay', some balanceXAF) →
    (∃ p ∈ table.rows, p.transferDue startedAt = true ∧ p.netXAF ≤ balanceXAF) →
    ∃ p ∈ table.batch startedAt, p.netXAF ≤ balanceXAF

/-- An order that waits for its refund and has a phone makes the sweep try one. -/
def RefundsMove (client : CampayClient κ) (out : RefundOutside) (orders : List Order) (ledger : Ledger)
    (campay : κ) : Prop :=
  (∃ o ∈ orders, o.refundDue = true ∧ o.hasPayerPhone = true) →
    (sweepPendingRefunds client out true orders ledger campay).attempted ≠ []

/-- If an order that waits has a phone, then one of the 25 that were cancelled first has. -/
def PhoneAtTheHead (orders : List Order) : Prop :=
  (∃ o ∈ orders, o.refundDue = true ∧ o.hasPayerPhone = true) → ∃ o ∈ refundCandidates orders, o.hasPayerPhone = true

/-- Each worker moves whenever it could exactly when one of the rows at the head can move. -/
theorem head_of_line_iff (client : CampayClient κ) (out : PayoutOutside) (refundOut : RefundOutside) (startedAt : Time)
    (table : PayoutTable) (orders : List Order) (ledger : Ledger) (campay : κ) :
    (TransfersMove client out startedAt table campay ↔ CoveredAtTheHead client startedAt table campay) ∧
      (RefundsMove client refundOut orders ledger campay ↔ PhoneAtTheHead orders) := by
  constructor
  · refine forall_congr' fun campay' => forall_congr' fun balanceXAF => forall_congr' fun hbalance =>
      forall_congr' fun _ => ?_
    rw [sweepPendingTransfers_eq client out table startedAt hbalance]
    exact sweep_attempts_iff rfl rfl (batch_batch table startedAt)
  · refine forall_congr' fun _ => ?_
    rw [sweepPendingRefunds, sweepRefunds_attempted]
    simp

def unsendable : PayoutTable where
  rows := (List.range 26).map fun id => { duePayout id with netXAF := if id < 25 then 60000 else 500, scheduledFor := id }
  keys := by decide
  net_pos := by decide

/-- A refund that waits; the customer of the last order alone left a phone. -/
def unrefundable : List Order :=
  (List.range 26).map fun id =>
    { exampleOrder with
      id := id
      paymentStatus := .refundPending
      cancelledAt := some id
      payerPhone := if id < 25 then none else some "+237670000001" }

def RefundOutside.calm : RefundOutside := ⟨fun _ => 0, fun _ => false, fun _ => none, fun _ => false⟩

/-- Twenty-five rows that cannot move keep the one behind them from moving. -/
theorem twenty_five_block_the_rest :
    ¬(∀ (client : CampayClient Unit) (out : PayoutOutside) (startedAt : Time) (table : PayoutTable),
        TransfersMove client out startedAt table ()) ∧
      ¬∀ (client : CampayClient Unit) (out : RefundOutside) (orders : List Order) (ledger : Ledger),
        RefundsMove client out orders ledger () := by
  constructor
  · intro h
    have hmoves := h (answering (some 1000) (fun _ => .returned 7) (fun _ => .returned 8)) .calm 100 unsendable ()
      1000 rfl (by decide +kernel)
    exact hmoves (by decide +kernel)
  · intro h
    have hmoves := h (answering none (fun _ => .returned 7) (fun _ => .returned 8)) .calm unrefundable []
      (by decide +kernel)
    exact hmoves (by decide +kernel)

end ChopNow
