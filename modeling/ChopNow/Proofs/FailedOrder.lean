import ChopNow.Proofs.Settlement

/-! The money of a failed order. Whoever closes an order has to queue its refund; the
decisions on a waiting order and the search given up for want of a rider do not. -/

namespace ChopNow

open Interleave

/-- CANCELLED, REFUSED and EXPIRED. -/
def OrderStatus.isFailed : OrderStatus → Bool
  | .cancelled | .refused | .expired => true
  | _ => false

/-- The refund waits for the sweep, or it is through and Campay has accepted one. -/
def World.RefundQueued (w : World) : Prop :=
  w.order.paymentStatus = .refundPending ∨ w.order.paymentStatus = .refunded ∧ w.refunds ≠ []

/-- No money is kept: none has come in, or its refund is queued. -/
def World.Covered (w : World) : Prop := w.PaymentPaired → w.RefundQueued

/-- The money of a failed order is covered. -/
def World.MoneyQueued (w : World) : Prop := w.order.status.isFailed = true → w.Covered

/-- Where the writes that queue no refund may land. A decision that ends the order, on
money that is covered; the search given up, there too, or, where it writes REFUNDED
itself, on an accepted refund; a fraud that refunds nobody, on covered money; and a
payment's own status, on no order that has failed with money in. -/
def closesCovered : Guard Kitchen LifecycleThread LifecycleEvent Answer := fun k _ m =>
  match m with
  | .step (.decide ⟨call, .checked ..⟩) (.reply .ok) =>
    k.world.order.awaitsDecision = true → call.verdict ≠ .accepted → k.world.Covered
  | .step (.dispatch (.expiring order _)) (.reply .ok) =>
    if order.paymentStatus = .paid then k.world.PaymentPaired → k.world.refunds ≠ [] else k.world.Covered
  | .step (.order (.fraud (.checked order input _))) (.reply .ok) =>
    k.world.order.status = .pickedUp → ¬(input.consumerRefund ∧ order.paymentStatus = .paid) → k.world.Covered
  | .step (.collect (.momo (.accepted ..))) (.reply .ok) | .step (.collect (.webhook (.failing ..))) (.reply .ok) =>
    k.world.order.status.isFailed = true → ¬ k.world.PaymentPaired
  | _ => True

section

variable {k k' : Kitchen} {us ts : List LifecycleThread} {t : LifecycleThread} {a : Answer} {w w' : World} {e : Reply}

/-- Only the booking of a payment pairs it. -/
theorem paired_append {rows : Ledger} (h : ∀ e ∈ rows, e.eventType ≠ .paymentReceived) (id : OrderId)
    (ledger : Ledger) : paymentRows id (ledger ++ rows) = paymentRows id ledger := by
  have hnil : rows.filter (fun e => e.eventType == .paymentReceived && e.orderId == some id) = [] := by
    rw [List.filter_eq_nil_iff]
    intro e he
    simp [h e he]
  simp [paymentRows, List.filter_append, hnil]

theorem rows_eventType {input : RecordTransactionInput} {id : EventId} {now : Time}
    (h : input.eventType ≠ .paymentReceived) : ∀ e ∈ input.rows id now, e.eventType ≠ .paymentReceived := by
  intro e he
  obtain ⟨x, -, rfl⟩ := List.mem_map.1 he
  exact h

theorem paired_of_rows {input : RecordTransactionInput} {event : EventId} {now : Time}
    (hp : w'.PaymentPaired) (hid : w'.order.id = w.order.id) (htotal : w'.order.totalXAF = w.order.totalXAF)
    (hledger : w'.ledger = w.ledger ++ input.rows event now) (ht : input.eventType ≠ .paymentReceived) :
    w.PaymentPaired := by
  unfold World.PaymentPaired at hp ⊢
  rw [hid, htotal, hledger, paired_append (rows_eventType ht)] at hp
  exact hp

/-- A step that books no payment and changes neither status. -/
theorem World.MoneyQueued.keep (h : w.MoneyQueued) (hp : w'.PaymentPaired → w.PaymentPaired)
    (hstatus : w'.order.status = w.order.status) (hpay : w'.order.paymentStatus = w.order.paymentStatus)
    (hrefunds : w.refunds ≠ [] → w'.refunds ≠ []) : w'.MoneyQueued := by
  intro hf hpaired
  rcases h (hstatus ▸ hf) (hp hpaired) with hq | ⟨hq, hr⟩
  · exact .inl (hpay.trans hq)
  · exact .inr ⟨hpay.trans hq, hrefunds hr⟩

theorem World.MoneyQueued.of_open (h : w'.order.status.isFailed = false) : w'.MoneyQueued := fun hf => by
  rw [h] at hf
  cases hf

theorem covered_decide (h : w.Covered) (now : Time) (v : Verdict) (emitted : List DomainEvent) :
    World.Covered { w with order := w.order.decide now v, emitted } := by
  cases v <;> exact h

/-- A fraud refunds what was PAID when it was read; what it leaves alone is covered. -/
theorem fraud_queued {order : Order} {input : ResolveRiderFraudInput} {now : Time}
    (horder : w'.order = w.order.cancelForFraud order input now) (hrefunds : w'.refunds = w.refunds)
    (hp : w'.PaymentPaired → w.PaymentPaired)
    (hcovered : ¬(input.consumerRefund ∧ order.paymentStatus = .paid) → w.Covered) : w'.MoneyQueued := by
  intro _ hpaired
  unfold World.RefundQueued
  rw [horder, hrefunds]
  by_cases hpaid : input.consumerRefund ∧ order.paymentStatus = .paid
  · left
    simp [Order.cancelForFraud, hpaid]
  · have hq := hcovered hpaid (hp hpaired)
    simpa [World.RefundQueued, Order.cancelForFraud, hpaid] using hq

theorem order_queued {t t' : OrderThread} (hI : w.MoneyQueued) (hS : SettleInv w) (hL : SettleLocal w (.order t))
    (hok : ∀ order input now, t = .fraud (.checked order input now) → e = .ok → w.order.status = .pickedUp →
      ¬(input.consumerRefund ∧ order.paymentStatus = .paid) → w.Covered)
    (h : OrderStep w t e w' t') : w'.MoneyQueued := by
  cases h with
  | paid | pickedUp | delivered => exact .of_open rfl
  | cancelled => exact fun _ _ => .inl rfl
  | fraudCompensated due sound =>
    exact fraud_queued rfl rfl (fun hp => paired_of_rows hp rfl rfl rfl nofun) (hok _ _ _ rfl rfl due)
  | fraudCancelled due => exact fraud_queued rfl rfl (fun hp => hp) (hok _ _ _ rfl rfl due)
  | refundAccepted | refundLost => exact hI.keep (fun hp => hp) rfl rfl (by simp)
  | refundRecorded =>
    exact hI.keep (fun hp => paired_of_rows hp rfl rfl rfl nofun) rfl rfl store_ne_nil
  | hookRefunded => exact fun _ _ => .inr ⟨rfl, hS.sent (by simp [hL.2])⟩
  | _ => exact hI.keep (fun hp => hp) rfl rfl id

theorem collect_queued {t : CollectThread} {us : List CollectThread} (hI : w.MoneyQueued)
    (hok : (∃ order payerPhone ref, t = .momo (.accepted order payerPhone ref)) ∨
      (∃ status ref, t = .webhook (.failing status ref)) → e = .ok →
      w.order.status.isFailed = true → ¬ w.PaymentPaired)
    (h : CollectMove w t e w' us) : w'.MoneyQueued := by
  cases h with
  | momoStored => exact fun hf hp => absurd hp (hok (.inl ⟨_, _, _, rfl⟩) rfl hf)
  | hookFailed => exact fun hf hp => absurd hp (hok (.inr ⟨_, _, rfl⟩) rfl hf)
  | paid hp =>
    cases hp with
    | booked => exact .of_open rfl
    | _ => exact hI.keep (fun hp => hp) rfl rfl id
  | _ => exact hI.keep (fun hp => hp) rfl rfl id

theorem decision_queued {call : DecisionCall} {point point' : DecisionPoint} (hI : w.MoneyQueued)
    (hok : ∀ order now, point = .checked order now → e = .ok → w.order.awaitsDecision = true →
      call.verdict ≠ .accepted → w.Covered)
    (h : DecisionStep w call point e w' point') : w'.MoneyQueued := by
  cases h with
  | @decided order now awaits =>
    by_cases hv : call.verdict = .accepted
    · rw [hv]
      exact .of_open rfl
    · exact fun _ => covered_decide (hok order now rfl rfl awaits hv) now call.verdict _
  | _ => exact hI

theorem expired_queued {order : Order} {now : Time} {emitted : List DomainEvent}
    (hok : if order.paymentStatus = .paid then w.PaymentPaired → w.refunds ≠ [] else w.Covered) :
    World.MoneyQueued { w with order := w.order.expireForNoRider order now, emitted } := by
  intro _ hp
  split at hok
  · next hpaid =>
    refine .inr ⟨?_, hok hp⟩
    simp [Order.expireForNoRider, hpaid]
  · next hpaid =>
    have hq := hok hp
    simpa [World.RefundQueued, Order.expireForNoRider, hpaid] using hq

theorem move_queued (hI : k.world.MoneyQueued) (hS : SettleInv k.world) (hL : SettleLocal k.world t)
    (hok : closesCovered k us (.step t a)) (h : LifecycleMove k t a k' ts) : k'.world.MoneyQueued := by
  cases h with
  | decide hd =>
    refine decision_queued hI ?_ hd
    rintro order now rfl rfl
    exact hok
  | expired => exact expired_queued hok
  | order _ ho =>
    refine order_queued hI hS hL ?_ ho
    rintro order input now rfl rfl
    exact hok
  | collect _ hc =>
    refine collect_queued hI ?_ hc
    rintro (⟨order, payerPhone, ref, rfl⟩ | ⟨status, ref, rfl⟩) rfl <;> exact hok
  | flipped turns flip =>
    refine .of_open ?_
    rcases flip with hf | hf <;> rw [hf.2] <;> rfl
  | ready => exact .of_open rfl
  | _ => exact hI.keep (fun hp => hp) rfl rfl id

theorem arrival_queued {n : LifecycleEvent} (hI : k.world.MoneyQueued) (h : LifecycleArrival k n k' ts) :
    k'.world.MoneyQueued := by
  cases h with
  | refundCallback => exact hI.keep (fun hp => hp) rfl rfl report_ne_nil
  | _ => exact hI.keep (fun hp => hp) rfl rfl id

end

/-- In runs whose closing writes land on covered money, the money of a failed order
is queued for refund. -/
theorem failed_order_covered {order : Order} (h₀ : order.Fresh) {items : List OrderItem}
    {q : Pool Kitchen LifecycleThread}
    (h : lifecycleMachine.Reach closesCovered ⟨.start order items, []⟩ q) : q.shared.world.MoneyQueued := by
  refine h.invariant (J := fun k _ => k.world.MoneyQueued) ?_ ?_ ?_
  · have hs : (Kitchen.start order items).world.order.status = .pending := h₀.status
    exact .of_open (by rw [hs]; rfl)
  · intro k us n k' ts _ hI _ hev
    exact arrival_queued hI (lifecycleEvent_cases hev)
  · intro k us vs t a k' ts hr hI hok hst
    have hS := settle_reach h₀ hr
    exact move_queued hI hS.shared (hS.locals t (by simp)) hok (lifecycleStep_cases hst)

/-- The customer cancels a paid order and stays PAID. -/
theorem cancelled_order_stays_paid :
    ¬ ∀ (order : Order) (items : List OrderItem) (q : Pool Kitchen LifecycleThread), order.Fresh →
      lifecycleMachine.Reach anyMove ⟨.start order items, []⟩ q → q.shared.world.MoneyQueued := by
  intro h
  obtain ⟨q, hq, ht⟩ := Machine.reach_of_test lifecycleMachine anyMove (fun _ _ _ => true) (fun _ _ _ _ => trivial)
    ⟨.start exampleOrder [], []⟩
    (payingExample ++ examplePaid ++
      [.event (.decide (.cancelOrder 1)), .step 0 (.reply .ok), .step 0 (.reply .ok), .step 0 (.reply .ok)])
    (fun q => q.shared.world.order.status == .cancelled && q.shared.world.order.paymentStatus == .paid &&
      paymentRows q.shared.world.order.id q.shared.world.ledger == paymentPair q.shared.world.order.totalXAF)
    (by decide +kernel)
  simp only [Bool.and_eq_true, beq_iff_eq] at ht
  obtain ⟨⟨hs, hp⟩, hrows⟩ := ht
  have hq := h _ _ q exampleOrder_fresh hq (by rw [hs]; rfl) (paired_of_eq hrows)
  simp [World.RefundQueued, hp] at hq

def closesCoveredB (k : Kitchen) (_ : List LifecycleThread) (m : Move LifecycleThread LifecycleEvent Answer) : Bool :=
  match m with
  | .step (.decide ⟨call, _⟩) _ => call.verdict == .accepted
  | .step (.dispatch _) _ | .step (.order (.fraud _)) _ | .step (.collect (.webhook (.failing ..))) _ => false
  | .step (.collect (.momo _)) _ => !k.world.order.status.isFailed
  | _ => true

theorem closesCovered_of_bool {k : Kitchen} {us : List LifecycleThread} {m : Move LifecycleThread LifecycleEvent Answer}
    (h : closesCoveredB k us m = true) : closesCovered k us m := by
  unfold closesCovered
  split
  · exact fun _ hv => absurd (by simpa [closesCoveredB] using h) hv
  · cases h
  · cases h
  · exact fun hf => by simp [closesCoveredB, hf] at h
  · cases h
  · trivial

/-- A vendor gives up a pre-order it had accepted. -/
theorem cancelled_preOrder_covered :
    ∃ q, lifecycleMachine.Reach closesCovered ⟨.start { exampleOrder with scheduledFor := some 7200000 } [], []⟩ q ∧
      q.shared.world.order.status = .cancelled ∧ q.shared.world.PaymentPaired ∧ q.shared.world.MoneyQueued := by
  obtain ⟨q, hq, ht⟩ := Machine.reach_of_test lifecycleMachine closesCovered closesCoveredB
    (fun _ _ _ => closesCovered_of_bool) ⟨.start { exampleOrder with scheduledFor := some 7200000 } [], []⟩
    (payingExample ++ examplePaid ++ [.event (.decide (.acceptOrder 1)), .step 0 (.reply .ok), .step 0 (.reply .ok),
      .event (.vendorCancelPreOrder 1 none), .step 0 (.reply .ok), .step 0 (.reply .ok)])
    (fun q => q.shared.world.order.status == .cancelled &&
      paymentRows q.shared.world.order.id q.shared.world.ledger == paymentPair q.shared.world.order.totalXAF)
    (by decide +kernel)
  simp only [Bool.and_eq_true, beq_iff_eq] at ht
  exact ⟨q, hq, ht.1, paired_of_eq ht.2, failed_order_covered (exampleOrder_fresh.scheduled 7200000) hq⟩

end ChopNow
