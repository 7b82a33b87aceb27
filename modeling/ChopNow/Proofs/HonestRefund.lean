import ChopNow.Proofs.Settlement

/-! A refund's status tells the truth. The fraud's refund and the callback's rest on a
payment that was booked; a vendor who gives up a pre-order takes it for paid, and the
search for a rider writes REFUNDED with no refund behind it. -/

namespace ChopNow

open Interleave

/-- What the columns and Campay's list say of a refund. -/
structure World.RefundHonest (w : World) : Prop where
  received : w.order.paymentStatus = .refundPending ∨ w.order.paymentStatus = .refunded → w.PaymentPaired
  settled : w.order.paymentStatus = .refunded → w.settled = settledPair w.order.totalXAF
  sent : w.refunds ≠ [] → w.PaymentPaired
  shown : w.order.paymentStatus = .refunded → w.refunds ≠ []

/-- Where the two writes that do not look at the payment may land: a vendor's
cancellation on a pre-order that was paid, and REFUNDED for want of a rider on a
refund that is settled. -/
def refundsPaid : Guard Kitchen LifecycleThread LifecycleEvent Answer := fun k _ m =>
  match m with
  | .step (.order (.cancelPreOrder (.checked order ..))) (.reply .ok) =>
    k.world.order.status = .accepted ∨ k.world.order.status = .inPrep →
      preOrderPenaltyXAF order.totalXAF ≠ 0 → k.world.PaymentPaired
  | .step (.dispatch (.expiring order _)) (.reply .ok) => order.paymentStatus = .paid → k.world.settled ≠ []
  | _ => True

/-- PAID, REFUND_PENDING and REFUNDED. -/
def PaymentStatus.moneyIn : PaymentStatus → Bool
  | .paid | .refundPending | .refunded => true
  | _ => false

structure HonestInv (w : World) : Prop where
  received : w.order.paymentStatus.moneyIn = true → w.PaymentPaired
  settled : w.order.paymentStatus = .refunded → w.settled ≠ []
  sent : w.refunds ≠ [] → w.PaymentPaired

/-- A fraud that refunds has seen the order paid, and a sweep that pays out REFUND_PENDING. -/
def HonestLocal (w : World) : LifecycleThread → Prop
  | .order (.fraud (.checked order ..)) => order.paymentStatus = .paid → w.PaymentPaired
  | .order (.refund (.locked ..)) => w.PaymentPaired
  | _ => True

/-- What a step writes in `paymentStatus`. -/
inductive StatusWrite (w w' : World) : Prop
  | same (h : w'.order.paymentStatus = w.order.paymentStatus)
  | unpaid (h : w'.order.paymentStatus.moneyIn = false)
  | paid (paired : w'.PaymentPaired) (h : w'.order.paymentStatus ≠ .refunded)
  | refunded (paired : w'.PaymentPaired) (settled : w'.settled ≠ [])

section

variable {k k' : Kitchen} {us ts : List LifecycleThread} {t : LifecycleThread} {a : Answer} {w w' : World} {e : Reply}

theorem settledRows_mono (id : OrderId) {ledger ledger' : Ledger} (h : ledger <+: ledger') :
    settledRows id ledger <+: settledRows id ledger' := by
  obtain ⟨rows, rfl⟩ := h
  simp only [settledRows, List.filter_append, List.map_append]
  exact List.prefix_append _ _

/-- A settlement stays in the journal. -/
theorem Kept.settled (h : Kept w w') (hs : w.settled ≠ []) : w'.settled ≠ [] := by
  have hpre : w.settled <+: w'.settled := by
    unfold World.settled
    rw [h.id]
    exact settledRows_mono _ h.ledger
  rintro hnil
  rw [hnil, List.prefix_nil] at hpre
  exact hs hpre

theorem settledPair_ne_nil (totalXAF : ℤ) : settledPair totalXAF ≠ [] := by simp [settledPair]

theorem HonestInv.keep (hI : HonestInv w) (hk : Kept w w') (hwrite : StatusWrite w w')
    (hsent : w'.refunds ≠ [] → w.refunds ≠ [] ∨ w.PaymentPaired) : HonestInv w' := by
  refine ⟨fun hs => ?_, fun hs => ?_, fun hr => ?_⟩
  · cases hwrite with
    | same h => exact hk.paired (hI.received (h ▸ hs))
    | unpaid h =>
      rw [h] at hs
      cases hs
    | paid paired | refunded paired => exact paired
  · cases hwrite with
    | same h => exact hk.settled (hI.settled (h ▸ hs))
    | unpaid h =>
      rw [hs] at h
      cases h
    | paid paired h => exact absurd hs h
    | refunded paired settled => exact settled
  · rcases hsent hr with hr | hp
    · exact hk.paired (hI.sent hr)
    · exact hk.paired hp

theorem HonestLocal.keep (h : HonestLocal w t) (hk : Kept w w') : HonestLocal w' t := by
  unfold HonestLocal at h ⊢
  split at h <;> first | exact fun hpaid => hk.paired (h hpaid) | exact hk.paired h | trivial

theorem penalty_nonzero {order : Order} {penaltyXAF : ℤ} (h : validate (penaltyInput order penaltyXAF) = .ok ()) :
    penaltyXAF ≠ 0 := by
  obtain ⟨-, -, hsound, -⟩ := (validate_ok_iff _).1 h
  exact (hsound _ (.head _)).nonzero

theorem fraud_write {order : Order} {input : ResolveRiderFraudInput} {now : Time}
    (horder : w'.order = w.order.cancelForFraud order input now)
    (hpaid : order.paymentStatus = .paid → w'.PaymentPaired) : StatusWrite w w' := by
  by_cases hrefund : input.consumerRefund ∧ order.paymentStatus = .paid
  · refine .paid (hpaid hrefund.2) ?_
    rw [horder]
    simp [Order.cancelForFraud, hrefund]
  · refine .same ?_
    rw [horder]
    simp [Order.cancelForFraud, hrefund]

theorem order_write {t t' : OrderThread} (hI : HonestInv w) (hL : HonestLocal w (.order t))
    (hid : ∀ order ∈ (LifecycleThread.order t).copy, order.id = w.order.id ∧ order.totalXAF = w.order.totalXAF)
    (hok : ∀ order note now, t = .cancelPreOrder (.checked order note now) → e = .ok →
      w.order.status = .accepted ∨ w.order.status = .inPrep → preOrderPenaltyXAF order.totalXAF ≠ 0 →
      w.PaymentPaired)
    (h : OrderStep w t e w' t') : StatusWrite w w' := by
  have hk := order_keeps h
  cases h with
  | paid due sound =>
    obtain ⟨hid, htotal⟩ := hid _ rfl
    exact .paid (booked_paidUp hid htotal).paired nofun
  | cancelled due sound => exact .paid (hk.paired (hok _ _ _ rfl rfl due (penalty_nonzero sound))) nofun
  | fraudCompensated | fraudCancelled => exact fraud_write rfl fun hp => hk.paired (hL hp)
  | @hookRefunded order payload ref now success due sound =>
    refine .refunded (hk.paired (hI.received (by rw [due]; rfl))) ?_
    unfold World.settled
    rw [settledRows_settled (hid order rfl).1]
    exact List.append_ne_nil_of_right_ne_nil _ (settledPair_ne_nil _)
  | _ => exact .same rfl

theorem collect_write {t : CollectThread} {us : List CollectThread}
    (hid : ∀ order ∈ (LifecycleThread.collect t).copy, order.id = w.order.id ∧ order.totalXAF = w.order.totalXAF)
    (h : CollectMove w t e w' us) : StatusWrite w w' := by
  cases h with
  | momoStored | hookFailed => exact .unpaid rfl
  | paid hp =>
    cases hp with
    | booked due sound =>
      obtain ⟨hid, htotal⟩ := hid _ rfl
      exact .paid (booked_paidUp hid htotal).paired nofun
    | _ => exact .same rfl
  | _ => exact .same rfl

/-- The search for a rider looks at the status it read. -/
theorem expired_write {order : Order} {now : Time} {emitted : List DomainEvent}
    (hpaid : order.paymentStatus = .paid → w.PaymentPaired ∧ w.settled ≠ []) :
    StatusWrite w { w with order := w.order.expireForNoRider order now, emitted } := by
  by_cases hp : order.paymentStatus = .paid
  · exact .refunded (hpaid hp).1 (hpaid hp).2
  · refine .same ?_
    simp [Order.expireForNoRider, hp]

theorem move_write (hI : HonestInv k.world) (hS : SettleInv k.world) (hL : HonestLocal k.world t)
    (hok : refundsPaid k us (.step t a)) (hc : Copied k t) (h : LifecycleMove k t a k' ts) :
    StatusWrite k.world k'.world := by
  have hid : ∀ order ∈ t.copy, order.id = k.world.order.id ∧ order.totalXAF = k.world.order.totalXAF :=
    fun order ho => ⟨(hc order ho).1, (hc order ho).2.1⟩
  cases h with
  | @decide call point point' e w' hd =>
    cases hd with
    | decided =>
      refine .same ?_
      cases call.verdict <;> rfl
    | _ => exact .same rfl
  | expired =>
    refine expired_write fun hp => ?_
    -- a settlement has a reference, and so a refund that was sent
    obtain ⟨ref, href, -⟩ := hS.used (hok hp)
    exact ⟨hI.sent (hS.sent (by simp [href])), hok hp⟩
  | order _ ho =>
    refine order_write hI hL hid ?_ ho
    rintro order note now rfl rfl
    exact hok
  | collect _ hcm => exact collect_write hid hcm
  | _ => exact .same rfl

theorem move_sends (hL : HonestLocal k.world t) (h : LifecycleMove k t a k' ts) (hr : k'.world.refunds ≠ []) :
    k.world.refunds ≠ [] ∨ k.world.PaymentPaired := by
  cases h with
  | @decide call point point' e w' hd => cases hd <;> exact .inl hr
  | order _ ho =>
    cases ho with
    | refundAccepted | refundLost => exact .inr hL
    | refundRecorded => exact .inl (by simpa [store] using hr)
    | _ => exact .inl hr
  | collect _ hcm =>
    cases hcm with
    | paid hp => cases hp <;> exact .inl hr
    | _ => exact .inl hr
  | _ => exact .inl hr

theorem honest_local_done {t : OrderThread} (h : t.isDone = true) : HonestLocal w (.order t) := by
  unfold HonestLocal
  split <;> simp_all [OrderThread.isDone]

theorem order_honest_local {t t' : OrderThread} (hI : HonestInv w) (h : OrderStep w t e w' t') :
    HonestLocal w (.order t') := by
  cases h with
  | finish hdone => exact honest_local_done hdone
  | fraudChecked => exact fun hpaid => hI.received (by rw [hpaid]; rfl)
  | refundLocked due =>
    simp only [Order.refundDue, Bool.and_eq_true, beq_iff_eq] at due
    exact hI.received (by rw [due.1]; rfl)
  | _ => trivial

theorem move_honest_local (hI : HonestInv k.world) (h : LifecycleMove k t a k' ts) :
    ∀ t' ∈ ts, HonestLocal k.world t' := by
  cases h with
  | decide hd =>
    intro t' ht
    rcases List.mem_cons.1 ht with rfl | ht
    · trivial
    · obtain rfl := mem_listeners ht
      trivial
  | order _ ho => simpa using order_honest_local hI ho
  | collect _ hcm =>
    intro t' ht
    obtain ⟨u, -, rfl⟩ := List.mem_map.1 ht
    trivial
  | _ => simp [HonestLocal]

theorem arrival_honest_local {n : LifecycleEvent} (h : LifecycleArrival k n k' ts) :
    ∀ t ∈ ts, HonestLocal w t := by
  cases h with
  | @call n t hcall =>
    simp only [List.mem_singleton, forall_eq]
    unfold LifecycleThread.isCall at hcall
    split at hcall <;> trivial
  | _ => simp [HonestLocal]

theorem HonestInv.arrival {n : LifecycleEvent} (hI : HonestInv k.world) (h : LifecycleArrival k n k' ts) :
    HonestInv k'.world := by
  have hk := arrival_keeps h
  refine hI.keep hk (.same (by rw [arrival_order h])) fun hr => .inl ?_
  cases h with
  | refundCallback => exact fun hnil => hr (by simp [report, hnil])
  | _ => exact hr

theorem honest_reach {order : Order} (h₀ : order.Fresh) {items : List OrderItem} {q : Pool Kitchen LifecycleThread}
    (h : lifecycleMachine.Reach refundsPaid ⟨.start order items, []⟩ q) :
    HonestInv q.shared.world ∧ ∀ t ∈ q.threads, HonestLocal q.shared.world t := by
  refine h.stable (I := fun k => HonestInv k.world) (L := fun k => HonestLocal k.world) ⟨?_, ?_, ?_⟩ (by simp) ?_ ?_
  · have hs : (Kitchen.start order items).world.order.paymentStatus = .pending := h₀.paymentStatus
    simp [hs, PaymentStatus.moneyIn]
  · have hs : (Kitchen.start order items).world.order.paymentStatus = .pending := h₀.paymentStatus
    simp [hs]
  · simp [Kitchen.start, World.start]
  · intro k us n k' ts _ hI _ hev
    have ha := lifecycleEvent_cases hev
    exact ⟨hI.arrival ha, arrival_honest_local ha, fun _ hL => hL.keep (arrival_keeps ha)⟩
  · intro k us vs t a k' ts hr hI hL hok hst
    have hm := lifecycleStep_cases hst
    have hk := move_keeps hm
    have hwrite := move_write hI (settle_reach h₀ hr).shared hL hok ((copied_reach hr).2 t (by simp)) hm
    exact ⟨hI.keep hk hwrite (move_sends hL hm), fun t' ht => (move_honest_local hI hm t' ht).keep hk,
      fun _ hu => hu.keep hk⟩

end

/-- As long as neither write lands elsewhere, only money that came in is refunded, and
what is shown as refunded was sent and settled once. -/
theorem refund_honest {order : Order} (h₀ : order.Fresh) {items : List OrderItem} {q : Pool Kitchen LifecycleThread}
    (h : lifecycleMachine.Reach refundsPaid ⟨.start order items, []⟩ q) : q.shared.world.RefundHonest := by
  have hI := (honest_reach h₀ h).1
  have hS := (settle_reach h₀ h).shared
  refine ⟨?_, fun hs => hS.once.resolve_left (hI.settled hs), hI.sent, fun hs => ?_⟩
  · rintro (hs | hs) <;> exact hI.received (by rw [hs]; rfl)
  · obtain ⟨ref, href, -⟩ := hS.used (hI.settled hs)
    exact hS.sent (by simp [href])

/-- Nobody near by takes the order, ten times over. -/
def exampleNoRider : List (Act LifecycleEvent Answer) :=
  .step 1 (.reply .ok) :: (List.replicate 9 [.step 0 (.reply .ok), .step 0 (.candidate none), .step 0 (.reply .ok),
    .event (.tick RETRY_INTERVAL_MS), .step 0 (.reply .ok)]).flatten ++
    [.step 0 (.reply .ok), .step 0 (.candidate none), .step 0 (.reply .ok), .step 0 (.reply .ok), .step 0 (.reply .ok)]

/-- A vendor gives up a pre-order that nobody has paid; a paid order finds no rider. -/
theorem dishonest_refunds :
    (¬ ∀ (order : Order) (items : List OrderItem) (q : Pool Kitchen LifecycleThread), order.Fresh →
      lifecycleMachine.Reach anyMove ⟨.start order items, []⟩ q →
      q.shared.world.order.paymentStatus = .refundPending → q.shared.world.PaymentPaired) ∧
    ¬ ∀ (order : Order) (items : List OrderItem) (q : Pool Kitchen LifecycleThread), order.Fresh →
      lifecycleMachine.Reach anyMove ⟨.start order items, []⟩ q →
      q.shared.world.order.paymentStatus = .refunded →
      q.shared.world.settled = settledPair q.shared.world.order.totalXAF := by
  constructor
  · intro h
    obtain ⟨q, hq, ht⟩ := Machine.reach_of_test lifecycleMachine anyMove (fun _ _ _ => true) (fun _ _ _ _ => trivial)
      ⟨.start { exampleOrder with scheduledFor := some 7200000 } [], []⟩
      [.event (.decide (.acceptOrder 1)), .step 0 (.reply .ok), .step 0 (.reply .ok),
        .event (.vendorCancelPreOrder 1 none), .step 0 (.reply .ok), .step 0 (.reply .ok)]
      (fun q => q.shared.world.order.paymentStatus == .refundPending &&
        paymentRows q.shared.world.order.id q.shared.world.ledger == [])
      (by decide +kernel)
    simp only [Bool.and_eq_true, beq_iff_eq] at ht
    have hp := h _ _ q (exampleOrder_fresh.scheduled 7200000) hq ht.1
    unfold World.PaymentPaired at hp
    rw [ht.2] at hp
    simp [paymentPair] at hp
  · intro h
    obtain ⟨q, hq, ht⟩ := Machine.reach_of_test lifecycleMachine anyMove (fun _ _ _ => true) (fun _ _ _ _ => trivial)
      ⟨.start exampleOrder [], []⟩
      (payingExample ++ examplePaid ++
        [.event (.decide (.acceptOrder 1)), .step 0 (.reply .ok), .step 0 (.reply .ok)] ++ exampleNoRider)
      (fun q => q.shared.world.order.paymentStatus == .refunded && q.shared.world.settled == [])
      (by decide +kernel)
    simp only [Bool.and_eq_true, beq_iff_eq] at ht
    have hs := h _ _ q exampleOrder_fresh hq ht.1
    rw [ht.2] at hs
    exact settledPair_ne_nil _ hs.symm

def refundsPaidB (k : Kitchen) (_ : List LifecycleThread) (m : Move LifecycleThread LifecycleEvent Answer) : Bool :=
  match m with
  | .step (.order (.cancelPreOrder (.checked ..))) _ =>
    paymentRows k.world.order.id k.world.ledger == paymentPair k.world.order.totalXAF
  | .step (.dispatch _) _ => false
  | _ => true

theorem refundsPaid_of_bool {k : Kitchen} {us : List LifecycleThread} {m : Move LifecycleThread LifecycleEvent Answer}
    (h : refundsPaidB k us m = true) : refundsPaid k us m := by
  unfold refundsPaid
  split
  · exact fun _ _ => paired_of_eq (by simpa [refundsPaidB] using h)
  · cases h
  · trivial

/-- A vendor gives up a paid pre-order, and the refund goes through. -/
theorem settled_refund_honest :
    ∃ q, lifecycleMachine.Reach refundsPaid ⟨.start { exampleOrder with scheduledFor := some 7200000 } [], []⟩ q ∧
      q.shared.world.order.paymentStatus = .refunded ∧ q.shared.world.RefundHonest := by
  obtain ⟨q, hq, ht⟩ := Machine.reach_of_test lifecycleMachine refundsPaid refundsPaidB
    (fun _ _ _ => refundsPaid_of_bool) ⟨.start { exampleOrder with scheduledFor := some 7200000 } [], []⟩
    (payingExample ++ examplePaid ++ [.event (.decide (.acceptOrder 1)), .step 0 (.reply .ok), .step 0 (.reply .ok),
      .event (.vendorCancelPreOrder 1 none), .step 0 (.reply .ok), .step 0 (.reply .ok),
      .event .sweepPendingRefunds, .step 0 (.reply .ok), .step 0 (.reply .ok), .step 0 (.reply (.accepted 8)),
      .step 0 (.reply .ok), .event (.refundCallback { status := .successful, reference := some 8 }),
      .step 0 (.reply .ok), .step 0 (.reply .ok), .step 0 (.reply .ok)])
    (fun q => q.shared.world.order.paymentStatus == .refunded) (by decide +kernel)
  exact ⟨q, hq, by simpa using ht, refund_honest (exampleOrder_fresh.scheduled 7200000) hq⟩

end ChopNow
