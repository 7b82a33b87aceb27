import ChopNow.Spec.Refund

/-! What one step of the machine of one order can do. Every invariant of a run is
derived from this list, so the step functions are unfolded here and nowhere else. -/

namespace ChopNow

open Interleave

/-- Nothing is left to do. -/
def OrderThread.isDone : OrderThread → Bool
  | .paid .done | .pickUp (.done _) | .deliver (.done _) | .cancelPreOrder (.done _) | .fraud (.done _)
  | .refund (.done _) | .refundWebhook .done => true
  | _ => false

inductive OrderStep (w : World) : OrderThread → Reply → World → OrderThread → Prop
  | finish {t e t'} (h : t'.isDone = true) : OrderStep w t e w t'
  | paidRead {payload} (h : w.order.paymentStatus ≠ .paid) :
      OrderStep w (.paid (.called payload)) .ok w (.paid (.read payload w.order w.clock))
  | paid {payload order now emitted job}
      (due : w.order.paymentStatus = .pending ∨ w.order.paymentStatus = .processing)
      (sound : validate (paymentInput order) = .ok ()) :
      OrderStep w (.paid (.read payload order now)) .ok
        { w with
          order := w.order.paymentPatch order payload now
          ledger := w.ledger ++ (paymentInput order).rows (.payment order.id) w.clock
          emitted }
        (.paid (.won job))
  | paidJob {job} : OrderStep w (.paid (.won job)) .ok { w with jobs := w.jobs ++ [job] } (.paid .done)
  | pickUpChecked {rider code} (h : checkPickup w.order rider code = .ok ()) :
      OrderStep w (.pickUp (.called rider code)) .ok w (.pickUp .checked)
  | pickedUp :
      OrderStep w (.pickUp .checked) .ok
        { w with order := { w.order with status := .pickedUp, pickedUpAt := some w.clock } }
        (.pickUp (.done (.ok ())))
  | deliverChecked {rider code snapshot} (h : checkDelivery w.order rider code = .ok snapshot) :
      OrderStep w (.deliver (.called rider code)) .ok w (.deliver (.checked w.order snapshot w.clock))
  | delivered {order snapshot now} (due : w.order.status = .pickedUp)
      (sound : validate (deliveryInput order snapshot) = .ok ()) :
      OrderStep w (.deliver (.checked order snapshot now)) .ok
        { w with
          order := { w.order with status := .delivered, deliveredAt := some now }
          ledger := w.ledger ++ (deliveryInput order snapshot).rows (.delivery order.id) w.clock }
        (.deliver (.done (.ok ())))
  | cancelChecked {vendor note} (h : checkPreOrderCancel w.order vendor = .ok ()) :
      OrderStep w (.cancelPreOrder (.called vendor note)) .ok w (.cancelPreOrder (.checked w.order note w.clock))
  | cancelled {order note now emitted penalty} (due : w.order.status = .accepted ∨ w.order.status = .inPrep)
      (sound : validate (penaltyInput order (preOrderPenaltyXAF order.totalXAF)) = .ok ()) :
      OrderStep w (.cancelPreOrder (.checked order note now)) .ok
        { w with
          order := w.order.cancelPreOrder note now
          penalty
          ledger := w.ledger ++
            (penaltyInput order (preOrderPenaltyXAF order.totalXAF)).rows (.penalty order.id) w.clock
          emitted }
        (.cancelPreOrder (.done (.ok ())))
  | fraudChecked {input} (h : checkRiderFraud w.order input = .ok ()) :
      OrderStep w (.fraud (.called input)) .ok w (.fraud (.checked w.order input w.clock))
  | fraudCompensated {order input now} (due : w.order.status = .pickedUp)
      (sound : validate (compensationInput order (vendorCompensationXAF order input)) = .ok ()) :
      OrderStep w (.fraud (.checked order input now)) .ok
        { w with
          order := w.order.cancelForFraud order input now
          ledger := w.ledger ++ (compensationInput order (vendorCompensationXAF order input)).rows
            (.riderFraudVendorCompensation order.id) w.clock }
        (.fraud (.done (.ok ())))
  | fraudCancelled {order input now} (due : w.order.status = .pickedUp) :
      OrderStep w (.fraud (.checked order input now)) .ok
        { w with order := w.order.cancelForFraud order input now } (.fraud (.done (.ok ())))
  | refundMissing (due : w.order.refundDue = true) :
      OrderStep w (.refund .called) .ok w (.refund .missingPhone)
  | refundCandidate {payerPhone} (due : w.order.refundDue = true) :
      OrderStep w (.refund .called) .ok w (.refund (.candidate w.order.totalXAF payerPhone))
  | refundNoted {reason} :
      OrderStep w (.refund .missingPhone) .ok
        { w with order := { w.order with refundFailureReason := some reason } }
        (.refund (.done .missingPayerPhone))
  | refundLocked {totalXAF payerPhone} (due : w.order.refundDue = true) :
      OrderStep w (.refund (.candidate totalXAF payerPhone)) .ok
        { w with order := { w.order with refundInitiatedAt := some w.clock, refundFailureReason := none } }
        (.refund (.locked totalXAF payerPhone))
  | refundAccepted {totalXAF payerPhone ref} (fresh : w.isFresh ref = true) :
      OrderStep w (.refund (.locked totalXAF payerPhone)) (.accepted ref)
        { w with refunds := w.refunds ++ [{ reference := ref, amountXAF := totalXAF }] }
        (.refund (.accepted totalXAF ref))
  | refundRefused {totalXAF payerPhone reason} :
      OrderStep w (.refund (.locked totalXAF payerPhone)) (.refused reason) w (.refund (.caught none reason))
  | refundLost {totalXAF payerPhone ref reason} (fresh : w.isFresh ref = true) :
      OrderStep w (.refund (.locked totalXAF payerPhone)) (.lost ref reason)
        { w with refunds := w.refunds ++ [{ reference := ref, amountXAF := totalXAF }] }
        (.refund (.caught (some ref) reason))
  | refundRecorded {totalXAF ref} (sound : validate (refundInitiatedInput w.order totalXAF) = .ok ()) :
      OrderStep w (.refund (.accepted totalXAF ref)) .ok
        { w with
          order := { w.order with refundCampayRef := some ref }
          ledger := w.ledger ++
            (refundInitiatedInput w.order totalXAF).rows (.refundInitiated w.order.id) w.clock
          refunds := store ref w.refunds }
        (.refund (.done .initiated))
  | refundUnrecorded {totalXAF ref reason e} :
      OrderStep w (.refund (.accepted totalXAF ref)) e w (.refund (.caught (some ref) reason))
  | refundReset {issued reason} :
      OrderStep w (.refund (.caught issued reason)) .ok
        { w with order := { w.order with refundInitiatedAt := none, refundFailureReason := some reason } }
        (.refund (.done .failed))
  | hookFirst {payload ref} (key : payload.key = some ref)
      (terminal : payload.status.isSuccess = true ∨ payload.status.isFailure = true)
      (first : hasEvent w.dedup .refund ref = false) :
      OrderStep w (.refundWebhook (.received payload)) .ok
        { w with dedup := w.dedup ++ [⟨.refund, ref, payload, none⟩] } (.refundWebhook (.first payload ref))
  | hookFound {payload ref} (match_ : w.order.refundCampayRef = some ref)
      (due : w.order.paymentStatus = .refundPending) :
      OrderStep w (.refundWebhook (.first payload ref)) .ok w
        (.refundWebhook (.found w.order payload ref w.clock))
  | hookMissed {payload ref result}
      (miss : w.order.refundCampayRef ≠ some ref ∨ w.order.paymentStatus ≠ .refundPending) :
      OrderStep w (.refundWebhook (.first payload ref)) .ok w (.refundWebhook (.settled ref result))
  | hookRefunded {order payload ref now} (success : payload.status.isSuccess = true)
      (due : w.order.paymentStatus = .refundPending) (sound : validate (refundSettledInput order) = .ok ()) :
      OrderStep w (.refundWebhook (.found order payload ref now)) .ok
        { w with
          order := { w.order with paymentStatus := .refunded, refundedAt := some now }
          ledger := w.ledger ++ (refundSettledInput order).rows (.refundSettled order.id) w.clock }
        (.refundWebhook (.settled ref "refunded"))
  | hookLate {order payload ref now} (success : payload.status.isSuccess = true)
      (late : w.order.paymentStatus ≠ .refundPending) :
      OrderStep w (.refundWebhook (.found order payload ref now)) .ok w
        (.refundWebhook (.settled ref "refunded"))
  | hookReset {order payload ref now reason} (failure : payload.status.isSuccess = false) :
      OrderStep w (.refundWebhook (.found order payload ref now)) .ok
        { w with order := { w.order with
            refundCampayRef := none, refundInitiatedAt := none, refundFailureReason := some reason } }
        (.refundWebhook (.settled ref "settlement_failed"))
  | hookRecorded {ref result} :
      OrderStep w (.refundWebhook (.settled ref result)) .ok
        { w with dedup := recordResult w.dedup .refund ref result } (.refundWebhook .done)

variable {w w' : World} {e : Reply}

/-- The steps of onPaymentSucceeded, with the reason where it stops. -/
inductive PaidStep (w : World) : OnPaymentSucceeded → Reply → World → OnPaymentSucceeded → Prop
  | already {payload} (h : w.order.paymentStatus = .paid) : PaidStep w (.called payload) .ok w .done
  | read {payload} (h : w.order.paymentStatus ≠ .paid) :
      PaidStep w (.called payload) .ok w (.read payload w.order w.clock)
  | lost {payload order now}
      (h : ¬((w.order.paymentStatus = .pending ∨ w.order.paymentStatus = .processing) ∧
        validate (paymentInput order) = .ok ())) :
      PaidStep w (.read payload order now) .ok w .done
  | booked {payload order now emitted job}
      (due : w.order.paymentStatus = .pending ∨ w.order.paymentStatus = .processing)
      (sound : validate (paymentInput order) = .ok ()) :
      PaidStep w (.read payload order now) .ok
        { w with
          order := w.order.paymentPatch order payload now
          ledger := w.ledger ++ (paymentInput order).rows (.payment order.id) w.clock
          emitted }
        (.won job)
  | job {job} : PaidStep w (.won job) .ok { w with jobs := w.jobs ++ [job] } .done
  | thrown {t reason} : PaidStep w t (.fail reason) w .done

/-- A payment goes through the journal unless there is nothing to pay. -/
theorem payment_sound_iff {order : Order} : validate (paymentInput order) = .ok () ↔ order.totalXAF ≠ 0 := by
  constructor
  · intro h
    obtain ⟨-, -, hsound, -⟩ := (validate_ok_iff _).1 h
    exact (hsound _ (.head _)).nonzero
  · intro h
    refine (validate_ok_iff _).2 ⟨rfl, le_rfl, ?_, by simp [paymentInput]⟩
    simp only [paymentInput, List.mem_cons, List.not_mem_nil, or_false, forall_eq_or_imp, forall_eq]
    exact ⟨⟨h, rfl, nofun⟩, neg_ne_zero.2 h, rfl, nofun⟩

theorem commitPayment_none (order : Order) (payload : PaymentSucceeded) (now : Time)
    (h : ∀ w', commitPayment w order payload now ≠ .ok (some w')) :
    ¬((w.order.paymentStatus = .pending ∨ w.order.paymentStatus = .processing) ∧
      validate (paymentInput order) = .ok ()) := by
  rintro ⟨due, sound⟩
  exact h _ (World.bookIf_some_iff.2 ⟨by simpa using due, World.book_ok_iff.2 ⟨sound, _, rfl, rfl⟩⟩)

theorem paid_cases {t t' : OnPaymentSucceeded} (h : t.step w e = some (w', t')) : PaidStep w t e w' t' := by
  cases t with
  | called payload =>
    cases e <;> simp only [OnPaymentSucceeded.step, Option.some.injEq, Prod.mk.injEq, reduceCtorEq] at h
    · obtain ⟨rfl, rfl⟩ := h
      split
      · exact .already ‹_›
      · exact .read ‹_›
    · obtain ⟨rfl, rfl⟩ := h
      exact .thrown
  | read payload order now =>
    cases e <;> simp only [OnPaymentSucceeded.step, Option.some.injEq, Prod.mk.injEq, reduceCtorEq] at h
    · split at h
      · next hc =>
        obtain ⟨rfl, rfl⟩ := Prod.mk.inj (Option.some.inj h)
        exact .lost (commitPayment_none order payload now (by simp [hc]))
      · next hc =>
        obtain ⟨rfl, rfl⟩ := Prod.mk.inj (Option.some.inj h)
        exact .lost (commitPayment_none order payload now (by simp [hc]))
      · next w₁ hc =>
        obtain ⟨rfl, rfl⟩ := Prod.mk.inj (Option.some.inj h)
        obtain ⟨hg, hb⟩ := World.bookIf_some_iff.1 hc
        obtain ⟨hv, id, hid, rfl⟩ := World.book_ok_iff.1 hb
        obtain rfl := Option.some.inj hid
        have due : w.order.paymentStatus = .pending ∨ w.order.paymentStatus = .processing := by
          simpa using hg
        unfold World.announcePaid
        cases order.scheduledFor <;> exact .booked due hv
    · obtain ⟨rfl, rfl⟩ := h
      exact .thrown
  | won job =>
    cases e <;> simp only [OnPaymentSucceeded.step, Option.some.injEq, Prod.mk.injEq, reduceCtorEq] at h
    · obtain ⟨rfl, rfl⟩ := h
      exact .job
    · obtain ⟨rfl, rfl⟩ := h
      exact .thrown
  | done => cases e <;> simp [OnPaymentSucceeded.step] at h

theorem paid_step {t t' : OnPaymentSucceeded} (h : t.step w e = some (w', t')) :
    OrderStep w (.paid t) e w' (.paid t') := by
  cases paid_cases h with
  | already | lost | thrown => exact .finish rfl
  | read unpaid => exact .paidRead unpaid
  | booked due sound => exact .paid due sound
  | job => exact .paidJob

theorem pickUp_step {t t' : MarkPickedUp} (h : t.step w e = some (w', t')) :
    OrderStep w (.pickUp t) e w' (.pickUp t') := by
  cases t with
  | called rider code =>
    cases e <;> simp only [MarkPickedUp.step, Option.some.injEq, Prod.mk.injEq, reduceCtorEq] at h
    · split at h
      · obtain ⟨rfl, rfl⟩ := Prod.mk.inj (Option.some.inj h)
        exact .finish rfl
      · obtain ⟨rfl, rfl⟩ := Prod.mk.inj (Option.some.inj h)
        exact .pickUpChecked ‹_›
    · obtain ⟨rfl, rfl⟩ := h
      exact .finish rfl
  | checked =>
    cases e <;> simp only [MarkPickedUp.step, Option.some.injEq, Prod.mk.injEq, reduceCtorEq] at h
    · obtain ⟨rfl, rfl⟩ := h
      exact .pickedUp
    · obtain ⟨rfl, rfl⟩ := h
      exact .finish rfl
  | done result => cases e <;> simp [MarkPickedUp.step] at h

theorem deliver_step {t t' : MarkDelivered} (h : t.step w e = some (w', t')) :
    OrderStep w (.deliver t) e w' (.deliver t') := by
  cases t with
  | called rider code =>
    cases e <;> simp only [MarkDelivered.step, Option.some.injEq, Prod.mk.injEq, reduceCtorEq] at h
    · split at h
      · obtain ⟨rfl, rfl⟩ := Prod.mk.inj (Option.some.inj h)
        exact .finish rfl
      · obtain ⟨rfl, rfl⟩ := Prod.mk.inj (Option.some.inj h)
        exact .deliverChecked ‹_›
    · obtain ⟨rfl, rfl⟩ := h
      exact .finish rfl
  | checked order snapshot now =>
    cases e <;> simp only [MarkDelivered.step, Option.some.injEq, Prod.mk.injEq, reduceCtorEq] at h
    · split at h
      · obtain ⟨rfl, rfl⟩ := Prod.mk.inj (Option.some.inj h)
        exact .finish rfl
      · next w₁ hc =>
        obtain ⟨rfl, rfl⟩ := Prod.mk.inj (Option.some.inj h)
        obtain ⟨hg, hb⟩ := World.bookOrThrow_ok_iff.1 hc
        obtain ⟨hv, id, hid, rfl⟩ := World.book_ok_iff.1 hb
        obtain rfl := Option.some.inj hid
        exact .delivered (by simpa using hg) hv
    · obtain ⟨rfl, rfl⟩ := h
      exact .finish rfl
  | done result => cases e <;> simp [MarkDelivered.step] at h

theorem cancelPreOrder_step {t t' : VendorCancelPreOrder} (h : t.step w e = some (w', t')) :
    OrderStep w (.cancelPreOrder t) e w' (.cancelPreOrder t') := by
  cases t with
  | called vendor note =>
    cases e <;> simp only [VendorCancelPreOrder.step, Option.some.injEq, Prod.mk.injEq, reduceCtorEq] at h
    · split at h
      · obtain ⟨rfl, rfl⟩ := Prod.mk.inj (Option.some.inj h)
        exact .finish rfl
      · obtain ⟨rfl, rfl⟩ := Prod.mk.inj (Option.some.inj h)
        exact .cancelChecked ‹_›
    · obtain ⟨rfl, rfl⟩ := h
      exact .finish rfl
  | checked order note now =>
    cases e <;> simp only [VendorCancelPreOrder.step, Option.some.injEq, Prod.mk.injEq, reduceCtorEq] at h
    · split at h
      · obtain ⟨rfl, rfl⟩ := Prod.mk.inj (Option.some.inj h)
        exact .finish rfl
      · next w₁ hc =>
        obtain ⟨rfl, rfl⟩ := Prod.mk.inj (Option.some.inj h)
        unfold commitPreOrderCancel at hc
        split at hc
        · cases hc
        next due =>
        split at hc
        · cases hc
        obtain ⟨-, hb⟩ := World.bookOrThrow_ok_iff.1 hc
        obtain ⟨hv, id, hid, rfl⟩ := World.book_ok_iff.1 hb
        obtain rfl := Option.some.inj hid
        exact .cancelled (by tauto) hv
    · obtain ⟨rfl, rfl⟩ := h
      exact .finish rfl
  | done result => cases e <;> simp [VendorCancelPreOrder.step] at h

theorem fraud_step {t t' : ResolveRiderFraud} (h : t.step w e = some (w', t')) :
    OrderStep w (.fraud t) e w' (.fraud t') := by
  cases t with
  | called input =>
    cases e <;> simp only [ResolveRiderFraud.step, Option.some.injEq, Prod.mk.injEq, reduceCtorEq] at h
    · split at h
      · obtain ⟨rfl, rfl⟩ := Prod.mk.inj (Option.some.inj h)
        exact .finish rfl
      · obtain ⟨rfl, rfl⟩ := Prod.mk.inj (Option.some.inj h)
        exact .fraudChecked ‹_›
    · obtain ⟨rfl, rfl⟩ := h
      exact .finish rfl
  | checked order input now =>
    cases e <;> simp only [ResolveRiderFraud.step, Option.some.injEq, Prod.mk.injEq, reduceCtorEq] at h
    · split at h
      · obtain ⟨rfl, rfl⟩ := Prod.mk.inj (Option.some.inj h)
        exact .finish rfl
      · next w₁ hc =>
        obtain ⟨rfl, rfl⟩ := Prod.mk.inj (Option.some.inj h)
        unfold commitRiderFraud at hc
        split at hc
        · obtain ⟨hg, hb⟩ := World.bookOrThrow_ok_iff.1 hc
          obtain ⟨hv, id, hid, rfl⟩ := World.book_ok_iff.1 hb
          obtain rfl := Option.some.inj hid
          exact .fraudCompensated (by simpa using hg) hv
        · split at hc
          · next due =>
            obtain rfl := Except.ok.inj hc
            exact .fraudCancelled due
          · cases hc
    · obtain ⟨rfl, rfl⟩ := h
      exact .finish rfl
  | done result => cases e <;> simp [ResolveRiderFraud.step] at h

theorem refund_step {t t' : RefundSweep} (h : t.step w e = some (w', t')) :
    OrderStep w (.refund t) e w' (.refund t') := by
  cases t with
  | called =>
    cases e <;> simp only [RefundSweep.step, Option.some.injEq, Prod.mk.injEq, reduceCtorEq] at h
    · split at h
      · next due =>
        split at h
        · obtain ⟨rfl, rfl⟩ := Prod.mk.inj (Option.some.inj h)
          exact .refundMissing due
        · obtain ⟨rfl, rfl⟩ := Prod.mk.inj (Option.some.inj h)
          exact .refundMissing due
        · split at h <;> obtain ⟨rfl, rfl⟩ := Prod.mk.inj (Option.some.inj h)
          · exact .refundCandidate due
          · exact .finish rfl
      · obtain ⟨rfl, rfl⟩ := Prod.mk.inj (Option.some.inj h)
        exact .finish rfl
    · obtain ⟨rfl, rfl⟩ := h
      exact .finish rfl
  | missingPhone =>
    cases e <;> simp only [RefundSweep.step, Option.some.injEq, Prod.mk.injEq, reduceCtorEq] at h
    · obtain ⟨rfl, rfl⟩ := h
      exact .refundNoted
    · obtain ⟨rfl, rfl⟩ := h
      exact .finish rfl
  | candidate totalXAF payerPhone =>
    cases e <;> simp only [RefundSweep.step, Option.some.injEq, Prod.mk.injEq, reduceCtorEq] at h
    · split at h <;> obtain ⟨rfl, rfl⟩ := Prod.mk.inj (Option.some.inj h)
      · exact .refundLocked ‹_›
      · exact .finish rfl
    · obtain ⟨rfl, rfl⟩ := h
      exact .finish rfl
  | locked totalXAF payerPhone =>
    cases e <;> simp only [RefundSweep.step, Option.some.injEq, Prod.mk.injEq, reduceCtorEq] at h
    · split at h
      · obtain ⟨rfl, rfl⟩ := Prod.mk.inj (Option.some.inj h)
        exact .refundAccepted ‹_›
      · cases h
    · obtain ⟨rfl, rfl⟩ := h
      exact .refundRefused
    · split at h
      · obtain ⟨rfl, rfl⟩ := Prod.mk.inj (Option.some.inj h)
        exact .refundLost ‹_›
      · cases h
  | accepted totalXAF ref =>
    cases e <;> simp only [RefundSweep.step, Option.some.injEq, Prod.mk.injEq, reduceCtorEq] at h
    · split at h
      · obtain ⟨rfl, rfl⟩ := Prod.mk.inj (Option.some.inj h)
        exact .refundUnrecorded
      · next w₁ hc =>
        obtain ⟨rfl, rfl⟩ := Prod.mk.inj (Option.some.inj h)
        obtain ⟨hv, id, hid, rfl⟩ := World.book_ok_iff.1 hc
        obtain rfl := Option.some.inj hid
        exact .refundRecorded hv
    · obtain ⟨rfl, rfl⟩ := h
      exact .refundUnrecorded
  | caught issued reason =>
    cases e <;> simp only [RefundSweep.step, Option.some.injEq, Prod.mk.injEq, reduceCtorEq] at h
    · obtain ⟨rfl, rfl⟩ := h
      exact .refundReset
    · obtain ⟨rfl, rfl⟩ := h
      exact .finish rfl
  | done outcome => cases e <;> simp [RefundSweep.step] at h

/-- The steps of handleRefundWebhook, with the reason where it stops. -/
inductive RefundHookStep (w : World) : RefundWebhook → Reply → World → RefundWebhook → Prop
  | keyless {payload} (key : payload.key = none) : RefundHookStep w (.received payload) .ok w .done
  | early {payload} (status : payload.status.isSuccess = false ∧ payload.status.isFailure = false) :
      RefundHookStep w (.received payload) .ok w .done
  | duplicate {payload ref} (key : payload.key = some ref) (dup : hasEvent w.dedup .refund ref = true) :
      RefundHookStep w (.received payload) .ok w .done
  | first {payload ref} (key : payload.key = some ref)
      (terminal : payload.status.isSuccess = true ∨ payload.status.isFailure = true)
      (first : hasEvent w.dedup .refund ref = false) :
      RefundHookStep w (.received payload) .ok
        { w with dedup := w.dedup ++ [⟨.refund, ref, payload, none⟩] } (.first payload ref)
  | found {payload ref} (match_ : w.order.refundCampayRef = some ref)
      (due : w.order.paymentStatus = .refundPending) :
      RefundHookStep w (.first payload ref) .ok w (.found w.order payload ref w.clock)
  | missed {payload ref result}
      (miss : w.order.refundCampayRef ≠ some ref ∨ w.order.paymentStatus ≠ .refundPending) :
      RefundHookStep w (.first payload ref) .ok w (.settled ref result)
  | refunded {order payload ref now} (success : payload.status.isSuccess = true)
      (due : w.order.paymentStatus = .refundPending) (sound : validate (refundSettledInput order) = .ok ()) :
      RefundHookStep w (.found order payload ref now) .ok
        { w with
          order := { w.order with paymentStatus := .refunded, refundedAt := some now }
          ledger := w.ledger ++ (refundSettledInput order).rows (.refundSettled order.id) w.clock }
        (.settled ref "refunded")
  | late {order payload ref now} (success : payload.status.isSuccess = true)
      (late : w.order.paymentStatus ≠ .refundPending) :
      RefundHookStep w (.found order payload ref now) .ok w (.settled ref "refunded")
  | unbooked {order payload ref now} (success : payload.status.isSuccess = true)
      (unsound : validate (refundSettledInput order) ≠ .ok ()) :
      RefundHookStep w (.found order payload ref now) .ok w .done
  | reset {order payload ref now reason} (failure : payload.status.isSuccess = false) :
      RefundHookStep w (.found order payload ref now) .ok
        { w with order := { w.order with
            refundCampayRef := none, refundInitiatedAt := none, refundFailureReason := some reason } }
        (.settled ref "settlement_failed")
  | recorded {ref result} :
      RefundHookStep w (.settled ref result) .ok { w with dedup := recordResult w.dedup .refund ref result } .done
  | thrown {t reason} : RefundHookStep w t (.fail reason) w .done

/-- So does a settlement. -/
theorem settlement_sound {order : Order} (h : order.totalXAF ≠ 0) : validate (refundSettledInput order) = .ok () := by
  refine (validate_ok_iff _).2 ⟨rfl, le_rfl, ?_, by simp [refundSettledInput]⟩
  simp only [refundSettledInput, List.mem_cons, List.not_mem_nil, or_false, forall_eq_or_imp, forall_eq]
  exact ⟨⟨h, rfl, nofun⟩, neg_ne_zero.2 h, rfl, nofun⟩

theorem commitSettlement_none {order : Order} {now : Time} (h : commitSettlement w order now = .ok none) :
    w.order.paymentStatus ≠ .refundPending := by
  intro due
  simp only [commitSettlement, World.bookIf, due, BEq.rfl, ↓reduceIte] at h
  cases hb : w.book _ (refundSettledInput order) <;> rw [hb] at h <;> cases h

theorem commitSettlement_error {order : Order} {now : Time} {err : LedgerError}
    (h : commitSettlement w order now = .error err) : validate (refundSettledInput order) ≠ .ok () := by
  intro sound
  unfold commitSettlement World.bookIf at h
  split at h
  · cases hb : w.book { w.order with paymentStatus := .refunded, refundedAt := some now } (refundSettledInput order) with
    | ok w₁ => simp [hb, Except.map] at h
    | error err' =>
      have hbook := (@World.book_ok_iff w _ { w.order with paymentStatus := .refunded, refundedAt := some now } _).2
        ⟨sound, _, rfl, rfl⟩
      rw [hb] at hbook
      cases hbook
  · cases h

theorem refundHook_cases {t t' : RefundWebhook} (h : t.step w e = some (w', t')) : RefundHookStep w t e w' t' := by
  cases t with
  | received payload =>
    cases e <;> simp only [RefundWebhook.step, Option.some.injEq, Prod.mk.injEq, reduceCtorEq] at h
    · split at h
      · next key =>
        obtain ⟨rfl, rfl⟩ := Prod.mk.inj (Option.some.inj h)
        exact .keyless key
      · next ref key =>
        split at h
        · next terminal =>
          split at h
          · next hm =>
            obtain ⟨rfl, rfl⟩ := Prod.mk.inj (Option.some.inj h)
            cases hd : hasEvent w.dedup .refund ref with
            | true => exact .duplicate key hd
            | false => simp [markProcessed, hd] at hm
          · next dedup hfirst =>
            obtain ⟨rfl, rfl⟩ := Prod.mk.inj (Option.some.inj h)
            obtain ⟨hnew, rfl⟩ := markProcessed_first.1 hfirst
            exact .first key (by simpa using terminal) hnew
        · next early =>
          obtain ⟨rfl, rfl⟩ := Prod.mk.inj (Option.some.inj h)
          exact .early (by simpa using early)
    · obtain ⟨rfl, rfl⟩ := h
      exact .thrown
  | first payload ref =>
    cases e <;> simp only [RefundWebhook.step, Option.some.injEq, Prod.mk.injEq, reduceCtorEq] at h
    · split at h
      · next hmatch =>
        split at h <;> obtain ⟨rfl, rfl⟩ := Prod.mk.inj (Option.some.inj h)
        · exact .found hmatch ‹_›
        · exact .missed (.inr ‹_›)
      · next hmiss =>
        obtain ⟨rfl, rfl⟩ := Prod.mk.inj (Option.some.inj h)
        exact .missed (.inl hmiss)
    · obtain ⟨rfl, rfl⟩ := h
      exact .thrown
  | found order payload ref now =>
    cases e <;> simp only [RefundWebhook.step, Option.some.injEq, Prod.mk.injEq, reduceCtorEq] at h
    · split at h
      · next success =>
        split at h
        · next hc =>
          obtain ⟨rfl, rfl⟩ := Prod.mk.inj (Option.some.inj h)
          exact .unbooked success (commitSettlement_error hc)
        · next hc =>
          obtain ⟨rfl, rfl⟩ := Prod.mk.inj (Option.some.inj h)
          exact .late success (commitSettlement_none hc)
        · next w₁ hc =>
          obtain ⟨rfl, rfl⟩ := Prod.mk.inj (Option.some.inj h)
          obtain ⟨hg, hb⟩ := World.bookIf_some_iff.1 hc
          obtain ⟨hv, id, hid, rfl⟩ := World.book_ok_iff.1 hb
          obtain rfl := Option.some.inj hid
          exact .refunded success (by simpa using hg) hv
      · next failure =>
        obtain ⟨rfl, rfl⟩ := Prod.mk.inj (Option.some.inj h)
        exact .reset (by simpa using failure)
    · obtain ⟨rfl, rfl⟩ := h
      exact .thrown
  | settled ref result =>
    cases e <;> simp only [RefundWebhook.step, Option.some.injEq, Prod.mk.injEq, reduceCtorEq] at h
    · obtain ⟨rfl, rfl⟩ := h
      exact .recorded
    · obtain ⟨rfl, rfl⟩ := h
      exact .thrown
  | done => cases e <;> simp [RefundWebhook.step] at h

theorem refundWebhook_step {t t' : RefundWebhook} (h : t.step w e = some (w', t')) :
    OrderStep w (.refundWebhook t) e w' (.refundWebhook t') := by
  cases refundHook_cases h with
  | keyless | early | duplicate | unbooked | thrown => exact .finish rfl
  | first key terminal first => exact .hookFirst key terminal first
  | found hmatch due => exact .hookFound hmatch due
  | missed miss => exact .hookMissed miss
  | refunded success due sound => exact .hookRefunded success due sound
  | late success late => exact .hookLate success late
  | reset failure => exact .hookReset failure
  | recorded => exact .hookRecorded

/-- A step of the machine replaces the thread by one thread. -/
theorem orderStep_cases {t : OrderThread} {ts : List OrderThread}
    (h : orderMachine.step w t e = some (w', ts)) : ∃ t', ts = [t'] ∧ OrderStep w t e w' t' := by
  simp only [orderMachine, orderStep] at h
  cases t <;>
    (simp only [Option.map_eq_some_iff] at h
     obtain ⟨⟨w₁, t'⟩, ht, hp⟩ := h
     obtain ⟨rfl, rfl⟩ := Prod.mk.inj hp)
  · exact ⟨_, rfl, paid_step ht⟩
  · exact ⟨_, rfl, pickUp_step ht⟩
  · exact ⟨_, rfl, deliver_step ht⟩
  · exact ⟨_, rfl, cancelPreOrder_step ht⟩
  · exact ⟨_, rfl, fraud_step ht⟩
  · exact ⟨_, rfl, refund_step ht⟩
  · exact ⟨_, rfl, refundWebhook_step ht⟩

/-- For a refund callback, the exact step. -/
theorem refundHook_of_step {t : RefundWebhook} {ts : List OrderThread}
    (h : orderMachine.step w (.refundWebhook t) e = some (w', ts)) :
    ∃ t', ts = [.refundWebhook t'] ∧ RefundHookStep w t e w' t' := by
  obtain ⟨⟨w₁, t'⟩, ht, hp⟩ := Option.map_eq_some_iff.1 h
  obtain ⟨rfl, rfl⟩ := Prod.mk.inj hp
  exact ⟨t', rfl, refundHook_cases ht⟩

/-! Events. -/

/-- A call that has done nothing yet. -/
def OrderThread.isCall : OrderThread → Bool
  | .paid (.called _) | .pickUp (.called ..) | .deliver (.called ..) | .cancelPreOrder (.called ..)
  | .fraud (.called _) | .refund .called => true
  | _ => false

inductive OrderArrival (w : World) : OrderEvent → World → List OrderThread → Prop
  | tick {elapsed} : OrderArrival w (.tick elapsed) { w with clock := w.clock + elapsed } []
  | write {x order} (h : x.apply w.order w.clock = some order) :
      OrderArrival w (.write x) { w with order } []
  | call {n t} (h : t.isCall = true) : OrderArrival w n w [t]
  | callback {payload ref} (href : payload.reference = some ref) (hissued : issued ref w.refunds = true) :
      OrderArrival w (.refundCallback payload)
        { w with refunds := report ref payload.status w.refunds } [.refundWebhook (.received payload)]

theorem write_of_event {x : OrderWrite} {ts : List OrderThread} (h : orderMachine.event w (.write x) = some (w', ts)) :
    ts = [] ∧ ∃ order, x.apply w.order w.clock = some order ∧ w' = { w with order } := by
  obtain ⟨order, hx, hp⟩ := Option.map_eq_some_iff.1 h
  obtain ⟨rfl, rfl⟩ := Prod.mk.inj hp
  exact ⟨rfl, order, hx, rfl⟩

theorem callback_of_event {payload : CampayWebhookPayload} {ts : List OrderThread}
    (h : orderMachine.event w (.refundCallback payload) = some (w', ts)) :
    ts = [.refundWebhook (.received payload)] ∧ ∃ ref, payload.reference = some ref ∧ issued ref w.refunds = true ∧
      w' = { w with refunds := report ref payload.status w.refunds } := by
  simp only [orderMachine, orderEvent] at h
  split at h
  · cases h
  · next ref href =>
    split at h
    · next hissued =>
      obtain ⟨rfl, rfl⟩ := Prod.mk.inj (Option.some.inj h)
      exact ⟨rfl, ref, href, hissued, rfl⟩
    · cases h

theorem orderEvent_cases {n : OrderEvent} {ts : List OrderThread}
    (h : orderMachine.event w n = some (w', ts)) : OrderArrival w n w' ts := by
  cases n with
  | write x =>
    obtain ⟨rfl, order, hx, rfl⟩ := write_of_event h
    exact .write hx
  | refundCallback payload =>
    obtain ⟨rfl, ref, href, hissued, rfl⟩ := callback_of_event h
    exact .callback href hissued
  | tick elapsed =>
    obtain ⟨rfl, rfl⟩ := Prod.mk.inj (Option.some.inj h)
    exact .tick
  | paymentSucceeded payload =>
    obtain ⟨rfl, rfl⟩ := Prod.mk.inj (Option.some.inj h)
    exact .call rfl
  | markPickedUp rider code =>
    obtain ⟨rfl, rfl⟩ := Prod.mk.inj (Option.some.inj h)
    exact .call rfl
  | markDelivered rider code =>
    obtain ⟨rfl, rfl⟩ := Prod.mk.inj (Option.some.inj h)
    exact .call rfl
  | vendorCancelPreOrder vendor note =>
    obtain ⟨rfl, rfl⟩ := Prod.mk.inj (Option.some.inj h)
    exact .call rfl
  | resolveRiderFraud input =>
    obtain ⟨rfl, rfl⟩ := Prod.mk.inj (Option.some.inj h)
    exact .call rfl
  | sweepPendingRefunds =>
    obtain ⟨rfl, rfl⟩ := Prod.mk.inj (Option.some.inj h)
    exact .call rfl

/-- A guarded write leaves every other column alone. -/
theorem OrderWrite.apply_eq {o o' : Order} {now : Time} {x : OrderWrite} (h : x.apply o now = some o') :
    o' = { o with
      status := o'.status, acceptedAt := o'.acceptedAt, refusedAt := o'.refusedAt
      refusalReason := o'.refusalReason, cancelledAt := o'.cancelledAt
      acceptanceDeadlineAt := o'.acceptanceDeadlineAt, preparedAt := o'.preparedAt
      riderId := o'.riderId, assignedAt := o'.assignedAt } := by
  cases x <;> simp only [OrderWrite.apply] at h
  case setItemPrepared =>
    split at h
    · cases h
      rfl
    · split at h <;> cases h
      rfl
  all_goals
    split at h <;> cases h
    rfl

/-- It moves an order that is neither closed nor on the road, or keeps its status. -/
theorem OrderWrite.apply_status {o o' : Order} {now : Time} {x : OrderWrite} (h : x.apply o now = some o') :
    o'.status = o.status ∨
      (o.status = .pending ∨ o.status = .confirmed ∨ o.status = .accepted ∨ o.status = .inPrep) ∧
        o'.status ≠ .pickedUp ∧ o'.status ≠ .delivered ∧ o'.status ≠ .pending := by
  cases x <;> simp only [OrderWrite.apply] at h
  case setItemPrepared =>
    split at h
    · cases h
      simp_all
    · split at h <;> cases h
      simp_all
  case promotePreOrder | assignRider =>
    split at h <;> cases h
    exact .inl rfl
  case markOrderReady =>
    split at h <;> cases h
    exact .inr ⟨by tauto, by simp, by simp, by simp⟩
  all_goals
    split at h <;> cases h
    have hs : o.status = .pending ∨ o.status = .confirmed := by
      simp_all [VENDOR_CAN_DECIDE, CONSUMER_CAN_CANCEL]
    exact .inr ⟨by tauto, by simp, by simp, by simp⟩

end ChopNow
