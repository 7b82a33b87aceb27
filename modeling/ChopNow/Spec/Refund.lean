import ChopNow.Spec.Fulfilment

/-! Money back: RefundProcessorService sweeps the orders in REFUND_PENDING,
FinanceService.handleRefundWebhook receives the outcome. With the calls of
Fulfilment and the payment they make the machine of one order. -/

namespace ChopNow

open Interleave

/-! sweepPendingRefunds and tryRefund. -/

def refundInitiatedInput (order : Order) (totalXAF : ℤ) : RecordTransactionInput where
  eventId := some (.refundInitiated order.id)
  eventType := .refundIssued
  entries := [
    { account := .customerEscrow, amountXAF := totalXAF, orderId := some order.id,
      description := some s!"Refund initiated — escrow released for order {order.code}" },
    { account := .refundPayable, amountXAF := -totalXAF, orderId := some order.id,
      description := some s!"Refund owed to customer (order {order.code})" }]

/-- The `where` of both the candidate query and the lock. -/
def Order.refundDue (o : Order) : Bool := o.paymentStatus == .refundPending && o.refundInitiatedAt.isNone

def commitRefund (w : World) (totalXAF : ℤ) (ref : Reference) : Except LedgerError World :=
  w.book { w.order with refundCampayRef := some ref } (refundInitiatedInput w.order totalXAF)

inductive RefundOutcome
  | notACandidate
  | missingPayerPhone
  | initiated
  | skippedManual
  | failed
  | raceLost
  deriving DecidableEq, Repr

/-- `caught` remembers the reference when Campay had taken the refund before the throw. -/
inductive RefundSweep
  | called
  | missingPhone
  | candidate (totalXAF : ℤ) (payerPhone : Phone)
  | locked (totalXAF : ℤ) (payerPhone : Phone)
  | accepted (totalXAF : ℤ) (ref : Reference)
  | caught (issued : Option Reference) (reason : String)
  | done (outcome : RefundOutcome)
  deriving Repr

def RefundSweep.step (w : World) : RefundSweep → Reply → Option (World × RefundSweep)
  | .called, .ok =>
    if w.order.refundDue then
      match w.order.payerPhone with
      | none | some "" => some (w, .missingPhone)
      | some payerPhone =>
        if w.refundsEnabled then some (w, .candidate w.order.totalXAF payerPhone)
        else some (w, .done .skippedManual)
    else some (w, .done .notACandidate)
  | .missingPhone, .ok =>
    some ({ w with order := { w.order with refundFailureReason := some "missing_payer_phone" } },
      .done .missingPayerPhone)
  | .missingPhone, .fail _ => some (w, .done .missingPayerPhone)
  | .candidate totalXAF payerPhone, .ok =>
    if w.order.refundDue then
      some ({ w with order := { w.order with
            refundInitiatedAt := some w.clock, refundFailureReason := none } },
        .locked totalXAF payerPhone)
    else some (w, .done .raceLost)
  | .called, .fail _ | .candidate .., .fail _ => some (w, .done .failed)
  | .locked totalXAF _, .accepted ref =>
    if w.isFresh ref then
      some ({ w with refunds := w.refunds ++ [{ reference := ref, amountXAF := totalXAF }] },
        .accepted totalXAF ref)
    else none
  | .locked .., .refused reason => some (w, .caught none reason)
  | .locked totalXAF _, .lost ref reason =>
    if w.isFresh ref then
      some ({ w with refunds := w.refunds ++ [{ reference := ref, amountXAF := totalXAF }] }, .caught (some ref) reason)
    else none
  | .accepted totalXAF ref, .ok =>
    match commitRefund w totalXAF ref with
    | .error err => some (w, .caught (some ref) err.message)
    | .ok w' => some ({ w' with refunds := store ref w'.refunds }, .done .initiated)
  | .accepted _ ref, .fail reason => some (w, .caught (some ref) reason)
  -- one catch block for Campay's refusal and for our own failed transaction
  | .caught _ reason, .ok =>
    some ({ w with order := { w.order with
          refundInitiatedAt := none, refundFailureReason := some reason } },
      .done .failed)
  | .caught .., .fail _ => some (w, .done .failed)
  | _, _ => none

/-! handleRefundWebhook. -/

def refundSettledInput (order : Order) : RecordTransactionInput where
  eventId := some (.refundSettled order.id)
  eventType := .refundIssued
  entries := [
    { account := .refundPayable, amountXAF := order.totalXAF, orderId := some order.id,
      description := some s!"Refund settled — liability cleared for order {order.code}" },
    { account := .campayFloat, amountXAF := -order.totalXAF, orderId := some order.id,
      description := some "Refund funds left platform Campay float" }]

def PaymentStatus.text : PaymentStatus → String
  | .pending => "pending"
  | .processing => "processing"
  | .paid => "paid"
  | .failed => "failed"
  | .refundPending => "refund_pending"
  | .refunded => "refunded"

def commitSettlement (w : World) (order : Order) (now : Time) : Except LedgerError (Option World) :=
  w.bookIf (w.order.paymentStatus == .refundPending)
    { w.order with paymentStatus := .refunded, refundedAt := some now } (refundSettledInput order)

inductive RefundWebhook
  | received (payload : CampayWebhookPayload)
  | first (payload : CampayWebhookPayload) (ref : Reference)
  | found (order : Order) (payload : CampayWebhookPayload) (ref : Reference) (now : Time)
  | settled (ref : Reference) (result : String)
  | done
  deriving Repr

/-- A status that is neither success nor failure is acknowledged before the dedup insert. -/
def RefundWebhook.step (w : World) : RefundWebhook → Reply → Option (World × RefundWebhook)
  | .received payload, .ok =>
    match payload.key with
    | none => some (w, .done)
    | some ref =>
      if payload.status.isSuccess || payload.status.isFailure then
        match markProcessed w.dedup .refund ref payload with
        | (_, false) => some (w, .done)
        | (dedup, true) => some ({ w with dedup }, .first payload ref)
      else some (w, .done)
  | .first payload ref, .ok =>
    if w.order.refundCampayRef = some ref then
      if w.order.paymentStatus = .refundPending then some (w, .found w.order payload ref w.clock)
      else some (w, .settled ref s!"status_mismatch_{w.order.paymentStatus.text}")
    else some (w, .settled ref "no_match")
  | .found order payload ref now, .ok =>
    if payload.status.isSuccess then
      match commitSettlement w order now with
      | .error _ => some (w, .done)
      | .ok none => some (w, .settled ref "refunded")
      | .ok (some w') => some (w', .settled ref "refunded")
    else
      some ({ w with order := { w.order with
            refundCampayRef := none
            refundInitiatedAt := none
            refundFailureReason := some (payload.failure_reason.getD "campay_reported_failure") } },
        .settled ref "settlement_failed")
  | .settled ref result, .ok =>
    some ({ w with dedup := recordResult w.dedup .refund ref result }, .done)
  | .received _, .fail _ | .first .., .fail _ | .found .., .fail _ => some (w, .done)
  -- recordResult is best effort
  | .settled .., .fail _ => some (w, .done)
  | _, _ => none

/-! The machine of one order. -/

inductive OrderThread
  | paid (t : OnPaymentSucceeded)
  | pickUp (t : MarkPickedUp)
  | deliver (t : MarkDelivered)
  | cancelPreOrder (t : VendorCancelPreOrder)
  | fraud (t : ResolveRiderFraud)
  | refund (t : RefundSweep)
  | refundWebhook (t : RefundWebhook)

inductive OrderEvent
  | tick (elapsed : Time)
  | write (x : OrderWrite)
  | paymentSucceeded (payload : PaymentSucceeded)
  | markPickedUp (rider : RiderId) (submittedCode : ℕ)
  | markDelivered (rider : RiderId) (submittedCode : ℕ)
  | vendorCancelPreOrder (vendor : VendorId) (note : Option String)
  | resolveRiderFraud (input : ResolveRiderFraudInput)
  | sweepPendingRefunds
  | refundCallback (payload : CampayWebhookPayload)
  deriving Repr

/-- A callback names a refund that Campay accepted. -/
def orderEvent (w : World) : OrderEvent → Option (World × List OrderThread)
  | .tick elapsed => some ({ w with clock := w.clock + elapsed }, [])
  | .write x => (x.apply w.order w.clock).map fun order => ({ w with order }, [])
  | .paymentSucceeded payload => some (w, [.paid (.called payload)])
  | .markPickedUp rider submittedCode => some (w, [.pickUp (.called rider submittedCode)])
  | .markDelivered rider submittedCode => some (w, [.deliver (.called rider submittedCode)])
  | .vendorCancelPreOrder vendor note => some (w, [.cancelPreOrder (.called vendor note)])
  | .resolveRiderFraud input => some (w, [.fraud (.called input)])
  | .sweepPendingRefunds => some (w, [.refund .called])
  | .refundCallback payload =>
    match payload.reference with
    | none => none
    | some ref =>
      if issued ref w.refunds then
        some ({ w with refunds := report ref payload.status w.refunds }, [.refundWebhook (.received payload)])
      else none

def orderStep (w : World) (t : OrderThread) (e : Reply) : Option (World × List OrderThread) :=
  match t with
  | .paid t => (t.step w e).map fun r => (r.1, [.paid r.2])
  | .pickUp t => (t.step w e).map fun r => (r.1, [.pickUp r.2])
  | .deliver t => (t.step w e).map fun r => (r.1, [.deliver r.2])
  | .cancelPreOrder t => (t.step w e).map fun r => (r.1, [.cancelPreOrder r.2])
  | .fraud t => (t.step w e).map fun r => (r.1, [.fraud r.2])
  | .refund t => (t.step w e).map fun r => (r.1, [.refund r.2])
  | .refundWebhook t => (t.step w e).map fun r => (r.1, [.refundWebhook r.2])

def orderMachine : Machine World OrderThread OrderEvent Reply where
  event := orderEvent
  step := orderStep

end ChopNow
