import ChopNow.Spec.Fulfilment

/-! The payment machine of one order: payment attempts, collect callbacks and the
booking they trigger, next to whatever else moves the order. -/

namespace ChopNow

open Interleave

inductive CollectThread
  | momo (t : InitiateMomo)
  | webhook (t : CollectWebhook)
  | paid (t : OnPaymentSucceeded)

/-- `refundQueued` and `refundSettled` are the row writes of the refund services
on a paid order. -/
inductive CollectEvent
  | tick (elapsed : Time)
  | write (x : OrderWrite)
  | refundQueued
  | refundSettled
  | initiateMomo (userId : UserId) (payerPhone : Phone)
  | callback (payload : CampayWebhookPayload)
  deriving Repr

/-- A callback names a collect that Campay accepted. -/
def collectEvent (w : World) : CollectEvent → Option (World × List CollectThread)
  | .tick elapsed => some ({ w with clock := w.clock + elapsed }, [])
  | .write x => (x.apply w.order w.clock).map fun order => ({ w with order }, [])
  | .refundQueued =>
    if w.order.paymentStatus = .paid then
      some ({ w with order := { w.order with status := .cancelled, paymentStatus := .refundPending } }, [])
    else none
  | .refundSettled =>
    if w.order.paymentStatus = .refundPending then
      some ({ w with order := { w.order with paymentStatus := .refunded } }, [])
    else none
  | .initiateMomo userId payerPhone => some (w, [.momo (.called userId payerPhone)])
  | .callback payload =>
    match payload.reference with
    | none => none
    | some ref =>
      if issued ref w.collects then
        some ({ w with collects := report ref payload.status w.collects }, [.webhook (.received payload)])
      else none

/-- The listener of PAYMENT_SUCCEEDED starts beside the handler that emitted it. -/
def collectStep (w : World) (t : CollectThread) (e : Reply) : Option (World × List CollectThread) :=
  match t with
  | .momo t => (t.step w e).map fun r => (r.1, [.momo r.2])
  | .webhook t =>
    (t.step w e).map fun r =>
      (r.1, .webhook r.2.1 :: (r.2.2.map fun payload => .paid (.called payload)).toList)
  | .paid t => (t.step w e).map fun r => (r.1, [.paid r.2])

def collectMachine : Machine World CollectThread CollectEvent Reply where
  event := collectEvent
  step := collectStep

def CollectThread.isDone : CollectThread → Bool
  | .momo (.done _) | .webhook .done | .paid .done => true
  | _ => false

end ChopNow
