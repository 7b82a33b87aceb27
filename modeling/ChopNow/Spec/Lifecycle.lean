import ChopNow.Spec.Collect
import ChopNow.Spec.Creation
import ChopNow.Spec.Refund

/-! Whatever moves an order, statement by statement: the calls that decide a waiting
order, the kitchen's checklist, the promotion of pre-orders and the search for a
rider, next to the payments, rider calls and refunds of the other machines. -/

namespace ChopNow

open Interleave

/-! acceptOrder, refuseOrder, cancelOrder, sweepExpired and expireVendorDecision:
a check on the row that was read, then one update whose `where` repeats the status. -/

inductive RefusalReason
  | itemOutOfStock | closed | tooManyOrders | powerOutage | other
  deriving DecidableEq, Repr

def RefusalReason.text : RefusalReason → String
  | .itemOutOfStock => "ITEM_OUT_OF_STOCK"
  | .closed => "CLOSED"
  | .tooManyOrders => "TOO_MANY_ORDERS"
  | .powerOutage => "POWER_OUTAGE"
  | .other => "OTHER"

/-- `reasonLabel`. -/
def reasonLabel (reason : RefusalReason) : Option String → String
  | none | some "" => reason.text
  | some note => s!"{reason.text}: {note}"

inductive DecisionCall
  | acceptOrder (vendor : VendorId)
  | refuseOrder (vendor : VendorId) (reason : RefusalReason) (note : Option String)
  | cancelOrder (user : UserId)
  | sweepExpired
  | expireVendorDecision
  deriving DecidableEq, Repr

/-- The `data` of the update; a refusal tells its listeners the reason alone. -/
inductive Verdict
  | accepted
  | refused (label reason : String)
  | cancelled
  deriving DecidableEq, Repr

def DecisionCall.verdict : DecisionCall → Verdict
  | .acceptOrder _ => .accepted
  | .refuseOrder _ reason note => .refused (reasonLabel reason note) reason.text
  | .cancelOrder _ => .cancelled
  | .sweepExpired | .expireVendorDecision => .refused EXPIRED_REASON EXPIRED_REASON

/-- Nobody answers to a job: it leaves without an error where a call throws. -/
def DecisionCall.isJob : DecisionCall → Bool
  | .sweepExpired | .expireVendorDecision => true
  | _ => false

/-- `status: { in: [PENDING, CONFIRMED] }`. -/
def Order.awaitsDecision (o : Order) : Bool := o.status == .pending || o.status == .confirmed

/-- Whether to go on with the row that was read. -/
def DecisionCall.check (order : Order) (now : Time) : DecisionCall → Except OrderError Bool
  | .acceptOrder vendor | .refuseOrder vendor _ _ =>
    if order.vendorId ≠ vendor then .error .orderNotFound
    else if order.status ∉ VENDOR_CAN_DECIDE then .error .orderNotPending
    else .ok true
  | .cancelOrder user =>
    if order.userId ≠ user then .error .orderNotFound
    else if order.scheduledFor.isSome then .error .preOrderConsumerCannotCancel
    else if order.status ∉ CONSUMER_CAN_CANCEL then .error .orderNotCancellable
    else .ok true
  | .sweepExpired => .ok (order.awaitsDecision && order.acceptanceDeadlineAt.any (· < now))
  | .expireVendorDecision => .ok order.awaitsDecision

/-- `now` of the update; the sweep takes its own before the query. -/
def DecisionCall.stamp (started clock : Time) : DecisionCall → Time
  | .sweepExpired => started
  | _ => clock

/-- A count of zero. -/
def DecisionCall.raced (call : DecisionCall) : Except OrderError Unit :=
  if call.isJob then .ok () else .error .orderStateChanged

def Order.decide (row : Order) (now : Time) : Verdict → Order
  | .accepted => { row with status := .accepted, acceptedAt := some now }
  | .refused label _ => { row with status := .refused, refusedAt := some now, refusalReason := some label }
  | .cancelled => { row with status := .cancelled, cancelledAt := some now }

/-- The event, from the row that was read. -/
def Verdict.event (order : Order) (now : Time) : Verdict → DomainEvent
  | .accepted => .orderAccepted order.vendorId now
  | .refused _ reason => .orderRefused order.vendorId reason now
  | .cancelled => .orderCancelled order.paymentStatus "consumer"

/-- `decided` of a finished call is the update it made, the row it had read and
its time; the code does not keep it. -/
inductive DecisionPoint
  | called (started : Time)
  | checked (order : Order) (now : Time)
  | decided (order : Order) (now : Time)
  | done (decided : Option (Order × Time)) (result : Except OrderError Unit)

structure DecisionThread where
  call : DecisionCall
  point : DecisionPoint

/-- A call reads the row back for its answer, a job has nothing more to do. -/
def DecisionCall.written (call : DecisionCall) (order : Order) (now : Time) : DecisionPoint :=
  if call.isJob then .done (some (order, now)) (.ok ()) else .decided order now

def DecisionCall.step (w : World) (call : DecisionCall) : DecisionPoint → Reply → Option (World × DecisionPoint)
  | .called started, .ok =>
    match call.check w.order started with
    | .error err => some (w, .done none (.error err))
    | .ok false => some (w, .done none (.ok ()))
    | .ok true => some (w, .checked w.order (call.stamp started w.clock))
  | .checked order now, .ok =>
    if w.order.awaitsDecision then
      some ({ w with
          order := w.order.decide now call.verdict
          emitted := w.emitted ++ [call.verdict.event order now] },
        call.written order now)
    else some (w, .done none call.raced)
  | .decided order now, .ok => some (w, .done (some (order, now)) (.ok ()))
  | .decided order now, .fail reason => some (w, .done (some (order, now)) (.error (.thrown reason)))
  | .called _, .fail reason | .checked .., .fail reason => some (w, .done none (.error (.thrown reason)))
  | _, _ => none

def DecisionThread.step (w : World) (t : DecisionThread) (e : Reply) : Option (World × DecisionThread) :=
  (t.call.step w t.point e).map fun r => (r.1, { t with point := r.2 })

/-! The machine of the decision alone. -/

inductive PromotionCall
  | promotePreOrder
  | sweep (now : Time)
  deriving DecidableEq, Repr

/-- The queue looks at one order, the cron at those due within the lead. -/
def PromotionCall.eligible (order : Order) : PromotionCall → Bool
  | .promotePreOrder =>
    order.status == .confirmed && order.paymentStatus == .paid && order.acceptanceDeadlineAt.isNone
  | .sweep now =>
    order.status == .confirmed && order.paymentStatus == .paid &&
      order.scheduledFor.any (· ≤ now + PRE_ORDER_NOTIFICATION_LEAD_MINUTES * 60000) &&
      order.acceptanceDeadlineAt.isNone

def PromotionCall.now (clock : Time) : PromotionCall → Time
  | .promotePreOrder => clock
  | .sweep now => now

inductive Promotion
  | called (call : PromotionCall)
  | checked (call : PromotionCall) (order : Order) (now : Time)
  | promoted (deadline : Time)
  | done
  deriving Repr

def DomainEvent.created (order : Order) : DomainEvent :=
  .orderCreated order.code order.vendorId order.userId order.paymentMethod

/-- Only the queue chains the expiry of the decision. -/
def Promotion.step (w : World) : Promotion → Reply → Option (World × Promotion)
  | .called call, .ok =>
    some (w, if call.eligible w.order then .checked call w.order (call.now w.clock) else .done)
  | .checked call order now, .ok =>
    let deadline := now + ACCEPTANCE_TTL_SECONDS * 1000
    if w.order.acceptanceDeadlineAt.isNone then
      some ({ w with
          order := { w.order with acceptanceDeadlineAt := some deadline }
          emitted := w.emitted ++ [.created order] },
        if call = .promotePreOrder then .promoted deadline else .done)
    else some (w, .done)
  | .promoted deadline, .ok => some ({ w with jobs := w.jobs ++ [.expireVendorDecision deadline] }, .done)
  | .called _, .fail _ | .checked .., .fail _ | .promoted _, .fail _ => some (w, .done)
  | _, _ => none

/-! setItemPrepared and markOrderReady. -/

structure OrderItem where
  id : ItemId
  preparedAt : Option Time
  deriving DecidableEq, Repr

/-- The order's surroundings with its checklist. -/
structure Kitchen where
  world : World
  items : List OrderItem

def checkPrepPhase (order : Order) (vendor : VendorId) : Except OrderError Unit :=
  if order.vendorId ≠ vendor then .error .orderNotFound
  else if order.status ≠ .accepted ∧ order.status ≠ .inPrep then .error .orderNotInPrepPhase
  else .ok ()

def tickItem (items : List OrderItem) (item : ItemId) (preparedAt : Option Time) : List OrderItem :=
  items.map fun i => if i.id = item then { i with preparedAt } else i

/-- `nextStatus`, from the status that was read. -/
def nextStatus (anyPrepared : Bool) (status : OrderStatus) : OrderStatus :=
  if anyPrepared ∧ status = .accepted then .inPrep
  else if ¬anyPrepared ∧ status = .inPrep then .accepted
  else status

inductive SetItemPrepared
  | called (vendor : VendorId) (item : ItemId) (prepared : Bool)
  | found (order : Order) (item : ItemId) (prepared : Bool)
  | checked (order : Order) (item : ItemId) (preparedAt : Option Time)
  | done (result : Except OrderError OrderStatus)

/-- The order's own update names its id only. -/
def SetItemPrepared.step (k : Kitchen) : SetItemPrepared → Reply → Option (Kitchen × SetItemPrepared)
  | .called vendor item prepared, .ok =>
    match checkPrepPhase k.world.order vendor with
    | .error err => some (k, .done (.error err))
    | .ok () => some (k, .found k.world.order item prepared)
  | .found order item prepared, .ok =>
    if k.items.any fun i => i.id == item then
      some (k, .checked order item (if prepared then some k.world.clock else none))
    else some (k, .done (.error .orderItemNotFound))
  | .checked order item preparedAt, .ok =>
    let items := tickItem k.items item preparedAt
    let status := nextStatus (items.any fun i => i.preparedAt.isSome) order.status
    let row := if status = order.status then k.world.order else { k.world.order with status }
    some ({ k with world := { k.world with order := row }, items }, .done (.ok status))
  | .called .., .fail reason | .found .., .fail reason | .checked .., .fail reason =>
    some (k, .done (.error (.thrown reason)))
  | _, _ => none

/-- `items` is what was read. -/
inductive MarkOrderReady
  | called (vendor : VendorId)
  | found (order : Order)
  | checked (order : Order) (items : List OrderItem) (now : Time)
  | done (result : Except OrderError Unit)

def MarkOrderReady.step (k : Kitchen) : MarkOrderReady → Reply → Option (Kitchen × MarkOrderReady)
  | .called vendor, .ok =>
    match checkPrepPhase k.world.order vendor with
    | .error err => some (k, .done (.error err))
    | .ok () => some (k, .found k.world.order)
  | .found order, .ok =>
    if k.items.isEmpty || k.items.any fun i => i.preparedAt.isNone then
      some (k, .done (.error .itemsNotAllPrepared))
    else some (k, .checked order k.items k.world.clock)
  | .checked order _ now, .ok =>
    if k.world.order.status = .accepted ∨ k.world.order.status = .inPrep then
      some ({ k with world := { k.world with
          order := { k.world.order with status := .readyPickup, preparedAt := some now }
          emitted := k.world.emitted ++ [.orderReady order.vendorId now] } },
        .done (.ok ()))
    else some (k, .done (.error .orderStateChanged))
  | .called _, .fail reason | .found _, .fail reason | .checked .., .fail reason =>
    some (k, .done (.error (.thrown reason)))
  | _, _ => none

/-! tryDispatch of DispatchService. -/

def RETRY_INTERVAL_MS : Time := 30000

def MAX_RETRIES : ℕ := 10

def NO_RIDER_AVAILABLE_REASON : String := "NO_RIDER_AVAILABLE"

def TERMINABLE : List OrderStatus := [.accepted, .inPrep, .readyPickup]

/-- What a step is told: a reply, or the first row of the query for riders near by. -/
inductive Answer
  | reply (e : Reply)
  | candidate (rider : Option RiderId)
  deriving Repr

/-- The update of expireForNoRider, computed from the row `order` that was read. -/
def Order.expireForNoRider (row order : Order) (now : Time) : Order :=
  { row with
    status := .expired
    refusalReason := some NO_RIDER_AVAILABLE_REASON
    cancelledAt := some now
    paymentStatus := if order.paymentStatus = .paid then .refunded else row.paymentStatus }

/-- The attempt that starts at `fireAt`; a retry waits in its queue until then. -/
inductive TryDispatch
  | called (fireAt : Time) (attempt : ℕ)
  | dispatchOrder (attempt : ℕ)
  | searching (attempt : ℕ)
  | chosen (attempt : ℕ) (rider : RiderId) (now : Time)
  | noRider (attempt : ℕ)
  | expireForNoRider
  | expiring (order : Order) (now : Time)
  | done
  deriving Repr

def TryDispatch.step (w : World) : TryDispatch → Answer → Option (World × TryDispatch)
  | .called fireAt attempt, .reply .ok =>
    if w.clock < fireAt then none
    else if w.order.riderId.isSome ∨ w.order.status = .cancelled ∨ w.order.status = .expired then some (w, .done)
    else some (w, .dispatchOrder attempt)
  -- an order that got its rider in between counts as a round without one
  | .dispatchOrder attempt, .reply .ok =>
    some (w, if w.order.riderId.isSome then .noRider attempt else .searching attempt)
  | .searching attempt, .candidate none => some (w, .noRider attempt)
  | .searching attempt, .candidate (some rider) => some (w, .chosen attempt rider w.clock)
  | .chosen attempt rider now, .reply .ok =>
    if w.order.riderId.isNone then
      some ({ w with order := { w.order with riderId := some rider, assignedAt := some now } }, .done)
    else some (w, .noRider attempt)
  | .noRider attempt, .reply .ok =>
    some (w, if attempt < MAX_RETRIES - 1 then .called (w.clock + RETRY_INTERVAL_MS) (attempt + 1)
      else .expireForNoRider)
  | .expireForNoRider, .reply .ok =>
    some (w, if w.order.status ∈ TERMINABLE then .expiring w.order w.clock else .done)
  | .expiring order now, .reply .ok =>
    some ({ w with
        order := w.order.expireForNoRider order now
        emitted := w.emitted ++
          [.orderExpired order.userId NO_RIDER_AVAILABLE_REASON (order.paymentStatus == .paid)] },
      .done)
  | .called .., .reply (.fail _) | .dispatchOrder _, .reply (.fail _) | .searching _, .reply (.fail _)
  | .chosen .., .reply (.fail _) | .noRider _, .reply (.fail _) | .expireForNoRider, .reply (.fail _)
  | .expiring .., .reply (.fail _) => some (w, .done)
  | _, _ => none

/-! The machine of the lifecycle. -/

inductive LifecycleThread
  | decide (t : DecisionThread)
  | promote (t : Promotion)
  | prepare (t : SetItemPrepared)
  | ready (t : MarkOrderReady)
  | dispatch (t : TryDispatch)
  | order (t : OrderThread)
  | collect (t : CollectThread)

inductive LifecycleEvent
  | tick (elapsed : Time)
  | decide (call : DecisionCall)
  | promotePreOrder
  | promotionSweep
  | setItemPrepared (vendor : VendorId) (item : ItemId) (prepared : Bool)
  | markOrderReady (vendor : VendorId)
  | initiateMomo (userId : UserId) (payerPhone : Phone)
  | collectCallback (payload : CampayWebhookPayload)
  | paymentSucceeded (payload : PaymentSucceeded)
  | markPickedUp (rider : RiderId) (submittedCode : ℕ)
  | markDelivered (rider : RiderId) (submittedCode : ℕ)
  | vendorCancelPreOrder (vendor : VendorId) (note : Option String)
  | resolveRiderFraud (input : ResolveRiderFraudInput)
  | sweepPendingRefunds
  | refundCallback (payload : CampayWebhookPayload)
  deriving Repr

/-- The step of a machine that knows the order's surroundings only. -/
def Kitchen.lift {τ : Type} (k : Kitchen) (wrap : τ → LifecycleThread) (r : Option (World × List τ)) :
    Option (Kitchen × List LifecycleThread) :=
  r.map fun r => ({ k with world := r.1 }, r.2.map wrap)

def lifecycleEvent (k : Kitchen) : LifecycleEvent → Option (Kitchen × List LifecycleThread)
  | .tick elapsed => some ({ k with world := { k.world with clock := k.world.clock + elapsed } }, [])
  | .decide call => some (k, [.decide ⟨call, .called k.world.clock⟩])
  | .promotePreOrder => some (k, [.promote (.called .promotePreOrder)])
  | .promotionSweep => some (k, [.promote (.called (.sweep k.world.clock))])
  | .setItemPrepared vendor item prepared => some (k, [.prepare (.called vendor item prepared)])
  | .markOrderReady vendor => some (k, [.ready (.called vendor)])
  | .initiateMomo userId payerPhone => some (k, [.collect (.momo (.called userId payerPhone))])
  | .collectCallback payload => k.lift .collect (collectEvent k.world (.callback payload))
  | .paymentSucceeded payload => some (k, [.collect (.paid (.called payload))])
  | .markPickedUp rider submittedCode => some (k, [.order (.pickUp (.called rider submittedCode))])
  | .markDelivered rider submittedCode => some (k, [.order (.deliver (.called rider submittedCode))])
  | .vendorCancelPreOrder vendor note => some (k, [.order (.cancelPreOrder (.called vendor note))])
  | .resolveRiderFraud input => some (k, [.order (.fraud (.called input))])
  | .sweepPendingRefunds => some (k, [.order (.refund .called)])
  | .refundCallback payload => k.lift .order (orderEvent k.world (.refundCallback payload))

/-- The listener of ORDER_ACCEPTED starts beside the call that emitted it. -/
def DecisionThread.listeners : DecisionThread → List LifecycleThread
  | ⟨.acceptOrder _, .decided ..⟩ => [.dispatch (.called 0 0)]
  | _ => []

def lifecycleStep (k : Kitchen) (t : LifecycleThread) (a : Answer) : Option (Kitchen × List LifecycleThread) :=
  match t, a with
  | .decide t, .reply e =>
    (t.step k.world e).map fun r => ({ k with world := r.1 }, .decide r.2 :: r.2.listeners)
  | .promote t, .reply e => k.lift .promote ((t.step k.world e).map fun r => (r.1, [r.2]))
  | .prepare t, .reply e => (t.step k e).map fun r => (r.1, [.prepare r.2])
  | .ready t, .reply e => (t.step k e).map fun r => (r.1, [.ready r.2])
  | .dispatch t, a => k.lift .dispatch ((t.step k.world a).map fun r => (r.1, [r.2]))
  | .order t, .reply e => k.lift .order (orderStep k.world t e)
  | .collect t, .reply e => k.lift .collect (collectStep k.world t e)
  | _, _ => none

def lifecycleMachine : Machine Kitchen LifecycleThread LifecycleEvent Answer where
  event := lifecycleEvent
  step := lifecycleStep

/-! Where a run starts: an order that createOrder has just committed. -/

structure Order.Fresh (o : Order) : Prop extends Order.Placed o where
  riderShareXAF : o.riderShareXAF = none
  platformFeeXAF : o.platformFeeXAF = none
  paidAt : o.paidAt = none
  acceptanceDeadlineAt : o.acceptanceDeadlineAt = none
  refundInitiatedAt : o.refundInitiatedAt = none
  refundCampayRef : o.refundCampayRef = none

/-- Nobody has touched the order yet. -/
def Kitchen.start (order : Order) (items : List OrderItem) : Kitchen where
  world := .start order
  items := items

theorem exampleOrder_fresh : exampleOrder.Fresh :=
  ⟨⟨rfl, rfl, rfl, by decide, by decide, rfl⟩, rfl, rfl, rfl, rfl, rfl, rfl⟩

/-- A fresh pre-order is as fresh as the order that is due at once. -/
theorem Order.Fresh.scheduled {o : Order} (h : o.Fresh) (scheduledFor : Time) :
    Order.Fresh { o with scheduledFor := some scheduledFor } :=
  ⟨⟨h.status, h.paymentStatus, h.commissionXAF, h.subtotal_min, h.fee_min, h.total⟩, h.riderShareXAF,
    h.platformFeeXAF, h.paidAt, h.acceptanceDeadlineAt, h.refundInitiatedAt, h.refundCampayRef⟩

/-- The customer has asked to pay the example order: Campay's reference is 7. -/
def payingExample : List (Act LifecycleEvent Answer) :=
  [.event (.initiateMomo 1 "+237670000001"), .step 0 (.reply .ok), .step 0 (.reply .ok),
    .step 0 (.reply (.accepted 7)), .step 0 (.reply .ok)]

/-- Campay reports that the payment arrived, and it is booked. -/
def examplePaid : List (Act LifecycleEvent Answer) :=
  [.event (.collectCallback { status := .successful, reference := some 7 }), .step 0 (.reply .ok),
    .step 0 (.reply .ok), .step 0 (.reply .ok), .step 1 (.reply .ok), .step 0 (.reply .ok)]

end ChopNow
