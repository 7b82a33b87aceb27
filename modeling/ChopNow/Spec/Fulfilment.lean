import ChopNow.Spec.Payment

/-! From the kitchen to the door: RidersService.markPickedUp and markDelivered,
OrderVendorActionsService.vendorCancelPreOrder and
AdminRiderFraudService.resolveRiderFraud, each a read followed by one statement or
transaction. The other writers of `status` are single guarded statements. The
rider's own row is not here: the fraud transaction's last step touches nothing else. -/

namespace ChopNow

def VENDOR_CAN_DECIDE : List OrderStatus := [.pending, .confirmed]

def CONSUMER_CAN_CANCEL : List OrderStatus := [.pending, .confirmed]

/-- `OrdersExpiryService.EXPIRED_REASON`. -/
def EXPIRED_REASON : String := "EXPIRED_NO_VENDOR_RESPONSE"

/-- The calls that come down to one guarded write of the order row. A
setItemPrepared call is taken whole, with the checklist's answer. -/
inductive OrderWrite
  | acceptOrder
  | refuseOrder (reason : String)
  | cancelOrder
  | expireVendorDecision
  | promotePreOrder
  | setItemPrepared (anyPrepared : Bool)
  | markOrderReady
  | assignRider (rider : RiderId)
  deriving Repr

def OrderWrite.apply (o : Order) (now : Time) : OrderWrite → Option Order
  | .acceptOrder =>
    if o.status ∈ VENDOR_CAN_DECIDE then some { o with status := .accepted, acceptedAt := some now } else none
  | .refuseOrder reason =>
    if o.status ∈ VENDOR_CAN_DECIDE then
      some { o with status := .refused, refusedAt := some now, refusalReason := some reason }
    else none
  | .cancelOrder =>
    if o.scheduledFor.isNone ∧ o.status ∈ CONSUMER_CAN_CANCEL then
      some { o with status := .cancelled, cancelledAt := some now }
    else none
  | .expireVendorDecision =>
    if o.status ∈ VENDOR_CAN_DECIDE then
      some { o with status := .refused, refusedAt := some now, refusalReason := some EXPIRED_REASON }
    else none
  | .promotePreOrder =>
    if o.status = .confirmed ∧ o.paymentStatus = .paid ∧ o.acceptanceDeadlineAt.isNone then
      some { o with acceptanceDeadlineAt := some (now + ACCEPTANCE_TTL_SECONDS * 1000) }
    else none
  | .setItemPrepared anyPrepared =>
    if anyPrepared ∧ o.status = .accepted then some { o with status := .inPrep }
    else if ¬anyPrepared ∧ o.status = .inPrep then some { o with status := .accepted }
    else none
  | .markOrderReady =>
    if o.status = .accepted ∨ o.status = .inPrep then
      some { o with status := .readyPickup, preparedAt := some now }
    else none
  | .assignRider rider =>
    if o.riderId.isNone then some { o with riderId := some rider, assignedAt := some now } else none

inductive OrderError
  | orderNotFound
  | orderNotPending
  | preOrderConsumerCannotCancel
  | orderNotCancellable
  | orderNotInPrepPhase
  | orderItemNotFound
  | itemsNotAllPrepared
  | orderNotPickupable
  | wrongPickupCode
  | orderNotInDelivery
  | wrongDeliveryCode
  | orderMissingFinanceSnapshot
  | orderStateChanged
  | notAPreOrder
  | preOrderNotInCancellableState
  | penaltyExists
  | orderNotInPickup
  | orderHasNoRider
  | ledger (err : LedgerError)
  | thrown (reason : String)
  deriving DecidableEq, Repr

/-! markPickedUp. -/

def PICKUPABLE : List OrderStatus := [.accepted, .inPrep, .readyPickup]

def checkPickup (order : Order) (rider : RiderId) (submittedCode : ℕ) : Except OrderError Unit :=
  if order.riderId ≠ some rider then .error .orderNotFound
  else if order.status ∉ PICKUPABLE then .error .orderNotPickupable
  else if submittedCode ≠ order.pickupCode then .error .wrongPickupCode
  else .ok ()

inductive MarkPickedUp
  | called (rider : RiderId) (submittedCode : ℕ)
  | checked
  | done (result : Except OrderError Unit)

/-- The write names the order's id only. -/
def MarkPickedUp.step (w : World) : MarkPickedUp → Reply → Option (World × MarkPickedUp)
  | .called rider submittedCode, .ok =>
    match checkPickup w.order rider submittedCode with
    | .error err => some (w, .done (.error err))
    | .ok () => some (w, .checked)
  | .checked, .ok =>
    some ({ w with order := { w.order with status := .pickedUp, pickedUpAt := some w.clock } }, .done (.ok ()))
  | .called .., .fail reason | .checked, .fail reason => some (w, .done (.error (.thrown reason)))
  | _, _ => none

/-! markDelivered. -/

structure Snapshot where
  commissionXAF : ℤ
  riderShareXAF : ℤ
  platformFeeXAF : ℤ
  deriving DecidableEq, Repr

def Order.snapshot (o : Order) : Option Snapshot :=
  match o.commissionXAF, o.riderShareXAF, o.platformFeeXAF with
  | some commissionXAF, some riderShareXAF, some platformFeeXAF =>
    some { commissionXAF, riderShareXAF, platformFeeXAF }
  | _, _, _ => none

def checkDelivery (order : Order) (rider : RiderId) (submittedCode : ℕ) : Except OrderError Snapshot :=
  if order.riderId ≠ some rider then .error .orderNotFound
  else if order.status ≠ .pickedUp then .error .orderNotInDelivery
  else if submittedCode ≠ order.deliveryCode then .error .wrongDeliveryCode
  else
    match order.snapshot with
    | none => .error .orderMissingFinanceSnapshot
    | some snapshot => .ok snapshot

theorem checkDelivery_ok_iff {order : Order} {rider : RiderId} {submittedCode : ℕ} {snapshot : Snapshot} :
    checkDelivery order rider submittedCode = .ok snapshot ↔
      order.riderId = some rider ∧ order.status = .pickedUp ∧ submittedCode = order.deliveryCode ∧
        order.snapshot = some snapshot := by
  unfold checkDelivery
  split
  · simp_all
  split
  · simp_all
  split
  · simp_all
  split <;> simp_all

def deliveryInput (order : Order) (snapshot : Snapshot) : RecordTransactionInput where
  eventId := some (.delivery order.id)
  eventType := .orderDelivered
  entries := [
    { account := .customerEscrow, amountXAF := order.totalXAF, orderId := some order.id,
      description := some s!"Escrow released on delivery of {order.code}" },
    { account := .vendorPayable, amountXAF := -(order.subtotalXAF - snapshot.commissionXAF),
      orderId := some order.id, vendorId := some order.vendorId,
      description := some "Vendor share of delivered order" },
    { account := .riderPayable, amountXAF := -snapshot.riderShareXAF, orderId := some order.id,
      riderId := order.riderId, description := some "Rider share of delivered order" },
    { account := .platformRevenue, amountXAF := -snapshot.platformFeeXAF, orderId := some order.id,
      description := some "Platform fee (commission + delivery margin)" }]

/-- A transaction whose count of zero is an error. -/
def World.bookOrThrow (w : World) (guard : Bool) (order : Order) (input : RecordTransactionInput) :
    Except OrderError World :=
  match w.bookIf guard order input with
  | .error err => .error (.ledger err)
  | .ok none => .error .orderStateChanged
  | .ok (some w') => .ok w'

theorem World.bookOrThrow_ok_iff {w w' : World} {guard : Bool} {order : Order} {input : RecordTransactionInput} :
    w.bookOrThrow guard order input = .ok w' ↔ guard = true ∧ w.book order input = .ok w' := by
  rw [← World.bookIf_some_iff]
  unfold World.bookOrThrow
  split <;> simp_all

def commitDelivery (w : World) (order : Order) (snapshot : Snapshot) (now : Time) : Except OrderError World :=
  w.bookOrThrow (w.order.status == .pickedUp)
    { w.order with status := .delivered, deliveredAt := some now } (deliveryInput order snapshot)

/-- The whole call with nothing in between. -/
def markDelivered (w : World) (rider : RiderId) (submittedCode : ℕ) : Except OrderError World :=
  match checkDelivery w.order rider submittedCode with
  | .error err => .error err
  | .ok snapshot => commitDelivery w w.order snapshot w.clock

inductive MarkDelivered
  | called (rider : RiderId) (submittedCode : ℕ)
  | checked (order : Order) (snapshot : Snapshot) (now : Time)
  | done (result : Except OrderError Unit)

def MarkDelivered.step (w : World) : MarkDelivered → Reply → Option (World × MarkDelivered)
  | .called rider submittedCode, .ok =>
    match checkDelivery w.order rider submittedCode with
    | .error err => some (w, .done (.error err))
    | .ok snapshot => some (w, .checked w.order snapshot w.clock)
  | .checked order snapshot now, .ok =>
    match commitDelivery w order snapshot now with
    | .error err => some (w, .done (.error err))
    | .ok w' => some (w', .done (.ok ()))
  | .called .., .fail reason | .checked .., .fail reason => some (w, .done (.error (.thrown reason)))
  | _, _ => none

/-! vendorCancelPreOrder. -/

def PRE_ORDER_PENALTY_RATE : ℚ := 1 / 10

def PRE_ORDER_PENALTY_ROUND_TO_XAF : ℤ := 50

def preOrderPenaltyXAF (totalXAF : ℤ) : ℤ :=
  ⌊(totalXAF * PRE_ORDER_PENALTY_RATE) / PRE_ORDER_PENALTY_ROUND_TO_XAF⌋ * PRE_ORDER_PENALTY_ROUND_TO_XAF

def checkPreOrderCancel (order : Order) (vendor : VendorId) : Except OrderError Unit :=
  if order.vendorId ≠ vendor then .error .orderNotFound
  else if order.scheduledFor.isNone then .error .notAPreOrder
  else if order.status ≠ .accepted ∧ order.status ≠ .inPrep then .error .preOrderNotInCancellableState
  else .ok ()

/-- An order has at most one penalty, so its id serves as the penalty's. -/
def penaltyInput (order : Order) (penaltyXAF : ℤ) : RecordTransactionInput where
  eventId := some (.penalty order.id)
  eventType := .penaltyApplied
  entries := [
    { account := .vendorPayable, amountXAF := penaltyXAF, vendorId := some order.vendorId,
      orderId := some order.id,
      description :=
        some s!"Pre-order cancellation penalty (10% of {order.totalXAF} FCFA, rounded down to 50)" },
    { account := .platformRevenue, amountXAF := -penaltyXAF, vendorId := some order.vendorId,
      orderId := some order.id,
      description := some "Pre-order cancellation penalty — platform revenue" }]

def Order.cancelPreOrder (row : Order) (note : Option String) (now : Time) : Order :=
  { row with
    status := .cancelled
    cancelledAt := some now
    refusalReason := some (match note with
      | none | some "" => "VENDOR_PREORDER_CANCEL"
      | some note => s!"VENDOR_PREORDER_CANCEL: {note}")
    paymentStatus := .refundPending }

def commitPreOrderCancel (w : World) (order : Order) (note : Option String) (now : Time) : Except OrderError World :=
  if w.order.status ≠ .accepted ∧ w.order.status ≠ .inPrep then .error .orderStateChanged
  else if w.penalty.isSome then .error .penaltyExists
  else
    let penaltyXAF := preOrderPenaltyXAF order.totalXAF
    { w with penalty := some ⟨order.id, order.vendorId, order.id, penaltyXAF⟩ }.bookOrThrow true
      (w.order.cancelPreOrder note now) (penaltyInput order penaltyXAF)

inductive VendorCancelPreOrder
  | called (vendor : VendorId) (note : Option String)
  | checked (order : Order) (note : Option String) (now : Time)
  | done (result : Except OrderError Unit)

def VendorCancelPreOrder.step (w : World) : VendorCancelPreOrder → Reply → Option (World × VendorCancelPreOrder)
  | .called vendor note, .ok =>
    match checkPreOrderCancel w.order vendor with
    | .error err => some (w, .done (.error err))
    | .ok () => some (w, .checked w.order note w.clock)
  | .checked order note now, .ok =>
    match commitPreOrderCancel w order note now with
    | .error err => some (w, .done (.error err))
    | .ok w' =>
      some ({ w' with emitted := w'.emitted ++ [.orderCancelled .refundPending "vendor_preorder"] },
        .done (.ok ()))
  | .called .., .fail reason | .checked .., .fail reason => some (w, .done (.error (.thrown reason)))
  | _, _ => none

/-! resolveRiderFraud. -/

structure ResolveRiderFraudInput where
  vendorCompensation : Bool
  consumerRefund : Bool
  note : String
  deriving Repr

def checkRiderFraud (order : Order) (input : ResolveRiderFraudInput) : Except OrderError Unit :=
  if order.status ≠ .pickedUp then .error .orderNotInPickup
  else if order.riderId.isNone then .error .orderHasNoRider
  else if input.vendorCompensation ∧ order.commissionXAF.isNone then .error .orderMissingFinanceSnapshot
  else .ok ()

def vendorCompensationXAF (order : Order) (input : ResolveRiderFraudInput) : ℤ :=
  if input.vendorCompensation then order.subtotalXAF - order.commissionXAF.getD 0 else 0

def compensationInput (order : Order) (compensationXAF : ℤ) : RecordTransactionInput where
  eventId := some (.riderFraudVendorCompensation order.id)
  eventType := .adjustment
  entries := [
    { account := .platformRevenue, amountXAF := compensationXAF, vendorId := some order.vendorId,
      orderId := some order.id,
      description :=
        some s!"Rider fraud — platform compensates vendor for order {order.code} (rider stole food)" },
    { account := .vendorPayable, amountXAF := -compensationXAF, vendorId := some order.vendorId,
      orderId := some order.id,
      description := some s!"Vendor compensation for rider-stolen order {order.code}" }]

/-- The refund is queued on the payment status that was read. -/
def Order.cancelForFraud (row order : Order) (input : ResolveRiderFraudInput) (now : Time) : Order :=
  { row with
    status := .cancelled
    cancelledAt := some now
    refusalReason := some s!"RIDER_FRAUD: {input.note}"
    paymentStatus :=
      if input.consumerRefund ∧ order.paymentStatus = .paid then .refundPending else row.paymentStatus }

def commitRiderFraud (w : World) (order : Order) (input : ResolveRiderFraudInput) (now : Time) :
    Except OrderError World :=
  if vendorCompensationXAF order input > 0 then
    w.bookOrThrow (w.order.status == .pickedUp) (w.order.cancelForFraud order input now)
      (compensationInput order (vendorCompensationXAF order input))
  else if w.order.status = .pickedUp then
    .ok { w with order := w.order.cancelForFraud order input now }
  else .error .orderStateChanged

inductive ResolveRiderFraud
  | called (input : ResolveRiderFraudInput)
  | checked (order : Order) (input : ResolveRiderFraudInput) (now : Time)
  | done (result : Except OrderError Unit)

def ResolveRiderFraud.step (w : World) : ResolveRiderFraud → Reply → Option (World × ResolveRiderFraud)
  | .called input, .ok =>
    match checkRiderFraud w.order input with
    | .error err => some (w, .done (.error err))
    | .ok () => some (w, .checked w.order input w.clock)
  | .checked order input now, .ok =>
    match commitRiderFraud w order input now with
    | .error err => some (w, .done (.error err))
    | .ok w' => some (w', .done (.ok ()))
  | .called .., .fail reason | .checked .., .fail reason => some (w, .done (.error (.thrown reason)))
  | _, _ => none

end ChopNow
