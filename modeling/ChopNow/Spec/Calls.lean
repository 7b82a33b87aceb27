import ChopNow.Spec.Finance

/-! The calls of the services around the books, one after the other: what a call hands to its
statement or transaction is what it has just read. -/

namespace ChopNow

open Interleave

/-- A whole call. `serve` is one that comes down to a guarded write of the order's row. -/
inductive BooksCall
  | tick (elapsed : Time)
  | onPaymentSucceeded (order : OrderId) (payload : PaymentSucceeded)
  | serve (order : OrderId) (x : OrderWrite)
  | markPickedUp (order : OrderId) (rider : RiderId) (submittedCode : ℕ)
  | markDelivered (order : OrderId) (rider : RiderId) (submittedCode : ℕ)
  | vendorCancelPreOrder (order : OrderId) (vendor : VendorId) (note : Option String)
  | resolveRiderFraud (order : OrderId) (input : ResolveRiderFraudInput) (action : RiderFraudAction)
  | tryRefund (order : OrderId) (ref : Reference)
  | handleRefundWebhook (order : OrderId)
  | payout (id : PayoutId) (x : PayoutWrite)
  | tryScheduleVendorPayout (vendor : VendorId) (momoPhone : Phone) (elapsed : Time)
  | tryScheduleRiderPayout (rider : RiderId) (momoPhone : Phone) (elapsed : Time)
  | approveCashoutRequest (request : RequestId) (adminUserId : UserId)

/-- The transaction of a call on an order; a call whose checks fail has none. -/
def BooksCall.transaction (b : Books) : BooksCall → Option OrderTx
  | .onPaymentSucceeded id payload => (b.orderRow id).bind fun order =>
    if order.paymentStatus = .paid then none else some (.payment order payload b.clock)
  | .markDelivered id rider submittedCode => (b.orderRow id).bind fun order =>
    match checkDelivery order rider submittedCode with
    | .error _ => none
    | .ok snapshot => some (.delivery order snapshot b.clock)
  | .vendorCancelPreOrder id vendor note => (b.orderRow id).bind fun order =>
    match checkPreOrderCancel order vendor with
    | .error _ => none
    | .ok () => some (.preOrderCancel order note b.clock)
  | .resolveRiderFraud id input action => (b.orderRow id).bind fun order =>
    match checkRiderFraud order input with
    | .error _ => none
    | .ok () => some (.riderFraud order input action b.clock)
  | .tryRefund id ref => (b.orderRow id).bind fun order =>
    if order.refundDue then some (.refundInitiated id order.totalXAF ref) else none
  | .handleRefundWebhook id => (b.orderRow id).map fun order => .refundSettled order b.clock
  | _ => none

def BooksCall.event (b : Books) : BooksCall → Option BooksEvent
  | .tick elapsed => some (.tick elapsed)
  | .serve id x => some (.serve id (.write x))
  | .markPickedUp id rider submittedCode => (b.orderRow id).bind fun order =>
    match checkPickup order rider submittedCode with
    | .error _ => none
    | .ok () => some (.serve id .pickUp)
  | .payout id x => some (.payout id x)
  | .tryScheduleVendorPayout vendor momoPhone elapsed => some (.tryScheduleVendorPayout vendor momoPhone elapsed)
  | .tryScheduleRiderPayout rider momoPhone elapsed => some (.tryScheduleRiderPayout rider momoPhone elapsed)
  | .approveCashoutRequest request adminUserId => some (.approveCashoutRequest request adminUserId)
  | call => (call.transaction b).map .order

def callsMachine : Machine Books Scheduler BooksCall Reply where
  event b call := (call.event b).map (booksEvent b)
  step := booksMachine.step

/-- A call begins when every scheduler has finished. -/
def wholeCalls : Guard Books Scheduler BooksCall Reply := fun _ us m =>
  match m with
  | .event _ => ∀ u ∈ us, u.isDone = true
  | .step .. => True

def wholeCallsB (_ : Books) (us : List Scheduler) (m : Move Scheduler BooksCall Reply) : Bool :=
  match m with
  | .event _ => us.all Scheduler.isDone
  | .step .. => true

theorem wholeCalls_of_bool {b : Books} {us : List Scheduler} {m : Move Scheduler BooksCall Reply}
    (h : wholeCallsB b us m = true) : wholeCalls b us m := by
  cases m with
  | event call => exact List.all_eq_true.1 h
  | step t e => trivial

end ChopNow
