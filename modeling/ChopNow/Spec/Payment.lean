import Mathlib.Data.Rat.Floor
import ChopNow.Lib.Interleave
import ChopNow.Spec.World

/-! Money in: PaymentsService asks Campay for a collect and receives its
callbacks, OrderPaymentLifecycleService books the payment. Each call is the list
of its program points; a step runs to the next `await`. -/

namespace ChopNow

/-- `Math.round`: halves go up. -/
def mathRound (x : ℚ) : ℤ := ⌊x + 1 / 2⌋

def RIDER_DELIVERY_SHARE : ℚ := 65 / 100

def ACCEPTANCE_TTL_SECONDS : Time := 60

def PRE_ORDER_NOTIFICATION_LEAD_MINUTES : Time := 60

def WEBHOOK_LOCK_TTL_SECONDS : Time := 5

def PAY_LOCK_TTL_SECONDS : Time := 30

/-! onPaymentSucceeded. -/

/-- The payload of PAYMENT_SUCCEEDED. -/
structure PaymentSucceeded where
  providerReference : Reference
  payerPhone : Option Phone
  deriving Repr

def Order.paidCommissionXAF (o : Order) : ℤ := mathRound (o.subtotalXAF * o.commissionRate)

def Order.paidRiderShareXAF (o : Order) : ℤ := mathRound (o.deliveryFeeXAF * RIDER_DELIVERY_SHARE)

def Order.paidPlatformFeeXAF (o : Order) : ℤ :=
  o.paidCommissionXAF + (o.deliveryFeeXAF - o.paidRiderShareXAF)

/-- `dataPatch`, computed from the row `order` that was read at `now`. -/
def Order.paymentPatch (row order : Order) (payload : PaymentSucceeded) (now : Time) : Order :=
  { row with
    status := .confirmed
    paymentStatus := .paid
    paymentReference := some payload.providerReference
    payerPhone := payload.payerPhone <|> order.payerPhone
    paidAt := some now
    commissionXAF := some order.paidCommissionXAF
    riderShareXAF := some order.paidRiderShareXAF
    platformFeeXAF := some order.paidPlatformFeeXAF
    acceptanceDeadlineAt :=
      if order.scheduledFor.isSome then row.acceptanceDeadlineAt
      else some (now + ACCEPTANCE_TTL_SECONDS * 1000) }

def paymentInput (order : Order) : RecordTransactionInput where
  eventId := some (.payment order.id)
  eventType := .paymentReceived
  entries := [
    { account := .campayFloat, amountXAF := order.totalXAF, orderId := some order.id,
      description := some s!"Campay payment for order {order.code}" },
    { account := .customerEscrow, amountXAF := -order.totalXAF, orderId := some order.id,
      description := some "Customer escrow held until delivery" }]

/-- A row write and a journal transaction that commit together. -/
def World.book (w : World) (order : Order) (input : RecordTransactionInput) : Except LedgerError World :=
  match recordTransaction w.ledger w.clock input with
  | .error err => .error err
  | .ok ledger => .ok { w with order, ledger }

/-- The same behind the `where` of an `updateMany`; `none` is a count of zero. -/
def World.bookIf (w : World) (guard : Bool) (order : Order) (input : RecordTransactionInput) :
    Except LedgerError (Option World) :=
  if guard then (w.book order input).map some else .ok none

theorem World.book_ok_iff {w w' : World} {order : Order} {input : RecordTransactionInput} :
    w.book order input = .ok w' ↔ validate input = .ok () ∧ ∃ id, input.eventId = some id ∧
      w' = { w with order, ledger := w.ledger ++ input.rows id w.clock } := by
  unfold World.book
  cases h : recordTransaction w.ledger w.clock input with
  | error err =>
    refine ⟨nofun, fun ⟨hv, id, hid, _⟩ => ?_⟩
    have := (recordTransaction_ok_iff w.ledger _ w.clock input).2 ⟨hv, id, hid, rfl⟩
    rw [h] at this
    cases this
  | ok ledger =>
    obtain ⟨hv, id, hid, rfl⟩ := (recordTransaction_ok_iff _ _ _ _).1 h
    simp [hv, hid, eq_comm]

theorem World.bookIf_some_iff {w w' : World} {guard : Bool} {order : Order} {input : RecordTransactionInput} :
    w.bookIf guard order input = .ok (some w') ↔ guard = true ∧ w.book order input = .ok w' := by
  unfold World.bookIf
  cases guard
  · simp
  · cases w.book order input <;> simp [Except.map]

def commitPayment (w : World) (order : Order) (payload : PaymentSucceeded) (now : Time) :
    Except LedgerError (Option World) :=
  w.bookIf (w.order.paymentStatus == .pending || w.order.paymentStatus == .processing)
    (w.order.paymentPatch order payload now) (paymentInput order)

inductive OnPaymentSucceeded
  | called (payload : PaymentSucceeded)
  | read (payload : PaymentSucceeded) (order : Order) (now : Time)
  | won (job : Job)
  | done
  deriving Repr

/-- What follows the commit up to the next `await`: the events, then the job. -/
def World.announcePaid (w : World) (order : Order) (now : Time) : World × Job :=
  match order.scheduledFor with
  | some scheduledFor =>
    ({ w with emitted := w.emitted ++ [.orderPaid now] },
      .promotePreOrder (scheduledFor - PRE_ORDER_NOTIFICATION_LEAD_MINUTES * 60000))
  | none =>
    ({ w with emitted := w.emitted ++
        [.orderPaid now, .orderCreated order.code order.vendorId order.userId order.paymentMethod] },
      .expireVendorDecision (now + ACCEPTANCE_TTL_SECONDS * 1000))

def OnPaymentSucceeded.step (w : World) : OnPaymentSucceeded → Reply → Option (World × OnPaymentSucceeded)
  | .called payload, .ok =>
    some (w, if w.order.paymentStatus = .paid then .done else .read payload w.order w.clock)
  | .read payload order now, .ok =>
    match commitPayment w order payload now with
    | .error _ => some (w, .done)
    | .ok none => some (w, .done)
    | .ok (some w') =>
      let (w'', job) := w'.announcePaid order now
      some (w'', .won job)
  | .called _, .fail _ | .read .., .fail _ => some (w, .done)
  | .won job, .ok => some ({ w with jobs := w.jobs ++ [job] }, .done)
  -- the scheduler logs and goes on
  | .won _, .fail _ => some (w, .done)
  | _, _ => none

/-! initiateMomo. -/

/-- `^6[5-9]\d{7}$`. -/
def isLocalNumber (input : String) : Bool :=
  match input.toList with
  | '6' :: d :: rest => ('5' ≤ d && d ≤ '9') && rest.length == 7 && rest.all Char.isDigit
  | _ => false

def normalizePhone (input : String) : Phone :=
  if input.startsWith "+" then input
  else if isLocalNumber input then "+237" ++ input
  else "+" ++ input

inductive PayError
  | orderNotFound
  | paymentMethodNotMomo
  | orderNotPayable
  | paymentAlreadyProcessing
  | thrown (reason : String)
  deriving DecidableEq, Repr

def MOMO_METHODS : List PaymentMethod := [.mtnMomo, .orangeMoney]

def PAYABLE_STATUSES : List OrderStatus := [.pending]

/-- The checks on the row that was read. -/
def checkPayable (order : Order) (userId : UserId) : Except PayError Unit :=
  if order.userId ≠ userId then .error .orderNotFound
  else if order.paymentMethod ∉ MOMO_METHODS then .error .paymentMethodNotMomo
  else if order.status ∉ PAYABLE_STATUSES then .error .orderNotPayable
  else if order.paymentStatus = .processing then .error .paymentAlreadyProcessing
  else .ok ()

inductive InitiateMomo
  | called (userId : UserId) (payerPhone : Phone)
  | checked (order : Order) (payerPhone : Phone)
  | locked (order : Order) (payerPhone : Phone)
  | accepted (order : Order) (payerPhone : Phone) (ref : Reference)
  | caught (err : PayError)
  | done (result : Except PayError Reference)

/-- The write after Campay's answer; it has no guard. -/
def Order.markProcessing (row : Order) (ref : Reference) (payerPhone : Phone) : Order :=
  { row with
    paymentReference := some ref
    payerPhone := some payerPhone
    paymentStatus := .processing }

def InitiateMomo.step (w : World) : InitiateMomo → Reply → Option (World × InitiateMomo)
  | .called userId payerPhone, .ok =>
    match checkPayable w.order userId with
    | .error err => some (w, .done (.error err))
    | .ok () => some (w, .checked w.order payerPhone)
  | .checked order payerPhone, .ok =>
    match setNX w.payLock w.clock (PAY_LOCK_TTL_SECONDS * 1000) with
    | none => some (w, .done (.error .paymentAlreadyProcessing))
    | some expiry => some ({ w with payLock := some expiry }, .locked order payerPhone)
  | .called .., .fail reason | .checked .., .fail reason => some (w, .done (.error (.thrown reason)))
  | .locked order payerPhone, .accepted ref =>
    if w.isFresh ref then
      some ({ w with collects := w.collects ++ [{ reference := ref, amountXAF := order.totalXAF }] },
        .accepted order (normalizePhone payerPhone) ref)
    else none
  | .locked .., .refused reason => some (w, .caught (.thrown reason))
  | .locked order _, .lost ref reason =>
    if w.isFresh ref then
      some ({ w with collects := w.collects ++ [{ reference := ref, amountXAF := order.totalXAF }] },
        .caught (.thrown reason))
    else none
  | .accepted _ payerPhone ref, .ok =>
    some ({ w with order := w.order.markProcessing ref payerPhone, collects := store ref w.collects },
      .done (.ok ref))
  | .accepted .., .fail reason => some (w, .caught (.thrown reason))
  | .caught err, .ok => some ({ w with payLock := none }, .done (.error err))
  | .caught _, .fail reason => some (w, .done (.error (.thrown reason)))
  | _, _ => none

/-! handleWebhook of PaymentsService. -/

inductive CollectWebhook
  | received (payload : CampayWebhookPayload)
  | first (payload : CampayWebhookPayload) (ref : Reference)
  | serialised (payload : CampayWebhookPayload) (ref : Reference)
  | failing (status : CampayStatus) (ref : Reference)
  | settled (ref : Reference) (result : String)
  | done
  deriving Repr

/-- What the handler does with the order it found, and the event it may emit. -/
def CollectWebhook.dispatch (payload : CampayWebhookPayload) (ref : Reference) (order : Order) :
    CollectWebhook × Option PaymentSucceeded :=
  match payload.status with
  | .successful =>
    (.settled ref "order_paid_event_emitted",
      some ⟨payload.reference.getD ref, payload.phone_number⟩)
  | .failed | .cancelled =>
    if order.paymentStatus ≠ .paid then (.failing payload.status ref, none)
    else (.settled ref "already_paid_ignored", none)
  | _ => (.settled ref "ignored_non_terminal", none)

def paymentFailedResult (status : CampayStatus) : String :=
  if status = .cancelled then "payment_cancelled" else "payment_failed"

/-- The step also returns the PAYMENT_SUCCEEDED it emits. -/
def CollectWebhook.step (w : World) :
    CollectWebhook → Reply → Option (World × CollectWebhook × Option PaymentSucceeded)
  | .received payload, .ok =>
    match payload.key with
    | none => some (w, .done, none)
    | some ref =>
      match markProcessed w.dedup .collect ref payload with
      | (_, false) => some (w, .done, none)
      | (dedup, true) => some ({ w with dedup }, .first payload ref, none)
  | .first payload ref, .ok =>
    match setNX (w.hookLocks.lookup ref) w.clock (WEBHOOK_LOCK_TTL_SECONDS * 1000) with
    | none => some (w, .done, none)
    | some expiry => some ({ w with hookLocks := (ref, expiry) :: w.hookLocks }, .serialised payload ref, none)
  | .serialised payload ref, .ok =>
    if w.order.code = ref ∨ w.order.paymentReference = some ref then
      let (next, event) := dispatch payload ref w.order
      some (w, next, event)
    else some (w, .settled ref "no_match", none)
  | .failing status ref, .ok =>
    some ({ w with
        order := { w.order with paymentStatus := .failed }
        emitted := w.emitted ++ [.paymentFailed status] },
      .settled ref (paymentFailedResult status), none)
  | .settled ref result, .ok =>
    some ({ w with dedup := recordResult w.dedup .collect ref result }, .done, none)
  | .received _, .fail _ | .first .., .fail _ | .serialised .., .fail _ | .failing .., .fail _ =>
    some (w, .done, none)
  -- recordResult is best effort
  | .settled .., .fail _ => some (w, .done, none)
  | _, _ => none

end ChopNow
