import ChopNow.Spec.Ledger

/-! One order and what its services share: its row, the journal, the dedup table,
the Redis keys and what Campay has accepted for it. -/

namespace ChopNow

/-- A collect, transfer or refund that Campay accepted. `reported` lists the
statuses of its callbacks, `stored` says that the caller wrote the reference to
its row; the code reads neither. -/
structure CampayTxn where
  reference : Reference
  amountXAF : ℤ
  reported : List CampayStatus := []
  stored : Bool := false
  deriving Repr

/-- Campay has said that this money did not move. -/
def CampayTxn.reportedFailed (t : CampayTxn) : Bool := t.reported.any CampayStatus.isFailure

/-- A callback for `ref` arrives. -/
def CampayTxn.hear (ref : Reference) (status : CampayStatus) (t : CampayTxn) : CampayTxn :=
  if t.reference = ref then { t with reported := status :: t.reported } else t

/-- `ref` reaches its row. -/
def CampayTxn.keep (ref : Reference) (t : CampayTxn) : CampayTxn :=
  if t.reference = ref then { t with stored := true } else t

def report (ref : Reference) (status : CampayStatus) (txns : List CampayTxn) : List CampayTxn :=
  txns.map (CampayTxn.hear ref status)

def store (ref : Reference) (txns : List CampayTxn) : List CampayTxn :=
  txns.map (CampayTxn.keep ref)

/-- Campay issued `ref` for one of these. -/
def issued (ref : Reference) (txns : List CampayTxn) : Bool := txns.any fun t => t.reference == ref

/-- What the outside answers to a statement (it lands, or throws and writes
nothing) or to a Campay call: `lost` is one that Campay took and whose answer never came. -/
inductive Reply
  | ok
  | fail (reason : String)
  | accepted (ref : Reference)
  | refused (reason : String)
  | lost (ref : Reference) (reason : String)
  deriving Repr

/-- `orderExpired` is the ORDER_CANCELLED of expireForNoRider, whose payload differs. -/
inductive DomainEvent
  | orderPaid (paidAt : Time)
  | orderCreated (code : Reference) (vendorId : VendorId) (userId : UserId) (paymentMethod : PaymentMethod)
  | orderAccepted (vendorId : VendorId) (acceptedAt : Time)
  | orderRefused (vendorId : VendorId) (reason : String) (refusedAt : Time)
  | orderReady (vendorId : VendorId) (preparedAt : Time)
  | orderCancelled (paymentStatus : PaymentStatus) (cancelledBy : String)
  | orderExpired (userId : UserId) (reason : String) (refundRequired : Bool)
  | paymentFailed (reason : CampayStatus)
  deriving Repr

/-- Delayed jobs of OrderLifecycleScheduler. -/
inductive Job
  | promotePreOrder (fireAt : Time)
  | expireVendorDecision (fireAt : Time)
  deriving Repr

structure World where
  order : Order
  penalty : Option VendorPenalty
  ledger : Ledger
  dedup : List CampayWebhookEvent
  payLock : Option Time
  hookLocks : List (Reference × Time)
  collects : List CampayTxn
  refunds : List CampayTxn
  clock : Time
  emitted : List DomainEvent
  jobs : List Job
  refundsEnabled : Bool

/-- Nothing has happened around the order yet. -/
def World.start (order : Order) : World where
  order := order
  penalty := none
  ledger := []
  dedup := []
  payLock := none
  hookLocks := []
  collects := []
  refunds := []
  clock := 0
  emitted := []
  jobs := []
  refundsEnabled := true

/-- An order as createOrder leaves it: 2000 of food, 1000 of delivery. -/
def exampleOrder : Order where
  id := 1
  code := 100
  userId := 1
  vendorId := 1
  status := .pending
  subtotalXAF := 2000
  deliveryFeeXAF := 1000
  discountXAF := 0
  couponCode := none
  totalXAF := 3000
  commissionRate := 1 / 10
  commissionXAF := none
  riderShareXAF := none
  platformFeeXAF := none
  payoutId := none
  paymentMethod := .mtnMomo
  paymentStatus := .pending
  paymentReference := none
  payerPhone := none
  pickupCode := 1111
  deliveryCode := 2222
  refusalReason := none
  riderId := none
  placedAt := 0
  paidAt := none
  acceptedAt := none
  refusedAt := none
  preparedAt := none
  assignedAt := none
  pickedUpAt := none
  deliveredAt := none
  cancelledAt := none
  refundInitiatedAt := none
  refundCampayRef := none
  refundedAt := none
  refundFailureReason := none
  acceptanceDeadlineAt := none
  scheduledFor := none
  idempotencyKey := none

/-- References are Campay's own: never reused, never an order code. -/
def World.isFresh (w : World) (ref : Reference) : Bool :=
  ref != w.order.code && !issued ref w.collects && !issued ref w.refunds

/-- A journal row of the transaction `id` exists. -/
def World.booked (w : World) (id : EventId) : Bool := w.ledger.any fun e => e.eventId == id

/-! CampayWebhookDedupService: the insert that comes first. -/

def hasEvent (rows : List CampayWebhookEvent) (eventType : CampayWebhookEventType) (ref : Reference) : Bool :=
  rows.any fun e => e.eventType == eventType && e.reference == ref

/-- The table afterwards, and `isFirst`. -/
def markProcessed (rows : List CampayWebhookEvent) (eventType : CampayWebhookEventType) (ref : Reference)
    (payload : CampayWebhookPayload) : List CampayWebhookEvent × Bool :=
  if hasEvent rows eventType ref then (rows, false) else (rows ++ [⟨eventType, ref, payload, none⟩], true)

theorem markProcessed_first {rows rows' : List CampayWebhookEvent} {eventType : CampayWebhookEventType}
    {ref : Reference} {payload : CampayWebhookPayload} :
    markProcessed rows eventType ref payload = (rows', true) ↔
      hasEvent rows eventType ref = false ∧ rows' = rows ++ [⟨eventType, ref, payload, none⟩] := by
  unfold markProcessed
  cases hasEvent rows eventType ref
  · simp only [Bool.false_eq_true, ↓reduceIte, Prod.mk.injEq, and_true, true_and]
    exact eq_comm
  · simp

def recordResult (rows : List CampayWebhookEvent) (eventType : CampayWebhookEventType) (ref : Reference)
    (result : String) : List CampayWebhookEvent :=
  rows.map fun e =>
    if e.eventType = eventType ∧ e.reference = ref ∧ e.result = none then { e with result := some result } else e

@[simp] theorem hasEvent_recordResult (rows : List CampayWebhookEvent) (ty ty' : CampayWebhookEventType)
    (ref ref' : Reference) (result : String) :
    hasEvent (recordResult rows ty' ref' result) ty ref = hasEvent rows ty ref := by
  simp only [hasEvent, recordResult, List.any_map]
  congr 1
  funext e
  simp only [Function.comp_apply]
  split <;> rfl

@[simp] theorem hasEvent_append (rows rows' : List CampayWebhookEvent) (ty : CampayWebhookEventType)
    (ref : Reference) : hasEvent (rows ++ rows') ty ref = (hasEvent rows ty ref || hasEvent rows' ty ref) := by
  simp [hasEvent]

/-! Redis. -/

/-- `SET key value EX ttl NX`: the expiry it sets, when nobody holds the key. -/
def setNX (held : Option Time) (now ttl : Time) : Option Time :=
  match held with
  | none => some (now + ttl)
  | some expiry => if now < expiry then none else some (now + ttl)

theorem setNX_isNone {held : Option Time} {now ttl : Time} :
    setNX held now ttl = none ↔ ¬∀ expiry ∈ held, expiry ≤ now := by
  cases held with
  | none => simp [setNX]
  | some expiry =>
    simp only [setNX, Option.mem_def, Option.some.injEq, forall_eq', not_le]
    split <;> simp_all

theorem setNX_some {held : Option Time} {now ttl expiry : Time} (h : setNX held now ttl = some expiry) :
    (∀ expiry ∈ held, expiry ≤ now) ∧ expiry = now + ttl := by
  cases held with
  | none => exact ⟨by simp, (Option.some.inj h).symm⟩
  | some expiry' =>
    simp only [setNX] at h
    split at h
    · cases h
    · next hold =>
      refine ⟨fun e he => ?_, (Option.some.inj h).symm⟩
      obtain rfl := Option.some.inj he
      exact not_lt.1 hold

namespace CampayTxn

variable (ref : Reference) (s : CampayStatus) (t : CampayTxn)

@[simp] theorem hear_reference : (t.hear ref s).reference = t.reference := by
  unfold hear
  split <;> rfl

@[simp] theorem hear_amountXAF : (t.hear ref s).amountXAF = t.amountXAF := by
  unfold hear
  split <;> rfl

@[simp] theorem hear_stored : (t.hear ref s).stored = t.stored := by
  unfold hear
  split <;> rfl

theorem hear_reported :
    (t.hear ref s).reported = if t.reference = ref then s :: t.reported else t.reported := by
  unfold hear
  split <;> rfl

theorem hear_reportedFailed :
    (t.hear ref s).reportedFailed = (decide (t.reference = ref) && s.isFailure || t.reportedFailed) := by
  simp only [reportedFailed, hear_reported]
  split <;> simp [*]

@[simp] theorem keep_reference : (t.keep ref).reference = t.reference := by
  unfold keep
  split <;> rfl

@[simp] theorem keep_amountXAF : (t.keep ref).amountXAF = t.amountXAF := by
  unfold keep
  split <;> rfl

@[simp] theorem keep_reported : (t.keep ref).reported = t.reported := by
  unfold keep
  split <;> rfl

@[simp] theorem keep_reportedFailed : (t.keep ref).reportedFailed = t.reportedFailed := by
  simp [reportedFailed]

theorem keep_stored : (t.keep ref).stored = (decide (t.reference = ref) || t.stored) := by
  unfold keep
  split <;> simp [*]

end CampayTxn

@[simp] theorem issued_report (ref r : Reference) (s : CampayStatus) (txns : List CampayTxn) :
    issued ref (report r s txns) = issued ref txns := by
  simp [issued, report, List.any_map, Function.comp_def]

@[simp] theorem issued_store (ref r : Reference) (txns : List CampayTxn) :
    issued ref (store r txns) = issued ref txns := by
  simp [issued, store, List.any_map, Function.comp_def]

@[simp] theorem issued_append (ref : Reference) (txns txns' : List CampayTxn) :
    issued ref (txns ++ txns') = (issued ref txns || issued ref txns') := by
  simp [issued]

theorem mem_report {ref : Reference} {s : CampayStatus} {txns : List CampayTxn} {t : CampayTxn} :
    t ∈ report ref s txns ↔ ∃ u ∈ txns, u.hear ref s = t := List.mem_map

theorem mem_store {ref : Reference} {txns : List CampayTxn} {t : CampayTxn} :
    t ∈ store ref txns ↔ ∃ u ∈ txns, u.keep ref = t := List.mem_map

end ChopNow
