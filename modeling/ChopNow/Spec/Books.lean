import ChopNow.Spec.Payout
import ChopNow.Spec.Refund

/-! The tables behind the money: what FinanceService reads off them, and the nine
transactions that write the journal together with rows of other tables. -/

namespace ChopNow

inductive RiderStatus
  | pendingReview | correctionRequested | active | suspended | rejected
  deriving DecidableEq, Repr

structure Rider where
  id : RiderId
  status : RiderStatus
  reliabilityScore : ℤ
  idCardPhotoUrl : Option String
  selfiePhotoUrl : Option String
  createdAt : Time
  deriving Repr

structure VendorCashoutRequest where
  id : RequestId
  vendorId : VendorId
  requestedXAF : ℤ
  status : CashoutRequestStatus
  approvedAt : Option Time
  approvedByUserId : Option UserId
  rejectedAt : Option Time := none
  rejectionReason : Option String := none
  payoutId : Option PayoutId
  deriving Repr

structure Books where
  ledger : Ledger
  payouts : List Payout
  penalties : List VendorPenalty
  cashouts : List VendorCashoutRequest
  orders : List Order
  vendors : List Vendor
  riders : List Rider
  clock : Time

/-- One vendor, one rider and an unpaid order, with nothing booked yet. -/
def exampleBooks : Books where
  ledger := []
  payouts := []
  penalties := []
  cashouts := []
  orders := [exampleOrder]
  vendors := [{
    id := 1, status := .active, isOpen := true, acceptsPreOrders := true, commissionRate := 1 / 10,
    momoPhone := "+237677000001", createdAt := 0 }]
  riders := [{
    id := 1, status := .active, reliabilityScore := 100, idCardPhotoUrl := some "id.jpg",
    selfiePhotoUrl := some "selfie.jpg", createdAt := 0 }]
  clock := 1

/-! getVendorBalance and getRiderBalance. -/

/-- The account in which the platform's debt to the party stands. -/
def Party.account : Party → LedgerAccount
  | .vendor _ => .vendorPayable
  | .rider _ => .riderPayable

/-- The entry carries the party's foreign key. -/
def Party.owns : Party → LedgerEntry → Bool
  | .vendor v, e => e.vendorId == some v
  | .rider r, e => e.riderId == some r

def Payout.isSettling (p : Payout) : Bool := p.status == .paid || p.status == .inFlight

/-- `lastPayout?.periodEnd`: the latest among the payouts that are PAID or IN_FLIGHT. -/
def Books.cutoff (b : Books) (party : Party) : Option Time :=
  ((b.payouts.filter fun p => decide (p.party = party) && p.isSettling).map (·.periodEnd)).max?

/-- `createdAt: { gt: cutoff }`, where there is a cutoff. -/
def isAfter (cutoff : Option Time) (e : LedgerEntry) : Bool :=
  match cutoff with
  | none => true
  | some t => decide (t < e.createdAt)

structure PartyBalance where
  balanceXAF : ℤ
  grossXAF : ℤ
  commissionXAF : ℤ
  penaltyXAF : ℤ
  adjustmentsXAF : ℤ
  deriving DecidableEq, Repr

/-- The party's entries of one account since the last payout. -/
def Books.sumSince (b : Books) (party : Party) (account : LedgerAccount) (p : LedgerEntry → Bool) : ℤ :=
  balanceOf account (fun e => party.owns e && isAfter (b.cutoff party) e && p e) b.ledger

def Books.revenueSince (b : Books) (party : Party) (eventType : LedgerEventType) : ℤ :=
  -b.sumSince party .platformRevenue fun e => e.eventType == eventType

def Books.getVendorBalance (b : Books) (vendorId : VendorId) : PartyBalance :=
  let party := Party.vendor vendorId
  let balanceXAF := -b.sumSince party party.account fun _ => true
  let commissionXAF := b.revenueSince party .orderDelivered
  let penaltyXAF := b.revenueSince party .penaltyApplied
  let adjustmentsXAF := b.revenueSince party .adjustment
  { balanceXAF, commissionXAF, penaltyXAF, adjustmentsXAF
    grossXAF := balanceXAF + commissionXAF + penaltyXAF - adjustmentsXAF }

def Books.getRiderBalance (b : Books) (riderId : RiderId) : PartyBalance :=
  let party := Party.rider riderId
  let balanceXAF := -b.sumSince party party.account fun _ => true
  let adjustmentsXAF := b.revenueSince party .adjustment
  { balanceXAF, adjustmentsXAF, commissionXAF := 0, penaltyXAF := 0, grossXAF := balanceXAF - adjustmentsXAF }

def Books.balance (b : Books) : Party → PartyBalance
  | .vendor v => b.getVendorBalance v
  | .rider r => b.getRiderBalance r

/-! The payout transactions of tryScheduleVendorPayout, tryScheduleRiderPayout and
approveCashoutRequest. -/

/-- Who schedules a payout, with what the caller has read before the balance. -/
inductive PayoutJob
  | vendorCron (vendor : VendorId) (momoPhone : Phone) (scheduledFor : Time)
  | riderCron (rider : RiderId) (momoPhone : Phone) (scheduledFor : Time)
  | cashout (request : RequestId) (adminUserId : UserId) (vendor : VendorId) (momoPhone : Phone)
  deriving Repr

def PayoutJob.party : PayoutJob → Party
  | .vendorCron v .. => .vendor v
  | .riderCron r .. => .rider r
  | .cashout _ _ v _ => .vendor v

def PayoutJob.momoPhone : PayoutJob → Phone
  | .vendorCron _ phone _ | .riderCron _ phone _ | .cashout _ _ _ phone => phone

/-- The row that `create` writes; the schema's defaults are those of `Payout`. -/
def PayoutJob.row (job : PayoutJob) (id : PayoutId) (balance : PartyBalance) (periodStart periodEnd : Time) : Payout where
  id := id
  party := job.party
  periodStart := periodStart
  periodEnd := periodEnd
  grossXAF := balance.grossXAF
  commissionXAF := balance.commissionXAF
  penaltyXAF := balance.penaltyXAF
  adjustmentsXAF := balance.adjustmentsXAF
  netXAF := balance.balanceXAF
  momoPhone := job.momoPhone
  scheduledFor := periodEnd

/-- `vendor_payout:<id>` or `rider_payout:<id>`. -/
def Payout.eventId (p : Payout) : EventId :=
  match p.party with
  | .vendor _ => .vendorPayout p.id
  | .rider _ => .riderPayout p.id

def Party.vendorId : Party → Option VendorId
  | .vendor v => some v
  | .rider _ => none

def Party.riderId : Party → Option RiderId
  | .vendor _ => none
  | .rider r => some r

def PayoutJob.description (job : PayoutJob) (p : Payout) : String :=
  match job with
  | .vendorCron .. => s!"Vendor payout scheduled (period {p.periodStart} → {p.periodEnd})"
  | .riderCron .. => s!"Rider payout scheduled (period {p.periodStart} → {p.periodEnd})"
  | .cashout .. => "Vendor on-demand cashout (admin approved)"

def payoutInput (p : Payout) (description : String) : RecordTransactionInput where
  eventId := some p.eventId
  eventType := match p.party with
    | .vendor _ => .vendorPayout
    | .rider _ => .riderPayout
  entries := [
    { account := p.party.account, amountXAF := p.netXAF, vendorId := p.party.vendorId, riderId := p.party.riderId,
      payoutId := some p.id, description := some description },
    { account := .campayFloat, amountXAF := -p.netXAF, vendorId := p.party.vendorId, riderId := p.party.riderId,
      payoutId := some p.id, description := some "Funds leaving platform Campay float" }]

inductive BooksError
  | uniqueViolation
  | notFound
  | order (err : OrderError)
  | ledger (err : LedgerError)
  deriving DecidableEq, Repr

/-- `(party, periodStart)` is unique; an id is never used twice. -/
def Books.createPayout (b : Books) (p : Payout) : Except BooksError Books :=
  if b.payouts.any fun q => decide (q.party = p.party ∧ q.periodStart = p.periodStart) then .error .uniqueViolation
  else .ok { b with payouts := b.payouts ++ [p] }

/-- Each transaction stamps its rows with a new reading of the clock. -/
def Books.record (b : Books) (input : RecordTransactionInput) : Except BooksError Books :=
  match recordTransaction b.ledger b.clock input with
  | .error err => .error (.ledger err)
  | .ok ledger => .ok { b with ledger, clock := b.clock + 1 }

/-- The orders of the period. A rider's payout also takes over those that carry a payout already. -/
def Payout.covers (p : Payout) (o : Order) : Bool :=
  let inPeriod := o.status == .delivered && o.deliveredAt.any fun t => decide (p.periodStart < t ∧ t ≤ p.periodEnd)
  match p.party with
  | .vendor v => o.vendorId == v && inPeriod && o.payoutId.isNone
  | .rider r => o.riderId == some r && inPeriod

def Books.tagOrders (b : Books) (p : Payout) : Books :=
  { b with orders := b.orders.map fun o => if p.covers o then { o with payoutId := some p.id } else o }

def Books.approveRequest (b : Books) (request : RequestId) (adminUserId : UserId) (p : Payout) : Except BooksError Books :=
  if b.cashouts.any fun r => r.id == request then
    .ok { b with cashouts := b.cashouts.map fun r =>
      if r.id = request then
        { r with
          status := .approved
          approvedAt := some p.periodEnd
          approvedByUserId := some adminUserId
          payoutId := some p.id }
      else r }
  else .error .notFound

/-- The statements of the transaction, in their order. -/
def Books.commitPayout (b : Books) (job : PayoutJob) (balance : PartyBalance) (periodStart periodEnd : Time) :
    Except BooksError Books := do
  let payout := job.row b.payouts.length balance periodStart periodEnd
  let created ← b.createPayout payout
  let booked ← created.record (payoutInput payout (job.description payout))
  let tagged := booked.tagOrders payout
  match job with
  | .cashout request adminUserId .. => tagged.approveRequest request adminUserId payout
  | _ => pure tagged

/-! The transactions of the order services, on the row they name. -/

inductive RiderFraudAction
  | suspend
  | warn
  deriving DecidableEq, Repr

def RIDER_FRAUD_WARN_DECREMENT : ℤ := 20

/-- What each transaction was handed: the row its caller read, and when. -/
inductive OrderTx
  | payment (order : Order) (payload : PaymentSucceeded) (now : Time)
  | delivery (order : Order) (snapshot : Snapshot) (now : Time)
  | preOrderCancel (order : Order) (note : Option String) (now : Time)
  | refundInitiated (order : OrderId) (totalXAF : ℤ) (ref : Reference)
  | refundSettled (order : Order) (now : Time)
  | riderFraud (order : Order) (input : ResolveRiderFraudInput) (action : RiderFraudAction) (now : Time)

def OrderTx.orderId : OrderTx → OrderId
  | .payment order .. | .delivery order .. | .preOrderCancel order .. | .refundSettled order _
  | .riderFraud order .. => order.id
  | .refundInitiated order .. => order

/-- A count of zero leaves the row alone; where the code throws, so does this. -/
def OrderTx.commit (w : World) : OrderTx → Except OrderError World
  | .payment order payload now => ((commitPayment w order payload now).map (·.getD w)).mapError .ledger
  | .delivery order snapshot now => commitDelivery w order snapshot now
  | .preOrderCancel order note now => commitPreOrderCancel w order note now
  | .refundInitiated _ totalXAF ref => (commitRefund w totalXAF ref).mapError .ledger
  | .refundSettled order now => ((commitSettlement w order now).map (·.getD w)).mapError .ledger
  | .riderFraud order input _ now => commitRiderFraud w order input now

def RiderFraudAction.apply (action : RiderFraudAction) (rider : Rider) : Rider :=
  match action with
  | .suspend => { rider with status := .suspended }
  | .warn => { rider with reliabilityScore := rider.reliabilityScore - RIDER_FRAUD_WARN_DECREMENT }

/-- The rider row that the transaction goes on to write. -/
def OrderTx.punish : OrderTx → List Rider → List Rider
  | .riderFraud order _ action _, riders =>
    riders.map fun r => if order.riderId = some r.id then action.apply r else r
  | _, riders => riders

/-- The row of an order. -/
def Books.orderRow (b : Books) (id : OrderId) : Option Order := b.orders.find? fun o => o.id == id

/-- One order as its services see it. -/
def Books.orderWorld (b : Books) (order : Order) : World :=
  { World.start order with
    ledger := b.ledger
    penalty := b.penalties.find? fun p => p.orderId == order.id
    clock := b.clock }

def Books.putOrder (b : Books) (order : Order) (w : World) : Books :=
  { b with
    ledger := w.ledger
    orders := b.orders.map fun o => if o.id = order.id then w.order else o
    penalties := if (b.penalties.find? fun p => p.orderId == order.id).isSome then b.penalties
      else b.penalties ++ w.penalty.toList
    clock := b.clock + 1 }

def Books.commitOrder (b : Books) (x : OrderTx) : Except BooksError Books :=
  match b.orders.find? fun o => o.id == x.orderId with
  | none => .error .notFound
  | some order =>
    match x.commit (b.orderWorld order) with
    | .error err => .error (.order err)
    | .ok w =>
      let booked := b.putOrder order w
      .ok { booked with riders := x.punish booked.riders }

/-- A transaction of any of the nine writers. -/
inductive BooksTx
  | order (x : OrderTx)
  | payout (job : PayoutJob) (balance : PartyBalance) (periodStart periodEnd : Time)

def BooksTx.commit (b : Books) : BooksTx → Except BooksError Books
  | .order x => b.commitOrder x
  | .payout job balance periodStart periodEnd => b.commitPayout job balance periodStart periodEnd

/-- `$transaction`: what throws is rolled back. -/
def Books.transaction (b : Books) (x : BooksTx) : Books :=
  match x.commit b with
  | .error _ => b
  | .ok b' => b'

/-! The single statements that move a payout's status. -/

inductive PayoutWrite
  | lockRow
  | onReference (ref : Reference)
  | onFail (reason : String)
  | settle (payload : CampayWebhookPayload)
  | retryPayout
  | manualMarkPaid (campayRef : Reference) (note : Option String)
  deriving Repr

def PayoutWrite.apply (p : Payout) (now : Time) : PayoutWrite → Payout
  | .lockRow => if p.status = .pending then { p with status := .inFlight, sentAt := some now } else p
  | .onReference ref => { p with campayRef := some ref }
  | .onFail reason => { p with status := .failed, failureReason := some reason }
  | .settle payload => if p.status = .inFlight then p.settle payload now else p
  | .retryPayout => p.retry.getD p
  | .manualMarkPaid campayRef note => (p.manualMarkPaid campayRef note now).getD p

def Books.writePayout (b : Books) (id : PayoutId) (x : PayoutWrite) : Books :=
  { b with payouts := b.payouts.map fun p => if p.id = id then x.apply p b.clock else p }

/-- The single statements on an order's row. -/
inductive OrderStatement
  | write (x : OrderWrite)
  | pickUp
  deriving Repr

def OrderStatement.apply (o : Order) (now : Time) : OrderStatement → Order
  | .write x => (x.apply o now).getD o
  | .pickUp => { o with status := .pickedUp, pickedUpAt := some now }

def Books.writeOrder (b : Books) (id : OrderId) (x : OrderStatement) : Books :=
  { b with orders := b.orders.map fun o => if o.id = id then x.apply o b.clock else o }

/-- One change of the books: a transaction of any writer on any input, a single
statement on an order or a payout, or time passing. -/
inductive Books.Moves (b : Books) : Books → Prop
  | transact (x : BooksTx) : Moves b (b.transaction x)
  | order (id : OrderId) (x : OrderStatement) : Moves b (b.writeOrder id x)
  | status (id : PayoutId) (x : PayoutWrite) : Moves b (b.writePayout id x)
  | tick (elapsed : Time) : Moves b { b with clock := b.clock + elapsed }

end ChopNow
