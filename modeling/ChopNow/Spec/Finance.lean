import ChopNow.Lib.Interleave
import ChopNow.Spec.Books

/-! The payout schedulers: VendorPayoutCronService, RiderPayoutCronService and
FinanceService.approveCashoutRequest, next to everything else that writes the books. -/

namespace ChopNow

open Interleave

def MIN_VENDOR_PAYOUT_XAF : ℤ := 500

def MIN_RIDER_PAYOUT_XAF : ℤ := 1000

def MIN_CASHOUT_XAF : ℤ := 500

inductive ScheduleOutcome
  | scheduled (netXAF : ℤ)
  | belowMinimum (balanceXAF : ℤ)
  | openDisputes
  | nonPositive (balanceXAF : ℤ)
  | alreadyScheduled (payoutId : PayoutId)
  | kycIncomplete (missing : List String)
  | requestNotFound
  | requestNotPending
  | thrown (err : String)
  | failed (err : BooksError)
  deriving Repr

/-- The checks on the balance, before the next `await`. -/
def PayoutJob.checkBalance (job : PayoutJob) (balanceXAF : ℤ) : Except ScheduleOutcome Unit :=
  match job with
  | .vendorCron .. =>
    if balanceXAF ≤ 0 then .error (.nonPositive balanceXAF)
    else if balanceXAF < MIN_VENDOR_PAYOUT_XAF then .error (.belowMinimum balanceXAF)
    else .ok ()
  | .riderCron .. =>
    if balanceXAF ≤ 0 then .error (.nonPositive balanceXAF)
    else if balanceXAF < MIN_RIDER_PAYOUT_XAF then .error (.belowMinimum balanceXAF)
    else .ok ()
  | .cashout .. => if balanceXAF < MIN_CASHOUT_XAF then .error (.belowMinimum balanceXAF) else .ok ()

/-- `!url`: null or empty. -/
def missingKyc (rider : Rider) : List String :=
  (if rider.idCardPhotoUrl.getD "" = "" then ["idCardPhotoUrl"] else []) ++
    (if rider.selfiePhotoUrl.getD "" = "" then ["selfiePhotoUrl"] else [])

def Books.openDisputes (b : Books) (vendorId : VendorId) : ℕ :=
  b.orders.countP fun o => o.vendorId == vendorId && o.paymentStatus == .refundPending

/-- `vendorRow!.createdAt` and `riderRow!.createdAt`. -/
def Books.createdAt (b : Books) : Party → Option Time
  | .vendor v => (b.vendors.find? fun row => row.id == v).map (·.createdAt)
  | .rider r => (b.riders.find? fun row => row.id == r).map (·.createdAt)

def Books.payoutOf (b : Books) (party : Party) (periodStart : Time) : Option Payout :=
  b.payouts.find? fun p => decide (p.party = party ∧ p.periodStart = periodStart)

inductive Scheduler
  | checkKyc (rider : RiderId) (momoPhone : Phone) (scheduledFor : Time)
  | readRequest (request : RequestId) (adminUserId : UserId)
  | readBalance (job : PayoutJob)
  | countDisputes (job : PayoutJob) (balance : PartyBalance)
  | readLastPayout (job : PayoutJob) (balance : PartyBalance)
  | findExisting (job : PayoutJob) (balance : PartyBalance) (periodStart periodEnd : Time)
  | transact (job : PayoutJob) (balance : PartyBalance) (periodStart periodEnd : Time)
  | done (outcome : ScheduleOutcome)
  deriving Repr

def Scheduler.step (b : Books) : Scheduler → Reply → Option (Books × Scheduler)
  | .checkKyc rider momoPhone scheduledFor, .ok =>
    match b.riders.find? fun row => row.id == rider with
    | none => some (b, .done (.kycIncomplete ["idCardPhotoUrl", "selfiePhotoUrl"]))
    | some row =>
      if missingKyc row = [] then some (b, .readBalance (.riderCron rider momoPhone scheduledFor))
      else some (b, .done (.kycIncomplete (missingKyc row)))
  | .readRequest request adminUserId, .ok =>
    match b.cashouts.find? fun r => r.id == request with
    | none => some (b, .done .requestNotFound)
    | some r =>
      if r.status ≠ .pendingApproval then some (b, .done .requestNotPending)
      else
        match b.vendors.find? fun row => row.id == r.vendorId with
        | none => some (b, .done .requestNotFound)
        | some vendor => some (b, .readBalance (.cashout request adminUserId vendor.id vendor.momoPhone))
  | .readBalance job, .ok =>
    let balance := b.balance job.party
    match job.checkBalance balance.balanceXAF with
    | .error outcome => some (b, .done outcome)
    | .ok () =>
      match job with
      | .riderCron .. => some (b, .readLastPayout job balance)
      | _ => some (b, .countDisputes job balance)
  | .countDisputes job balance, .ok =>
    match job with
    | .vendorCron v .. | .cashout _ _ v _ =>
      if b.openDisputes v > 0 then some (b, .done .openDisputes) else some (b, .readLastPayout job balance)
    | .riderCron .. => none
  -- a cron's period ends when its sweep started, a cashout's when this line is reached
  | .readLastPayout job balance, .ok =>
    match b.createdAt job.party with
    | none => some (b, .done (.thrown "createdAt of null"))
    | some createdAt =>
      let periodStart := (b.cutoff job.party).getD createdAt
      match job with
      | .vendorCron _ _ scheduledFor | .riderCron _ _ scheduledFor =>
        some (b, .findExisting job balance periodStart scheduledFor)
      | .cashout .. => some ({ b with clock := b.clock + 1 }, .transact job balance periodStart b.clock)
  | .findExisting job balance periodStart periodEnd, .ok =>
    match b.payoutOf job.party periodStart with
    | some p => some (b, .done (.alreadyScheduled p.id))
    | none => some (b, .transact job balance periodStart periodEnd)
  | .transact job balance periodStart periodEnd, .ok =>
    match b.commitPayout job balance periodStart periodEnd with
    | .error err => some (b, .done (.failed err))
    | .ok b' => some (b', .done (.scheduled balance.balanceXAF))
  | .done _, _ => none
  | _, .fail reason => some (b, .done (.thrown reason))
  | _, _ => none

/-- `order` and `serve` are a transaction and a statement of the order services,
`payout` a statement of the worker, the transfer handler or the admin endpoints. A sweep gets
to a party some time after it started. -/
inductive BooksEvent
  | tick (elapsed : Time)
  | order (x : OrderTx)
  | serve (id : OrderId) (x : OrderStatement)
  | payout (id : PayoutId) (x : PayoutWrite)
  | tryScheduleVendorPayout (vendor : VendorId) (momoPhone : Phone) (elapsed : Time)
  | tryScheduleRiderPayout (rider : RiderId) (momoPhone : Phone) (elapsed : Time)
  | approveCashoutRequest (request : RequestId) (adminUserId : UserId)

/-- `scheduledFor` is the sweep's `startedAt`, one for all its calls. Each call starts at a
moment of its own. -/
def booksEvent (b : Books) : BooksEvent → Books × List Scheduler
  | .tick elapsed => ({ b with clock := b.clock + elapsed }, [])
  | .order x => (b.transaction (.order x), [])
  | .serve id x => (b.writeOrder id x, [])
  | .payout id x => (b.writePayout id x, [])
  | .tryScheduleVendorPayout vendor momoPhone elapsed =>
    ({ b with clock := b.clock + 1 }, [.readBalance (.vendorCron vendor momoPhone (b.clock - elapsed))])
  | .tryScheduleRiderPayout rider momoPhone elapsed =>
    ({ b with clock := b.clock + 1 }, [.checkKyc rider momoPhone (b.clock - elapsed)])
  | .approveCashoutRequest request adminUserId => (b, [.readRequest request adminUserId])

def booksMachine : Machine Books Scheduler BooksEvent Reply where
  event b n := some (booksEvent b n)
  step b t e := (t.step b e).map fun r => (r.1, [r.2])

def Scheduler.isDone : Scheduler → Bool
  | .done _ => true
  | _ => false

/-- The example order in the rider's hands, as markDelivered reads it. -/
def pickedUpOrder : Order :=
  { exampleOrder with
    status := .pickedUp
    paymentStatus := .paid
    commissionXAF := some 200
    riderShareXAF := some 650
    platformFeeXAF := some 550
    riderId := some 1 }

/-- The example order is paid, cooked and delivered. -/
def deliveryDay : List (Act BooksEvent Reply) := [
  .event (.order (.payment exampleOrder ⟨900, some "+237677000001"⟩ 1)),
  .event (.serve 1 (.write .acceptOrder)),
  .event (.serve 1 (.write (.assignRider 1))),
  .event (.serve 1 .pickUp),
  .event (.order (.delivery pickedUpOrder ⟨200, 650, 550⟩ 2))]

/-- The vendor's cron schedules the day's payout. -/
def payoutDay : List (Act BooksEvent Reply) := deliveryDay ++ [
  .event (.tryScheduleVendorPayout 1 "+237677000001" 0),
  .step 0 .ok, .step 0 .ok, .step 0 .ok, .step 0 .ok, .step 0 .ok]

end ChopNow
