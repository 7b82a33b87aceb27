import ChopNow.Spec.Finance

/-! Cashout requests of informal vendors: requestVendorCashout asks for one, and an
admin approves it (the scheduler of Spec.Finance) or rejects it. -/

namespace ChopNow

open Interleave

def TRUSTED_MIN_COMPLETED_ORDERS : ℕ := 10

def TRUSTED_MIN_DAYS_SINCE_FIRST_ORDER : ℤ := 7

def MS_PER_DAY : ℤ := 24 * 60 * 60 * 1000

/-- `isTrusted` of getVendorBalance. -/
def Books.isTrusted (b : Books) (vendor : Vendor) : Bool :=
  decide (TRUSTED_MIN_COMPLETED_ORDERS ≤ b.orders.countP fun o => o.vendorId == vendor.id && o.status == .delivered) &&
    decide (TRUSTED_MIN_DAYS_SINCE_FIRST_ORDER ≤ ((b.clock : ℤ) - vendor.createdAt) / MS_PER_DAY) &&
    b.openDisputes vendor.id == 0

inductive CashoutError
  | vendorNotFound
  | onlyForInformal
  | vendorNotActive
  | alreadyPending
  | noBalance
  | requestNotFound
  | requestNotPending
  | thrown (reason : String)
  deriving DecidableEq, Repr

structure CashoutReceipt where
  requestId : RequestId
  requestedXAF : ℤ
  isTrusted : Bool
  deriving DecidableEq, Repr

/-- `approvals` lists which approval created which payout; the code does not keep it. -/
structure Cashier where
  books : Books
  approvals : List (RequestId × PayoutId)

/-! requestVendorCashout. -/

def Books.hasPendingRequest (b : Books) (vendorId : VendorId) : Bool :=
  b.cashouts.any fun r => r.vendorId == vendorId && r.status == .pendingApproval

/-- The row that `create` writes. -/
def Books.createRequest (b : Books) (vendorId : VendorId) (requestedXAF : ℤ) : Books :=
  { b with cashouts := b.cashouts ++ [{
      id := b.cashouts.length
      vendorId := vendorId
      requestedXAF := requestedXAF
      status := .pendingApproval
      approvedAt := none
      approvedByUserId := none
      payoutId := none }] }

inductive RequestVendorCashout
  | called (vendorId : VendorId)
  | eligible (vendor : Vendor)
  | unrivalled (vendor : Vendor)
  | priced (vendorId : VendorId) (balanceXAF : ℤ) (isTrusted : Bool)
  | done (result : Except CashoutError CashoutReceipt)

def RequestVendorCashout.step (b : Books) : RequestVendorCashout → Reply → Option (Books × RequestVendorCashout)
  | .called vendorId, .ok =>
    match b.vendors.find? fun row => row.id == vendorId with
    | none => some (b, .done (.error .vendorNotFound))
    | some vendor =>
      if vendor.type ≠ .informal then some (b, .done (.error .onlyForInformal))
      else if vendor.status ≠ .active then some (b, .done (.error .vendorNotActive))
      else some (b, .eligible vendor)
  | .eligible vendor, .ok =>
    if b.hasPendingRequest vendor.id then some (b, .done (.error .alreadyPending)) else some (b, .unrivalled vendor)
  | .unrivalled vendor, .ok =>
    let balanceXAF := (b.getVendorBalance vendor.id).balanceXAF
    if balanceXAF ≤ 0 then some (b, .done (.error .noBalance))
    else some (b, .priced vendor.id balanceXAF (b.isTrusted vendor))
  | .priced vendorId balanceXAF isTrusted, .ok =>
    some (b.createRequest vendorId balanceXAF, .done (.ok ⟨b.cashouts.length, balanceXAF, isTrusted⟩))
  | .called _, .fail reason | .eligible _, .fail reason | .unrivalled _, .fail reason | .priced .., .fail reason =>
    some (b, .done (.error (.thrown reason)))
  | _, _ => none

/-! rejectCashoutRequest. -/

/-- The update names the request's id only. -/
def Books.rejectRequest (b : Books) (request : RequestId) (adminUserId : UserId) (reason : String) : Books :=
  { b with cashouts := b.cashouts.map fun r =>
      if r.id = request then
        { r with
          status := .rejected
          rejectedAt := some b.clock
          rejectionReason := some reason
          approvedByUserId := some adminUserId }
      else r }

inductive RejectCashoutRequest
  | called (request : RequestId) (adminUserId : UserId) (reason : String)
  | checked (request : RequestId) (adminUserId : UserId) (reason : String)
  | done (result : Except CashoutError Unit)

def RejectCashoutRequest.step (b : Books) : RejectCashoutRequest → Reply → Option (Books × RejectCashoutRequest)
  | .called request adminUserId reason, .ok =>
    match b.cashouts.find? fun r => r.id == request with
    | none => some (b, .done (.error .requestNotFound))
    | some r =>
      if r.status ≠ .pendingApproval then some (b, .done (.error .requestNotPending))
      else some (b, .checked request adminUserId reason)
  | .checked request adminUserId reason, .ok =>
    some (b.rejectRequest request adminUserId reason, .done (.ok ()))
  | .called .., .fail reason | .checked .., .fail reason => some (b, .done (.error (.thrown reason)))
  | _, _ => none

/-! The machine: the books with both calls beside them. -/

inductive CashoutThread
  | schedule (t : Scheduler)
  | request (t : RequestVendorCashout)
  | reject (t : RejectCashoutRequest)

inductive CashoutEvent
  | books (n : BooksEvent)
  | requestVendorCashout (vendorId : VendorId)
  | rejectCashoutRequest (request : RequestId) (adminUserId : UserId) (reason : String)

/-- The payout that an approval's transaction has created. -/
def Scheduler.approval (b b' : Books) : Scheduler → List (RequestId × PayoutId)
  | .transact (.cashout request ..) .. =>
    if b.payouts.length < b'.payouts.length then [(request, b.payouts.length)] else []
  | _ => []

def cashoutEvent (s : Cashier) : CashoutEvent → Cashier × List CashoutThread
  | .books n => ({ s with books := (booksEvent s.books n).1 }, (booksEvent s.books n).2.map .schedule)
  | .requestVendorCashout vendorId => (s, [.request (.called vendorId)])
  | .rejectCashoutRequest request adminUserId reason => (s, [.reject (.called request adminUserId reason)])

def cashoutStep (s : Cashier) : CashoutThread → Reply → Option (Cashier × CashoutThread)
  | .schedule t, e =>
    (t.step s.books e).map fun r =>
      ({ books := r.1, approvals := s.approvals ++ t.approval s.books r.1 }, .schedule r.2)
  | .request t, e => (t.step s.books e).map fun r => ({ s with books := r.1 }, .request r.2)
  | .reject t, e => (t.step s.books e).map fun r => ({ s with books := r.1 }, .reject r.2)

def cashoutMachine : Machine Cashier CashoutThread CashoutEvent Reply where
  event s n := some (cashoutEvent s n)
  step s t e := (cashoutStep s t e).map fun r => (r.1, [r.2])

end ChopNow
