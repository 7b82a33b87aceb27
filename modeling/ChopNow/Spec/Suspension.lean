import ChopNow.Lib.Interleave
import ChopNow.Spec.Books

/-! One fact in two stores: AdminValidationService and resolveRiderFraud write the status
of a vendor's or a rider's row, JwtRevocationService the Redis key of the user behind it. -/

namespace ChopNow

open Interleave

/-- `owner` is the `userId` of a row, `revoked` the expiry of the key `user:revoked:<userId>`. -/
structure Accounts where
  books : Books
  owner : Party → UserId
  revoked : UserId → Option Time
  jwtRefreshTtl : Time
  ttl_pos : 0 < jwtRefreshTtl

/-! JwtRevocationService. -/

/-- `Math.ceil(parseDurationMs(…) / 1000)`. -/
def Accounts.ttlSeconds (s : Accounts) : ℕ := (s.jwtRefreshTtl + 999) / 1000

def Accounts.revokeUser (s : Accounts) (user : UserId) : Accounts :=
  { s with revoked := Function.update s.revoked user (some (s.books.clock + s.ttlSeconds * 1000)) }

def Accounts.reactivateUser (s : Accounts) (user : UserId) : Accounts :=
  { s with revoked := Function.update s.revoked user none }

def Accounts.isRevoked (s : Accounts) (user : UserId) : Bool :=
  (s.revoked user).any fun expiry => decide (s.books.clock < expiry)

/-! The rows. -/

/-- The two enums have the same members. -/
def RiderStatus.toVendorStatus : RiderStatus → VendorStatus
  | .pendingReview => .pendingReview
  | .correctionRequested => .correctionRequested
  | .active => .active
  | .suspended => .suspended
  | .rejected => .rejected

def VendorStatus.toRiderStatus : VendorStatus → RiderStatus
  | .pendingReview => .pendingReview
  | .correctionRequested => .correctionRequested
  | .active => .active
  | .suspended => .suspended
  | .rejected => .rejected

@[simp] theorem VendorStatus.toRiderStatus_toVendorStatus (status : VendorStatus) :
    status.toRiderStatus.toVendorStatus = status := by
  cases status <;> rfl

/-- `findUnique({ where: { id } })`, of the status. -/
def Books.profileStatus (b : Books) : Party → Option VendorStatus
  | .vendor v => (b.vendors.find? fun row => row.id == v).map (·.status)
  | .rider r => (b.riders.find? fun row => row.id == r).map (·.status.toVendorStatus)

/-- `update({ where: { id } })`; a suspended vendor is closed as well. -/
def Books.setStatus (b : Books) (party : Party) (status : VendorStatus) : Books :=
  match party with
  | .vendor v => { b with vendors := b.vendors.map fun row =>
      if row.id = v then { row with status := status, isOpen := row.isOpen && status != .suspended } else row }
  | .rider r => { b with riders := b.riders.map fun row =>
      if row.id = r then { row with status := status.toRiderStatus } else row }

def Accounts.Suspended (s : Accounts) (user : UserId) : Prop :=
  ∃ party, s.owner party = user ∧ s.books.profileStatus party = some .suspended

/-! AdminValidationService. -/

inductive AdminAction
  | approve
  | reject
  | suspend
  | unsuspend
  deriving DecidableEq, Repr

def AdminAction.status : AdminAction → VendorStatus
  | .approve | .unsuspend => .active
  | .reject => .rejected
  | .suspend => .suspended

inductive AdminError
  | reasonRequired
  | notFound
  | alreadyActive
  | notSuspended
  | thrown (reason : String)
  deriving DecidableEq, Repr

/-- `!reason` comes before the row is read. -/
def AdminAction.check (action : AdminAction) (reason : Option String) (status : Option VendorStatus) :
    Except AdminError Unit :=
  if (action = .reject ∨ action = .suspend) ∧ reason.getD "" = "" then .error .reasonRequired
  else
    match status with
    | none => .error .notFound
    | some status =>
      if action = .approve ∧ status = .active then .error .alreadyActive
      else if action = .unsuspend ∧ status ≠ .suspended then .error .notSuspended
      else .ok ()

inductive AdminCall
  | called (action : AdminAction) (party : Party) (reason : Option String)
  | checked (action : AdminAction) (party : Party)
  | written (action : AdminAction) (party : Party)
  | done (result : Except AdminError Unit)

def approveVendor (vendor : VendorId) : AdminCall := .called .approve (.vendor vendor) none

def rejectVendor (vendor : VendorId) (reason : Option String) : AdminCall := .called .reject (.vendor vendor) reason

def suspendVendor (vendor : VendorId) (reason : Option String) : AdminCall := .called .suspend (.vendor vendor) reason

def unsuspendVendor (vendor : VendorId) : AdminCall := .called .unsuspend (.vendor vendor) none

def approveRider (rider : RiderId) : AdminCall := .called .approve (.rider rider) none

def rejectRider (rider : RiderId) (reason : Option String) : AdminCall := .called .reject (.rider rider) reason

def suspendRider (rider : RiderId) (reason : Option String) : AdminCall := .called .suspend (.rider rider) reason

def unsuspendRider (rider : RiderId) : AdminCall := .called .unsuspend (.rider rider) none

/-- Only suspend and unsuspend go on to Redis. -/
def AdminCall.step (s : Accounts) : AdminCall → Reply → Option (Accounts × AdminCall)
  | .called action party reason, .ok =>
    match action.check reason (s.books.profileStatus party) with
    | .error err => some (s, .done (.error err))
    | .ok () => some (s, .checked action party)
  | .checked action party, .ok =>
    let updated := { s with books := s.books.setStatus party action.status }
    match action with
    | .approve | .reject => some (updated, .done (.ok ()))
    | .suspend | .unsuspend => some (updated, .written action party)
  | .written .suspend party, .ok => some (s.revokeUser (s.owner party), .done (.ok ()))
  | .written .unsuspend party, .ok => some (s.reactivateUser (s.owner party), .done (.ok ()))
  | .called .., .fail reason | .checked .., .fail reason | .written .., .fail reason =>
    some (s, .done (.error (.thrown reason)))
  | _, _ => none

/-! resolveRiderFraud: the Redis key is written inside the transaction. -/

/-- `written` is after the order and the journal, `punished` before the commit. -/
inductive FraudCall
  | called (order : OrderId) (input : ResolveRiderFraudInput) (action : RiderFraudAction)
  | checked (order : Order) (input : ResolveRiderFraudInput) (action : RiderFraudAction) (now : Time)
  | written (order : Order) (input : ResolveRiderFraudInput) (action : RiderFraudAction) (now : Time)
  | punished (order : Order) (input : ResolveRiderFraudInput) (action : RiderFraudAction) (now : Time)
  | done (result : Except BooksError Unit)

/-- The rider that a SUSPEND punishes: `order.riderId!`, where the row exists. -/
def Accounts.culprit (s : Accounts) (order : Order) (action : RiderFraudAction) : Option RiderId :=
  match action with
  | .suspend => order.riderId.filter fun r => (s.books.profileStatus (.rider r)).isSome
  | .warn => none

/-- A throw anywhere rolls the rows back. -/
def FraudCall.step (s : Accounts) : FraudCall → Reply → Option (Accounts × FraudCall)
  | .called id input action, .ok =>
    match s.books.orders.find? fun o => o.id == id with
    | none => some (s, .done (.error (.order .orderNotFound)))
    | some order =>
      match checkRiderFraud order input with
      | .error err => some (s, .done (.error (.order err)))
      | .ok () => some (s, .checked order input action s.books.clock)
  | .checked order input action now, .ok =>
    match s.books.commitOrder (.riderFraud order input action now) with
    | .error err => some (s, .done (.error err))
    | .ok _ => some (s, .written order input action now)
  | .written order input action now, .ok =>
    match s.culprit order action with
    | some r => some (s.revokeUser (s.owner (.rider r)), .punished order input action now)
    | none => some (s, .punished order input action now)
  | .punished order input action now, .ok =>
    match s.books.commitOrder (.riderFraud order input action now) with
    | .error err => some (s, .done (.error err))
    -- here time passes by ticks alone
    | .ok books => some ({ s with books := { books with clock := s.books.clock } }, .done (.ok ()))
  | .called .., .fail reason | .checked .., .fail reason | .written .., .fail reason | .punished .., .fail reason =>
    some (s, .done (.error (.order (.thrown reason))))
  | _, _ => none

/-! The machine. -/

inductive AccountThread
  | admin (t : AdminCall)
  | fraud (t : FraudCall)

/-- `verifyOtp` and `refresh` write neither store. -/
inductive AccountEvent
  | tick (elapsed : Time)
  | verifyOtp (user : UserId)
  | refresh (user : UserId)
  | approveVendor (vendor : VendorId)
  | rejectVendor (vendor : VendorId) (reason : Option String)
  | suspendVendor (vendor : VendorId) (reason : Option String)
  | unsuspendVendor (vendor : VendorId)
  | approveRider (rider : RiderId)
  | rejectRider (rider : RiderId) (reason : Option String)
  | suspendRider (rider : RiderId) (reason : Option String)
  | unsuspendRider (rider : RiderId)
  | resolveRiderFraud (order : OrderId) (input : ResolveRiderFraudInput) (action : RiderFraudAction)

def AccountEvent.call : AccountEvent → Option AccountThread
  | .tick _ | .verifyOtp _ | .refresh _ => none
  | .approveVendor vendor => some (.admin (ChopNow.approveVendor vendor))
  | .rejectVendor vendor reason => some (.admin (ChopNow.rejectVendor vendor reason))
  | .suspendVendor vendor reason => some (.admin (ChopNow.suspendVendor vendor reason))
  | .unsuspendVendor vendor => some (.admin (ChopNow.unsuspendVendor vendor))
  | .approveRider rider => some (.admin (ChopNow.approveRider rider))
  | .rejectRider rider reason => some (.admin (ChopNow.rejectRider rider reason))
  | .suspendRider rider reason => some (.admin (ChopNow.suspendRider rider reason))
  | .unsuspendRider rider => some (.admin (ChopNow.unsuspendRider rider))
  | .resolveRiderFraud order input action => some (.fraud (.called order input action))

def Accounts.tick (s : Accounts) (elapsed : Time) : Accounts :=
  { s with books := { s.books with clock := s.books.clock + elapsed } }

def accountEvent (s : Accounts) (n : AccountEvent) : Accounts × List AccountThread :=
  match n with
  | .tick elapsed => (s.tick elapsed, [])
  | n => (s, n.call.toList)

def accountStep (s : Accounts) : AccountThread → Reply → Option (Accounts × AccountThread)
  | .admin t, e => (t.step s e).map fun r => (r.1, .admin r.2)
  | .fraud t, e => (t.step s e).map fun r => (r.1, .fraud r.2)

def accountMachine : Machine Accounts AccountThread AccountEvent Reply where
  event s n := some (accountEvent s n)
  step s t e := (accountStep s t e).map fun r => (r.1, [r.2])

def AccountThread.busy : AccountThread → Bool
  | .admin (.done _) | .fraud (.done _) => false
  | _ => true

end ChopNow
