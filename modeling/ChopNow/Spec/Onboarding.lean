import ChopNow.Lib.Interleave
import ChopNow.Spec.Riders

/-! The two submissions, VendorService.submitInformal and RidersService.submit, with everything that
comes between their statements: the user of the phone is looked up, then the photos are uploaded, and
then a transaction goes by what was looked up. -/

namespace ChopNow

open Interleave

structure OnboardDb where
  menu : MenuDb
  riders : List RiderRow
  clock : Time

def OnboardDb.users (db : OnboardDb) : List User := db.menu.users

def OnboardDb.vendors (db : OnboardDb) : List VendorRow := db.menu.vendors

def OnboardDb.findUser (db : OnboardDb) (phone : Phone) : Option User := db.users.find? fun u => u.phone == phone

/-- `user.create`: phones and ids are unique. -/
def createUser (users : List User) (user : User) : Option (List User) :=
  if users.any fun u => u.phone == user.phone || u.id == user.id then none else some (users ++ [user])

def setRole (users : List User) (id : UserId) (role : UserRole) : List User :=
  users.map fun u => if u.id = id then { u with role } else u

/-! submitInformal. -/

def SubmitVendorDto.checkFiles (dto : SubmitVendorDto) (files : SubmitFiles) : Except MenuError Unit :=
  if !files.profilePhoto then .error .profilePhotoRequired
  else if !files.firstItemPhoto then .error .firstItemPhotoRequired
  else if dto.type = some .restaurant ∧ !files.enseignePhoto then .error .enseignePhotoRequired
  else .ok ()

def SubmitVendorDto.vendorRow (dto : SubmitVendorDto) (seed : SubmitSeed) (userId : UserId) (now : Time) : VendorRow :=
  let vendorType : VendorType := dto.type.getD .informal
  { id := seed.vendorId
    type := vendorType
    status := .pendingReview
    isOpen := false
    acceptsPreOrders := vendorType == .informal
    commissionRate := COMMISSION_RATE_BY_TYPE vendorType
    momoPhone := normalizePhone dto.momoPhone
    createdAt := now
    userId := userId }

def SubmitSeed.item (seed : SubmitSeed) (k : ℕ) (name : String) : Price → Item
  | ⟨priceXAF, min⟩ => ⟨seed.itemIds k, seed.vendorId, name, priceXAF, true, true, min⟩

/-- The user of the new row, as the lookup had them. -/
def vendorUser (users : List User) (phone : Phone) (id : UserId) (existingUser : Option User) :
    Except MenuError (List User × UserId) :=
  match existingUser with
  | none =>
    match createUser users ⟨id, phone, .vendor⟩ with
    | none => .error .uniqueViolation
    | some users => .ok (users, id)
  | some user =>
    if user.role ≠ .consumer ∧ user.role ≠ .vendor then .error .phoneUsedByOtherRole
    else .ok (if user.role = .consumer then setRole users user.id .vendor else users, user.id)

def OnboardDb.vendorTransaction (db : OnboardDb) (dto : SubmitVendorDto) (seed : SubmitSeed) (existingUser : Option User) :
    Except MenuError OnboardDb :=
  match vendorUser db.users (normalizePhone dto.whatsappPhone) seed.userId existingUser with
  | .error err => .error err
  | .ok (users, userId) =>
    match { db.menu with users }.insertVendor (dto.vendorRow seed userId db.clock) with
    | .error err => .error err
    | .ok menu =>
      match menu.insertItems (dto.dishes.mapIdx fun k dish => seed.item k dish.1 dish.2) with
      | .error err => .error err
      | .ok menu => .ok { db with menu }

/-! submit of RidersService. -/

def OnboardDb.riderDb (db : OnboardDb) : RiderDb := ⟨db.users, db.riders, [], []⟩

def riderUser (users : List User) (phone : Phone) (id : UserId) (existingUser : Option User) : Except RiderError (List User × UserId) :=
  match existingUser with
  | none =>
    match createUser users ⟨id, phone, .rider⟩ with
    | none => .error .uniqueViolation
    | some users => .ok (users, id)
  | some user => .ok (if user.role = .consumer then setRole users user.id .rider else users, user.id)

def OnboardDb.riderTransaction (db : OnboardDb) (dto : SubmitRiderDto) (files : RiderFiles) (seed : RiderSeed)
    (existingUser : Option User) : Except RiderError OnboardDb :=
  match riderUser db.users (normalizePhone dto.phone) seed.userId existingUser with
  | .error err => .error err
  | .ok (users, userId) =>
    match db.riderDb.upsert dto files seed userId db.clock with
    | .error err => .error err
    | .ok rows => .ok { db with menu := { db.menu with users }, riders := rows.riders }

/-! The calls. -/

inductive OnboardOutcome
  | submitted
  | vendorError (err : MenuError)
  | riderError (err : RiderError)
  | thrown (reason : String)
  deriving Repr

/-- Each is named after what comes next. -/
inductive OnboardCall
  | findVendorUser (dto : SubmitVendorDto) (seed : SubmitSeed)
  | uploadForVendor (dto : SubmitVendorDto) (seed : SubmitSeed) (existingUser : Option User)
  | vendorTransaction (dto : SubmitVendorDto) (seed : SubmitSeed) (existingUser : Option User)
  | findRiderUser (dto : SubmitRiderDto) (files : RiderFiles) (seed : RiderSeed)
  | uploadForRider (dto : SubmitRiderDto) (files : RiderFiles) (seed : RiderSeed) (existingUser : Option User)
  | riderTransaction (dto : SubmitRiderDto) (files : RiderFiles) (seed : RiderSeed) (existingUser : Option User)
  | done (outcome : OnboardOutcome)

def OnboardCall.step (db : OnboardDb) : OnboardCall → Reply → Option (OnboardDb × OnboardCall)
  | .findVendorUser dto seed, .ok =>
    let existingUser := db.findUser (normalizePhone dto.whatsappPhone)
    if existingUser.any fun u => db.vendors.any fun v => v.userId == u.id then
      some (db, .done (.vendorError .vendorAlreadySubmitted))
    else some (db, .uploadForVendor dto seed existingUser)
  | .uploadForVendor dto seed existingUser, .ok => some (db, .vendorTransaction dto seed existingUser)
  | .vendorTransaction dto seed existingUser, .ok =>
    match db.vendorTransaction dto seed existingUser with
    | .error err => some (db, .done (.vendorError err))
    | .ok db' => some (db', .done .submitted)
  | .findRiderUser dto files seed, .ok =>
    match db.findUser (normalizePhone dto.phone) with
    | none => some (db, .uploadForRider dto files seed none)
    | some user =>
      match db.riderDb.checkUser user with
      | .error err => some (db, .done (.riderError err))
      | .ok () => some (db, .uploadForRider dto files seed (some user))
  | .uploadForRider dto files seed existingUser, .ok => some (db, .riderTransaction dto files seed existingUser)
  | .riderTransaction dto files seed existingUser, .ok =>
    match db.riderTransaction dto files seed existingUser with
    | .error err => some (db, .done (.riderError err))
    | .ok db' => some (db', .done .submitted)
  | .done _, _ => none
  | _, .fail reason => some (db, .done (.thrown reason))
  | _, _ => none

/-- `verifyOtp` upserts the user of its phone; the admin's writes and all others to the rows of
vendors and riders leave their users alone. -/
inductive OnboardEvent
  | tick (elapsed : Time)
  | submitInformal (dto : SubmitVendorDto) (files : SubmitFiles) (seed : SubmitSeed)
  | submit (dto : SubmitRiderDto) (files : RiderFiles) (seed : RiderSeed)
  | verifyOtp (phone : Phone) (id : UserId)
  | vendorColumns (columns : Vendor)
  | riderStatus (id : RiderId) (status : RiderStatus)

def onboardEvent (db : OnboardDb) : OnboardEvent → OnboardDb × List OnboardCall
  | .tick elapsed => ({ db with clock := db.clock + elapsed }, [])
  | .submitInformal dto files seed =>
    match dto.checkFiles files with
    | .error err => (db, [.done (.vendorError err)])
    | .ok () => (db, [.findVendorUser dto seed])
  | .submit dto files seed =>
    match dto.checkFiles files with
    | .error err => (db, [.done (.riderError err)])
    | .ok () => (db, [.findRiderUser dto files seed])
  | .verifyOtp phone id =>
    match createUser db.users ⟨id, phone, .consumer⟩ with
    | none => (db, [])
    | some users => ({ db with menu := { db.menu with users } }, [])
  | .vendorColumns columns =>
    ({ db with menu := { db.menu with
        vendors := db.vendors.map fun v => if v.id = columns.id then { columns with userId := v.userId } else v } }, [])
  | .riderStatus id status =>
    ({ db with riders := db.riders.map fun r => if r.id = id then { r with status } else r }, [])

def onboardMachine : Machine OnboardDb OnboardCall OnboardEvent Reply where
  event db n := some (onboardEvent db n)
  step db t e := (t.step db e).map fun r => (r.1, [r.2])

end ChopNow
