import ChopNow.Spec.Menu
import ChopNow.Spec.Suspension

/-! The rows of `model Rider`: what RidersService, AdminValidationService and
AdminRiderFraudService write to them, one request after the other. -/

namespace ChopNow

inductive RiderVehicleType
  | moto | bicycle | car | onFoot
  deriving DecidableEq, Repr

structure RiderRow extends Rider where
  userId : UserId
  vehicleType : RiderVehicleType
  preferredZone : Option String
  vehiclePhotoUrl : Option String
  licensePlate : Option String
  momoPhone : Phone
  isOnline : Bool := false
  lastLocation : Option (ℚ × ℚ) := none
  lastSeenAt : Option Time := none
  submittedAt : Time
  validatedAt : Option Time := none
  rejectedAt : Option Time := none
  rejectionReason : Option String := none

structure RiderDb where
  users : List User
  riders : List RiderRow
  orders : List Order
  ledger : Ledger

inductive RiderError
  | idCardPhotoRequired
  | selfiePhotoRequired
  | vehiclePhotoRequired (vehicleType : RiderVehicleType)
  | licensePlateRequired (vehicleType : RiderVehicleType)
  | riderAlreadyActive
  | phoneUsedByOtherRole
  | licensePlateAlreadyUsed
  | uniqueViolation
  | riderNotFound
  | riderNotActive
  | admin (err : AdminError)
  | order (err : OrderError)
  deriving Repr

/-! The requests. -/

structure SubmitRiderDto where
  phone : String
  vehicleType : RiderVehicleType
  preferredZone : Option String
  licensePlate : Option String
  momoPhone : String

/-- The keys that the uploads return. -/
structure RiderFiles where
  idCardPhoto : Option String
  selfiePhoto : Option String
  vehiclePhoto : Option String

/-- The ids of the rows, should they be new. -/
structure RiderSeed where
  userId : UserId
  riderId : RiderId

/-! RidersService. -/

def RESUBMITTABLE : List RiderStatus := [.pendingReview, .correctionRequested, .rejected]

def REQUIRES_VEHICLE_PHOTO : List RiderVehicleType := [.moto, .bicycle, .car]

def REQUIRES_LICENSE_PLATE : List RiderVehicleType := [.moto, .car]

def normalizePlate (plate : String) : String :=
  String.ofList ((plate.toList.filter fun c => !c.isWhitespace).map Char.toUpper)

/-- The plate that goes into the row, if the vehicle carries one. -/
def SubmitRiderDto.plate (dto : SubmitRiderDto) : Option String :=
  if dto.vehicleType ∈ REQUIRES_LICENSE_PLATE then dto.licensePlate.map normalizePlate else none

/-- What has to come with a vehicle of this type. -/
def SubmitRiderDto.checkFiles (dto : SubmitRiderDto) (files : RiderFiles) : Except RiderError Unit :=
  if files.idCardPhoto.isNone then .error .idCardPhotoRequired
  else if files.selfiePhoto.isNone then .error .selfiePhotoRequired
  else if dto.vehicleType ∈ REQUIRES_VEHICLE_PHOTO ∧ files.vehiclePhoto.isNone then
    .error (.vehiclePhotoRequired dto.vehicleType)
  else if dto.vehicleType ∈ REQUIRES_LICENSE_PLATE ∧ dto.licensePlate.getD "" = "" then
    .error (.licensePlateRequired dto.vehicleType)
  else .ok ()

/-- The user of the phone may be submitted. -/
def RiderDb.checkUser (db : RiderDb) (user : User) : Except RiderError Unit :=
  if (db.riders.find? fun r => r.userId == user.id).any fun r => r.status ∉ RESUBMITTABLE then .error .riderAlreadyActive
  else if user.role ≠ .consumer ∧ user.role ≠ .rider then .error .phoneUsedByOtherRole
  else .ok ()

/-- The two branches of the upsert. -/
def SubmitRiderDto.create (dto : SubmitRiderDto) (files : RiderFiles) (seed : RiderSeed) (userId : UserId) (now : Time) :
    RiderRow where
  id := seed.riderId
  userId := userId
  status := .pendingReview
  reliabilityScore := 80
  vehicleType := dto.vehicleType
  preferredZone := dto.preferredZone
  idCardPhotoUrl := files.idCardPhoto
  selfiePhotoUrl := files.selfiePhoto
  vehiclePhotoUrl := files.vehiclePhoto
  licensePlate := dto.plate
  momoPhone := normalizePhone dto.momoPhone
  submittedAt := now
  createdAt := now

def SubmitRiderDto.update (dto : SubmitRiderDto) (files : RiderFiles) (now : Time) (row : RiderRow) : RiderRow :=
  { row with
    status := .pendingReview
    vehicleType := dto.vehicleType
    preferredZone := dto.preferredZone
    idCardPhotoUrl := files.idCardPhoto
    selfiePhotoUrl := files.selfiePhoto
    vehiclePhotoUrl := files.vehiclePhoto
    licensePlate := dto.plate
    momoPhone := normalizePhone dto.momoPhone
    submittedAt := now
    rejectedAt := none
    rejectionReason := none }

/-- `licensePlate` is unique across riders. -/
def RiderDb.plateTaken (db : RiderDb) (plate : Option String) (userId : UserId) : Bool :=
  plate.isSome && db.riders.any fun r => r.licensePlate == plate && r.userId != userId

def RiderDb.upsert (db : RiderDb) (dto : SubmitRiderDto) (files : RiderFiles) (seed : RiderSeed) (userId : UserId)
    (now : Time) : Except RiderError RiderDb :=
  if db.plateTaken dto.plate userId then .error .licensePlateAlreadyUsed
  else if db.riders.any fun r => r.userId == userId then
    .ok { db with riders := db.riders.map fun r => if r.userId = userId then dto.update files now r else r }
  else if db.riders.any fun r => r.id == seed.riderId then .error .uniqueViolation
  else .ok { db with riders := db.riders ++ [dto.create files seed userId now] }

def RiderDb.submit (db : RiderDb) (dto : SubmitRiderDto) (files : RiderFiles) (seed : RiderSeed) (now : Time) :
    Except RiderError RiderDb :=
  match dto.checkFiles files with
  | .error err => .error err
  | .ok () =>
    match db.users.find? fun u => u.phone == normalizePhone dto.phone with
    | none =>
      -- the id of a new user is nobody's yet
      if db.users.any (·.id == seed.userId) || db.riders.any (·.userId == seed.userId) then .error .uniqueViolation
      else RiderDb.upsert { db with users := db.users ++ [⟨seed.userId, normalizePhone dto.phone, .rider⟩] } dto files
        seed seed.userId now
    | some user =>
      match db.checkUser user with
      | .error err => .error err
      | .ok () =>
        RiderDb.upsert { db with users := db.users.map fun u => if u.id = user.id then { u with role := .rider } else u }
          dto files seed user.id now

/-- `update({ where: { id } })`. -/
def RiderDb.write (db : RiderDb) (id : RiderId) (f : RiderRow → RiderRow) : RiderDb :=
  { db with riders := db.riders.map fun r => if r.id = id then f r else r }

def RiderDb.requireActive (db : RiderDb) (userId : UserId) : Except RiderError RiderId :=
  match db.riders.find? fun r => r.userId == userId with
  | none => .error .riderNotFound
  | some rider => if rider.status ≠ .active then .error .riderNotActive else .ok rider.id

def RiderDb.setAvailability (db : RiderDb) (userId : UserId) (isOnline : Bool) (now : Time) : Except RiderError RiderDb :=
  (db.requireActive userId).map fun id => db.write id fun r =>
    { r with isOnline, lastSeenAt := if isOnline then some now else r.lastSeenAt }

def RiderDb.pushHeartbeat (db : RiderDb) (userId : UserId) (lng lat : ℚ) (now : Time) : Except RiderError RiderDb :=
  (db.requireActive userId).map fun id => db.write id fun r =>
    { r with lastLocation := some (lng, lat), lastSeenAt := some now, isOnline := true }

/-! AdminValidationService. -/

/-- The `data` of the update. -/
def AdminAction.writeRider (action : AdminAction) (reason : Option String) (now : Time) (row : RiderRow) : RiderRow :=
  match action with
  | .approve => { row with status := .active, validatedAt := some now }
  | .reject => { row with status := .rejected, rejectedAt := some now, rejectionReason := reason }
  | .suspend => { row with status := .suspended, isOnline := false, rejectionReason := reason }
  | .unsuspend => { row with status := .active, rejectionReason := none }

def RiderDb.administer (db : RiderDb) (action : AdminAction) (rider : RiderId) (reason : Option String) (now : Time) :
    Except RiderError RiderDb :=
  match action.check reason ((db.riders.find? fun r => r.id == rider).map (·.status.toVendorStatus)) with
  | .error err => .error (.admin err)
  | .ok () => .ok (db.write rider (action.writeRider reason now))

/-! AdminRiderFraudService. -/

def RiderFraudAction.writeRider (action : RiderFraudAction) (row : RiderRow) : RiderRow :=
  { row with toRider := action.apply row.toRider }

/-- The order's own transaction, with the journal. -/
def RiderDb.cancelForFraud (db : RiderDb) (order : Order) (input : ResolveRiderFraudInput) (now : Time) :
    Except RiderError RiderDb :=
  match commitRiderFraud { World.start order with ledger := db.ledger } order input now with
  | .error err => .error (.order err)
  | .ok w => .ok { db with
      ledger := w.ledger
      orders := db.orders.map fun o => if o.id = order.id then w.order else o }

def RiderDb.resolveRiderFraud (db : RiderDb) (orderId : OrderId) (input : ResolveRiderFraudInput)
    (action : RiderFraudAction) (now : Time) : Except RiderError RiderDb :=
  match db.orders.find? fun o => o.id == orderId with
  | none => .error (.order .orderNotFound)
  | some order =>
    match checkRiderFraud order input with
    | .error err => .error (.order err)
    | .ok () =>
      match db.cancelForFraud order input now with
      | .error err => .error err
      | .ok db' => .ok (match order.riderId with
        | none => db'
        | some rider => db'.write rider action.writeRider)

/-! A run of requests. `users`, `orders` and `ledger` are what other services make of their tables. -/

inductive RiderEvent
  | submit (dto : SubmitRiderDto) (files : RiderFiles) (seed : RiderSeed) (now : Time)
  | administer (action : AdminAction) (rider : RiderId) (reason : Option String) (now : Time)
  | resolveRiderFraud (order : OrderId) (input : ResolveRiderFraudInput) (action : RiderFraudAction) (now : Time)
  | setAvailability (userId : UserId) (isOnline : Bool) (now : Time)
  | pushHeartbeat (userId : UserId) (lng lat : ℚ) (now : Time)
  | users (rows : List User)
  | orders (rows : List Order)
  | ledger (rows : Ledger)

def RiderEvent.serve (db : RiderDb) : RiderEvent → Except RiderError RiderDb
  | .submit dto files seed now => db.submit dto files seed now
  | .administer action rider reason now => db.administer action rider reason now
  | .resolveRiderFraud order input action now => db.resolveRiderFraud order input action now
  | .setAvailability userId isOnline now => db.setAvailability userId isOnline now
  | .pushHeartbeat userId lng lat now => db.pushHeartbeat userId lng lat now
  | .users rows => .ok { db with users := rows }
  | .orders rows => .ok { db with orders := rows }
  | .ledger rows => .ok { db with ledger := rows }

/-- A request that fails writes nothing. -/
def riderStep (db : RiderDb) (n : RiderEvent) : RiderDb :=
  match n.serve db with
  | .error _ => db
  | .ok db' => db'

def riderRun (events : List RiderEvent) : RiderDb := events.foldl riderStep ⟨[], [], [], []⟩

end ChopNow
