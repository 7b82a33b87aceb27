import ChopNow.Spec.Lifecycle

/-! The ten operations that send order rows to a user. Each reads and writes the tables and
names the rows of its answer; what is left out of a row is up to its view. -/

namespace ChopNow

/-! maskPhone. -/

def trim (text : List Char) : List Char :=
  ((text.dropWhile Char.isWhitespace).reverse.dropWhile Char.isWhitespace).reverse

def maskPhone (phone : Phone) : String :=
  if phone = "" then ""
  else
    let trimmed := trim phone.toList
    if trimmed.length < 6 then "••••••"
    else
      let last2 := trimmed.drop (trimmed.length - 2)
      if "+237".toList.isPrefixOf trimmed ∧ 11 ≤ trimmed.length then
        String.ofList ("+237 ".toList ++ (trimmed.drop 4).take 1 ++ "•• ••• •".toList ++ last2)
      else String.ofList (trimmed.take 2 ++ "•••••".toList ++ last2)

example : maskPhone "+237670000099" = "+237 6•• ••• •99" := by decide +kernel

/-! The tables. -/

/-- Who owns a vendor, and who is a rider: `userId` is unique in both tables. -/
structure Directory where
  vendorOf : UserId → Option VendorId
  vendorUser : VendorId → Option UserId
  riderOf : UserId → Option RiderId
  vendorUser_iff : ∀ {u v}, vendorOf u = some v ↔ vendorUser v = some u

structure ApiDb extends CreationDb where
  directory : Directory
  deliveryPhone : OrderId → Phone
  ledger : Ledger
  clock : Time

def ApiDb.findOrder (db : ApiDb) (id : OrderId) : Option Order := db.orders.find? fun o => o.id == id

def setRow (orders : List Order) (row : Order) : List Order := orders.map fun o => if o.id = row.id then row else o

def ApiDb.setOrder (db : ApiDb) (row : Order) : ApiDb := { db with orders := setRow db.orders row }

/-! Answers. -/

inductive ApiError
  | order (err : OrderError)
  | create (err : CreateError)
  | vendorNotFound
  | vendorForbidden
  | riderNotFound
  deriving DecidableEq, Repr

/-- `whole` is the row as `findUnique` returns it. -/
inductive View
  | whole
  | forParties
  | forConsumer
  | forVendor
  deriving DecidableEq, Repr

inductive OrderAnswer
  | error (err : ApiError)
  | order (view : View) (row : Order)
  | orders (view : View) (rows : List Order)

/-! Reads of a row or of a list. -/

def ApiDb.isVendorSide (db : ApiDb) (order : Order) (user : UserId) : Bool :=
  db.directory.vendorUser order.vendorId == some user

def ApiDb.getOrder (db : ApiDb) (id : OrderId) (user : UserId) : OrderAnswer :=
  match db.findOrder id with
  | none => .error (.order .orderNotFound)
  | some order =>
    if order.userId = user ∨ db.isVendorSide order user = true then .order .forParties order
    else .error (.order .orderNotFound)

/-- `orderBy … desc`; a missing date comes first. -/
def latestFirst (key : Order → Option Time) (rows : List Order) : List Order :=
  rows.mergeSort fun x y => match key x, key y with
    | none, _ => true
    | some _, none => false
    | some a, some b => decide (b ≤ a)

/-- `orderBy … asc`; a missing date comes last. -/
def soonestFirst (key : Order → Option Time) (rows : List Order) : List Order :=
  rows.mergeSort fun x y => match key x, key y with
    | _, none => true
    | none, some _ => false
    | some a, some b => decide (a ≤ b)

def ApiDb.listConsumerOrders (db : ApiDb) (user : UserId) : OrderAnswer :=
  .orders .forConsumer
    ((latestFirst (fun o => some o.placedAt) (db.orders.filter fun o => o.userId == user)).take 30)

inductive ListType
  | immediate | preorder
  deriving DecidableEq, Repr

def ListType.admits (type : ListType) (order : Order) : Bool :=
  match type with
  | .immediate => order.scheduledFor.isNone
  | .preorder => order.scheduledFor.isSome

def ListType.sort : ListType → List Order → List Order
  | .immediate => latestFirst fun o => some o.placedAt
  | .preorder => soonestFirst Order.scheduledFor

def ApiDb.listVendorOrders (db : ApiDb) (user : UserId) (status : Option OrderStatus) (type : ListType) : OrderAnswer :=
  match db.directory.vendorOf user with
  | none => .error .vendorNotFound
  | some vendor =>
    .orders .forVendor ((type.sort (db.orders.filter fun o =>
      o.vendorId == vendor && o.paymentStatus == .paid && type.admits o && status.all (· == o.status))).take 100)

def COURSES : List OrderStatus := [.accepted, .inPrep, .readyPickup, .pickedUp]

def Order.isCourseOf (order : Order) (rider : RiderId) : Bool :=
  order.riderId == some rider && COURSES.contains order.status

def ApiDb.listCourses (db : ApiDb) (user : UserId) : OrderAnswer :=
  match db.directory.riderOf user with
  | none => .error .riderNotFound
  | some rider => .orders .whole (latestFirst Order.assignedAt (db.orders.filter fun o => o.isCourseOf rider))

/-! Writes. -/

/-- A row that was there keeps its phone. -/
def ApiDb.createOrder (db : ApiDb) (seed : OrderSeed) (user : UserId) (dto : CreateOrderDto) (deliveryPhone : Phone)
    (idempotencyKey : Option String) (distance_m : ℚ) : ApiDb × OrderAnswer :=
  match ChopNow.createOrder db.toCreationDb seed user dto idempotencyKey distance_m db.clock with
  | .error err => (db, .error (.create err))
  | .ok (tables, order) =>
    ({ db with
        toCreationDb := tables
        deliveryPhone := fun id =>
          if id = order.id ∧ (db.findOrder id).isNone then deliveryPhone else db.deliveryPhone id },
      .order .whole order)

/-- acceptOrder, refuseOrder and cancelOrder: the checks, the guarded update, the row read back. -/
def ApiDb.decideOrder (db : ApiDb) (id : OrderId) (call : DecisionCall) : ApiDb × OrderAnswer :=
  match db.findOrder id with
  | none => (db, .error (.order .orderNotFound))
  | some order =>
    match call.check order db.clock with
    | .error err => (db, .error (.order err))
    | .ok _ =>
      let row := order.decide db.clock call.verdict
      if order.awaitsDecision then (db.setOrder row, .order .whole row)
      else (db, .error (.order .orderStateChanged))

def ApiDb.cancelOrder (db : ApiDb) (id : OrderId) (user : UserId) : ApiDb × OrderAnswer :=
  db.decideOrder id (.cancelOrder user)

def ApiDb.acceptOrder (db : ApiDb) (id : OrderId) (user : UserId) : ApiDb × OrderAnswer :=
  match db.directory.vendorOf user with
  | none => (db, .error .vendorForbidden)
  | some vendor => db.decideOrder id (.acceptOrder vendor)

def ApiDb.refuseOrder (db : ApiDb) (id : OrderId) (user : UserId) (reason : RefusalReason) (note : Option String) :
    ApiDb × OrderAnswer :=
  match db.directory.vendorOf user with
  | none => (db, .error .vendorForbidden)
  | some vendor => db.decideOrder id (.refuseOrder vendor reason note)

def ApiDb.markPickedUp (db : ApiDb) (user : UserId) (id : OrderId) (submittedCode : ℕ) : ApiDb × OrderAnswer :=
  match db.directory.riderOf user, db.findOrder id with
  | none, _ => (db, .error .riderNotFound)
  | some _, none => (db, .error (.order .orderNotFound))
  | some rider, some order =>
    match checkPickup order rider submittedCode with
    | .error err => (db, .error (.order err))
    | .ok () =>
      let row := { order with status := .pickedUp, pickedUpAt := some db.clock }
      (db.setOrder row, .order .whole row)

/-- The transaction on the row that was read. -/
def ApiDb.deliver (db : ApiDb) (order : Order) (rider : RiderId) (submittedCode : ℕ) :
    Except OrderError (Order × Ledger) :=
  (ChopNow.markDelivered { World.start order with ledger := db.ledger, clock := db.clock } rider submittedCode).map
    fun w => (w.order, w.ledger)

def ApiDb.markDelivered (db : ApiDb) (user : UserId) (id : OrderId) (submittedCode : ℕ) : ApiDb × OrderAnswer :=
  match db.directory.riderOf user, db.findOrder id with
  | none, _ => (db, .error .riderNotFound)
  | some _, none => (db, .error (.order .orderNotFound))
  | some rider, some order =>
    match db.deliver order rider submittedCode with
    | .error err => (db, .error (.order err))
    | .ok (row, ledger) => ({ db.setOrder row with ledger }, .order .whole row)

/-! One user's calls, and what happens in between. -/

inductive ApiCall
  | createOrder (seed : OrderSeed) (dto : CreateOrderDto) (deliveryPhone : Phone) (idempotencyKey : Option String)
      (distance_m : ℚ)
  | getOrder (id : OrderId)
  | listConsumerOrders
  | listVendorOrders (status : Option OrderStatus) (type : ListType)
  | cancelOrder (id : OrderId)
  | acceptOrder (id : OrderId)
  | refuseOrder (id : OrderId) (reason : RefusalReason) (note : Option String)
  | listCourses
  | markPickedUp (id : OrderId) (submittedCode : ℕ)
  | markDelivered (id : OrderId) (submittedCode : ℕ)

def ApiDb.answer (db : ApiDb) (user : UserId) : ApiCall → ApiDb × OrderAnswer
  | .createOrder seed dto deliveryPhone idempotencyKey distance_m =>
    db.createOrder seed user dto deliveryPhone idempotencyKey distance_m
  | .getOrder id => (db, db.getOrder id user)
  | .listConsumerOrders => (db, db.listConsumerOrders user)
  | .listVendorOrders status type => (db, db.listVendorOrders user status type)
  | .cancelOrder id => db.cancelOrder id user
  | .acceptOrder id => db.acceptOrder id user
  | .refuseOrder id reason note => db.refuseOrder id user reason note
  | .listCourses => (db, db.listCourses user)
  | .markPickedUp id submittedCode => db.markPickedUp user id submittedCode
  | .markDelivered id submittedCode => db.markDelivered user id submittedCode

/-- The columns that every answer has. -/
def Order.blank (o : Order) : Order := { o with pickupCode := 0, deliveryCode := 0 }

/-- An `undefined` code does not make it into the JSON. -/
structure OrderResponse where
  columns : Order
  pickupCode : Option ℕ
  deliveryCode : Option ℕ
  deliveryPhone : String

def ApiDb.respond (db : ApiDb) (user : UserId) (view : View) (o : Order) : OrderResponse where
  columns := o.blank
  pickupCode := match view with
    | .whole | .forVendor => some o.pickupCode
    | .forParties => if db.isVendorSide o user then some o.pickupCode else none
    | .forConsumer => none
  deliveryCode := match view with
    | .whole | .forConsumer => some o.deliveryCode
    | .forParties => if o.userId = user then some o.deliveryCode else none
    | .forVendor => none
  deliveryPhone := match view with
    | .whole | .forConsumer => db.deliveryPhone o.id
    | .forParties => if db.isVendorSide o user then maskPhone (db.deliveryPhone o.id) else db.deliveryPhone o.id
    | .forVendor => maskPhone (db.deliveryPhone o.id)

inductive ApiResponse
  | error (err : ApiError)
  | order (response : OrderResponse)
  | orders (responses : List OrderResponse)

def ApiDb.render (db : ApiDb) (user : UserId) : OrderAnswer → ApiResponse
  | .error err => .error err
  | .order view row => .order (db.respond user view row)
  | .orders view rows => .orders (rows.map (db.respond user view))

/-- The row takes new columns; its id, its parties and its codes stay. -/
def Order.overwrite (row columns : Order) : Order :=
  { columns with
    id := row.id, userId := row.userId, vendorId := row.vendorId,
    pickupCode := row.pickupCode, deliveryCode := row.deliveryCode }

/-- `elsewhere` is any other write to a row. -/
inductive ApiStep
  | call (call : ApiCall)
  | elsewhere (columns : Order)
  | tick (elapsed : Time)

def ApiDb.step (user : UserId) (db : ApiDb) : ApiStep → ApiDb × Option ApiResponse
  | .call call =>
    let r := db.answer user call
    (r.1, some (r.1.render user r.2))
  | .elsewhere columns =>
    ({ db with orders := db.orders.map fun o => if o.id = columns.id then o.overwrite columns else o }, none)
  | .tick elapsed => ({ db with clock := db.clock + elapsed }, none)

end ChopNow
