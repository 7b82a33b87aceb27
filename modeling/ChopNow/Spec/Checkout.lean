import ChopNow.Lib.Interleave
import ChopNow.Lib.Transaction
import ChopNow.Spec.Creation

/-! The checkout: any number of createOrder calls, each with its transaction statement by
statement, beside the payments of the orders they make. -/

namespace ChopNow

open Interleave Transaction

/-- `unheard` is a commit that landed and whose answer got lost. -/
inductive CheckoutError
  | refused (err : CreateError)
  | uniqueViolation
  | connectionLost
  | unheard
  deriving DecidableEq, Repr

/-! `$transaction`. -/

inductive TxStatement
  | createOrder
  | findCoupon
  | countPaidOrders
  | createRedemption
  | bumpCount
  | updateOrder
  | commit
  deriving DecidableEq, Repr

/-- A statement throws when the connection is lost at it. -/
def sent (lost : Option TxStatement) (statement : TxStatement) : Tx CreationDb CheckoutError Unit :=
  if lost = some statement then throw .connectionLost else pure ()

/-- The unique columns of `model Order`; a missing key is no key. -/
def Order.clashes (o order : Order) : Bool :=
  o.id == order.id || o.code == order.code ||
    (o.userId == order.userId && order.idempotencyKey.isSome && o.idempotencyKey == order.idempotencyKey)

/-- `tx.order.create`. -/
def insertOrder (order : Order) : Tx CreationDb CheckoutError Unit := do
  let db ← get
  if db.orders.any fun o => o.clashes order then throw .uniqueViolation
  set { db with orders := db.orders ++ [order] }

/-- `id: { not: orderId }` beside the other conditions. -/
def otherPaidOrderCount (db : CreationDb) (userId : UserId) (orderId : OrderId) : ℕ :=
  db.orders.countP fun o => o.userId == userId &&
    (o.paymentStatus == .paid || o.paymentStatus == .refunded) && o.status != .cancelled && o.id != orderId

/-- `tx.couponRedemption.create`: one row per coupon and user, one per order. -/
def insertRedemption (redemption : CouponRedemption) : Tx CreationDb CheckoutError Unit := do
  let db ← get
  if db.redemptions.any fun r =>
      (r.couponId == redemption.couponId && r.userId == redemption.userId) || r.orderId == redemption.orderId then
    throw (.refused (.coupon .couponAlreadyRedeemed))
  set { db with redemptions := db.redemptions ++ [redemption] }

/-- `redemptionCount: { increment: 1 }`. -/
def bumpCount (couponId : CouponId) : Tx CreationDb CheckoutError Unit :=
  modify fun db => { db with
    coupons := db.coupons.map fun c =>
      if c.id = couponId then { c with redemptionCount := c.redemptionCount + 1 } else c }

/-- The body of `redeemInTransaction`. -/
def redeem (lost : Option TxStatement) (rawCode : String) (userId : UserId) (orderId : OrderId)
    (subtotalXAF deliveryFeeXAF : ℤ) (now : Time) : Tx CreationDb CheckoutError (String × ℤ) := do
  let code := normalizeCode rawCode
  if code == "" then throw (.refused (.coupon .couponNotFound))
  sent lost .findCoupon
  let coupon := (← get).coupons.find? fun c => c.code == code
  sent lost .countPaidOrders
  let priorPaidOrderCount := otherPaidOrderCount (← get) userId orderId
  match validateRow coupon subtotalXAF deliveryFeeXAF priorPaidOrderCount now with
  | .error err => throw (.refused (.coupon err))
  | .ok (coupon, discountXAF) =>
    sent lost .createRedemption
    insertRedemption ⟨coupon.id, userId, orderId, discountXAF, deliveryFeeXAF⟩
    sent lost .bumpCount
    bumpCount coupon.id
    pure (coupon.code, discountXAF)

/-- The columns that the second write to the row sets. -/
def Order.discounted (o : Order) (code : String) (discountXAF grossTotalXAF : ℤ) : Order :=
  { o with discountXAF, couponCode := some code, totalXAF := grossTotalXAF - discountXAF }

/-- `tx.order.update({ where: { id } })`. -/
def updateOrder (id : OrderId) (f : Order → Order) : Tx CreationDb CheckoutError Unit :=
  modify fun db => { db with orders := db.orders.map fun o => if o.id = id then f o else o }

/-- The transaction of createOrder. -/
def createOrderTx (lost : Option TxStatement) (order : Order) (couponCode : Option String) (now : Time) :
    Tx CreationDb CheckoutError Order := do
  sent lost .createOrder
  insertOrder order
  match couponCode with
  | none | some "" =>
    sent lost .commit
    pure order
  | some rawCode =>
    let (code, discountXAF) ← redeem lost rawCode order.userId order.id order.subtotalXAF order.deliveryFeeXAF now
    sent lost .updateOrder
    updateOrder order.id fun o => o.discounted code discountXAF (order.subtotalXAF + order.deliveryFeeXAF)
    sent lost .commit
    pure (order.discounted code discountXAF (order.subtotalXAF + order.deliveryFeeXAF))

/-! The state. `bookings` lists whose order was booked as paid, in turn, and `placed` how many
bookings each order was committed after; the code keeps neither. -/

structure Checkout where
  db : CreationDb
  bookings : List (UserId × OrderId)
  placed : List (OrderId × ℕ)
  clock : Time

/-- What the transaction leaves, and its order if it has one. -/
def Checkout.commit (s : Checkout) (r : CreationDb × Except CheckoutError Order) : Checkout :=
  { s with
    db := r.1
    placed := match r.2 with
      | .ok o => s.placed ++ [(o.id, s.bookings.length)]
      | .error _ => s.placed }

inductive CheckoutReply
  | ok
  | measured (distance_m : ℚ) (seed : OrderSeed)
  | lost (statement : TxStatement)
  | unheard
  | fail

/-! createOrder. -/

inductive CreateOrder
  | called (userId : UserId) (dto : CreateOrderDto) (idempotencyKey : Option String)
  | unkeyed (userId : UserId) (dto : CreateOrderDto) (idempotencyKey : Option String)
  | served (userId : UserId) (dto : CreateOrderDto) (idempotencyKey : Option String) (vendor : Vendor)
  | priced (userId : UserId) (dto : CreateOrderDto) (idempotencyKey : Option String) (vendor : Vendor) (subtotalXAF : ℤ)
  | drafted (order : Order) (couponCode : Option String)
  | done (result : Except CheckoutError Order)

/-- The items are read and the cart is priced. -/
def subtotalOf (db : CreationDb) (vendor : Vendor) (dto : CreateOrderDto) : Except CreateError ℤ :=
  match loadItems db vendor.id (dto.items.map (·.itemId)) with
  | .error err => .error err
  | .ok items => (priceLines items dto.items).map List.sum

/-- What stands between the distance and the transaction. -/
def draftOrder (seed : OrderSeed) (userId : UserId) (dto : CreateOrderDto) (idempotencyKey : Option String)
    (vendor : Vendor) (subtotalXAF : ℤ) (distance_m : ℚ) (now : Time) : Except CreateError Order :=
  let deliveryFeeXAF := computeDeliveryFeeXAF (distance_m / 1000)
  if subtotalXAF + deliveryFeeXAF < MIN_ORDER_XAF then .error .orderBelowMinimum
  else (checkSchedule vendor dto.scheduledFor now).map fun _ =>
    newOrder seed userId vendor dto idempotencyKey subtotalXAF deliveryFeeXAF now

def CreateOrder.step (s : Checkout) : CreateOrder → CheckoutReply → Option (Checkout × CreateOrder)
  | .called userId dto idempotencyKey, .ok =>
    match s.db.orders.find? fun o => o.userId == userId && givenKey idempotencyKey &&
        o.idempotencyKey == idempotencyKey with
    | some existing => some (s, .done (.ok existing))
    | none => some (s, .unkeyed userId dto idempotencyKey)
  | .unkeyed userId dto idempotencyKey, .ok =>
    match findVendor s.db dto.vendorId with
    | .error err => some (s, .done (.error (.refused err)))
    | .ok vendor => some (s, .served userId dto idempotencyKey vendor)
  | .served userId dto idempotencyKey vendor, .ok =>
    match subtotalOf s.db vendor dto with
    | .error err => some (s, .done (.error (.refused err)))
    | .ok subtotalXAF => some (s, .priced userId dto idempotencyKey vendor subtotalXAF)
  | .priced userId dto idempotencyKey vendor subtotalXAF, .measured distance_m seed =>
    match draftOrder seed userId dto idempotencyKey vendor subtotalXAF distance_m s.clock with
    | .error err => some (s, .done (.error (.refused err)))
    | .ok order => some (s, .drafted order dto.couponCode)
  | .drafted order couponCode, .ok =>
    let r := transaction (createOrderTx none order couponCode s.clock) s.db
    some (s.commit r, .done r.2)
  | .drafted order couponCode, .lost statement =>
    let r := transaction (createOrderTx (some statement) order couponCode s.clock) s.db
    some (s.commit r, .done r.2)
  | .drafted order couponCode, .unheard =>
    let r := transaction (createOrderTx none order couponCode s.clock) s.db
    some (s.commit r, .done (.error .unheard))
  | .called .., .fail | .unkeyed .., .fail | .served .., .fail | .priced .., .fail =>
    some (s, .done (.error .connectionLost))
  | _, _ => none

/-! onPaymentSucceeded, as far as the order's row goes. -/

inductive BookPayment
  | called (orderId : OrderId) (payload : PaymentSucceeded)
  | read (order : Order) (payload : PaymentSucceeded) (now : Time)
  | done

def CreationDb.write (db : CreationDb) (id : OrderId) (f : Order → Order) : CreationDb :=
  { db with orders := db.orders.map fun o => if o.id = id then f o else o }

/-- The `where` of the booking. -/
def Order.isBookable (o : Order) : Bool := o.paymentStatus == .pending || o.paymentStatus == .processing

def BookPayment.step (s : Checkout) : BookPayment → CheckoutReply → Option (Checkout × BookPayment)
  | .called orderId payload, .ok =>
    match s.db.orders.find? fun o => o.id == orderId with
    | none => some (s, .done)
    | some order => some (s, if order.paymentStatus = .paid then .done else .read order payload s.clock)
  | .read order payload now, .ok =>
    if s.db.orders.any fun o => o.id == order.id && o.isBookable then
      some ({ s with
        db := s.db.write order.id fun row => row.paymentPatch order payload now
        bookings := s.bookings ++ [(order.userId, order.id)] }, .done)
    else some (s, .done)
  | .called .., .fail | .read .., .fail => some (s, .done)
  | _, _ => none

/-! The machine. -/

inductive CheckoutThread
  | create (t : CreateOrder)
  | book (t : BookPayment)

/-- `menu` is any change to vendors and items, `elsewhere` any other write to an order's row. -/
inductive CheckoutEvent
  | tick (elapsed : Time)
  | createOrder (userId : UserId) (dto : CreateOrderDto) (idempotencyKey : Option String)
  | paymentSucceeded (orderId : OrderId) (payload : PaymentSucceeded)
  | menu (vendors : List Vendor) (items : List Item)
  | elsewhere (columns : Order)

/-- What no other writer touches: who ordered what, the bill, and when it was paid. -/
def Order.keepBill (columns row : Order) : Order :=
  { columns with
    id := row.id
    code := row.code
    userId := row.userId
    vendorId := row.vendorId
    idempotencyKey := row.idempotencyKey
    subtotalXAF := row.subtotalXAF
    deliveryFeeXAF := row.deliveryFeeXAF
    discountXAF := row.discountXAF
    couponCode := row.couponCode
    totalXAF := row.totalXAF
    paidAt := row.paidAt }

def checkoutEvent (s : Checkout) : CheckoutEvent → Checkout × List CheckoutThread
  | .tick elapsed => ({ s with clock := s.clock + elapsed }, [])
  | .createOrder userId dto idempotencyKey => (s, [.create (.called userId dto idempotencyKey)])
  | .paymentSucceeded orderId payload => (s, [.book (.called orderId payload)])
  | .menu vendors items => ({ s with db := { s.db with vendors := vendors, items := items } }, [])
  | .elsewhere columns => ({ s with db := s.db.write columns.id columns.keepBill }, [])

def checkoutStep (s : Checkout) : CheckoutThread → CheckoutReply → Option (Checkout × CheckoutThread)
  | .create t, e => (t.step s e).map fun r => (r.1, .create r.2)
  | .book t, e => (t.step s e).map fun r => (r.1, .book r.2)

def checkoutMachine : Machine Checkout CheckoutThread CheckoutEvent CheckoutReply where
  event s n := some (checkoutEvent s n)
  step s t e := (checkoutStep s t e).map fun r => (r.1, [r.2])

/-- A menu and coupons that nobody has used yet. -/
def Checkout.start (vendors : List Vendor) (items : List Item) (coupons : List Coupon) : Checkout where
  db := ⟨vendors, items, coupons.map fun c => { c with redemptionCount := 0 }, [], []⟩
  bookings := []
  placed := []
  clock := 0

end ChopNow
