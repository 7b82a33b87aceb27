import ChopNow.Spec.Payment

/-! OrderCreationService.createOrder and the coupon it may redeem: the four
amounts of an order, fixed in one transaction. -/

namespace ChopNow

/-- The largest number of an `Int` column. -/
def INT_MAX : ℤ := 2 ^ 31 - 1

def MIN_ORDER_XAF : ℤ := 1200

def PRE_ORDER_MIN_LEAD_HOURS : Time := 4

def PRE_ORDER_MAX_LEAD_HOURS : Time := 24

/-! Delivery fee. -/

def DELIVERY_BASE_FEE_XAF : ℚ := 250

def DELIVERY_PER_KM_XAF : ℚ := 100

def DELIVERY_FEE_FLOOR_XAF : ℚ := 500

def DELIVERY_FEE_CAP_XAF : ℚ := 1500

def ROUND_TO_XAF : ℤ := 50

def computeDeliveryFeeXAF (distanceKm : ℚ) : ℤ :=
  let raw := DELIVERY_BASE_FEE_XAF + distanceKm * DELIVERY_PER_KM_XAF
  let clamped := min DELIVERY_FEE_CAP_XAF (max DELIVERY_FEE_FLOOR_XAF raw)
  ⌈clamped / ROUND_TO_XAF⌉ * ROUND_TO_XAF

/-! The request. -/

structure CartLine where
  itemId : ItemId
  quantity : ℤ
  quantity_min : 1 ≤ quantity
  quantity_max : quantity ≤ 50

structure CreateOrderDto where
  vendorId : VendorId
  items : List CartLine
  paymentMethod : PaymentMethod
  scheduledFor : Option Time
  couponCode : Option String
  items_min : 1 ≤ items.length
  items_max : items.length ≤ 30

/-- What the database and the random source supply for the new row. -/
structure OrderSeed where
  id : OrderId
  code : Reference
  pickupCode : ℕ
  deliveryCode : ℕ

structure CreationDb where
  vendors : List Vendor
  items : List Item
  coupons : List Coupon
  redemptions : List CouponRedemption
  orders : List Order

inductive CouponError
  | couponNotFound
  | couponDisabled
  | couponNotYetActive
  | couponExpired
  | couponMinSubtotal
  | couponFirstOrderOnly
  | couponExhausted
  | couponAlreadyRedeemed
  deriving DecidableEq, Repr

inductive CreateError
  | vendorNotFound
  | vendorClosed
  | itemNotInVendorMenu
  | itemOutOfStock
  | orderBelowMinimum
  | preOrdersNotAcceptedByThisVendor
  | preOrderTooSoon
  | preOrderTooFarInFuture
  | coupon (err : CouponError)
  | uniqueViolation
  | outOfRange
  deriving DecidableEq, Repr

def findVendor (db : CreationDb) (id : VendorId) : Except CreateError Vendor :=
  match db.vendors.find? fun v => v.id == id with
  | none => .error .vendorNotFound
  | some v =>
    if v.status ≠ .active then .error .vendorNotFound
    else if !v.isOpen then .error .vendorClosed
    else .ok v

/-- The rows of `findMany`, as many as were asked for and all on sale. -/
def loadItems (db : CreationDb) (vendorId : VendorId) (itemIds : List ItemId) : Except CreateError (List Item) :=
  let items := db.items.filter fun i => itemIds.contains i.id && i.vendorId == vendorId
  if items.length ≠ itemIds.length then .error .itemNotInVendorMenu
  else if items.any fun i => !i.isAvailable || !i.isInStock then .error .itemOutOfStock
  else .ok items

/-- `lineXAF` of each cart line; the row of every line is there, the lengths agree. -/
def priceLines (items : List Item) : List CartLine → Except CreateError (List ℤ)
  | [] => .ok []
  | line :: lines =>
    match items.find? fun i => i.id == line.itemId, priceLines items lines with
    | none, _ => .error .itemNotInVendorMenu
    | _, .error err => .error err
    | some item, .ok rest => .ok (item.priceXAF * line.quantity :: rest)

def checkSchedule (vendor : Vendor) (scheduledFor : Option Time) (now : Time) : Except CreateError Unit :=
  match scheduledFor with
  | none => .ok ()
  | some t =>
    if !vendor.acceptsPreOrders then .error .preOrdersNotAcceptedByThisVendor
    else if t < now + PRE_ORDER_MIN_LEAD_HOURS * 3600000 then .error .preOrderTooSoon
    else if now + PRE_ORDER_MAX_LEAD_HOURS * 3600000 < t then .error .preOrderTooFarInFuture
    else .ok ()

/-! CouponsService. -/

def computeDiscount (coupon : Coupon) (subtotalXAF deliveryFeeXAF : ℤ) : ℤ :=
  match coupon.type with
  | .freeDelivery => deliveryFeeXAF
  | .fixedAmountOff => min coupon.valueXAF (subtotalXAF + deliveryFeeXAF)

def validateRow (coupon : Option Coupon) (subtotalXAF deliveryFeeXAF : ℤ) (userPriorPaidOrderCount : ℕ)
    (now : Time) : Except CouponError (Coupon × ℤ) :=
  match coupon with
  | none => .error .couponNotFound
  | some c =>
    if c.status ≠ .active then .error .couponDisabled
    else if c.validFrom.any (now < ·) then .error .couponNotYetActive
    else if c.validUntil.any (· < now) then .error .couponExpired
    else if c.minSubtotalXAF.any (subtotalXAF < ·) then .error .couponMinSubtotal
    else if c.firstOrderOnly && userPriorPaidOrderCount > 0 then .error .couponFirstOrderOnly
    else if c.maxRedemptions.any (· ≤ c.redemptionCount) then .error .couponExhausted
    else .ok (c, computeDiscount c subtotalXAF deliveryFeeXAF)

/-- `trim().toUpperCase()`; the codes of the pilot are ASCII. -/
def normalizeCode (rawCode : String) : String :=
  let trimmed := ((rawCode.toList.dropWhile Char.isWhitespace).reverse.dropWhile Char.isWhitespace).reverse
  String.ofList (trimmed.map Char.toUpper)

def priorPaidOrderCount (db : CreationDb) (userId : UserId) : ℕ :=
  db.orders.countP fun o => o.userId == userId &&
    (o.paymentStatus == .paid || o.paymentStatus == .refunded) && o.status != .cancelled

/-- `findFirst({ where: { userId, coupon: { code } } })`. -/
def alreadyRedeemed (db : CreationDb) (userId : UserId) (code : String) : Bool :=
  db.redemptions.any fun r => r.userId == userId && db.coupons.any fun c => c.id == r.couponId && c.code == code

/-- The preview of a coupon; nothing is written. -/
def validateForUser (db : CreationDb) (rawCode : String) (userId : UserId) (subtotalXAF deliveryFeeXAF : ℤ)
    (now : Time) : Except CouponError (Coupon × ℤ) :=
  let code := normalizeCode rawCode
  if code == "" then .error .couponNotFound
  else if alreadyRedeemed db userId code then .error .couponAlreadyRedeemed
  else
    validateRow (db.coupons.find? fun c => c.code == code) subtotalXAF deliveryFeeXAF (priorPaidOrderCount db userId) now

/-- The redemption row and the counter, with the code and the discount. -/
def redeemInTransaction (db : CreationDb) (rawCode : String) (userId : UserId) (orderId : OrderId)
    (subtotalXAF deliveryFeeXAF : ℤ) (now : Time) : Except CouponError (CreationDb × String × ℤ) :=
  let code := normalizeCode rawCode
  if code == "" then .error .couponNotFound
  else
    match validateRow (db.coupons.find? fun c => c.code == code) subtotalXAF deliveryFeeXAF
        (priorPaidOrderCount db userId) now with
    | .error err => .error err
    | .ok (coupon, discountXAF) =>
      if db.redemptions.any fun r => r.couponId == coupon.id && r.userId == userId then
        .error .couponAlreadyRedeemed
      else
        .ok ({ db with
          coupons := db.coupons.map fun c =>
            if c.id = coupon.id then { c with redemptionCount := c.redemptionCount + 1 } else c
          redemptions := db.redemptions ++ [⟨coupon.id, userId, orderId, discountXAF, deliveryFeeXAF⟩] },
          coupon.code, discountXAF)

/-! createOrder. -/

/-- The row at full price. -/
def newOrder (seed : OrderSeed) (userId : UserId) (vendor : Vendor) (dto : CreateOrderDto)
    (idempotencyKey : Option String) (subtotalXAF deliveryFeeXAF : ℤ) (now : Time) : Order where
  id := seed.id
  code := seed.code
  userId := userId
  vendorId := vendor.id
  status := .pending
  subtotalXAF := subtotalXAF
  deliveryFeeXAF := deliveryFeeXAF
  discountXAF := 0
  couponCode := none
  totalXAF := subtotalXAF + deliveryFeeXAF
  commissionRate := vendor.commissionRate
  commissionXAF := none
  riderShareXAF := none
  platformFeeXAF := none
  payoutId := none
  paymentMethod := dto.paymentMethod
  paymentStatus := .pending
  paymentReference := none
  payerPhone := none
  pickupCode := seed.pickupCode
  deliveryCode := seed.deliveryCode
  refusalReason := none
  riderId := none
  placedAt := now
  paidAt := none
  acceptedAt := none
  refusedAt := none
  preparedAt := none
  assignedAt := none
  pickedUpAt := none
  deliveredAt := none
  cancelledAt := none
  refundInitiatedAt := none
  refundCampayRef := none
  refundedAt := none
  refundFailureReason := none
  acceptanceDeadlineAt := none
  scheduledFor := dto.scheduledFor
  idempotencyKey := idempotencyKey

/-- The transaction: the row, and the coupon when a code came with the cart. -/
def commitOrder (db : CreationDb) (order : Order) (couponCode : Option String) (now : Time) :
    Except CreateError (CreationDb × Order) :=
  match couponCode with
  | none | some "" => .ok ({ db with orders := db.orders ++ [order] }, order)
  | some rawCode =>
    match redeemInTransaction db rawCode order.userId order.id order.subtotalXAF order.deliveryFeeXAF now with
    | .error err => .error (.coupon err)
    | .ok (db', code, discountXAF) =>
      let discounted := { order with
        discountXAF
        couponCode := some code
        totalXAF := order.subtotalXAF + order.deliveryFeeXAF - discountXAF }
      .ok ({ db' with orders := db'.orders ++ [discounted] }, discounted)

/-- `if (idempotencyKey)`: an empty header is no key to look up. -/
def givenKey (idempotencyKey : Option String) : Bool := idempotencyKey.any (· != "")

/-- The unique `(userId, idempotencyKey)`; a missing key clashes with nothing, an empty one does. -/
def keyTaken (db : CreationDb) (userId : UserId) (idempotencyKey : Option String) : Bool :=
  db.orders.any fun o => o.userId == userId && idempotencyKey.isSome && o.idempotencyKey == idempotencyKey

/-- What `order.create` throws on: a unique column, or an amount that is too large for its own. -/
def checkInsert (db : CreationDb) (order : Order) (lines : List ℤ) : Except CreateError Unit :=
  if keyTaken db order.userId order.idempotencyKey || db.orders.any fun o => o.code == order.code then
    .error .uniqueViolation
  else if (order.subtotalXAF :: order.deliveryFeeXAF :: order.totalXAF :: lines).any (INT_MAX < ·) then .error .outOfRange
  else .ok ()

/-- `distance_m` is the row of the PostGIS query. -/
def placeOrder (db : CreationDb) (seed : OrderSeed) (userId : UserId) (dto : CreateOrderDto)
    (idempotencyKey : Option String) (distance_m : ℚ) (now : Time) : Except CreateError (CreationDb × Order) :=
  match findVendor db dto.vendorId with
  | .error err => .error err
  | .ok vendor =>
    match loadItems db vendor.id (dto.items.map (·.itemId)) with
    | .error err => .error err
    | .ok items =>
      match priceLines items dto.items with
      | .error err => .error err
      | .ok lines =>
        let subtotalXAF := lines.sum
        let deliveryFeeXAF := computeDeliveryFeeXAF (distance_m / 1000)
        if subtotalXAF + deliveryFeeXAF < MIN_ORDER_XAF then .error .orderBelowMinimum
        else
          match checkSchedule vendor dto.scheduledFor now with
          | .error err => .error err
          | .ok () =>
            let order := newOrder seed userId vendor dto idempotencyKey subtotalXAF deliveryFeeXAF now
            match checkInsert db order lines with
            | .error err => .error err
            | .ok () => commitOrder db order dto.couponCode now

/-- A known key returns the order it made and writes nothing. -/
def createOrder (db : CreationDb) (seed : OrderSeed) (userId : UserId) (dto : CreateOrderDto)
    (idempotencyKey : Option String) (distance_m : ℚ) (now : Time) : Except CreateError (CreationDb × Order) :=
  match db.orders.find? fun o => o.userId == userId && givenKey idempotencyKey &&
      o.idempotencyKey == idempotencyKey with
  | some existing => .ok (db, existing)
  | none => placeOrder db seed userId dto idempotencyKey distance_m now

/-! What a committed order looks like. -/

theorem computeDeliveryFeeXAF_min (distanceKm : ℚ) : 500 ≤ computeDeliveryFeeXAF distanceKm := by
  have hclamped : (500 : ℚ) ≤ min DELIVERY_FEE_CAP_XAF (max DELIVERY_FEE_FLOOR_XAF
      (DELIVERY_BASE_FEE_XAF + distanceKm * DELIVERY_PER_KM_XAF)) :=
    le_min (by norm_num [DELIVERY_FEE_CAP_XAF]) (le_max_left _ _)
  have hceil : (10 : ℤ) ≤ ⌈min DELIVERY_FEE_CAP_XAF (max DELIVERY_FEE_FLOOR_XAF
      (DELIVERY_BASE_FEE_XAF + distanceKm * DELIVERY_PER_KM_XAF)) / (50 : ℤ)⌉ := by
    rw [Int.le_ceil_iff]
    push_cast
    linarith
  simp only [computeDeliveryFeeXAF, ROUND_TO_XAF]
  omega

theorem priceLines_min {items : List Item} {cart : List CartLine} {lines : List ℤ}
    (h : priceLines items cart = .ok lines) : lines.length = cart.length ∧ ∀ x ∈ lines, 100 ≤ x := by
  induction cart generalizing lines with
  | nil =>
    obtain rfl := Except.ok.inj h
    simp
  | cons line cart ih =>
    simp only [priceLines] at h
    split at h
    · cases h
    · cases h
    · next item rest _ hrest =>
      obtain rfl := Except.ok.inj h
      obtain ⟨hlen, hmin⟩ := ih hrest
      refine ⟨by simp [hlen], fun x hx => ?_⟩
      rcases List.mem_cons.1 hx with rfl | hx
      · nlinarith [item.price_min, line.quantity_min]
      · exact hmin x hx

theorem subtotal_min {items : List Item} {dto : CreateOrderDto} {lines : List ℤ}
    (h : priceLines items dto.items = .ok lines) : 100 ≤ lines.sum := by
  obtain ⟨hlen, hmin⟩ := priceLines_min h
  have hsum := List.card_nsmul_le_sum lines 100 hmin
  have hone : (1 : ℤ) ≤ lines.length := by
    rw [hlen]
    exact_mod_cast dto.items_min
  rw [nsmul_eq_mul] at hsum
  linarith

theorem checkInsert_ok_iff {db : CreationDb} {order : Order} {lines : List ℤ} : checkInsert db order lines = .ok () ↔
    keyTaken db order.userId order.idempotencyKey = false ∧ (∀ o ∈ db.orders, o.code ≠ order.code) ∧
      ∀ x ∈ order.subtotalXAF :: order.deliveryFeeXAF :: order.totalXAF :: lines, x ≤ INT_MAX := by
  have hcode : db.orders.any (fun o => o.code == order.code) = false ↔ ∀ o ∈ db.orders, o.code ≠ order.code := by
    simp
  have hfits : (order.subtotalXAF :: order.deliveryFeeXAF :: order.totalXAF :: lines).any (INT_MAX < ·) = false ↔
      ∀ x ∈ order.subtotalXAF :: order.deliveryFeeXAF :: order.totalXAF :: lines, x ≤ INT_MAX := by
    rw [List.any_eq_false]
    exact forall₂_congr fun x _ => by rw [decide_eq_true_eq, not_lt]
  rw [← hcode, ← hfits, checkInsert]
  split
  next htaken =>
    rw [Bool.or_eq_true] at htaken
    refine ⟨nofun, fun h => ?_⟩
    rcases htaken with htaken | htaken
    · exact absurd htaken (by simp [h.1])
    · exact absurd htaken (by simp [h.2.1])
  next hfree =>
    rw [Bool.not_eq_true, Bool.or_eq_false_iff] at hfree
    split
    next hlarge => exact ⟨nofun, fun h => absurd hlarge (by simp [h.2.2])⟩
    next hsmall => exact ⟨fun _ => ⟨hfree.1, hfree.2, by simpa using hsmall⟩, fun _ => rfl⟩

theorem findVendor_id {db : CreationDb} {vendor : Vendor} {vendorId : VendorId}
    (h : findVendor db vendorId = .ok vendor) : vendor.id = vendorId := by
  unfold findVendor at h
  split at h
  · cases h
  · next v hfound =>
    split at h
    · cases h
    · split at h
      · cases h
      · obtain rfl := Except.ok.inj h
        simpa using List.find?_some hfound

/-- What is validated is the row that was found. -/
theorem validateRow_coupon {coupon : Option Coupon} {c : Coupon} {subtotalXAF deliveryFeeXAF discountXAF : ℤ} {paid : ℕ}
    {now : Time} (h : validateRow coupon subtotalXAF deliveryFeeXAF paid now = .ok (c, discountXAF)) :
    coupon = some c ∧ discountXAF = computeDiscount c subtotalXAF deliveryFeeXAF := by
  cases coupon with
  | none => simp [validateRow] at h
  | some row =>
    simp only [validateRow] at h
    repeat' split at h
    all_goals cases h
    exact ⟨rfl, rfl⟩

/-- The row that createOrder commits: unpaid, priced from the menu, and its total
is what the cart costs less the discount. -/
structure Order.Placed (o : Order) : Prop where
  status : o.status = .pending
  paymentStatus : o.paymentStatus = .pending
  commissionXAF : o.commissionXAF = none
  subtotal_min : 100 ≤ o.subtotalXAF
  fee_min : 500 ≤ o.deliveryFeeXAF
  total : o.totalXAF = o.subtotalXAF + o.deliveryFeeXAF - o.discountXAF

theorem commitOrder_placed {db db' : CreationDb} {o o' : Order} {couponCode : Option String} {now : Time}
    (ho : o.Placed) (h : commitOrder db o couponCode now = .ok (db', o')) : o'.Placed := by
  unfold commitOrder at h
  split at h
  · obtain ⟨rfl, rfl⟩ := Prod.mk.inj (Except.ok.inj h)
    exact ho
  · obtain ⟨rfl, rfl⟩ := Prod.mk.inj (Except.ok.inj h)
    exact ho
  · split at h
    · cases h
    · obtain ⟨rfl, rfl⟩ := Prod.mk.inj (Except.ok.inj h)
      exact ⟨ho.status, ho.paymentStatus, ho.commissionXAF, ho.subtotal_min, ho.fee_min, rfl⟩

/-- What a call has been through when its order is committed. -/
structure Placing (db db' : CreationDb) (seed : OrderSeed) (userId : UserId) (dto : CreateOrderDto)
    (idempotencyKey : Option String) (distance_m : ℚ) (now : Time) (o : Order) (vendor : Vendor) (items : List Item)
    (lines : List ℤ) : Prop where
  served : findVendor db dto.vendorId = .ok vendor
  loaded : loadItems db vendor.id (dto.items.map (·.itemId)) = .ok items
  priced : priceLines items dto.items = .ok lines
  minimum : MIN_ORDER_XAF ≤ lines.sum + computeDeliveryFeeXAF (distance_m / 1000)
  inserted : checkInsert db (newOrder seed userId vendor dto idempotencyKey lines.sum
    (computeDeliveryFeeXAF (distance_m / 1000)) now) lines = .ok ()
  committed : commitOrder db (newOrder seed userId vendor dto idempotencyKey lines.sum
    (computeDeliveryFeeXAF (distance_m / 1000)) now) dto.couponCode now = .ok (db', o)

theorem placeOrder_ok {db db' : CreationDb} {seed : OrderSeed} {userId : UserId} {dto : CreateOrderDto}
    {idempotencyKey : Option String} {distance_m : ℚ} {now : Time} {o : Order}
    (h : placeOrder db seed userId dto idempotencyKey distance_m now = .ok (db', o)) :
    ∃ vendor items lines, Placing db db' seed userId dto idempotencyKey distance_m now o vendor items lines := by
  unfold placeOrder at h
  split at h
  · cases h
  next vendor hvendor =>
  split at h
  · cases h
  next items hitems =>
  split at h
  · cases h
  next lines hlines =>
  simp only at h
  split at h
  · cases h
  next hminimum =>
  split at h
  · cases h
  split at h
  · cases h
  next hinserted => exact ⟨vendor, items, lines, hvendor, hitems, hlines, not_lt.1 hminimum, hinserted, h⟩

theorem placeOrder_placed {db db' : CreationDb} {seed : OrderSeed} {userId : UserId} {dto : CreateOrderDto}
    {idempotencyKey : Option String} {distance_m : ℚ} {now : Time} {o : Order}
    (h : placeOrder db seed userId dto idempotencyKey distance_m now = .ok (db', o)) : o.Placed := by
  obtain ⟨vendor, items, lines, hp⟩ := placeOrder_ok h
  refine commitOrder_placed ⟨rfl, rfl, rfl, ?_, computeDeliveryFeeXAF_min _, ?_⟩ hp.committed
  · exact subtotal_min hp.priced
  · simp [newOrder]

theorem redeemInTransaction_orders {db db' : CreationDb} {rawCode code : String} {userId : UserId} {orderId : OrderId}
    {subtotalXAF deliveryFeeXAF discountXAF : ℤ} {now : Time}
    (h : redeemInTransaction db rawCode userId orderId subtotalXAF deliveryFeeXAF now =
      .ok (db', code, discountXAF)) : db'.orders = db.orders := by
  unfold redeemInTransaction at h
  simp only at h
  split at h
  · cases h
  split at h
  · cases h
  split at h
  · cases h
  · obtain ⟨rfl, -⟩ := Prod.mk.inj (Except.ok.inj h)
    rfl

theorem commitOrder_orders {db db' : CreationDb} {o o' : Order} {couponCode : Option String} {now : Time}
    (h : commitOrder db o couponCode now = .ok (db', o')) : db'.orders = db.orders ++ [o'] := by
  unfold commitOrder at h
  split at h
  · obtain ⟨rfl, rfl⟩ := Prod.mk.inj (Except.ok.inj h)
    rfl
  · obtain ⟨rfl, rfl⟩ := Prod.mk.inj (Except.ok.inj h)
    rfl
  · split at h
    · cases h
    · next hredeem =>
      obtain ⟨rfl, rfl⟩ := Prod.mk.inj (Except.ok.inj h)
      rw [redeemInTransaction_orders hredeem]

theorem placeOrder_orders {db db' : CreationDb} {seed : OrderSeed} {userId : UserId} {dto : CreateOrderDto}
    {idempotencyKey : Option String} {distance_m : ℚ} {now : Time} {o : Order}
    (h : placeOrder db seed userId dto idempotencyKey distance_m now = .ok (db', o)) :
    db'.orders = db.orders ++ [o] := by
  obtain ⟨_, _, _, hp⟩ := placeOrder_ok h
  exact commitOrder_orders hp.committed

/-- A call that adds a row adds the row it returns, as placed. -/
theorem createOrder_placed {db db' : CreationDb} {seed : OrderSeed} {userId : UserId} {dto : CreateOrderDto}
    {idempotencyKey : Option String} {distance_m : ℚ} {now : Time} {o : Order}
    (h : createOrder db seed userId dto idempotencyKey distance_m now = .ok (db', o))
    (hnew : db'.orders = db.orders ++ [o]) : o.Placed := by
  unfold createOrder at h
  split at h
  · obtain ⟨rfl, rfl⟩ := Prod.mk.inj (Except.ok.inj h)
    simp at hnew
  · exact placeOrder_placed h

end ChopNow
