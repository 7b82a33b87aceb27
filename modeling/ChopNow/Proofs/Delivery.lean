import ChopNow.Lib.Rounding
import ChopNow.Proofs.OrderStep
import ChopNow.Spec.Creation

/-! When a delivery can be booked. The four amounts of the delivery are fixed at
three different times; no step in between changes the ones fixed before. -/

namespace ChopNow

open Interleave

/-- The columns that never change once the order is committed. -/
structure Cart where
  id : OrderId
  subtotalXAF : ℤ
  deliveryFeeXAF : ℤ
  discountXAF : ℤ
  totalXAF : ℤ
  commissionRate : ℚ
  deliveryCode : ℕ

def Order.cart (o : Order) : Cart where
  id := o.id
  subtotalXAF := o.subtotalXAF
  deliveryFeeXAF := o.deliveryFeeXAF
  discountXAF := o.discountXAF
  totalXAF := o.totalXAF
  commissionRate := o.commissionRate
  deliveryCode := o.deliveryCode

/-- What onPaymentSucceeded snapshots on a row. -/
def Order.paidSnapshot (o : Order) : Snapshot where
  commissionXAF := o.paidCommissionXAF
  riderShareXAF := o.paidRiderShareXAF
  platformFeeXAF := o.paidPlatformFeeXAF

theorem paidSnapshot_congr {o o' : Order} (h : o.cart = o'.cart) : o.paidSnapshot = o'.paidSnapshot := by
  simp only [Order.cart, Cart.mk.injEq] at h
  simp only [Order.paidSnapshot, Order.paidPlatformFeeXAF, Order.paidCommissionXAF, Order.paidRiderShareXAF, h]

/-- A PAYMENT_RECEIVED row of the order exists. -/
def paymentBooked (id : OrderId) (ledger : Ledger) : Bool :=
  ledger.any fun e => e.eventType == .paymentReceived && e.orderId == some id

theorem paymentBooked_append (id : OrderId) (ledger : Ledger) {input : RecordTransactionInput} (event : EventId)
    (now : Time) (h : input.eventType ≠ .paymentReceived) :
    paymentBooked id (ledger ++ input.rows event now) = paymentBooked id ledger := by
  simp [paymentBooked, RecordTransactionInput.rows, h]

/-- The snapshot and the sign of the total once the payment is in. -/
structure PaidInv (o₀ : Order) (w : World) : Prop where
  cart : w.order.cart = o₀.cart
  paid : paymentBooked o₀.id w.ledger = true → w.order.snapshot = some o₀.paidSnapshot ∧ o₀.totalXAF ≠ 0

/-- A payment handler still holds the cart it read. -/
def PaidLocal (o₀ : Order) : OrderThread → Prop
  | .paid (.read _ order _) => order.cart = o₀.cart
  | _ => True

section

variable {o₀ : Order} {w w' : World} {us : List OrderThread} {t t' : OrderThread} {e : Reply}

abbrev PaidMoved (o₀ : Order) (us : List OrderThread) (w' : World) (ts : List OrderThread) : Prop :=
  Moved (PaidInv o₀) (fun _ => PaidLocal o₀) (fun _ _ => True) us w' ts

/-- A move that keeps the cart and the snapshot and books no payment. -/
theorem PaidInv.keep (hI : PaidInv o₀ w) (hcart : w'.order.cart = w.order.cart)
    (hsnapshot : w'.order.snapshot = w.order.snapshot)
    (hledger : paymentBooked o₀.id w'.ledger = paymentBooked o₀.id w.ledger) : PaidInv o₀ w' := by
  refine ⟨hcart.trans hI.cart, fun h => ?_⟩
  rw [hsnapshot]
  exact hI.paid (hledger.symm.trans h)

theorem paid_moved (hI : PaidInv o₀ w) (hL : PaidLocal o₀ t) (hus : ∀ u ∈ us, PaidLocal o₀ u)
    (h : OrderStep w t e w' t') : PaidMoved o₀ us w' [t'] := by
  have hone : ∀ {w'}, PaidInv o₀ w' → PaidLocal o₀ t' → PaidMoved o₀ us w' [t'] :=
    fun hI' hL' => .one hI' hL' fun u hu => ⟨hus u hu, trivial⟩
  cases h with
  | finish h =>
    refine hone hI ?_
    cases t' <;> rename_i t' <;> cases t' <;> trivial
  | paidRead => exact hone hI hI.cart
  | @paid payload order now emitted job due sound =>
    refine hone ⟨hI.cart, fun _ => ⟨?_, ?_⟩⟩ trivial
    · rw [← paidSnapshot_congr hL]
      rfl
    · have htotal : order.totalXAF = o₀.totalXAF := congrArg Cart.totalXAF hL
      rw [← htotal]
      exact payment_sound_iff.1 sound
  | delivered => exact hone (hI.keep rfl rfl (paymentBooked_append _ _ _ _ nofun)) trivial
  | cancelled => exact hone (hI.keep rfl rfl (paymentBooked_append _ _ _ _ nofun)) trivial
  | fraudCompensated => exact hone (hI.keep rfl rfl (paymentBooked_append _ _ _ _ nofun)) trivial
  | refundRecorded => exact hone (hI.keep rfl rfl (paymentBooked_append _ _ _ _ nofun)) trivial
  | hookRefunded => exact hone (hI.keep rfl rfl (paymentBooked_append _ _ _ _ nofun)) trivial
  | paidJob | pickUpChecked | pickedUp | deliverChecked | cancelChecked | fraudChecked | fraudCancelled
  | refundMissing | refundCandidate | refundNoted | refundLocked | refundAccepted | refundRefused | refundLost
  | refundUnrecorded | refundReset | hookFirst | hookFound | hookMissed | hookLate | hookReset | hookRecorded =>
    exact hone (hI.keep rfl rfl rfl) trivial

theorem paid_arrival {n : OrderEvent} {ts : List OrderThread} (hI : PaidInv o₀ w)
    (hus : ∀ u ∈ us, PaidLocal o₀ u) (h : OrderArrival w n w' ts) : PaidMoved o₀ us w' ts := by
  cases h with
  | tick => exact .zero (hI.keep rfl rfl rfl) hus
  | @write x order h =>
    have heq := OrderWrite.apply_eq h
    refine .zero (hI.keep ?_ ?_ rfl) hus
    · rw [heq]
      rfl
    · rw [heq]
      rfl
  | @call _ t h =>
    refine .one hI ?_ fun u hu => ⟨hus u hu, trivial⟩
    cases t <;> rename_i t <;> cases t <;> trivial
  | callback => exact .one (hI.keep rfl rfl rfl) trivial fun u hu => ⟨hus u hu, trivial⟩

end

theorem paid_reach {w : World} {q : Pool World OrderThread} (h₀ : paymentBooked w.order.id w.ledger = false)
    (h : orderMachine.Reach anyMove ⟨w, []⟩ q) : PaidInv w.order q.shared := by
  refine (h.sat (I := PaidInv w.order) (L := fun _ => PaidLocal w.order) (X := fun _ _ => True)
    (fun _ _ h => h) ⟨⟨rfl, fun hp => ?_⟩, by simp, .nil⟩ ?_ ?_).shared
  · rw [h₀] at hp
    cases hp
  · intro x us n x' ts _ hI hus _ hev
    exact paid_arrival hI hus (orderEvent_cases hev)
  · intro x us vs t e x' ts _ hI hL hus _ hst
    obtain ⟨t', rfl, hs⟩ := orderStep_cases hst
    exact paid_moved hI hL (fun u hu => (hus u hu).1) hs

/-! The four amounts. -/

theorem validate_delivery_iff (order : Order) (s : Snapshot) :
    validate (deliveryInput order s) = .ok () ↔
      order.totalXAF ≠ 0 ∧ order.subtotalXAF ≠ s.commissionXAF ∧ s.riderShareXAF ≠ 0 ∧ s.platformFeeXAF ≠ 0 ∧
        order.totalXAF = order.subtotalXAF - s.commissionXAF + s.riderShareXAF + s.platformFeeXAF := by
  rw [validate_ok_iff]
  have hsound : (∀ e ∈ (deliveryInput order s).entries, e.Sound .orderDelivered) ↔
      order.totalXAF ≠ 0 ∧ -(order.subtotalXAF - s.commissionXAF) ≠ 0 ∧ -s.riderShareXAF ≠ 0 ∧
        -s.platformFeeXAF ≠ 0 := by
    constructor
    · intro h
      exact ⟨(h _ (.head _)).nonzero, (h _ (.tail _ (.head _))).nonzero,
        (h _ (.tail _ (.tail _ (.head _)))).nonzero, (h _ (.tail _ (.tail _ (.tail _ (.head _))))).nonzero⟩
    · rintro ⟨htotal, hvendor, hrider, hplatform⟩ e he
      simp only [deliveryInput, List.mem_cons, List.not_mem_nil, or_false] at he
      rcases he with rfl | rfl | rfl | rfl
      · exact ⟨htotal, rfl, nofun⟩
      · exact ⟨hvendor, rfl, nofun⟩
      · exact ⟨hrider, rfl, nofun⟩
      · exact ⟨hplatform, rfl, nofun⟩
  have hsum : ((deliveryInput order s).entries.map (·.amountXAF)).sum = order.totalXAF -
      (order.subtotalXAF - s.commissionXAF) - s.riderShareXAF - s.platformFeeXAF := by
    simp only [deliveryInput, List.map_cons, List.map_nil, List.sum_cons, List.sum_nil]
    ring
  rw [hsum]
  constructor
  · rintro ⟨-, -, hs, h0⟩
    obtain ⟨htotal, hvendor, hrider, hplatform⟩ := hsound.1 hs
    refine ⟨htotal, ?_, ?_, ?_, ?_⟩ <;> omega
  · rintro ⟨htotal, hvendor, hrider, hplatform, h0⟩
    exact ⟨rfl, by simp [deliveryInput], hsound.2 ⟨htotal, by omega, by omega, by omega⟩, by omega⟩

/-- The rider's share is never rounded away. -/
theorem paidRiderShareXAF_pos {o : Order} (h : 500 ≤ o.deliveryFeeXAF) : 0 < o.paidRiderShareXAF := by
  have hfee : (500 : ℚ) ≤ o.deliveryFeeXAF := by exact_mod_cast h
  have hround : (o.deliveryFeeXAF * RIDER_DELIVERY_SHARE : ℚ) - 1 / 2 < o.paidRiderShareXAF := Rounding.lt_halfUp _
  simp only [RIDER_DELIVERY_SHARE] at hround
  have : (0 : ℚ) < o.paidRiderShareXAF := by linarith
  exact_mod_cast this

/-- Up to a rate of 99% a placed order leaves something to the vendor and to the platform. -/
theorem shares_nonzero {o : Order} (ho : o.Placed) (h0 : 0 ≤ o.commissionRate) (h1 : o.commissionRate ≤ 99 / 100) :
    o.subtotalXAF ≠ o.paidCommissionXAF ∧ o.paidPlatformFeeXAF ≠ 0 := by
  have hsubtotal : (100 : ℚ) ≤ o.subtotalXAF := by exact_mod_cast ho.subtotal_min
  have hfee : (500 : ℚ) ≤ o.deliveryFeeXAF := by exact_mod_cast ho.fee_min
  have hle : (o.paidCommissionXAF : ℚ) ≤ o.subtotalXAF * o.commissionRate + 1 / 2 := Rounding.halfUp_le _
  have hlt : (o.subtotalXAF * o.commissionRate : ℚ) - 1 / 2 < o.paidCommissionXAF := Rounding.lt_halfUp _
  have hshare : (o.paidRiderShareXAF : ℚ) ≤ o.deliveryFeeXAF * RIDER_DELIVERY_SHARE + 1 / 2 := Rounding.halfUp_le _
  simp only [RIDER_DELIVERY_SHARE] at hshare
  constructor
  · intro h
    have : (o.subtotalXAF : ℚ) = o.paidCommissionXAF := by exact_mod_cast h
    nlinarith
  · have : (0 : ℚ) < o.paidPlatformFeeXAF := by
      simp only [Order.paidPlatformFeeXAF]
      push_cast
      nlinarith
    exact_mod_cast this.ne'

/-- The call succeeds: the order is DELIVERED and its four entries are booked. -/
def World.Delivers (w : World) (rider : RiderId) (submittedCode : ℕ) : Prop :=
  ∃ w' snapshot, markDelivered w rider submittedCode = .ok w' ∧ w'.order.status = .delivered ∧
    w.order.snapshot = some snapshot ∧
    w'.ledger = w.ledger ++ (deliveryInput w.order snapshot).rows (.delivery w.order.id) w.clock

theorem delivers_iff {w : World} {rider : RiderId} {snapshot : Snapshot} (hrider : w.order.riderId = some rider)
    (hstatus : w.order.status = .pickedUp) (hsnapshot : w.order.snapshot = some snapshot) :
    w.Delivers rider w.order.deliveryCode ↔ validate (deliveryInput w.order snapshot) = .ok () := by
  have hcheck : checkDelivery w.order rider w.order.deliveryCode = .ok snapshot :=
    checkDelivery_ok_iff.2 ⟨hrider, hstatus, rfl, hsnapshot⟩
  constructor
  · rintro ⟨w', s, hw', -⟩
    simp only [markDelivered, hcheck] at hw'
    exact (World.book_ok_iff.1 (World.bookOrThrow_ok_iff.1 hw').2).1
  · intro hv
    have hcommit : commitDelivery w w.order snapshot w.clock = .ok { w with
        order := { w.order with status := .delivered, deliveredAt := some w.clock }
        ledger := w.ledger ++ (deliveryInput w.order snapshot).rows (.delivery w.order.id) w.clock } :=
      World.bookOrThrow_ok_iff.2 ⟨by simp [hstatus], World.book_ok_iff.2 ⟨hv, _, rfl, rfl⟩⟩
    have hdone : markDelivered w rider w.order.deliveryCode = commitDelivery w w.order snapshot w.clock := by
      simp only [markDelivered, hcheck]
    exact ⟨_, snapshot, hdone.trans hcommit, rfl, hsnapshot, rfl⟩

/-- A paid order in its rider's hands can be delivered exactly when no discount
was taken off and neither the vendor's share nor the platform's is zero; up to a
rate of 99% only the discount matters. -/
theorem delivery_books_iff {db db' : CreationDb} {seed : OrderSeed} {userId : UserId} {dto : CreateOrderDto}
    {idempotencyKey : Option String} {distance_m : ℚ} {now : Time} {w : World} {q : Pool World OrderThread}
    {rider : RiderId}
    (hcreate : createOrder db seed userId dto idempotencyKey distance_m now = .ok (db', w.order))
    (hcommit : db'.orders = db.orders ++ [w.order]) (hledger : paymentBooked w.order.id w.ledger = false)
    (hrun : orderMachine.Reach anyMove ⟨w, []⟩ q) (hbooked : paymentBooked w.order.id q.shared.ledger = true)
    (hstatus : q.shared.order.status = .pickedUp) (hrider : q.shared.order.riderId = some rider) :
    (q.shared.Delivers rider w.order.deliveryCode ↔
      w.order.discountXAF = 0 ∧ w.order.subtotalXAF ≠ w.order.paidCommissionXAF ∧
        w.order.paidPlatformFeeXAF ≠ 0) ∧
    (0 ≤ w.order.commissionRate ∧ w.order.commissionRate ≤ 99 / 100 →
      (q.shared.Delivers rider w.order.deliveryCode ↔ w.order.discountXAF = 0)) := by
  have hplaced := createOrder_placed hcreate hcommit
  have hinv := paid_reach hledger hrun
  obtain ⟨hsnapshot, htotal⟩ := hinv.paid hbooked
  have hcart := hinv.cart
  simp only [Order.cart, Cart.mk.injEq] at hcart
  have hshare := paidRiderShareXAF_pos hplaced.fee_min
  have hiff : q.shared.Delivers rider w.order.deliveryCode ↔
      w.order.discountXAF = 0 ∧ w.order.subtotalXAF ≠ w.order.paidCommissionXAF ∧
        w.order.paidPlatformFeeXAF ≠ 0 := by
    rw [← hcart.2.2.2.2.2.2, delivers_iff hrider hstatus hsnapshot, validate_delivery_iff]
    have hsplit := hplaced.total
    simp only [hcart, Order.paidSnapshot, Order.paidPlatformFeeXAF] at htotal hshare ⊢
    constructor
    · rintro ⟨-, hvendor, -, hplatform, hsum⟩
      exact ⟨by omega, hvendor, hplatform⟩
    · rintro ⟨hdiscount, hvendor, hplatform⟩
      exact ⟨htotal, hvendor, hshare.ne', hplatform, by omega⟩
  refine ⟨hiff, fun ⟨h0, h1⟩ => hiff.trans ⟨fun h => h.1, fun h => ⟨h, shares_nonzero hplaced h0 h1⟩⟩⟩

/-! A vendor with one dish and a coupon for free delivery. -/

def exampleDb : CreationDb where
  vendors := [⟨1, .informal, .active, true, true, 1 / 10, "+237670000009", 0⟩]
  items := [⟨1, 1, "Ndole", 2000, true, true, by decide⟩]
  coupons := [⟨1, "BIENVENUE", .freeDelivery, 0, .active, none, none, none, true, none, 0⟩]
  redemptions := []
  orders := []

def exampleCart (couponCode : Option String) : CreateOrderDto where
  vendorId := 1
  items := [⟨1, 1, by decide, by decide⟩]
  paymentMethod := .mtnMomo
  scheduledFor := none
  couponCode := couponCode
  items_min := by decide
  items_max := by decide

def exampleCreated (couponCode : Option String) : Except CreateError (CreationDb × Order) :=
  createOrder exampleDb ⟨1, 100, 1111, 2222⟩ 1 (exampleCart couponCode) none 7500 0

/-- The row those calls return. -/
def createdOrder (couponCode : Option String) : Order :=
  match exampleCreated couponCode with
  | .ok (_, o) => o
  | .error _ => exampleOrder

def deliverySchedule : List (Act OrderEvent Reply) :=
  [.event (.paymentSucceeded ⟨9, none⟩), .step 0 .ok, .step 0 .ok, .event (.write .acceptOrder),
    .event (.write (.assignRider 5)), .event (.markPickedUp 5 1111), .step 0 .ok, .step 0 .ok]

theorem exampleCreated_ok (couponCode : Option String) (h : (exampleCreated couponCode).isOk = true) :
    ∃ db', exampleCreated couponCode = .ok (db', createdOrder couponCode) ∧
      db'.orders = exampleDb.orders ++ [createdOrder couponCode] := by
  unfold createdOrder
  cases hc : exampleCreated couponCode with
  | error err => simp [hc, Except.isOk, Except.toBool] at h
  | ok r =>
    have hplace : placeOrder exampleDb ⟨1, 100, 1111, 2222⟩ 1 (exampleCart couponCode) none 7500 0 =
      .ok (r.1, r.2) := hc
    exact ⟨r.1, rfl, placeOrder_orders hplace⟩

/-- The way there: booked, picked up, in the hands of rider 5. -/
theorem delivery_run (o : Order) (test : World → Bool)
    (h : (orderMachine.run (fun _ _ _ => true) ⟨.start o, []⟩ deliverySchedule).map (fun q =>
      paymentBooked o.id q.shared.ledger && q.shared.order.status == .pickedUp &&
        q.shared.order.riderId == some 5 && test q.shared) = some true) :
    ∃ q, orderMachine.Reach anyMove ⟨.start o, []⟩ q ∧ paymentBooked o.id q.shared.ledger = true ∧
      q.shared.order.status = .pickedUp ∧ q.shared.order.riderId = some 5 ∧ test q.shared = true := by
  obtain ⟨q, hq, ht⟩ := Machine.reach_of_test orderMachine anyMove (fun _ _ _ => true) (fun _ _ _ _ => trivial) _ _
    (fun q => paymentBooked o.id q.shared.ledger && q.shared.order.status == .pickedUp &&
      q.shared.order.riderId == some 5 && test q.shared) h
  simp only [Bool.and_eq_true, beq_iff_eq] at ht
  exact ⟨q, hq, ht.1.1.1, ht.1.1.2, ht.1.2, ht.2⟩

/-- With free delivery the entries miss the discount, and the transaction is unbalanced. -/
theorem discounted_order_undeliverable :
    ¬ ∀ (db db' : CreationDb) (seed : OrderSeed) (userId : UserId) (dto : CreateOrderDto)
      (idempotencyKey : Option String) (distance_m : ℚ) (now : Time) (w : World) (q : Pool World OrderThread)
      (rider : RiderId),
      createOrder db seed userId dto idempotencyKey distance_m now = .ok (db', w.order) →
      db'.orders = db.orders ++ [w.order] → paymentBooked w.order.id w.ledger = false →
      orderMachine.Reach anyMove ⟨w, []⟩ q → paymentBooked w.order.id q.shared.ledger = true →
      q.shared.order.status = .pickedUp → q.shared.order.riderId = some rider →
      q.shared.Delivers rider w.order.deliveryCode := by
  intro h
  obtain ⟨db', hcreate, hcommit⟩ := exampleCreated_ok (some "bienvenue") (by decide +kernel)
  obtain ⟨q, hq, hbooked, hstatus, hrider, ht⟩ := delivery_run (createdOrder (some "bienvenue"))
    (fun w => !(markDelivered w 5 2222).isOk) (by decide +kernel)
  obtain ⟨w', _, hw', -⟩ := h _ _ _ _ _ _ _ _ (.start (createdOrder (some "bienvenue"))) q 5 hcreate hcommit rfl
    hq hbooked hstatus hrider
  have hcode : (createdOrder (some "bienvenue")).deliveryCode = 2222 := by decide +kernel
  simp only [World.start, hcode] at hw'
  simp [hw', Except.isOk, Except.toBool] at ht

/-- The same cart at full price goes through. -/
theorem example_order_delivered :
    ∃ q, orderMachine.Reach anyMove ⟨.start (createdOrder none), []⟩ q ∧ q.shared.order.status = .pickedUp ∧
      ((q.shared.Delivers 5 (createdOrder none).deliveryCode ↔ (createdOrder none).discountXAF = 0 ∧
        (createdOrder none).subtotalXAF ≠ (createdOrder none).paidCommissionXAF ∧
          (createdOrder none).paidPlatformFeeXAF ≠ 0) ∧
      (0 ≤ (createdOrder none).commissionRate ∧ (createdOrder none).commissionRate ≤ 99 / 100 →
        (q.shared.Delivers 5 (createdOrder none).deliveryCode ↔ (createdOrder none).discountXAF = 0))) := by
  obtain ⟨db', hcreate, hcommit⟩ := exampleCreated_ok none (by decide +kernel)
  obtain ⟨q, hq, hbooked, hstatus, hrider, -⟩ := delivery_run (createdOrder none) (fun _ => true) (by decide +kernel)
  exact ⟨q, hq, hstatus,
    delivery_books_iff (w := .start (createdOrder none)) hcreate hcommit rfl hq hbooked hstatus hrider⟩

end ChopNow
