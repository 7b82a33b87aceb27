import ChopNow.Proofs.OrderStep
import ChopNow.Proofs.Delivery

/-! Whether a committed order can be paid: the bill that createOrder fixes, against the
journal that has to book it. -/

namespace ChopNow

/-- What the vendor's menu asks for an item. -/
def menuXAF (db : CreationDb) (vendorId : VendorId) (itemId : ItemId) : ℤ :=
  ((db.items.find? fun i => i.id == itemId && i.vendorId == vendorId).map (·.priceXAF)).getD 0

def cartXAF (db : CreationDb) (dto : CreateOrderDto) : ℤ :=
  (dto.items.map fun line => menuXAF db dto.vendorId line.itemId * line.quantity).sum

/-- The coupon whose code came with the cart. -/
def couponOf (db : CreationDb) (couponCode : Option String) : Option Coupon :=
  match couponCode with
  | none | some "" => none
  | some rawCode => db.coupons.find? fun c => c.code == normalizeCode rawCode

variable {db db' : CreationDb} {seed : OrderSeed} {userId : UserId} {dto : CreateOrderDto}
  {idempotencyKey : Option String} {distance_m : ℚ} {now : Time} {o o' : Order}

/-! The bill. -/

theorem priceLines_eq {items : List Item} {cart : List CartLine} {lines : List ℤ}
    (h : priceLines items cart = .ok lines) :
    lines = cart.map fun line =>
      ((items.find? fun i => i.id == line.itemId).map (·.priceXAF)).getD 0 * line.quantity := by
  induction cart generalizing lines with
  | nil =>
    obtain rfl := Except.ok.inj h
    rfl
  | cons line cart ih =>
    simp only [priceLines] at h
    split at h
    · cases h
    · cases h
    · next item rest hitem hrest =>
      obtain rfl := Except.ok.inj h
      rw [List.map_cons, hitem, ← ih hrest]
      rfl

theorem loadItems_ok_iff {vendorId : VendorId} {itemIds : List ItemId} {items : List Item} :
    loadItems db vendorId itemIds = .ok items ↔
      items = db.items.filter (fun i => itemIds.contains i.id && i.vendorId == vendorId) ∧
        items.length = itemIds.length ∧ ∀ i ∈ items, i.isAvailable = true ∧ i.isInStock = true := by
  unfold loadItems
  simp only
  constructor
  · intro h
    split at h
    · cases h
    next hlength =>
    split at h
    · cases h
    next hsale =>
    obtain rfl := Except.ok.inj h
    simp only [List.any_eq_true, not_exists, not_and, Bool.not_eq_true, Bool.or_eq_false_iff,
      Bool.not_eq_eq_eq_not, Bool.not_false] at hsale
    exact ⟨rfl, not_not.1 hlength, hsale⟩
  · rintro ⟨rfl, hlength, hsale⟩
    rw [if_neg (not_not.2 hlength), if_neg]
    simp only [List.any_eq_true, not_exists, not_and, Bool.not_eq_true, Bool.or_eq_false_iff,
      Bool.not_eq_eq_eq_not, Bool.not_false]
    exact hsale

/-- The subtotal is the cart priced from the menu. -/
theorem lines_sum {items : List Item} {lines : List ℤ}
    (hitems : loadItems db dto.vendorId (dto.items.map (·.itemId)) = .ok items)
    (hlines : priceLines items dto.items = .ok lines) : lines.sum = cartXAF db dto := by
  rw [priceLines_eq hlines, (loadItems_ok_iff.1 hitems).1, cartXAF]
  congr 1
  refine List.map_congr_left fun line hline => ?_
  have hasked : (dto.items.map (·.itemId)).contains line.itemId = true :=
    List.contains_iff_mem.2 (List.mem_map_of_mem hline)
  rw [List.find?_filter, menuXAF]
  congr 3
  refine List.find?_congr fun i _ => ?_
  by_cases hid : i.id = line.itemId
  · rw [hid, hasked]
    simp [beq_eq_decide]
  · simp [hid]

theorem redeemInTransaction_discount {rawCode code : String} {orderId : OrderId}
    {subtotalXAF deliveryFeeXAF discountXAF : ℤ}
    (h : redeemInTransaction db rawCode userId orderId subtotalXAF deliveryFeeXAF now = .ok (db', code, discountXAF)) :
    ∃ coupon, (db.coupons.find? fun c => c.code == normalizeCode rawCode) = some coupon ∧
      discountXAF = computeDiscount coupon subtotalXAF deliveryFeeXAF := by
  unfold redeemInTransaction at h
  simp only at h
  split at h
  · cases h
  split at h
  · cases h
  next coupon discount hvalid =>
  split at h
  · cases h
  obtain ⟨-, hrest⟩ := Prod.mk.inj (Except.ok.inj h)
  obtain ⟨-, rfl⟩ := Prod.mk.inj hrest
  exact ⟨coupon, validateRow_coupon hvalid⟩

/-- What the transaction leaves of the bill. -/
theorem commitOrder_total {couponCode : Option String} (h : commitOrder db o couponCode now = .ok (db', o')) :
    (couponOf db couponCode = none ∧ o' = o) ∨
      ∃ coupon, couponOf db couponCode = some coupon ∧
        o'.totalXAF = o.subtotalXAF + o.deliveryFeeXAF - computeDiscount coupon o.subtotalXAF o.deliveryFeeXAF := by
  unfold commitOrder at h
  split at h
  · exact .inl ⟨rfl, (Prod.mk.inj (Except.ok.inj h)).2.symm⟩
  · exact .inl ⟨rfl, (Prod.mk.inj (Except.ok.inj h)).2.symm⟩
  · next rawCode hraw =>
    split at h
    · cases h
    · next db₁ code discountXAF hredeem =>
      obtain ⟨-, rfl⟩ := Prod.mk.inj (Except.ok.inj h)
      obtain ⟨coupon, hfound, rfl⟩ := redeemInTransaction_discount hredeem
      refine .inr ⟨coupon, ?_, rfl⟩
      unfold couponOf
      split
      · next heq => cases heq
      · next heq => exact absurd (Option.some.inj heq) hraw
      · next heq =>
        obtain rfl := Option.some.inj heq
        exact hfound

/-- The coupon of the cart, if it has one, does not take the whole bill. -/
def LeavesSomething (db : CreationDb) (dto : CreateOrderDto) (distance_m : ℚ) : Prop :=
  ∀ coupon, couponOf db dto.couponCode = some coupon → coupon.type = .fixedAmountOff →
    coupon.valueXAF < cartXAF db dto + computeDeliveryFeeXAF (distance_m / 1000)

theorem computeDiscount_lt_iff (coupon : Coupon) (deliveryFeeXAF : ℤ) {subtotalXAF : ℤ} (hsubtotal : 0 < subtotalXAF) :
    computeDiscount coupon subtotalXAF deliveryFeeXAF < subtotalXAF + deliveryFeeXAF ↔
      (coupon.type = .fixedAmountOff → coupon.valueXAF < subtotalXAF + deliveryFeeXAF) := by
  unfold computeDiscount
  cases coupon.type with
  | freeDelivery => simp [hsubtotal]
  | fixedAmountOff => simp

theorem placed_total_pos_iff (h : placeOrder db seed userId dto idempotencyKey distance_m now = .ok (db', o)) :
    0 < o.totalXAF ↔ LeavesSomething db dto distance_m := by
  obtain ⟨vendor, items, lines, hp⟩ := placeOrder_ok h
  have hsum : lines.sum = cartXAF db dto := lines_sum (findVendor_id hp.served ▸ hp.loaded) hp.priced
  have hsubtotal : 0 < lines.sum := lt_of_lt_of_le (by decide) (subtotal_min hp.priced)
  rcases commitOrder_total hp.committed with ⟨hnone, rfl⟩ | ⟨coupon, hcoupon, htotal⟩
  · have hgross : 0 < lines.sum + computeDeliveryFeeXAF (distance_m / 1000) :=
      lt_of_lt_of_le (by decide) hp.minimum
    exact iff_of_true hgross fun coupon hsome => by simp [hnone] at hsome
  · have hlt := computeDiscount_lt_iff coupon (computeDeliveryFeeXAF (distance_m / 1000)) hsubtotal
    rw [htotal, LeavesSomething, hcoupon, ← hsum]
    simp only [newOrder, sub_pos, Option.some.injEq, forall_eq', hlt]

/-! The payment. -/

/-- Something is due for the order, and as long as it waits for its payment the transaction
of onPaymentSucceeded commits. -/
structure CanBePaid (o : Order) : Prop where
  total_pos : 0 < o.totalXAF
  commits : ∀ (w : World) (read : Order) (payload : PaymentSucceeded) (now : Time),
    read.totalXAF = o.totalXAF → w.order.paymentStatus = .pending ∨ w.order.paymentStatus = .processing →
    ∃ w', commitPayment w read payload now = .ok (some w') ∧ w'.order.status = .confirmed ∧
      w'.order.paymentStatus = .paid

theorem commitPayment_commits {w : World} {read : Order} {payload : PaymentSucceeded} (htotal : read.totalXAF ≠ 0)
    (hwaits : w.order.paymentStatus = .pending ∨ w.order.paymentStatus = .processing) :
    ∃ w', commitPayment w read payload now = .ok (some w') ∧ w'.order.status = .confirmed ∧
      w'.order.paymentStatus = .paid := by
  have hbook : w.book (w.order.paymentPatch read payload now) (paymentInput read) = .ok { w with
      order := w.order.paymentPatch read payload now
      ledger := w.ledger ++ (paymentInput read).rows (.payment read.id) w.clock } :=
    World.book_ok_iff.2 ⟨payment_sound_iff.2 htotal, .payment read.id, rfl, rfl⟩
  refine ⟨_, World.bookIf_some_iff.2 ⟨?_, hbook⟩, rfl, rfl⟩
  rcases hwaits with h | h
  · simp [h]
  · simp [h]

theorem canBePaid_iff : CanBePaid o ↔ 0 < o.totalXAF := by
  refine ⟨fun h => h.total_pos, fun hpos => ⟨hpos, fun w read payload now htotal hwaits => ?_⟩⟩
  exact commitPayment_commits (htotal ▸ hpos.ne') hwaits

/-- An order that createOrder commits can be paid exactly when no coupon took the whole bill. -/
theorem payable_iff (h : createOrder db seed userId dto idempotencyKey distance_m now = .ok (db', o))
    (hnew : db'.orders = db.orders ++ [o]) : CanBePaid o ↔ LeavesSomething db dto distance_m := by
  rw [canBePaid_iff]
  unfold createOrder at h
  split at h
  · obtain ⟨rfl, rfl⟩ := Prod.mk.inj (Except.ok.inj h)
    simp at hnew
  · exact placed_total_pos_iff h

/-- The coupon pays for the delivery, and the food is left to pay. -/
theorem free_delivery_payable : CanBePaid (createdOrder (some "bienvenue")) := by
  obtain ⟨db', hcreate, hcommit⟩ := exampleCreated_ok (some "bienvenue") (by decide +kernel)
  refine (payable_iff hcreate hcommit).2 fun coupon hcoupon htype => ?_
  have hfixed : ((couponOf exampleDb (exampleCart (some "bienvenue")).couponCode).any
      fun c => c.type == .fixedAmountOff) = false := by decide +kernel
  simp [hcoupon, htype] at hfixed

/-- The same vendor, and a coupon of 5000 for a cart of 3000. -/
def generousDb : CreationDb :=
  { exampleDb with coupons := [⟨2, "CADEAU", .fixedAmountOff, 5000, .active, none, none, none, false, none, 0⟩] }

/-- The order is committed with nothing to pay. -/
theorem free_order_unpayable :
    ¬ ∀ (db db' : CreationDb) (seed : OrderSeed) (userId : UserId) (dto : CreateOrderDto)
      (idempotencyKey : Option String) (distance_m : ℚ) (now : Time) (o : Order),
      createOrder db seed userId dto idempotencyKey distance_m now = .ok (db', o) →
      db'.orders = db.orders ++ [o] → CanBePaid o := by
  intro h
  have hfree : (createOrder generousDb ⟨1, 100, 1111, 2222⟩ 1 (exampleCart (some "cadeau")) none 7500 0).toOption.any
      (fun r => r.2.totalXAF == 0) = true := by decide +kernel
  cases hcreate : createOrder generousDb ⟨1, 100, 1111, 2222⟩ 1 (exampleCart (some "cadeau")) none 7500 0 with
  | error err => simp [hcreate, Except.toOption] at hfree
  | ok r =>
    have hplace : placeOrder generousDb ⟨1, 100, 1111, 2222⟩ 1 (exampleCart (some "cadeau")) none 7500 0 =
      .ok (r.1, r.2) := hcreate
    have hpaid := h _ _ _ _ _ _ _ _ _ hcreate (placeOrder_orders hplace)
    have hzero : r.2.totalXAF = 0 := by simpa [hcreate, Except.toOption] using hfree
    exact absurd hpaid.total_pos (by simp [hzero])

end ChopNow
