import ChopNow.Lib.Table
import ChopNow.Spec.Checkout

/-! What a step of the checkout does to the tables: nothing, one committed order, or a write
to rows that keeps their bills. -/

namespace ChopNow

open Interleave Transaction

variable {db db' db'' : CreationDb} {lost : Option TxStatement} {order o o' : Order} {couponCode : Option String}
  {now : Time} {s s' : Checkout}

/-! The statements. -/

@[simp] theorem sent_yields {statement : TxStatement} {a : Unit} :
    Yields (sent lost statement) db a db' ↔ lost ≠ some statement ∧ db = db' := by
  simp [sent]

@[simp] theorem insertOrder_yields {a : Unit} : Yields (insertOrder order) db a db' ↔
    (∀ o ∈ db.orders, o.clashes order = false) ∧ { db with orders := db.orders ++ [order] } = db' := by
  simp [insertOrder]

@[simp] theorem insertRedemption_yields {r : CouponRedemption} {a : Unit} : Yields (insertRedemption r) db a db' ↔
    (∀ q ∈ db.redemptions, (q.couponId = r.couponId → q.userId ≠ r.userId) ∧ q.orderId ≠ r.orderId) ∧
      { db with redemptions := db.redemptions ++ [r] } = db' := by
  simp [insertRedemption]

/-- A redemption that goes through. -/
structure Redeems (db : CreationDb) (rawCode : String) (userId : UserId) (orderId : OrderId)
    (subtotalXAF deliveryFeeXAF : ℤ) (now : Time) (coupon : Coupon) (discountXAF : ℤ) : Prop where
  code : normalizeCode rawCode ≠ ""
  found : db.coupons.find? (fun c => c.code == normalizeCode rawCode) = some coupon
  valid : validateRow (some coupon) subtotalXAF deliveryFeeXAF (otherPaidOrderCount db userId orderId) now =
    .ok (coupon, discountXAF)
  once : ∀ r ∈ db.redemptions, r.couponId = coupon.id → r.userId ≠ userId
  fresh : ∀ r ∈ db.redemptions, r.orderId ≠ orderId

/-- The redemption row and the counter. -/
def CreationDb.redeemed (db : CreationDb) (couponId : CouponId) (userId : UserId) (orderId : OrderId)
    (discountXAF deliveryFeeXAF : ℤ) : CreationDb :=
  { db with
    coupons := db.coupons.map fun c =>
      if c.id = couponId then { c with redemptionCount := c.redemptionCount + 1 } else c
    redemptions := db.redemptions ++ [⟨couponId, userId, orderId, discountXAF, deliveryFeeXAF⟩] }

theorem redeem_yields {rawCode : String} {userId : UserId} {orderId : OrderId} {subtotalXAF deliveryFeeXAF : ℤ}
    {r : String × ℤ} (h : Yields (redeem lost rawCode userId orderId subtotalXAF deliveryFeeXAF now) db r db') :
    ∃ coupon discountXAF, Redeems db rawCode userId orderId subtotalXAF deliveryFeeXAF now coupon discountXAF ∧
      r = (coupon.code, discountXAF) ∧ db' = db.redeemed coupon.id userId orderId discountXAF deliveryFeeXAF := by
  unfold redeem at h
  simp only [yields_ite, yields_bind, sent_yields, yields_get, yields_throw, false_and, and_false, exists_false,
    false_or] at h
  obtain ⟨hcode, _, _, ⟨-, rfl⟩, _, _, ⟨rfl, rfl⟩, _, _, ⟨-, rfl⟩, _, _, ⟨rfl, rfl⟩, h⟩ := h
  split at h
  · exact absurd h yields_throw
  · next coupon discountXAF hvalid =>
    simp only [yields_bind, sent_yields, insertRedemption_yields, bumpCount, yields_modify, yields_pure] at h
    obtain ⟨_, _, ⟨-, rfl⟩, _, _, ⟨hfree, rfl⟩, _, _, ⟨-, rfl⟩, _, _, rfl, rfl, rfl⟩ := h
    obtain ⟨hfound, -⟩ := validateRow_coupon hvalid
    exact ⟨coupon, discountXAF, ⟨by simpa using hcode, hfound, hfound ▸ hvalid, fun r hr => (hfree r hr).1,
      fun r hr => (hfree r hr).2⟩, rfl, rfl⟩

/-- What the transaction leaves when it gets to its end. -/
inductive Commits (db : CreationDb) (order : Order) (couponCode : Option String) (now : Time) : CreationDb → Order → Prop
  | plain (hcode : couponCode = none ∨ couponCode = some "") :
    Commits db order couponCode now { db with orders := db.orders ++ [order] } order
  | redeemed {rawCode : String} {coupon : Coupon} {discountXAF : ℤ} (hcode : couponCode = some rawCode)
    (h : Redeems db rawCode order.userId order.id order.subtotalXAF order.deliveryFeeXAF now coupon discountXAF) :
    Commits db order couponCode now
      { db.redeemed coupon.id order.userId order.id discountXAF order.deliveryFeeXAF with
        orders := db.orders ++
          [order.discounted coupon.code discountXAF (order.subtotalXAF + order.deliveryFeeXAF)] }
      (order.discounted coupon.code discountXAF (order.subtotalXAF + order.deliveryFeeXAF))

theorem Order.ne_of_clashes (h : o.clashes order = false) : o.id ≠ order.id := by
  simp only [Order.clashes, Bool.or_eq_false_iff, beq_eq_false_iff_ne] at h
  exact h.1.1

/-- The row of this transaction is not among those it counts. -/
theorem otherPaidOrderCount_insert (userId : UserId) :
    otherPaidOrderCount { db with orders := db.orders ++ [order] } userId order.id =
      otherPaidOrderCount db userId order.id := by
  simp [otherPaidOrderCount]

/-- The second write to the row finds it where the insert put it. -/
theorem map_update_inserted (hfree : ∀ row ∈ db.orders, row.clashes order = false) (f : Order → Order) :
    ((db.orders ++ [order]).map fun row => if row.id = order.id then f row else row) = db.orders ++ [f order] := by
  rw [List.map_append, List.map_congr_left (g := id)]
  · simp
  · intro row hrow
    simp [Order.ne_of_clashes (hfree row hrow)]

theorem createOrderTx_yields (h : Yields (createOrderTx lost order couponCode now) db o db') :
    (∀ row ∈ db.orders, row.clashes order = false) ∧ Commits db order couponCode now db' o := by
  unfold createOrderTx at h
  simp only [yields_bind, sent_yields, insertOrder_yields] at h
  obtain ⟨_, _, ⟨-, rfl⟩, _, _, ⟨hfree, rfl⟩, h⟩ := h
  refine ⟨hfree, ?_⟩
  split at h
  · simp only [yields_bind, sent_yields, yields_pure] at h
    obtain ⟨_, _, ⟨-, rfl⟩, rfl, rfl⟩ := h
    exact .plain (.inl rfl)
  · simp only [yields_bind, sent_yields, yields_pure] at h
    obtain ⟨_, _, ⟨-, rfl⟩, rfl, rfl⟩ := h
    exact .plain (.inr rfl)
  · next rawCode _ =>
    simp only [yields_bind, sent_yields, updateOrder, yields_modify, yields_pure] at h
    obtain ⟨r, _, hredeem, _, _, ⟨-, rfl⟩, _, _, rfl, _, _, ⟨-, rfl⟩, rfl, rfl⟩ := h
    obtain ⟨coupon, discountXAF, hr, rfl, rfl⟩ := redeem_yields hredeem
    have hr' : Redeems db rawCode order.userId order.id order.subtotalXAF order.deliveryFeeXAF now coupon discountXAF :=
      ⟨hr.code, hr.found, otherPaidOrderCount_insert order.userId ▸ hr.valid, hr.once, hr.fresh⟩
    simp only [CreationDb.redeemed, map_update_inserted hfree]
    exact .redeemed rfl hr'

/-- The transaction, when it gets to its end, is `commitOrder`. -/
theorem Commits.commitOrder (h : Commits db order couponCode now db' o)
    (hfree : ∀ row ∈ db.orders, row.clashes order = false) :
    ChopNow.commitOrder db order couponCode now = .ok (db', o) := by
  cases h with
  | plain hcode => rcases hcode with rfl | rfl <;> rfl
  | @redeemed rawCode coupon discountXAF hcode hr =>
    subst hcode
    have hprior : priorPaidOrderCount db order.userId = otherPaidOrderCount db order.userId order.id := by
      refine List.countP_congr fun row hrow => ?_
      simp [Order.ne_of_clashes (hfree row hrow)]
    have hraw : rawCode ≠ "" := by
      rintro rfl
      exact hr.code rfl
    have honce : (db.redemptions.any fun r => r.couponId == coupon.id && r.userId == order.userId) = false := by
      simpa using hr.once
    have hredeem : redeemInTransaction db rawCode order.userId order.id order.subtotalXAF order.deliveryFeeXAF now =
        .ok (db.redeemed coupon.id order.userId order.id discountXAF order.deliveryFeeXAF, coupon.code, discountXAF) := by
      simp only [redeemInTransaction, hr.code, beq_iff_eq, if_false, hr.found, hprior, hr.valid, honce]
      rfl
    unfold ChopNow.commitOrder
    split
    · next heq => cases heq
    · next heq => exact absurd (Option.some.inj heq) hraw
    · next heq =>
      obtain rfl := Option.some.inj heq
      rw [hredeem]
      rfl

/-! The ids of orders. -/

theorem nodup_append_row (hids : (db.orders.map (·.id)).Nodup) (hfree : ∀ row ∈ db.orders, row.id ≠ o.id) :
    ((db.orders ++ [o]).map (·.id)).Nodup := by
  rw [List.map_append, List.nodup_append]
  refine ⟨hids, List.nodup_singleton _, ?_⟩
  rintro i hi j hj rfl
  obtain ⟨row, hrow, hid⟩ := List.mem_map.1 hi
  exact hfree row hrow (hid.trans (by simpa using hj))

theorem ids_write {id : OrderId} {f : Order → Order} (hf : ∀ o, (f o).id = o.id) :
    (db.write id f).orders.map (·.id) = db.orders.map (·.id) := by
  simp only [CreationDb.write, List.map_map]
  refine List.map_congr_left fun o _ => ?_
  simp only [Function.comp]
  split
  · exact hf o
  · rfl

/-! createOrder. -/

/-- A row as it is first written. -/
structure Order.Drafted (o : Order) : Prop where
  placed : o.Placed
  discountXAF : o.discountXAF = 0
  couponCode : o.couponCode = none
  paidAt : o.paidAt = none

def CreateOrder.Ready : CreateOrder → Prop
  | .priced _ _ _ _ subtotalXAF => 100 ≤ subtotalXAF
  | .drafted order _ => order.Drafted
  | _ => True

theorem subtotalOf_min {vendor : Vendor} {dto : CreateOrderDto} {subtotalXAF : ℤ}
    (h : subtotalOf db vendor dto = .ok subtotalXAF) : 100 ≤ subtotalXAF := by
  unfold subtotalOf at h
  split at h
  · cases h
  · next items _ =>
    cases hlines : priceLines items dto.items with
    | error err => simp [hlines, Except.map] at h
    | ok lines =>
      simp only [hlines, Except.map, Except.ok.injEq] at h
      subst h
      exact subtotal_min hlines

theorem draftOrder_eq {seed : OrderSeed} {userId : UserId} {dto : CreateOrderDto} {idempotencyKey : Option String}
    {vendor : Vendor} {subtotalXAF : ℤ} {distance_m : ℚ}
    (h : draftOrder seed userId dto idempotencyKey vendor subtotalXAF distance_m now = .ok order) :
    order = newOrder seed userId vendor dto idempotencyKey subtotalXAF (computeDeliveryFeeXAF (distance_m / 1000)) now := by
  simp only [draftOrder] at h
  split at h
  · cases h
  · cases hcheck : checkSchedule vendor dto.scheduledFor now with
    | error err => simp [hcheck, Except.map] at h
    | ok =>
      simp only [hcheck, Except.map, Except.ok.injEq] at h
      exact h.symm

theorem draftOrder_drafted {seed : OrderSeed} {userId : UserId} {dto : CreateOrderDto} {idempotencyKey : Option String}
    {vendor : Vendor} {subtotalXAF : ℤ} {distance_m : ℚ}
    (h : draftOrder seed userId dto idempotencyKey vendor subtotalXAF distance_m now = .ok order)
    (hmin : 100 ≤ subtotalXAF) : order.Drafted := by
  rw [draftOrder_eq h]
  exact ⟨⟨rfl, rfl, rfl, hmin, computeDeliveryFeeXAF_min _, by simp [newOrder]⟩, rfl, rfl, rfl⟩

/-- A step that commits. -/
structure CommitStep (s s' : Checkout) (order : Order) (couponCode : Option String) (o : Order) : Prop where
  free : ∀ row ∈ s.db.orders, row.clashes order = false
  commits : Commits s.db order couponCode s.clock s'.db o
  bookings : s'.bookings = s.bookings
  placed : s'.placed = s.placed ++ [(o.id, s.bookings.length)]

theorem transaction_step (lost : Option TxStatement) (order : Order) (couponCode : Option String) (s : Checkout) :
    (∃ o, (transaction (createOrderTx lost order couponCode s.clock) s.db).2 = .ok o ∧
      CommitStep s (s.commit (transaction (createOrderTx lost order couponCode s.clock) s.db)) order couponCode o) ∨
    ∃ err, transaction (createOrderTx lost order couponCode s.clock) s.db = (s.db, .error err) := by
  rcases transaction_cases (createOrderTx lost order couponCode s.clock) s.db with ⟨o, db', hy, heq⟩ | herr
  · obtain ⟨hfree, hcommits⟩ := createOrderTx_yields hy
    rw [heq]
    exact .inl ⟨o, rfl, hfree, hcommits, rfl, rfl⟩
  · exact .inr herr

/-- The transaction commits, and then the answer is no error, unless it gets lost. -/
theorem drafted_step {t' : CreateOrder} {e : CheckoutReply}
    (h : (CreateOrder.drafted order couponCode).step s e = some (s', t')) :
    (s' = s ∧ ∃ err, t' = .done (.error err)) ∨ ∃ o, CommitStep s s' order couponCode o ∧
      (t' = .done (.ok o) ∨ e = .unheard ∧ t' = .done (.error .unheard)) := by
  cases e with
  | ok =>
    obtain ⟨rfl, rfl⟩ := Prod.mk.inj (Option.some.inj h)
    rcases transaction_step none order couponCode s with ⟨o, hok, hcommit⟩ | ⟨err, heq⟩
    · exact .inr ⟨o, hcommit, .inl (by rw [hok])⟩
    · exact .inl ⟨(by rw [heq]; rfl), err, by rw [heq]⟩
  | lost statement =>
    obtain ⟨rfl, rfl⟩ := Prod.mk.inj (Option.some.inj h)
    rcases transaction_step (some statement) order couponCode s with ⟨o, hok, hcommit⟩ | ⟨err, heq⟩
    · exact .inr ⟨o, hcommit, .inl (by rw [hok])⟩
    · exact .inl ⟨(by rw [heq]; rfl), err, by rw [heq]⟩
  | unheard =>
    obtain ⟨rfl, rfl⟩ := Prod.mk.inj (Option.some.inj h)
    rcases transaction_step none order couponCode s with ⟨o, hok, hcommit⟩ | ⟨err, heq⟩
    · exact .inr ⟨o, hcommit, .inr ⟨rfl, rfl⟩⟩
    · exact .inl ⟨(by rw [heq]; rfl), .unheard, rfl⟩
  | measured distance_m seed => cases h
  | fail => cases h

/-- Before its transaction a call writes nothing. -/
theorem undrafted_step {t t' : CreateOrder} {e : CheckoutReply} (h : t.step s e = some (s', t'))
    (hnot : ∀ order couponCode, t ≠ .drafted order couponCode) : s' = s ∧ (t.Ready → t'.Ready) := by
  unfold CreateOrder.step at h
  split at h
  · split at h <;>
    · obtain ⟨rfl, rfl⟩ := Prod.mk.inj (Option.some.inj h)
      exact ⟨rfl, fun _ => trivial⟩
  · split at h <;>
    · obtain ⟨rfl, rfl⟩ := Prod.mk.inj (Option.some.inj h)
      exact ⟨rfl, fun _ => trivial⟩
  · split at h
    · obtain ⟨rfl, rfl⟩ := Prod.mk.inj (Option.some.inj h)
      exact ⟨rfl, fun _ => trivial⟩
    · next hsub =>
      obtain ⟨rfl, rfl⟩ := Prod.mk.inj (Option.some.inj h)
      exact ⟨rfl, fun _ => subtotalOf_min hsub⟩
  · split at h
    · obtain ⟨rfl, rfl⟩ := Prod.mk.inj (Option.some.inj h)
      exact ⟨rfl, fun _ => trivial⟩
    · next hdraft =>
      obtain ⟨rfl, rfl⟩ := Prod.mk.inj (Option.some.inj h)
      exact ⟨rfl, draftOrder_drafted hdraft⟩
  all_goals
    first
    | exact absurd rfl (hnot _ _)
    | obtain ⟨rfl, rfl⟩ := Prod.mk.inj (Option.some.inj h)
      exact ⟨rfl, fun _ => trivial⟩
    | cases h

/-- A call writes nothing, or it commits. -/
theorem create_step {t t' : CreateOrder} {e : CheckoutReply} (h : t.step s e = some (s', t')) (hready : t.Ready) :
    t'.Ready ∧ (s' = s ∨ ∃ order couponCode o, t = .drafted order couponCode ∧
      CommitStep s s' order couponCode o ∧ (t' = .done (.ok o) ∨ t' = .done (.error .unheard))) := by
  by_cases hnot : ∀ order couponCode, t ≠ .drafted order couponCode
  · obtain ⟨rfl, hready'⟩ := undrafted_step h hnot
    exact ⟨hready' hready, .inl rfl⟩
  · push Not at hnot
    obtain ⟨order, couponCode, rfl⟩ := hnot
    rcases drafted_step h with ⟨rfl, err, rfl⟩ | ⟨o, hcommit, rfl | ⟨-, rfl⟩⟩
    · exact ⟨trivial, .inl rfl⟩
    · exact ⟨trivial, .inr ⟨order, couponCode, o, rfl, hcommit, .inl rfl⟩⟩
    · exact ⟨trivial, .inr ⟨order, couponCode, o, rfl, hcommit, .inr rfl⟩⟩

/-! onPaymentSucceeded. -/

/-- A step that books the payment of an order. -/
structure BookStep (s s' : Checkout) (order : Order) (payload : PaymentSucceeded) (now : Time) : Prop where
  bookable : ∃ row ∈ s.db.orders, row.id = order.id ∧ row.isBookable = true
  db : s'.db = s.db.write order.id fun row => row.paymentPatch order payload now
  bookings : s'.bookings = s.bookings ++ [(order.userId, order.id)]
  placed : s'.placed = s.placed

/-- The row that a call has read is one of the table, as far as nobody changes it. -/
def BookPayment.Reads (s : Checkout) : BookPayment → Prop
  | .read order _ _ => ∃ row ∈ s.db.orders, row.id = order.id ∧ row.userId = order.userId
  | _ => True

theorem book_step {t t' : BookPayment} {e : CheckoutReply} (h : t.step s e = some (s', t')) :
    (s' = s ∧ t'.Reads s) ∨ ∃ order payload now, t = .read order payload now ∧ e = .ok ∧ t' = .done ∧
      BookStep s s' order payload now := by
  unfold BookPayment.step at h
  split at h
  · split at h
    · obtain ⟨rfl, rfl⟩ := Prod.mk.inj (Option.some.inj h)
      exact .inl ⟨rfl, trivial⟩
    · next order hfind =>
      obtain ⟨rfl, rfl⟩ := Prod.mk.inj (Option.some.inj h)
      refine .inl ⟨rfl, ?_⟩
      split
      · trivial
      · exact ⟨order, List.mem_of_find?_eq_some hfind, rfl, rfl⟩
  · next order payload now =>
    split at h
    · next hany =>
      obtain ⟨rfl, rfl⟩ := Prod.mk.inj (Option.some.inj h)
      simp only [List.any_eq_true, Bool.and_eq_true, beq_iff_eq] at hany
      exact .inr ⟨order, payload, now, rfl, rfl, rfl, hany, rfl, rfl, rfl⟩
    · obtain ⟨rfl, rfl⟩ := Prod.mk.inj (Option.some.inj h)
      exact .inl ⟨rfl, trivial⟩
  all_goals
    first
    | obtain ⟨rfl, rfl⟩ := Prod.mk.inj (Option.some.inj h)
      exact .inl ⟨rfl, trivial⟩
    | cases h

/-! A vendor with one dish, and two welcome coupons. -/

def shopStart : Checkout :=
  .start [⟨1, .informal, .active, true, true, 1 / 10, "+237670000009", 0⟩]
    [⟨1, 1, "Ndole", 2000, true, true, by norm_num⟩]
    [⟨1, "BIENVENUE", .freeDelivery, 0, .active, none, none, none, true, none, 0⟩,
      ⟨2, "MBOLO", .fixedAmountOff, 500, .active, none, none, none, true, none, 0⟩]

def shopCart (couponCode : Option String) : CreateOrderDto where
  vendorId := 1
  items := [⟨1, 1, by norm_num, by norm_num⟩]
  paymentMethod := .mtnMomo
  scheduledFor := none
  couponCode := couponCode
  items_min := by norm_num
  items_max := by norm_num

/-- User 1 orders; the row gets the id `id`. -/
def shopOrder (id : OrderId) (couponCode : Option String) : List (Act CheckoutEvent CheckoutReply) :=
  [.event (.createOrder 1 (shopCart couponCode) none), .step 0 .ok, .step 0 .ok, .step 0 .ok,
    .step 0 (.measured 7500 ⟨id, 100 + id, 1111, 2222⟩), .step 0 .ok]

end ChopNow
