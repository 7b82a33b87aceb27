import ChopNow.Proofs.CheckoutStep

/-! The coupon preview and the redemption check one policy: each of the two succeeds exactly
where a coupon can be redeemed. -/

namespace ChopNow

open Transaction

variable {db db' : CreationDb} {rawCode : String} {userId : UserId} {orderId : OrderId} {order : Order}
  {subtotalXAF deliveryFeeXAF discountXAF : ℤ} {now : Time} {coupon : Coupon}

/-- What the schema promises of the tables around coupons: codes are unique, and the order of
a redemption exists. -/
structure CouponTables extends CreationDb where
  codes : (coupons.map (·.code)).Nodup
  ordered : ∀ r ∈ redemptions, ∃ o ∈ orders, o.id = r.orderId

/-- The coupon that the user has redeemed is the one that the code finds. -/
theorem alreadyRedeemed_iff (hcodes : (db.coupons.map (·.code)).Nodup) {code : String}
    (hfound : db.coupons.find? (fun c => c.code == code) = some coupon) :
    alreadyRedeemed db userId code = false ↔ ∀ r ∈ db.redemptions, r.couponId = coupon.id → r.userId ≠ userId := by
  have hmem : coupon ∈ db.coupons := List.mem_of_find?_eq_some hfound
  have hcode : coupon.code = code := by simpa using List.find?_some hfound
  simp only [alreadyRedeemed, List.any_eq_false, Bool.and_eq_true, beq_iff_eq, List.any_eq_true]
  constructor
  · intro h r hr hcoupon huser
    exact h r hr ⟨huser, coupon, hmem, hcoupon.symm, hcode⟩
  · rintro h r hr ⟨huser, c, hc, hid, hc'⟩
    obtain rfl : c = coupon := List.inj_on_of_nodup_map hcodes hc hmem (hc'.trans hcode.symm)
    exact h r hr hid.symm huser

/-- The preview succeeds where the code can be redeemed for an order that the tables do not have yet. -/
theorem validateForUser_iff (hcodes : (db.coupons.map (·.code)).Nodup)
    (hordered : ∀ r ∈ db.redemptions, ∃ o ∈ db.orders, o.id = r.orderId) (hfresh : ∀ o ∈ db.orders, o.id ≠ orderId) :
    validateForUser db rawCode userId subtotalXAF deliveryFeeXAF now = .ok (coupon, discountXAF) ↔
      Redeems db rawCode userId orderId subtotalXAF deliveryFeeXAF now coupon discountXAF := by
  have hprior : priorPaidOrderCount db userId = otherPaidOrderCount db userId orderId := by
    refine List.countP_congr fun o ho => ?_
    simp [hfresh o ho]
  unfold validateForUser
  constructor
  · intro h
    simp only at h
    split at h
    · cases h
    next hcode =>
    split at h
    · cases h
    next hunused =>
    obtain ⟨hfound, -⟩ := validateRow_coupon h
    refine ⟨by simpa using hcode, hfound, ?_, ?_, ?_⟩
    · rw [← hprior, ← hfound]
      exact h
    · exact (alreadyRedeemed_iff hcodes hfound).1 (by simpa using hunused)
    · intro r hr hid
      obtain ⟨o, ho, hoid⟩ := hordered r hr
      exact hfresh o ho (hoid.trans hid)
  · intro h
    have hunused : alreadyRedeemed db userId (normalizeCode rawCode) = false :=
      (alreadyRedeemed_iff hcodes h.found).2 h.once
    simp only [beq_iff_eq, h.code, if_false, hunused, Bool.false_eq_true, h.found, hprior]
    exact h.valid

/-- Nothing else keeps the redemption from going through. -/
theorem Redeems.yields (h : Redeems db rawCode userId orderId subtotalXAF deliveryFeeXAF now coupon discountXAF) :
    Yields (redeem none rawCode userId orderId subtotalXAF deliveryFeeXAF now) db (coupon.code, discountXAF)
      (db.redeemed coupon.id userId orderId discountXAF deliveryFeeXAF) := by
  unfold redeem
  simp only [yields_ite, yields_bind, sent_yields, yields_get, yields_throw, false_and, and_false, exists_false,
    false_or]
  refine ⟨by simpa using h.code, (), _, ⟨by simp, rfl⟩, _, _, ⟨rfl, rfl⟩, (), _, ⟨by simp, rfl⟩, _, _, ⟨rfl, rfl⟩, ?_⟩
  rw [h.found, h.valid]
  simp only [yields_bind, sent_yields, insertRedemption_yields, bumpCount, yields_modify, yields_pure]
  exact ⟨(), _, ⟨by simp, rfl⟩, (), _, ⟨fun r hr => ⟨h.once r hr, h.fresh r hr⟩, rfl⟩, (), _, ⟨by simp, rfl⟩, (), _,
    rfl, trivial, rfl⟩

/-- The row of the order itself changes nothing for the code. -/
theorem redeems_inserted : Redeems { db with orders := db.orders ++ [order] } rawCode userId order.id subtotalXAF
    deliveryFeeXAF now coupon discountXAF ↔
      Redeems db rawCode userId order.id subtotalXAF deliveryFeeXAF now coupon discountXAF := by
  constructor
  · exact fun h => ⟨h.code, h.found, otherPaidOrderCount_insert userId ▸ h.valid, h.once, h.fresh⟩
  · intro h
    refine ⟨h.code, h.found, ?_, h.once, h.fresh⟩
    rw [otherPaidOrderCount_insert]
    exact h.valid

/-- For an order that has just been inserted the redemption goes through if and only if the
preview does, and it redeems the previewed coupon for the previewed discount. -/
theorem preview_truthful (tables : CouponTables) (order : Order) (rawCode : String) (now : Time) (db : CreationDb)
    (hcreated : Yields (insertOrder order) tables.toCreationDb () db) :
    ((∃ r, validateForUser tables.toCreationDb rawCode order.userId order.subtotalXAF order.deliveryFeeXAF now = .ok r) ↔
      ∃ db' r, transaction (redeem none rawCode order.userId order.id order.subtotalXAF order.deliveryFeeXAF now) db =
        (db', .ok r)) ∧
    ∀ coupon discountXAF,
      validateForUser tables.toCreationDb rawCode order.userId order.subtotalXAF order.deliveryFeeXAF now =
          .ok (coupon, discountXAF) →
        transaction (redeem none rawCode order.userId order.id order.subtotalXAF order.deliveryFeeXAF now) db =
          (db.redeemed coupon.id order.userId order.id discountXAF order.deliveryFeeXAF,
            .ok (coupon.code, discountXAF)) := by
  obtain ⟨hfree, rfl⟩ := insertOrder_yields.1 hcreated
  have hpreview : ∀ coupon discountXAF, validateForUser tables.toCreationDb rawCode order.userId order.subtotalXAF
      order.deliveryFeeXAF now = .ok (coupon, discountXAF) ↔
      Redeems { tables.toCreationDb with orders := tables.orders ++ [order] } rawCode order.userId order.id
        order.subtotalXAF order.deliveryFeeXAF now coupon discountXAF := fun coupon discountXAF =>
    (validateForUser_iff tables.codes tables.ordered fun o ho => Order.ne_of_clashes (hfree o ho)).trans
      redeems_inserted.symm
  refine ⟨⟨?_, ?_⟩, fun coupon discountXAF h => transaction_ok_iff.2 ((hpreview _ _).1 h).yields⟩
  · rintro ⟨⟨coupon, discountXAF⟩, h⟩
    exact ⟨_, _, transaction_ok_iff.2 ((hpreview _ _).1 h).yields⟩
  · rintro ⟨db', r, h⟩
    obtain ⟨coupon, discountXAF, hr, -, -⟩ := redeem_yields (transaction_ok_iff.1 h)
    exact ⟨_, (hpreview _ _).2 hr⟩

/-- The shop's coupons, and an order of user 1 that has just come in. -/
def shopTables : CouponTables where
  toCreationDb := shopStart.db
  codes := by decide
  ordered := by simp [shopStart, Checkout.start]

/-- The welcome coupon, previewed and redeemed. -/
theorem welcome_coupon_previewed :
    ∃ db, Yields (insertOrder exampleOrder) shopTables.toCreationDb () db ∧
      (∃ r, validateForUser shopTables.toCreationDb " bienvenue" exampleOrder.userId exampleOrder.subtotalXAF
        exampleOrder.deliveryFeeXAF 0 = .ok r) ∧
      ∃ db' r, transaction (redeem none " bienvenue" exampleOrder.userId exampleOrder.id exampleOrder.subtotalXAF
        exampleOrder.deliveryFeeXAF 0) db = (db', .ok r) := by
  have hcreated : Yields (insertOrder exampleOrder) shopTables.toCreationDb ()
      { shopTables.toCreationDb with orders := [exampleOrder] } :=
    insertOrder_yields.2 ⟨by simp [shopTables, shopStart, Checkout.start], rfl⟩
  have hpreview : ∃ r, validateForUser shopTables.toCreationDb " bienvenue" exampleOrder.userId exampleOrder.subtotalXAF
      exampleOrder.deliveryFeeXAF 0 = .ok r := by
    have hok : (validateForUser shopTables.toCreationDb " bienvenue" exampleOrder.userId exampleOrder.subtotalXAF
      exampleOrder.deliveryFeeXAF 0).isOk = true := by decide +kernel
    cases h : validateForUser shopTables.toCreationDb " bienvenue" exampleOrder.userId exampleOrder.subtotalXAF
      exampleOrder.deliveryFeeXAF 0 with
    | ok r => exact ⟨r, rfl⟩
    | error err =>
      rw [h] at hok
      cases hok
  exact ⟨_, hcreated, hpreview, (preview_truthful shopTables exampleOrder " bienvenue" 0 _ hcreated).1.1 hpreview⟩

end ChopNow
