import ChopNow.Proofs.CheckoutStep

/-! Coupon accounting: the counters, the redemptions and the discounts of orders agree in
every state that calls of createOrder reach, whatever they run into. -/

namespace ChopNow

open Interleave Transaction

variable {db db' : CreationDb} {order o o' : Order} {couponCode : Option String} {now : Time} {s s' : Checkout}

def CreationDb.redemptionsOf (db : CreationDb) (o : Order) : List CouponRedemption :=
  db.redemptions.filter fun r => r.orderId == o.id

/-- The order carries a coupon. -/
def Order.isDiscounted (o : Order) : Prop := 0 < o.discountXAF ∨ o.couponCode.isSome = true

structure Accounted (db : CreationDb) : Prop where
  counted : ∀ c ∈ db.coupons, c.redemptionCount = db.redemptions.countP fun r => r.couponId == c.id
  once : (db.redemptions.map fun r => (r.couponId, r.userId)).Nodup
  ids : (db.orders.map (·.id)).Nodup
  redeemed : ∀ o ∈ db.orders, o.isDiscounted →
    ∃ r, db.redemptionsOf o = [r] ∧ r.userId = o.userId ∧ r.appliedDiscountXAF = o.discountXAF
  unredeemed : ∀ o ∈ db.orders, ¬ o.isDiscounted → db.redemptionsOf o = []
  backed : ∀ r ∈ db.redemptions, ∃ o ∈ db.orders, o.id = r.orderId ∧ o.isDiscounted
  billed : ∀ o ∈ db.orders, o.totalXAF = o.subtotalXAF + o.deliveryFeeXAF - o.discountXAF
  bounded : ∀ o ∈ db.orders, 0 ≤ o.discountXAF ∧ o.discountXAF ≤ o.subtotalXAF + o.deliveryFeeXAF

/-! Writes to rows. -/

structure SameBill (o o' : Order) : Prop where
  id : o'.id = o.id
  userId : o'.userId = o.userId
  subtotalXAF : o'.subtotalXAF = o.subtotalXAF
  deliveryFeeXAF : o'.deliveryFeeXAF = o.deliveryFeeXAF
  discountXAF : o'.discountXAF = o.discountXAF
  couponCode : o'.couponCode = o.couponCode
  totalXAF : o'.totalXAF = o.totalXAF

theorem SameBill.isDiscounted (h : SameBill o o') : o'.isDiscounted ↔ o.isDiscounted := by
  rw [Order.isDiscounted, Order.isDiscounted, h.discountXAF, h.couponCode]

theorem SameBill.redemptionsOf (h : SameBill o o') : db.redemptionsOf o' = db.redemptionsOf o := by
  simp only [CreationDb.redemptionsOf, h.id]

theorem sameBill_write {id : OrderId} {f : Order → Order} (hf : ∀ o, SameBill o (f o)) (o : Order) :
    SameBill o (if o.id = id then f o else o) := by
  split
  · exact hf o
  · exact ⟨rfl, rfl, rfl, rfl, rfl, rfl, rfl⟩

theorem Accounted.write (h : Accounted db) {id : OrderId} {f : Order → Order} (hf : ∀ o, SameBill o (f o)) :
    Accounted (db.write id f) := by
  have hrow : ∀ o' ∈ (db.write id f).orders, ∃ o ∈ db.orders, SameBill o o' := by
    intro o' ho'
    obtain ⟨o, ho, rfl⟩ := List.mem_map.1 ho'
    exact ⟨o, ho, sameBill_write hf o⟩
  refine ⟨h.counted, h.once, ?_, ?_, ?_, ?_, ?_, ?_⟩
  · rw [ids_write fun o => (hf o).id]
    exact h.ids
  · intro o' ho' hdisc
    obtain ⟨o, ho, hsame⟩ := hrow o' ho'
    obtain ⟨r, hr, huser, happlied⟩ := h.redeemed o ho (hsame.isDiscounted.1 hdisc)
    exact ⟨r, hsame.redemptionsOf.trans hr, huser.trans hsame.userId.symm, happlied.trans hsame.discountXAF.symm⟩
  · intro o' ho' hdisc
    obtain ⟨o, ho, hsame⟩ := hrow o' ho'
    exact hsame.redemptionsOf.trans (h.unredeemed o ho fun hd => hdisc (hsame.isDiscounted.2 hd))
  · intro r hr
    obtain ⟨o, ho, hid, hdisc⟩ := h.backed r hr
    have hsame : SameBill o (if o.id = id then f o else o) := sameBill_write hf o
    exact ⟨_, Table.update_mem (·.id) ho, hsame.id.trans hid, hsame.isDiscounted.2 hdisc⟩
  · intro o' ho'
    obtain ⟨o, ho, hsame⟩ := hrow o' ho'
    rw [hsame.totalXAF, hsame.subtotalXAF, hsame.deliveryFeeXAF, hsame.discountXAF]
    exact h.billed o ho
  · intro o' ho'
    obtain ⟨o, ho, hsame⟩ := hrow o' ho'
    rw [hsame.subtotalXAF, hsame.deliveryFeeXAF, hsame.discountXAF]
    exact h.bounded o ho

/-! Commits. -/

theorem computeDiscount_bounds {c : Coupon} {subtotalXAF deliveryFeeXAF : ℤ} (hvalue : 0 ≤ c.valueXAF)
    (hsub : 0 ≤ subtotalXAF) (hfee : 0 ≤ deliveryFeeXAF) :
    0 ≤ computeDiscount c subtotalXAF deliveryFeeXAF ∧
      computeDiscount c subtotalXAF deliveryFeeXAF ≤ subtotalXAF + deliveryFeeXAF := by
  unfold computeDiscount
  split <;> omega

/-- An id that no row has is nobody's in the redemptions either. -/
theorem Accounted.fresh (h : Accounted db) (hfree : ∀ row ∈ db.orders, row.id ≠ order.id) :
    db.redemptionsOf order = [] := by
  refine List.filter_eq_nil_iff.2 fun r hr => ?_
  obtain ⟨o, ho, hid, -⟩ := h.backed r hr
  simpa [hid] using hfree o ho

theorem Accounted.plain (h : Accounted db) (hdraft : order.Drafted) (hfree : ∀ row ∈ db.orders, row.id ≠ order.id) :
    Accounted { db with orders := db.orders ++ [order] } := by
  have hplain : ¬ order.isDiscounted := by simp [Order.isDiscounted, hdraft.discountXAF, hdraft.couponCode]
  have hmem : ∀ {P : Order → Prop}, (∀ o ∈ db.orders, P o) → P order → ∀ o ∈ db.orders ++ [order], P o := by
    intro P hold hnew o ho
    rcases List.mem_append.1 ho with ho | ho
    · exact hold o ho
    · rwa [List.mem_singleton.1 ho]
  refine ⟨h.counted, h.once, nodup_append_row h.ids hfree, hmem h.redeemed fun hd => absurd hd hplain,
    hmem h.unredeemed fun _ => h.fresh hfree, ?_, hmem h.billed hdraft.placed.total, hmem h.bounded ?_⟩
  · intro r hr
    obtain ⟨o, ho, hrest⟩ := h.backed r hr
    exact ⟨o, List.mem_append_left _ ho, hrest⟩
  · rw [hdraft.discountXAF]
    have hsub := hdraft.placed.subtotal_min
    have hfee := hdraft.placed.fee_min
    omega

theorem Accounted.redeemed_row (h : Accounted db) (hdraft : order.Drafted) (hfree : ∀ row ∈ db.orders, row.id ≠ order.id)
    {rawCode : String} {coupon : Coupon} {discountXAF : ℤ} (hvalue : ∀ c ∈ db.coupons, 0 ≤ c.valueXAF)
    (hr : Redeems db rawCode order.userId order.id order.subtotalXAF order.deliveryFeeXAF now coupon discountXAF) :
    Accounted { db.redeemed coupon.id order.userId order.id discountXAF order.deliveryFeeXAF with
      orders := db.orders ++ [order.discounted coupon.code discountXAF (order.subtotalXAF + order.deliveryFeeXAF)] } := by
  have hcoupon : coupon ∈ db.coupons := List.mem_of_find?_eq_some hr.found
  obtain ⟨-, hdiscount⟩ := validateRow_coupon hr.valid
  have hnone : db.redemptionsOf order = [] := h.fresh hfree
  -- the new redemption is no other order's
  have hother : ∀ o ∈ db.orders, (db.redeemed coupon.id order.userId order.id discountXAF
      order.deliveryFeeXAF).redemptionsOf o = db.redemptionsOf o := by
    intro o ho
    simp [CreationDb.redemptionsOf, CreationDb.redeemed, Ne.symm (hfree o ho)]
  refine ⟨?_, ?_, nodup_append_row h.ids hfree, ?_, ?_, ?_, ?_, ?_⟩
  · intro c' hc'
    obtain ⟨c, hc, rfl⟩ := List.mem_map.1 hc'
    simp only [CreationDb.redeemed, List.countP_append, List.countP_singleton]
    split
    · next hid => simp [h.counted c hc, hid]
    · next hid => simp [h.counted c hc, Ne.symm hid]
  · simp only [CreationDb.redeemed, List.map_append, List.map_singleton]
    rw [List.nodup_append]
    refine ⟨h.once, List.nodup_singleton _, ?_⟩
    rintro x hx y hy rfl
    obtain ⟨r, hrmem, hrx⟩ := List.mem_map.1 hx
    rw [List.mem_singleton.1 hy] at hrx
    exact hr.once r hrmem (Prod.mk.inj hrx).1 (Prod.mk.inj hrx).2
  · intro o ho hdisc
    rcases List.mem_append.1 ho with ho | ho
    · obtain ⟨r, hrow, hrest⟩ := h.redeemed o ho hdisc
      exact ⟨r, (hother o ho).trans hrow, hrest⟩
    · obtain rfl := List.mem_singleton.1 ho
      refine ⟨⟨coupon.id, order.userId, order.id, discountXAF, order.deliveryFeeXAF⟩, ?_, rfl, rfl⟩
      simp only [CreationDb.redemptionsOf] at hnone
      simp [CreationDb.redemptionsOf, CreationDb.redeemed, Order.discounted, hnone]
  · intro o ho hdisc
    rcases List.mem_append.1 ho with ho | ho
    · exact (hother o ho).trans (h.unredeemed o ho hdisc)
    · obtain rfl := List.mem_singleton.1 ho
      exact absurd (.inr rfl) hdisc
  · intro r hrmem
    rcases List.mem_append.1 hrmem with hrmem | hrmem
    · obtain ⟨o, ho, hrest⟩ := h.backed r hrmem
      exact ⟨o, List.mem_append_left _ ho, hrest⟩
    · obtain rfl := List.mem_singleton.1 hrmem
      exact ⟨_, List.mem_append_right _ (List.mem_singleton_self _), rfl, .inr rfl⟩
  · intro o ho
    rcases List.mem_append.1 ho with ho | ho
    · exact h.billed o ho
    · obtain rfl := List.mem_singleton.1 ho
      rfl
  · intro o ho
    rcases List.mem_append.1 ho with ho | ho
    · exact h.bounded o ho
    · obtain rfl := List.mem_singleton.1 ho
      have hsub := hdraft.placed.subtotal_min
      have hfee := hdraft.placed.fee_min
      simp only [Order.discounted, hdiscount]
      exact computeDiscount_bounds (hvalue coupon hcoupon) (by omega) (by omega)

/-! The machine. -/

structure CouponsSound (db : CreationDb) : Prop where
  accounted : Accounted db
  values : ∀ c ∈ db.coupons, 0 ≤ c.valueXAF

theorem CouponsSound.commits (h : CouponsSound db) (hdraft : order.Drafted)
    (hfree : ∀ row ∈ db.orders, row.clashes order = false) (hc : Commits db order couponCode now db' o) :
    CouponsSound db' := by
  have hids : ∀ row ∈ db.orders, row.id ≠ order.id := fun row hrow => Order.ne_of_clashes (hfree row hrow)
  cases hc with
  | plain hcode => exact ⟨h.accounted.plain hdraft hids, h.values⟩
  | redeemed hcode hr =>
    refine ⟨h.accounted.redeemed_row hdraft hids h.values hr, fun c' hc' => ?_⟩
    obtain ⟨c, hc, rfl⟩ := List.mem_map.1 hc'
    have hvalue := h.values c hc
    split
    · exact hvalue
    · exact hvalue

theorem CouponsSound.write (h : CouponsSound db) {id : OrderId} {f : Order → Order} (hf : ∀ o, SameBill o (f o)) :
    CouponsSound (db.write id f) := ⟨h.accounted.write hf, h.values⟩

def CheckoutThread.Ready : CheckoutThread → Prop
  | .create t => t.Ready
  | .book _ => True

theorem checkoutEvent_sound (n : CheckoutEvent) (h : CouponsSound s.db) :
    CouponsSound (checkoutEvent s n).1.db ∧ ∀ t ∈ (checkoutEvent s n).2, t.Ready := by
  cases n with
  | tick => exact ⟨h, by simp [checkoutEvent]⟩
  | createOrder => exact ⟨h, by simp [checkoutEvent, CheckoutThread.Ready, CreateOrder.Ready]⟩
  | paymentSucceeded => exact ⟨h, by simp [checkoutEvent, CheckoutThread.Ready]⟩
  | menu vendors items =>
    obtain ⟨hcounted, honce, hids, hredeemed, hunredeemed, hbacked, hbilled, hbounded⟩ := h.accounted
    exact ⟨⟨⟨hcounted, honce, hids, hredeemed, hunredeemed, hbacked, hbilled, hbounded⟩, h.values⟩,
      by simp [checkoutEvent]⟩
  | elsewhere columns => exact ⟨h.write fun o => ⟨rfl, rfl, rfl, rfl, rfl, rfl, rfl⟩, by simp [checkoutEvent]⟩

theorem checkoutStep_sound {t t' : CheckoutThread} {e : CheckoutReply} (hst : checkoutStep s t e = some (s', t'))
    (h : CouponsSound s.db) (hready : t.Ready) : CouponsSound s'.db ∧ t'.Ready := by
  cases t with
  | create t =>
    obtain ⟨⟨s'', t''⟩, ht, heq⟩ := Option.map_eq_some_iff.1 hst
    obtain ⟨rfl, rfl⟩ := Prod.mk.inj heq
    obtain ⟨hready', rfl | ⟨order, couponCode, o, rfl, hcommit, -⟩⟩ := create_step ht hready
    · exact ⟨h, hready'⟩
    · exact ⟨h.commits hready hcommit.free hcommit.commits, hready'⟩
  | book t =>
    obtain ⟨⟨s'', t''⟩, ht, heq⟩ := Option.map_eq_some_iff.1 hst
    obtain ⟨rfl, rfl⟩ := Prod.mk.inj heq
    rcases book_step ht with ⟨rfl, -⟩ | ⟨order, payload, now, rfl, -, rfl, hbook⟩
    · exact ⟨h, trivial⟩
    · rw [hbook.db]
      exact ⟨h.write fun o => ⟨rfl, rfl, rfl, rfl, rfl, rfl, rfl⟩, trivial⟩

theorem start_sound {vendors : List Vendor} {items : List Item} {coupons : List Coupon}
    (hvalue : ∀ c ∈ coupons, 0 ≤ c.valueXAF) : CouponsSound (Checkout.start vendors items coupons).db := by
  refine ⟨⟨?_, .nil, .nil, ?_, ?_, ?_, ?_, ?_⟩, ?_⟩
  · simp [Checkout.start]
  · simp [Checkout.start]
  · simp [Checkout.start]
  · simp [Checkout.start]
  · simp [Checkout.start]
  · simp [Checkout.start]
  · simpa [Checkout.start] using hvalue

/-- At every point the accounts agree, and a call that ends in an error, its commit's answer
not being what got lost, leaves the tables as they were. -/
theorem coupon_accounts_exact (vendors : List Vendor) (items : List Item) (coupons : List Coupon)
    (hvalue : ∀ c ∈ coupons, 0 ≤ c.valueXAF) (s : Checkout) (us : List CheckoutThread)
    (hr : checkoutMachine.Reach anyMove ⟨.start vendors items coupons, []⟩ ⟨s, us⟩) :
    Accounted s.db ∧ ∀ t e s' err, .create t ∈ us → t.step s e = some (s', .done (.error err)) → err ≠ .unheard →
      s'.db = s.db := by
  have hinv := hr.stable (I := fun s => CouponsSound s.db) (L := fun _ t => t.Ready) (start_sound hvalue)
    (fun t ht => by cases ht) ?_ ?_
  · refine ⟨hinv.1.accounted, fun t e s' err ht hst herr => ?_⟩
    obtain ⟨-, rfl | ⟨order, couponCode, o, rfl, -, hdone | hdone⟩⟩ := create_step hst (hinv.2 _ ht)
    · rfl
    · cases hdone
    · cases hdone
      exact absurd rfl herr
  · intro s us n s' ts _ hs _ hev
    obtain ⟨rfl, rfl⟩ := Prod.mk.inj (Option.some.inj hev)
    obtain ⟨hs', hts⟩ := checkoutEvent_sound n hs
    exact ⟨hs', hts, fun u hu => hu⟩
  · intro s us vs t e s' ts _ hs hready _ hst
    obtain ⟨⟨s'', t'⟩, ht, heq⟩ := Option.map_eq_some_iff.1 hst
    obtain ⟨rfl, rfl⟩ := Prod.mk.inj heq
    obtain ⟨hs', hready'⟩ := checkoutStep_sound ht hs hready
    exact ⟨hs', by simpa using hready', fun u hu => hu⟩

/-- The newest call's next step refuses the code as used. -/
def refusesNext (q : Pool Checkout CheckoutThread) : Bool :=
  match q.threads with
  | .create t :: _ => (t.step q.shared .ok).any fun r =>
    match r.2 with
    | .done (.error err) => err == .refused (.coupon .couponAlreadyRedeemed)
    | _ => false
  | _ => false

theorem refusesNext_step {q : Pool Checkout CheckoutThread} (h : refusesNext q = true) :
    ∃ t s', .create t ∈ q.threads ∧
      t.step q.shared .ok = some (s', .done (.error (.refused (.coupon .couponAlreadyRedeemed)))) := by
  unfold refusesNext at h
  split at h
  · next t rest hthreads =>
    obtain ⟨⟨s', t'⟩, hst, hdone⟩ := Option.any_eq_true _ _ |>.1 h
    cases t' with
    | done result =>
      cases result with
      | error err =>
        obtain rfl : err = .refused (.coupon .couponAlreadyRedeemed) := by simpa using hdone
        exact ⟨t, s', by simp [hthreads], hst⟩
      | ok => cases hdone
    | _ => cases hdone
  · cases h

/-- The code is good for one order; with the second the call fails at its last statements. -/
theorem second_redemption_rolled_back :
    ∃ s us, checkoutMachine.Reach anyMove ⟨shopStart, []⟩ ⟨s, us⟩ ∧ Accounted s.db ∧
      s.db.orders.length = 1 ∧ s.db.redemptions.length = 1 ∧
      ∃ t s', .create t ∈ us ∧ t.step s .ok = some (s', .done (.error (.refused (.coupon .couponAlreadyRedeemed)))) ∧
        s'.db = s.db := by
  obtain ⟨⟨s, us⟩, hreach, htest⟩ := Machine.reach_of_test checkoutMachine anyMove (fun _ _ _ => true)
    (fun _ _ _ _ => trivial) ⟨shopStart, []⟩ (shopOrder 1 (some "bienvenue") ++ (shopOrder 2 (some "Bienvenue ")).dropLast)
    (fun q => q.shared.db.orders.length == 1 && q.shared.db.redemptions.length == 1 && refusesNext q)
    (by decide +kernel)
  simp only [Bool.and_eq_true, beq_iff_eq] at htest
  obtain ⟨t, s', ht, hst⟩ := refusesNext_step htest.2
  obtain ⟨haccounted, hrolled⟩ := coupon_accounts_exact _ _ _ (by decide) s us hreach
  exact ⟨s, us, hreach, haccounted, htest.1.1, htest.1.2, t, s', ht, hst, hrolled t _ s' _ ht hst (by decide)⟩

end ChopNow
