import ChopNow.Proofs.CheckoutStep

/-! First-order coupons: whether a user has paid before is looked at when the order is made,
and two orders of one user can both be paid later. What was paid and then cancelled, or is to
be refunded, is not looked at. -/

namespace ChopNow

open Interleave Transaction

variable {db db' : CreationDb} {order o o' : Order} {couponCode : Option String} {now : Time} {s s' : Checkout}

/-- The coupon of this code is for first orders. -/
def CreationDb.firstOrderOnly (db : CreationDb) (code : String) : Bool :=
  (db.coupons.find? fun c => c.code == code).any (·.firstOrderOnly)

def CreationDb.firstOrderDiscount (db : CreationDb) (o : Order) : Bool := o.couponCode.any db.firstOrderOnly

/-- The user's earliest paid order. -/
def Checkout.firstPaid (s : Checkout) (userId : UserId) : Option OrderId :=
  (s.bookings.find? fun b => b.1 == userId).map (·.2)

/-- The user has paid for an order. -/
def CreationDb.hasPaid (db : CreationDb) (userId : UserId) : Prop :=
  ∃ o ∈ db.orders, o.userId = userId ∧ o.paidAt.isSome = true

structure Booked (s : Checkout) : Prop where
  ids : (s.db.orders.map (·.id)).Nodup
  paid : ∀ o ∈ s.db.orders, o.paidAt.isSome = true ↔ (o.userId, o.id) ∈ s.bookings
  owned : ∀ b ∈ s.bookings, ∃ o ∈ s.db.orders, o.userId = b.1 ∧ o.id = b.2
  first : ∀ o ∈ s.db.orders, o.paidAt.isSome = true → s.db.firstOrderDiscount o = true →
    s.firstPaid o.userId = some o.id
  /-- Before the order was placed its user had paid for nothing. -/
  eligible : ∀ o ∈ s.db.orders, s.db.firstOrderDiscount o = true →
    ∃ n ≤ s.bookings.length, (o.id, n) ∈ s.placed ∧ ∀ b ∈ s.bookings.take n, b.1 ≠ o.userId

theorem Booked.inj (h : Booked s) (ho : o ∈ s.db.orders) (ho' : o' ∈ s.db.orders) (hid : o.id = o'.id) : o = o' :=
  List.inj_on_of_nodup_map h.ids ho ho' hid

theorem firstOrderOnly_redeemed {couponId : CouponId} {userId : UserId} {orderId : OrderId}
    {discountXAF deliveryFeeXAF : ℤ} {orders : List Order} :
    { db.redeemed couponId userId orderId discountXAF deliveryFeeXAF with orders := orders }.firstOrderOnly =
      db.firstOrderOnly := by
  funext code
  have hsame : (fun c : Coupon => (if c.id = couponId then { c with redemptionCount := c.redemptionCount + 1 } else c).code ==
      code) = fun c => c.code == code := by
    funext c
    split <;> rfl
  simp only [CreationDb.firstOrderOnly, CreationDb.redeemed, List.find?_map, Function.comp_def, hsame, Option.any_map]
  congr 1
  funext c
  split <;> rfl

theorem Commits.rows (h : Commits s.db order couponCode now db' o) :
    db'.orders = s.db.orders ++ [o] ∧ db'.firstOrderOnly = s.db.firstOrderOnly ∧ o.id = order.id ∧
      o.userId = order.userId ∧ o.paidAt = order.paidAt := by
  cases h with
  | plain => exact ⟨rfl, rfl, rfl, rfl, rfl⟩
  | redeemed => exact ⟨rfl, firstOrderOnly_redeemed, rfl, rfl, rfl⟩

/-- The count that validateRow refuses a first-order coupon on. -/
theorem validateRow_first {c c' : Coupon} {subtotalXAF deliveryFeeXAF discountXAF : ℤ} {paid : ℕ}
    (h : validateRow (some c) subtotalXAF deliveryFeeXAF paid now = .ok (c', discountXAF))
    (hfirst : c.firstOrderOnly = true) : paid = 0 := by
  simp only [validateRow] at h
  repeat' split at h
  all_goals cases h
  next hcount _ => simpa [hfirst] using hcount

/-- An order that gets a first-order discount is its user's first. -/
theorem Commits.unpaid (h : Commits s.db order couponCode now db' o) (hplain : order.couponCode = none)
    (hok : (∃ rawCode ∈ couponCode, s.db.firstOrderOnly (normalizeCode rawCode) = true) → s.db.hasPaid order.userId →
      0 < otherPaidOrderCount s.db order.userId order.id)
    (hdisc : s.db.firstOrderDiscount o = true) : ¬s.db.hasPaid o.userId := by
  cases h with
  | plain =>
    rw [CreationDb.firstOrderDiscount, hplain] at hdisc
    cases hdisc
  | @redeemed rawCode coupon discountXAF hcode hr =>
    have hfound := List.find?_some hr.found
    have hsame : coupon.code = normalizeCode rawCode := beq_iff_eq.1 hfound
    have honly : s.db.firstOrderOnly (normalizeCode rawCode) = true := hsame ▸ hdisc
    have hfirst : coupon.firstOrderOnly = true := by
      rw [CreationDb.firstOrderOnly, hr.found] at honly
      exact honly
    intro hpaid
    have hcount := hok ⟨rawCode, hcode, honly⟩ hpaid
    rw [validateRow_first hr.valid hfirst] at hcount
    exact absurd hcount (lt_irrefl _)

theorem Booked.commit (h : Booked s) (hdraft : order.Drafted) (hc : CommitStep s s' order couponCode o)
    (hok : (∃ rawCode ∈ couponCode, s.db.firstOrderOnly (normalizeCode rawCode) = true) → s.db.hasPaid order.userId →
      0 < otherPaidOrderCount s.db order.userId order.id) : Booked s' := by
  obtain ⟨horders, honly, hid, -, hunpaid⟩ := hc.commits.rows
  have hdisc : ∀ row, s'.db.firstOrderDiscount row = s.db.firstOrderDiscount row := fun row => by
    rw [CreationDb.firstOrderDiscount, honly]
    rfl
  have hfresh : ∀ row ∈ s.db.orders, row.id ≠ o.id := fun row hrow => by
    rw [hid]
    exact Order.ne_of_clashes (hc.free row hrow)
  have hnone : o.paidAt = none := hunpaid.trans hdraft.paidAt
  have hfirst : s'.firstPaid = s.firstPaid := by
    funext userId
    simp only [Checkout.firstPaid, hc.bookings]
  refine ⟨?_, ?_, ?_, ?_, ?_⟩
  · rw [horders]
    exact nodup_append_row h.ids hfresh
  · intro row hrow
    rw [horders] at hrow
    rw [hc.bookings]
    rcases List.mem_append.1 hrow with hrow | hrow
    · exact h.paid row hrow
    · obtain rfl := List.mem_singleton.1 hrow
      refine ⟨fun hsome => by simp [hnone] at hsome, fun hmem => ?_⟩
      obtain ⟨row', hrow', -, hid'⟩ := h.owned _ hmem
      exact absurd hid' (hfresh row' hrow')
  · intro b hb
    rw [hc.bookings] at hb
    obtain ⟨row, hrow, hrest⟩ := h.owned b hb
    exact ⟨row, by rw [horders]; exact List.mem_append_left _ hrow, hrest⟩
  · intro row hrow hpaid hd
    rw [horders] at hrow
    rw [hfirst]
    rcases List.mem_append.1 hrow with hrow | hrow
    · exact h.first row hrow hpaid (hdisc row ▸ hd)
    · obtain rfl := List.mem_singleton.1 hrow
      simp [hnone] at hpaid
  · intro row hrow hd
    rw [horders] at hrow
    rw [hc.bookings, hc.placed]
    rcases List.mem_append.1 hrow with hrow | hrow
    · obtain ⟨n, hle, hplaced, hbefore⟩ := h.eligible row hrow (hdisc row ▸ hd)
      exact ⟨n, hle, List.mem_append_left _ hplaced, hbefore⟩
    · obtain rfl := List.mem_singleton.1 hrow
      have hunpaid := hc.commits.unpaid hdraft.couponCode hok (hdisc row ▸ hd)
      refine ⟨s.bookings.length, le_rfl, List.mem_append_right _ (.head _), fun b hb huser => hunpaid ?_⟩
      rw [List.take_length] at hb
      obtain ⟨paid, hpaid, hpaiduser, hpaidid⟩ := h.owned b hb
      exact ⟨paid, hpaid, hpaiduser.trans huser, (h.paid paid hpaid).2 (by rw [hpaiduser, hpaidid]; exact hb)⟩

/-- A write that leaves alone whose order it is, its coupon and its payment. -/
theorem Booked.rewrite (h : Booked s) {id : OrderId} {f : Order → Order}
    (hf : ∀ o, (f o).id = o.id ∧ (f o).userId = o.userId ∧ (f o).couponCode = o.couponCode ∧ (f o).paidAt = o.paidAt) :
    Booked { s with db := s.db.write id f } := by
  have hkeep : ∀ row : Order, (if row.id = id then f row else row).id = row.id ∧
      (if row.id = id then f row else row).userId = row.userId ∧
      (if row.id = id then f row else row).couponCode = row.couponCode ∧
      (if row.id = id then f row else row).paidAt = row.paidAt := by
    intro row
    split
    · exact hf row
    · exact ⟨rfl, rfl, rfl, rfl⟩
  have hrow : ∀ row' ∈ (s.db.write id f).orders, ∃ row ∈ s.db.orders, row'.id = row.id ∧ row'.userId = row.userId ∧
      row'.couponCode = row.couponCode ∧ row'.paidAt = row.paidAt := by
    intro row' hrow'
    obtain ⟨row, hrow, rfl⟩ := List.mem_map.1 hrow'
    exact ⟨row, hrow, hkeep row⟩
  refine ⟨?_, ?_, ?_, ?_, ?_⟩
  · rw [ids_write fun o => (hf o).1]
    exact h.ids
  · intro row' hrow'
    obtain ⟨row, hmem, hid, huser, -, hpaid⟩ := hrow row' hrow'
    rw [hid, huser, hpaid]
    exact h.paid row hmem
  · intro b hb
    obtain ⟨row, hmem, huser, hid⟩ := h.owned b hb
    exact ⟨_, Table.update_mem (·.id) hmem, (hkeep row).2.1.trans huser, (hkeep row).1.trans hid⟩
  · intro row' hrow' hpaid' hdisc
    obtain ⟨row, hmem, hid, huser, hcode, hpaid⟩ := hrow row' hrow'
    rw [hpaid] at hpaid'
    simp only [CreationDb.firstOrderDiscount, hcode] at hdisc
    have hfirst := h.first row hmem hpaid' hdisc
    rwa [hid, huser]
  · intro row' hrow' hdisc
    obtain ⟨row, hmem, hid, huser, hcode, -⟩ := hrow row' hrow'
    simp only [CreationDb.firstOrderDiscount, hcode] at hdisc
    rw [hid, huser]
    exact h.eligible row hmem hdisc

/-- Whose first payment is booked, it stays the first. -/
theorem BookStep.firstPaid {payload : PaymentSucceeded} (hb : BookStep s s' order payload now) {userId : UserId} {id : OrderId}
    (h : s.firstPaid userId = some id) : s'.firstPaid userId = some id := by
  simp only [Checkout.firstPaid, hb.bookings, List.find?_append]
  obtain ⟨b, hfound, rfl⟩ := Option.map_eq_some_iff.1 h
  simp [hfound]

theorem BookStep.firstPaid_new {payload : PaymentSucceeded} (hb : BookStep s s' order payload now)
    (hnone : ∀ b ∈ s.bookings, b.1 ≠ order.userId) : s'.firstPaid order.userId = some order.id := by
  have hfind : s.bookings.find? (fun b => b.1 == order.userId) = none :=
    List.find?_eq_none.2 fun b hmem hbuser => hnone b hmem (by simpa using hbuser)
  simp [Checkout.firstPaid, hb.bookings, List.find?_append, hfind]

/-- The user had paid for nothing before the order was placed, and has not since. -/
theorem Booked.unpaid (h : Booked s) (ho : o ∈ s.db.orders) (hdisc : s.db.firstOrderDiscount o = true)
    (hsince : ∀ n, (o.id, n) ∈ s.placed → ∀ b ∈ s.bookings.drop n, b.1 ≠ o.userId) : ∀ b ∈ s.bookings, b.1 ≠ o.userId := by
  obtain ⟨n, -, hplaced, hbefore⟩ := h.eligible o ho hdisc
  intro b hmem
  rw [← List.take_append_drop n s.bookings] at hmem
  rcases List.mem_append.1 hmem with hmem | hmem
  · exact hbefore b hmem
  · exact hsince n hplaced b hmem

/-- The booking, where the user of a row with a first-order coupon has paid nothing since. -/
theorem Booked.book (h : Booked s) {payload : PaymentSucceeded} (hb : BookStep s s' order payload now)
    (hread : ∃ row ∈ s.db.orders, row.id = order.id ∧ row.userId = order.userId)
    (hok : ∀ row ∈ s.db.orders, row.id = order.id → row.isBookable = true → row.paidAt = none →
      s.db.firstOrderDiscount row = true → ∀ n, (row.id, n) ∈ s.placed → ∀ b ∈ s.bookings.drop n, b.1 ≠ row.userId) :
    Booked s' := by
  obtain ⟨row, hrow, hrowid, huser⟩ := hread
  have hbookable : row.isBookable = true := by
    obtain ⟨row', hrow', hid', hbookable'⟩ := hb.bookable
    rwa [h.inj hrow hrow' (hrowid.trans hid'.symm)]
  have hdb : s'.db.orders = s.db.orders.map fun o => if o.id = order.id then o.paymentPatch order payload now else o := by
    rw [hb.db]
    rfl
  have hcases : ∀ o' ∈ s'.db.orders, (o' ∈ s.db.orders ∧ o'.id ≠ order.id) ∨
      o' = row.paymentPatch order payload now := by
    intro o' ho'
    rw [hdb] at ho'
    rcases Table.mem_update (fun o : Order => o.id) ho' with hold | ⟨row', hrow', hid', rfl⟩
    · exact .inl hold
    · rw [h.inj hrow' hrow (hid'.trans hrowid.symm)]
      exact .inr rfl
  have hdiscs : ∀ o, s'.db.firstOrderDiscount o = s.db.firstOrderDiscount o := fun o => by
    rw [hb.db]
    rfl
  refine ⟨?_, ?_, ?_, ?_, ?_⟩
  · rw [hb.db, ids_write (f := fun row => row.paymentPatch order payload now) fun o => rfl]
    exact h.ids
  · intro o' ho'
    rw [hb.bookings]
    rcases hcases o' ho' with ⟨hold, hne⟩ | rfl
    · rw [h.paid o' hold]
      simp [hne]
    · simp [Order.paymentPatch, hrowid, huser]
  · intro b hmem
    have hsame : ∀ o ∈ s.db.orders, ∃ o' ∈ s'.db.orders, o'.userId = o.userId ∧ o'.id = o.id := by
      intro o ho
      rw [hdb]
      refine ⟨_, Table.update_mem (·.id) ho, ?_⟩
      split <;> exact ⟨rfl, rfl⟩
    rw [hb.bookings] at hmem
    rcases List.mem_append.1 hmem with hmem | hmem
    · obtain ⟨o, ho, huser', hid'⟩ := h.owned b hmem
      obtain ⟨o', ho', hu, hi⟩ := hsame o ho
      exact ⟨o', ho', hu.trans huser', hi.trans hid'⟩
    · obtain rfl := List.mem_singleton.1 hmem
      obtain ⟨o', ho', hu, hi⟩ := hsame row hrow
      exact ⟨o', ho', hu.trans huser, hi.trans hrowid⟩
  · intro o' ho' hpaid' hdisc
    rcases hcases o' ho' with ⟨hold, -⟩ | rfl
    · exact hb.firstPaid (h.first o' hold hpaid' (hdiscs o' ▸ hdisc))
    · have hdisc' : s.db.firstOrderDiscount row = true := hdiscs _ ▸ hdisc
      show s'.firstPaid row.userId = some row.id
      cases hpaidAt : row.paidAt with
      | some t => exact hb.firstPaid (h.first row hrow (by simp [hpaidAt]) hdisc')
      | none =>
        have hnone := h.unpaid hrow hdisc' (hok row hrow hrowid hbookable hpaidAt hdisc')
        rw [huser, hrowid]
        exact hb.firstPaid_new (huser ▸ hnone)
  · intro o' ho' hdisc
    have hold : ∃ o ∈ s.db.orders, o.id = o'.id ∧ o.userId = o'.userId ∧ s.db.firstOrderDiscount o = true := by
      rw [hdiscs] at hdisc
      rcases hcases o' ho' with ⟨hold, -⟩ | rfl
      · exact ⟨o', hold, rfl, rfl, hdisc⟩
      · exact ⟨row, hrow, rfl, rfl, hdisc⟩
    obtain ⟨o, ho, hid, howner, hdisc⟩ := hold
    obtain ⟨n, hle, hplaced, hbefore⟩ := h.eligible o ho hdisc
    rw [hb.bookings, hb.placed, ← hid, ← howner, List.length_append]
    refine ⟨n, hle.trans (Nat.le_add_right _ _), hplaced, ?_⟩
    rwa [List.take_append_of_le_length hle]

/-! The machine. -/

/-- A new row is not paid yet, and the row that a payment has read is in the table. -/
def CheckoutThread.Knows (s : Checkout) : CheckoutThread → Prop
  | .create t => t.Ready
  | .book t => t.Reads s

/-- Rows stay, and stay with their users. -/
def OwnersKept (db db' : CreationDb) : Prop :=
  ∀ o ∈ db.orders, ∃ o' ∈ db'.orders, o'.id = o.id ∧ o'.userId = o.userId

theorem OwnersKept.refl (db : CreationDb) : OwnersKept db db := fun o ho => ⟨o, ho, rfl, rfl⟩

theorem OwnersKept.write {id : OrderId} {f : Order → Order} (hf : ∀ o, (f o).id = o.id ∧ (f o).userId = o.userId) :
    OwnersKept db (db.write id f) := by
  intro o ho
  refine ⟨_, Table.update_mem (·.id) ho, ?_⟩
  split
  · exact hf o
  · exact ⟨rfl, rfl⟩

theorem CheckoutThread.Knows.kept {t : CheckoutThread} (h : t.Knows s) (hkept : OwnersKept s.db s'.db) : t.Knows s' := by
  cases t with
  | create t => exact h
  | book t =>
    cases t with
    | read order payload now =>
      obtain ⟨row, hrow, hid, huser⟩ := h
      obtain ⟨row', hrow', hid', huser'⟩ := hkept row hrow
      exact ⟨row', hrow', hid'.trans hid, huser'.trans huser⟩
    | called orderId payload => trivial
    | done => trivial

end ChopNow
