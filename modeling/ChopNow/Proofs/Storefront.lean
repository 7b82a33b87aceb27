import ChopNow.Lib.Grouping
import ChopNow.Proofs.MenuService
import ChopNow.Proofs.Split
import ChopNow.Spec.Browse

/-! The catalogue and the checkout read the same tables. A cart made up from a vendor's page costs what the
page and the vendor's card say, and it is accepted exactly when all of it is on sale there. -/

namespace ChopNow

section

variable {db : StoreDb} {ilike : String → String → Bool} {distance_m : VendorId → ℚ} {dto : BrowseCatalogueDto} {now : LocalTime}
  {a b : ℚ}

/-! The cards. -/

theorem classifyPlan_mono (h : a ≤ b) : classifyPlan a ≤ classifyPlan b := by
  unfold classifyPlan PLAN_1_RADIUS_KM PLAN_2_RADIUS_KM
  split_ifs <;> first | omega | linarith

theorem mathRound_mono (h : a ≤ b) : mathRound a ≤ mathRound b := Int.floor_le_floor (by linarith)

theorem etaMinutes_mono (h : a ≤ b) : etaMinutes a ≤ etaMinutes b := by
  refine mathRound_mono ?_
  unfold MOTO_AVG_KMH
  linarith

/-- The further vendor costs no less to deliver from and takes no less time. -/
structure VendorCard.Before (a b : VendorCard) : Prop where
  distanceKm : a.distanceKm ≤ b.distanceKm
  deliveryFeeXAF : a.deliveryFeeXAF ≤ b.deliveryFeeXAF
  etaMinutes : a.etaMinutes ≤ b.etaMinutes
  plan : a.plan ≤ b.plan

theorem card_before {v w : StoreVendor} (h : a ≤ b) : (v.card a now).Before (w.card b now) := by
  have hkm : a / 1000 ≤ b / 1000 := by linarith
  refine ⟨?_, computeDeliveryFeeXAF_mono hkm, etaMinutes_mono hkm, classifyPlan_mono hkm⟩
  have hround : mathRound (a / 1000 * 10) ≤ mathRound (b / 1000 * 10) := mathRound_mono (by linarith)
  have hcast : (mathRound (a / 1000 * 10) : ℚ) ≤ mathRound (b / 1000 * 10) := by exact_mod_cast hround
  change (mathRound (a / 1000 * 10) : ℚ) / 10 ≤ mathRound (b / 1000 * 10) / 10
  linarith

/-- The page of cards is in order, of vendors that are asked for, and leaves nobody out but for the limit. -/
theorem browse_cards (db : StoreDb) (ilike : String → String → Bool) (distance_m : VendorId → ℚ) (dto : BrowseCatalogueDto)
    (now : LocalTime) :
    (db.browse ilike distance_m dto now).Pairwise VendorCard.Before ∧
    (∀ card ∈ db.browse ilike distance_m dto now, ∃ v ∈ db.vendors, db.listed ilike distance_m dto v ∧
      card = v.card (distance_m v.id) now) ∧
    ∀ v ∈ db.vendors, db.listed ilike distance_m dto v →
      v.card (distance_m v.id) now ∈ db.browse ilike distance_m dto now ∨
        (db.browse ilike distance_m dto now).length = 100 ∧
          ∀ card ∈ db.browse ilike distance_m dto now, distance_m card.id ≤ distance_m v.id := by
  have hsorted := List.pairwise_insertionSort (fun a b : StoreVendor => distance_m a.id ≤ distance_m b.id)
    (db.vendors.filter (db.listed ilike distance_m dto))
  refine ⟨?_, fun card hcard => ?_, fun v hv hlisted => ?_⟩
  · refine List.pairwise_map.2 ((hsorted.sublist (List.take_sublist _ _)).imp fun h => card_before h)
  · obtain ⟨v, hv, rfl⟩ := List.mem_map.1 hcard
    have hmem := (List.mem_insertionSort _).1 (List.mem_of_mem_take hv)
    exact ⟨v, List.mem_of_mem_filter hmem, List.of_mem_filter hmem, rfl⟩
  · have hmem := (List.mem_insertionSort fun a b : StoreVendor => distance_m a.id ≤ distance_m b.id).2
      (List.mem_filter.2 ⟨hv, hlisted⟩)
    rcases Grouping.mem_take_or hsorted hmem 100 with hin | ⟨hfull, hless⟩
    · exact .inl (List.mem_map_of_mem hin)
    · refine .inr ⟨(List.length_map _).trans hfull, fun card hcard => ?_⟩
      obtain ⟨w, hw, rfl⟩ := List.mem_map.1 hcard
      exact hless w hw

/-! The cart. -/

/-- What a line costs, by the page; what is out of stock cannot be put into the cart. -/
def VendorPage.price? (page : VendorPage) (line : CartLine) : Option ℤ :=
  (page.items.find? fun i => i.id == line.itemId && i.isInStock).map fun i => i.priceXAF * line.quantity

def VendorPage.prices? (page : VendorPage) : List CartLine → Option (List ℤ)
  | [] => some []
  | line :: lines =>
    match page.price? line, page.prices? lines with
    | some price, some prices => some (price :: prices)
    | _, _ => none

/-- An item on sale at this vendor. -/
structure StoreDb.Sells (db : StoreDb) (vendorId : VendorId) (itemId : ItemId) (i : ItemRow) : Prop where
  mem : i ∈ db.items
  id : i.id = itemId
  vendor : i.vendorId = vendorId
  available : i.isAvailable = true
  stock : i.isInStock = true

theorem StoreDb.Sells.row {vendorId : VendorId} {itemId : ItemId} {i j : ItemRow} (hj : db.Sells vendorId itemId j)
    (hi : i ∈ db.items) (hid : i.id = itemId) : i = j :=
  List.inj_on_of_nodup_map db.itemIds hi hj.mem (hid.trans hj.id.symm)

theorem mem_menuOrder {α : Type} {sortOrder : α → ℕ} {createdAt : α → Time} {rows : List α} {x : α} :
    x ∈ menuOrder sortOrder createdAt rows ↔ x ∈ rows := List.mem_insertionSort _

/-- The page of a vendor that is on the platform. -/
structure StoreDb.Shows (db : StoreDb) (vendor : StoreVendor) (page : VendorPage) : Prop where
  same : page.vendor.id = vendor.id
  items : ∀ shown, shown ∈ page.items ↔ ∃ i ∈ db.items, i.vendorId = vendor.id ∧ i.isAvailable = true ∧ shown = i.toPublic

theorem getVendorPublic_shows {vendor : StoreVendor} (hmem : vendor ∈ db.vendors) (hactive : vendor.status = .active)
    (now : LocalTime) : ∃ page, db.getVendorPublic vendor.id now = some page ∧ db.Shows vendor page := by
  have hfind : db.vendors.find? (fun v => v.id == vendor.id) = some vendor := Table.find?_of_nodup db.vendorIds hmem
  rw [StoreDb.getVendorPublic, hfind]
  refine ⟨_, if_neg (not_not.2 hactive), rfl, fun shown => ?_⟩
  simp only [List.mem_map, mem_menuOrder, List.mem_filter, Bool.and_eq_true, beq_iff_eq, and_assoc]
  exact exists_congr fun i => and_congr_right fun _ => and_congr_right fun _ => and_congr_right fun _ => eq_comm

theorem price_some {vendor : StoreVendor} {page : VendorPage} (h : db.Shows vendor page) {line : CartLine} {price : ℤ} :
    page.price? line = some price ↔ ∃ i, db.Sells vendor.id line.itemId i ∧ price = i.priceXAF * line.quantity := by
  have hfound : ∀ shown, page.items.find? (fun i => i.id == line.itemId && i.isInStock) = some shown →
      ∃ i, db.Sells vendor.id line.itemId i ∧ shown = i.toPublic := by
    intro shown hshown
    obtain ⟨i, hi, hvendor, havailable, rfl⟩ := (h.items shown).1 (List.mem_of_find?_eq_some hshown)
    obtain ⟨hid, hstock⟩ : i.id = line.itemId ∧ i.isInStock = true := by simpa [ItemRow.toPublic] using List.find?_some hshown
    exact ⟨i, ⟨hi, hid, hvendor, havailable, hstock⟩, rfl⟩
  constructor
  · intro hprice
    obtain ⟨shown, hshown, rfl⟩ := Option.map_eq_some_iff.1 hprice
    obtain ⟨i, hi, rfl⟩ := hfound shown hshown
    exact ⟨i, hi, rfl⟩
  · rintro ⟨i, hi, rfl⟩
    have hmem : i.toPublic ∈ page.items := (h.items _).2 ⟨i, hi.mem, hi.vendor, hi.available, rfl⟩
    cases hshown : page.items.find? fun i => i.id == line.itemId && i.isInStock with
    | none =>
      refine absurd ?_ (List.find?_eq_none.1 hshown i.toPublic hmem)
      simp [ItemRow.toPublic, hi.id, hi.stock]
    | some shown =>
      obtain ⟨j, hj, rfl⟩ := hfound shown hshown
      rw [VendorPage.price?, hshown, hi.row hj.mem hj.id]
      rfl

/-! The same cart at the checkout. -/

variable {coupons : List Coupon} {redemptions : List CouponRedemption} {orders : List Order} {vendorId : VendorId}
  {itemIds : List ItemId} {items : List Item} {cart : List CartLine} {lines : List ℤ}

/-- The rows that createOrder loads. -/
def StoreDb.loaded (db : StoreDb) (vendorId : VendorId) (itemIds : List ItemId) : List ItemRow :=
  (db.itemsOf vendorId).filter fun i => itemIds.contains i.id

theorem loadItems_eq (db : StoreDb) (vendorId : VendorId) (itemIds : List ItemId) :
    ((db.toCreationDb coupons redemptions orders).items.filter fun i => itemIds.contains i.id && i.vendorId == vendorId) =
      (db.loaded vendorId itemIds).map (·.toItem) := by
  rw [StoreDb.toCreationDb, List.filter_map, StoreDb.loaded, StoreDb.itemsOf, List.filter_filter]
  rfl

theorem mem_loaded {i : ItemRow} : i ∈ db.loaded vendorId itemIds ↔ i ∈ db.items ∧ i.vendorId = vendorId ∧ i.id ∈ itemIds := by
  simp only [StoreDb.loaded, StoreDb.itemsOf, List.mem_filter, List.contains_iff_mem, beq_iff_eq, and_assoc]

/-- The second check of createOrder. -/
theorem loaded_any : ((db.loaded vendorId itemIds).map (·.toItem)).any (fun i => !i.isAvailable || !i.isInStock) = false ↔
    ∀ i ∈ db.loaded vendorId itemIds, i.isAvailable = true ∧ i.isInStock = true := by
  simp

/-- Nothing is loaded for a cart but what is on sale there, a row for each line. -/
theorem loadItems_iff : loadItems (db.toCreationDb coupons redemptions orders) vendorId itemIds = .ok items ↔
    items = (db.loaded vendorId itemIds).map (·.toItem) ∧ itemIds.Nodup ∧ ∀ k ∈ itemIds, ∃ i, db.Sells vendorId k i := by
  have hids : ((db.itemsOf vendorId).map (·.id)).Nodup := Table.nodup_filter db.itemIds _
  have hlength := Table.length_filter_contains hids itemIds
  unfold loadItems
  simp only [loadItems_eq, List.length_map]
  constructor
  · intro h
    split at h
    · cases h
    next hasked =>
    split at h
    · cases h
    next hsale =>
    obtain ⟨hnodup, hall⟩ := hlength.1 (not_not.1 hasked)
    refine ⟨(Except.ok.inj h).symm, hnodup, fun k hk => ?_⟩
    obtain ⟨i, hi, rfl⟩ := hall k hk
    obtain ⟨hmem, hvendor⟩ := List.mem_filter.1 hi
    have hloaded : i ∈ db.loaded vendorId itemIds := List.mem_filter.2 ⟨hi, List.contains_iff_mem.2 hk⟩
    obtain ⟨havailable, hstock⟩ := loaded_any.1 (Bool.not_eq_true _ ▸ hsale) i hloaded
    exact ⟨i, hmem, rfl, by simpa using hvendor, havailable, hstock⟩
  · rintro ⟨rfl, hnodup, hall⟩
    have hasked : (db.loaded vendorId itemIds).length = itemIds.length := by
      refine hlength.2 ⟨hnodup, fun k hk => ?_⟩
      obtain ⟨i, hi⟩ := hall k hk
      exact ⟨i, List.mem_filter.2 ⟨hi.mem, beq_iff_eq.2 hi.vendor⟩, hi.id⟩
    have hsale : ∀ i ∈ db.loaded vendorId itemIds, i.isAvailable = true ∧ i.isInStock = true := by
      intro i hi
      obtain ⟨hmem, hvendor, hid⟩ := mem_loaded.1 hi
      obtain ⟨j, hj⟩ := hall i.id hid
      rw [hj.row hmem rfl]
      exact ⟨hj.available, hj.stock⟩
    rw [if_neg (not_not.2 hasked), loaded_any.2 hsale]
    rfl

theorem priceLines_agrees {vendor : StoreVendor} {page : VendorPage} (h : db.Shows vendor page)
    (hitems : ∀ item, item ∈ items → ∃ i, db.Sells vendor.id item.id i ∧ item = i.toItem)
    (hcart : ∀ line ∈ cart, ∃ i, db.Sells vendor.id line.itemId i ∧ i.toItem ∈ items) :
    ∃ lines, priceLines items cart = .ok lines ∧ page.prices? cart = some lines := by
  induction cart with
  | nil => exact ⟨[], rfl, rfl⟩
  | cons line cart ih =>
    obtain ⟨lines, hlines, hprices⟩ := ih fun l hl => hcart l (.tail _ hl)
    obtain ⟨i, hi, hmem⟩ := hcart line (.head _)
    have hfind : items.find? (fun item => item.id == line.itemId) = some i.toItem := by
      cases hfound : items.find? fun item => item.id == line.itemId with
      | none => exact absurd (by simpa using hi.id) (List.find?_eq_none.1 hfound i.toItem hmem)
      | some item =>
        obtain ⟨j, hj, rfl⟩ := hitems item (List.mem_of_find?_eq_some hfound)
        have hid : j.id = line.itemId := by simpa using List.find?_some hfound
        rw [hi.row hj.mem hid]
    have hprice : page.price? line = some (i.priceXAF * line.quantity) := (price_some h).2 ⟨i, hi, rfl⟩
    refine ⟨i.priceXAF * line.quantity :: lines, ?_, ?_⟩
    · rw [priceLines, hfind, hlines]
    · rw [VendorPage.prices?, hprice, hprices]

theorem prices_sells {vendor : StoreVendor} {page : VendorPage} (h : db.Shows vendor page)
    (hprices : page.prices? cart = some lines) : ∀ line ∈ cart, ∃ i, db.Sells vendor.id line.itemId i := by
  induction cart generalizing lines with
  | nil => exact fun line hline => absurd hline List.not_mem_nil
  | cons line cart ih =>
    rw [VendorPage.prices?] at hprices
    split at hprices
    next price prices hprice hrest =>
      refine List.forall_mem_cons.2 ⟨?_, ih hrest⟩
      obtain ⟨i, hi, -⟩ := (price_some h).1 hprice
      exact ⟨i, hi⟩
    · cases hprices

/-- What is on sale costs the same on the page and at the checkout. -/
theorem prices_of_sells {vendor : StoreVendor} {page : VendorPage} (h : db.Shows vendor page)
    (hsells : ∀ line ∈ cart, ∃ i, db.Sells vendor.id line.itemId i) :
    ∃ lines, priceLines ((db.loaded vendor.id (cart.map (·.itemId))).map (·.toItem)) cart = .ok lines ∧
      page.prices? cart = some lines := by
  refine priceLines_agrees h (fun item hitem => ?_) fun line hline => ?_
  · obtain ⟨i, hi, rfl⟩ := List.mem_map.1 hitem
    obtain ⟨hmem, -, hid⟩ := mem_loaded.1 hi
    obtain ⟨line, hline, heq⟩ := List.mem_map.1 hid
    obtain ⟨j, hj⟩ := hsells line hline
    rw [hj.row hmem heq.symm]
    exact ⟨j, { hj with id := rfl }, rfl⟩
  · obtain ⟨i, hi⟩ := hsells line hline
    have hid : i.id ∈ cart.map (·.itemId) := List.mem_map.2 ⟨line, hline, hi.id.symm⟩
    exact ⟨i, hi, List.mem_map_of_mem (mem_loaded.2 ⟨hi.mem, hi.vendor, hid⟩)⟩

theorem findVendor_listed {vendor : StoreVendor} (hmem : vendor ∈ db.vendors) (hactive : vendor.status = .active)
    (hopen : vendor.isOpen = true) : findVendor (db.toCreationDb coupons redemptions orders) vendor.id = .ok vendor.toVendor := by
  have hfind : (db.toCreationDb coupons redemptions orders).vendors.find? (fun v => v.id == vendor.id) =
      some vendor.toVendor := by
    rw [StoreDb.toCreationDb, List.find?_map]
    exact congrArg (Option.map _) (Table.find?_of_nodup db.vendorIds hmem)
  simp [findVendor, hfind, hactive, hopen]

theorem createOrder_new {cdb : CreationDb} {seed : OrderSeed} {userId : UserId} {order : CreateOrderDto}
    {key : Option String} (hkey : keyTaken cdb userId key = false) (distance : ℚ) (time : Time) :
    createOrder cdb seed userId order key distance time = placeOrder cdb seed userId order key distance time := by
  have hnone : cdb.orders.find? (fun o => o.userId == userId && givenKey key && o.idempotencyKey == key) = none := by
    refine List.find?_eq_none.2 fun o ho hfound => ?_
    refine absurd ?_ (List.any_eq_false.1 hkey o ho)
    cases key with
    | none => simp [givenKey] at hfound
    | some key =>
      simp only [Bool.and_eq_true] at hfound ⊢
      exact ⟨⟨hfound.1.1, rfl⟩, hfound.2⟩
  rw [createOrder, hnone]

variable {seed : OrderSeed} {userId : UserId} {order : CreateOrderDto} {key : Option String} {time : Time} {distance : ℚ}
  {vendor : StoreVendor} {page : VendorPage} {db' : CreationDb} {o : Order}

/-- What is ordered is on the page, and costs what the page says. -/
theorem placeOrder_shown (h : db.Shows vendor page)
    (hserved : findVendor (db.toCreationDb coupons redemptions orders) order.vendorId = .ok vendor.toVendor)
    (hcoupon : order.couponCode = none)
    (hplaced : placeOrder (db.toCreationDb coupons redemptions orders) seed userId order key distance time = .ok (db', o)) :
    (order.items.map (·.itemId)).Nodup ∧ ∃ lines, page.prices? order.items = some lines ∧
      MIN_ORDER_XAF ≤ lines.sum + computeDeliveryFeeXAF (distance / 1000) ∧ o.subtotalXAF = lines.sum ∧
      o.deliveryFeeXAF = computeDeliveryFeeXAF (distance / 1000) ∧
      o.totalXAF = lines.sum + computeDeliveryFeeXAF (distance / 1000) ∧ lines.sum + computeDeliveryFeeXAF (distance / 1000) ≤ INT_MAX ∧
      ∀ o ∈ orders, o.code ≠ seed.code := by
  obtain ⟨served, items, lines, hp⟩ := placeOrder_ok hplaced
  obtain rfl : vendor.toVendor = served := Except.ok.inj (hserved.symm.trans hp.served)
  obtain ⟨rfl, hnodup, hsells⟩ := loadItems_iff.1 hp.loaded
  obtain ⟨lines', hlines, hprices⟩ := prices_of_sells h fun line hline => hsells _ (List.mem_map_of_mem hline)
  obtain rfl : lines = lines' := Except.ok.inj (hp.priced.symm.trans hlines)
  have hcommitted := hp.committed
  rw [hcoupon] at hcommitted
  obtain ⟨-, rfl⟩ := Prod.mk.inj (Except.ok.inj hcommitted)
  obtain ⟨-, hcodes, hfits⟩ := checkInsert_ok_iff.1 hp.inserted
  exact ⟨hnodup, lines, hprices, hp.minimum, rfl, rfl, rfl, hfits _ (.tail _ (.tail _ (.head _))), hcodes⟩

/-- What is on the page can be ordered. -/
theorem placeOrder_accepts (h : db.Shows vendor page)
    (hserved : findVendor (db.toCreationDb coupons redemptions orders) order.vendorId = .ok vendor.toVendor)
    (hscheduled : order.scheduledFor = none) (hcoupon : order.couponCode = none)
    (hkey : keyTaken (db.toCreationDb coupons redemptions orders) userId key = false)
    (hnodup : (order.items.map (·.itemId)).Nodup) (hprices : page.prices? order.items = some lines)
    (hminimum : MIN_ORDER_XAF ≤ lines.sum + computeDeliveryFeeXAF (distance / 1000))
    (hfits : lines.sum + computeDeliveryFeeXAF (distance / 1000) ≤ INT_MAX) (hcodes : ∀ o ∈ orders, o.code ≠ seed.code) :
    ∃ r, placeOrder (db.toCreationDb coupons redemptions orders) seed userId order key distance time = .ok r := by
  have hsells := prices_sells h hprices
  obtain ⟨lines', hlines, hprices'⟩ := prices_of_sells h hsells
  obtain rfl : lines = lines' := Option.some.inj (hprices.symm.trans hprices')
  have hloaded : loadItems (db.toCreationDb coupons redemptions orders) vendor.id (order.items.map (·.itemId)) =
      .ok ((db.loaded vendor.id (order.items.map (·.itemId))).map (·.toItem)) :=
    loadItems_iff.2 ⟨rfl, hnodup, by simpa only [List.forall_mem_map] using hsells⟩
  have hgross : ¬ lines.sum + computeDeliveryFeeXAF (distance / 1000) < MIN_ORDER_XAF := not_lt.2 hminimum
  have hinserted : checkInsert (db.toCreationDb coupons redemptions orders) (newOrder seed userId vendor.toVendor order key
      lines.sum (computeDeliveryFeeXAF (distance / 1000)) time) lines = .ok () := by
    -- the total is the largest of the amounts
    have hmin := (priceLines_min hlines).2
    have hline : ∀ x ∈ lines, x ≤ lines.sum :=
      List.single_le_sum fun x hx => le_trans (by norm_num) (hmin x hx)
    have hsum : 0 ≤ lines.sum := List.sum_nonneg fun x hx => le_trans (by norm_num) (hmin x hx)
    have hfee := computeDeliveryFeeXAF_min (distance / 1000)
    refine checkInsert_ok_iff.2 ⟨hkey, hcodes, ?_⟩
    simp only [List.forall_mem_cons, newOrder]
    exact ⟨by omega, by omega, hfits, fun x hx => by have := hline x hx; omega⟩
  have hplaced : placeOrder (db.toCreationDb coupons redemptions orders) seed userId order key distance time =
      commitOrder (db.toCreationDb coupons redemptions orders) (newOrder seed userId vendor.toVendor order key lines.sum
        (computeDeliveryFeeXAF (distance / 1000)) time) none time := by
    simp [placeOrder, hserved, hloaded, hlines, hgross, hscheduled, checkSchedule, hinserted, hcoupon]
  exact ⟨_, hplaced.trans rfl⟩

/-- A cart made up from the page of a vendor that was browsed is accepted exactly when the page has all of it in
stock, nothing twice, the prices with the card's fee reach the minimum and fit their column, and the code that the
order was given is new; it then costs just that. -/
theorem checkout_agrees (seed : OrderSeed) (time : Time) {card : VendorCard} (now' : LocalTime)
    (hcard : card ∈ db.browse ilike distance_m dto now) (hvendor : order.vendorId = card.id)
    (hscheduled : order.scheduledFor = none) (hcoupon : order.couponCode = none)
    (hkey : keyTaken (db.toCreationDb coupons redemptions orders) userId key = false) :
    ∃ page, db.getVendorPublic card.id now' = some page ∧
      ((∃ r, createOrder (db.toCreationDb coupons redemptions orders) seed userId order key (distance_m card.id) time = .ok r) ↔
        (order.items.map (·.itemId)).Nodup ∧ (∀ o ∈ orders, o.code ≠ seed.code) ∧
          ∃ lines, page.prices? order.items = some lines ∧ MIN_ORDER_XAF ≤ lines.sum + card.deliveryFeeXAF ∧
            lines.sum + card.deliveryFeeXAF ≤ INT_MAX) ∧
      ∀ db' o, createOrder (db.toCreationDb coupons redemptions orders) seed userId order key (distance_m card.id) time =
          .ok (db', o) →
        ∃ lines, page.prices? order.items = some lines ∧ o.subtotalXAF = lines.sum ∧ o.deliveryFeeXAF = card.deliveryFeeXAF ∧
          o.totalXAF = lines.sum + card.deliveryFeeXAF := by
  obtain ⟨v, hmem, hlisted, rfl⟩ := (browse_cards db ilike distance_m dto now).2.1 card hcard
  simp only [StoreDb.listed, Bool.and_eq_true, decide_eq_true_eq] at hlisted
  obtain ⟨⟨⟨hactive, hopen⟩, -⟩, -⟩ := hlisted
  obtain ⟨page, hpage, hshows⟩ := getVendorPublic_shows hmem hactive now'
  have hserved : findVendor (db.toCreationDb coupons redemptions orders) order.vendorId = .ok v.toVendor := by
    rw [hvendor]
    exact findVendor_listed hmem hactive hopen
  simp only [createOrder_new hkey]
  refine ⟨page, hpage, ⟨?_, ?_⟩, fun db' o hplaced => ?_⟩
  · rintro ⟨⟨db', o⟩, hplaced⟩
    obtain ⟨hnodup, lines, hprices, hminimum, -, -, -, hfits, hcodes⟩ := placeOrder_shown hshows hserved hcoupon hplaced
    exact ⟨hnodup, hcodes, lines, hprices, hminimum, hfits⟩
  · rintro ⟨hnodup, hcodes, lines, hprices, hminimum, hfits⟩
    exact placeOrder_accepts hshows hserved hscheduled hcoupon hkey hnodup hprices hminimum hfits hcodes
  · obtain ⟨-, lines, hprices, -, hsubtotal, hfee, htotal, -⟩ := placeOrder_shown hshows hserved hcoupon hplaced
    exact ⟨lines, hprices, hsubtotal, hfee, htotal⟩

end

/-! Two portions of a dish of 1,500 francs, 1.8 km away. -/

theorem one_le_portions : (1 : ℤ) ≤ 2 := by norm_num

theorem two_le_fifty : (2 : ℤ) ≤ 50 := by norm_num

def mamaStore : StoreDb := (emptyStore.submit (exampleVendor 1 11) [⟨"Ndolé", ⟨1500, dish_price⟩, none⟩]).getD emptyStore

def mamaAtNoon : VendorCard := (exampleVendor 1 11).card 1800 ⟨3, 12, 0⟩

def twoNdole : CreateOrderDto where
  vendorId := 1
  items := [⟨0, 2, one_le_portions, two_le_fifty⟩]
  paymentMethod := .mtnMomo
  scheduledFor := none
  couponCode := none
  items_min := by decide
  items_max := by decide

theorem two_ndole_cost : ∃ page, mamaStore.getVendorPublic 1 ⟨3, 12, 5⟩ = some page ∧ page.prices? twoNdole.items = some [3000] ∧
    ∃ db' o, createOrder (mamaStore.toCreationDb [] [] []) ⟨5, 5, 1111, 2222⟩ 7 twoNdole none 1800 0 = .ok (db', o) ∧
      o.totalXAF = 3500 := by
  have hcard : mamaAtNoon ∈ mamaStore.browse (fun _ _ => false) (fun _ => 1800) {} ⟨3, 12, 0⟩ := by decide +kernel
  have hprices : (mamaStore.getVendorPublic 1 ⟨3, 12, 5⟩).bind (·.prices? twoNdole.items) = some [3000] := by decide +kernel
  have hfee : mamaAtNoon.deliveryFeeXAF = 500 := by decide +kernel
  have hkey : keyTaken (mamaStore.toCreationDb [] [] []) 7 none = false := rfl
  obtain ⟨page, hpage, haccepted, hcost⟩ :=
    checkout_agrees ⟨5, 5, 1111, 2222⟩ 0 ⟨3, 12, 5⟩ hcard (rfl : twoNdole.vendorId = 1) rfl rfl hkey
  have hlines : page.prices? twoNdole.items = some [3000] := by
    have hsome : mamaStore.getVendorPublic 1 ⟨3, 12, 5⟩ = some page := hpage
    rwa [hsome] at hprices
  obtain ⟨⟨db', o⟩, hplaced⟩ := haccepted.2 ⟨by decide, by simp, [3000], hlines, by rw [hfee]; decide, by rw [hfee]; decide⟩
  obtain ⟨lines, hagain, -, -, htotal⟩ := hcost db' o hplaced
  obtain rfl : [3000] = lines := Option.some.inj (hlines.symm.trans hagain)
  exact ⟨page, hpage, hlines, db', o, hplaced, by rw [htotal, hfee]; rfl⟩

end ChopNow
