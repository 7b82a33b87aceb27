import ChopNow.Lib.Table
import ChopNow.Proofs.Payable
import ChopNow.Proofs.Split
import ChopNow.Spec.Menu

/-! Whether the amounts of an order fit their columns. A price is capped where an item is
created or updated, and not where a vendor submits its first dishes. -/

namespace ChopNow

variable {m m' : MenuDb} {db : CreationDb} {dto : CreateOrderDto} {distance_m : ℚ} {a : Amounts} {n : MenuEvent}

/-- Nothing that createOrder works out is too large for its column. -/
structure Amounts.Fits (a : Amounts) : Prop where
  lines : ∀ x ∈ a.lines, x ≤ INT_MAX
  subtotalXAF : a.subtotalXAF ≤ INT_MAX
  totalXAF : a.totalXAF ≤ INT_MAX

/-- The menu is what createOrder reads. -/
structure MenuDb.Serves (m : MenuDb) (db : CreationDb) : Prop where
  vendors : db.vendors = m.vendors.map (·.toVendor)
  items : db.items = m.items

/-- Every cart's amounts fit. -/
def AmountsFit (m : MenuDb) : Prop :=
  ∀ db dto distance_m a, m.Serves db → 0 ≤ distance_m → orderAmounts db dto distance_m = .ok a → a.Fits

def MenuDb.onSale (m : MenuDb) (vendorId : VendorId) : List Item :=
  m.items.filter fun i => i.vendorId == vendorId && i.isAvailable && i.isInStock

/-- Fifty portions for this price and the longest way come to `INT_MAX` at most. -/
def DISHES_MAX_XAF : ℤ := 42949642

/-- No thirty dishes that a vendor has on sale cost more together. -/
def DishesFit (m : MenuDb) : Prop :=
  ∀ v ∈ m.vendors, v.status = .active → v.isOpen = true → ∀ dishes, List.Sublist dishes (m.onSale v.id) →
    dishes.length ≤ 30 → (dishes.map (·.priceXAF)).sum ≤ DISHES_MAX_XAF

/-! The amounts of a cart. -/

theorem orderAmounts_ok (h : orderAmounts db dto distance_m = .ok a) :
    ∃ vendor items lines, findVendor db dto.vendorId = .ok vendor ∧
      loadItems db vendor.id (dto.items.map (·.itemId)) = .ok items ∧ priceLines items dto.items = .ok lines ∧
      a = ⟨lines, lines.sum, lines.sum + computeDeliveryFeeXAF (distance_m / 1000)⟩ := by
  unfold orderAmounts at h
  split at h
  · cases h
  next vendor hvendor =>
  split at h
  · cases h
  next items hitems =>
  split at h
  · cases h
  next lines hlines => exact ⟨vendor, items, lines, hvendor, hitems, hlines, (Except.ok.inj h).symm⟩

/-! Fifty of each. -/

def priceIn (items : List Item) (id : ItemId) : ℤ := ((items.find? fun i => i.id == id).map (·.priceXAF)).getD 0

theorem priceIn_of_mem {items : List Item} {i : Item} (hids : (items.map (·.id)).Nodup) (hi : i ∈ items) :
    priceIn items i.id = i.priceXAF := by
  rw [priceIn, Table.find?_of_nodup hids hi]
  rfl

theorem priceIn_nonneg (items : List Item) (id : ItemId) : 0 ≤ priceIn items id := by
  unfold priceIn
  cases items.find? fun i => i.id == id with
  | none => exact le_rfl
  | some i => exact le_trans (by decide) i.price_min

/-- The prices of the lines, portions aside, are those of the rows in another order. -/
theorem prices_perm {items : List Item} {cart : List CartLine} (hids : (items.map (·.id)).Nodup)
    (hsub : ∀ i ∈ items, i.id ∈ cart.map (·.itemId)) (hlength : items.length = cart.length) :
    (cart.map fun line => priceIn items line.itemId).sum = (items.map (·.priceXAF)).sum := by
  have hsubset : items.map (·.id) ⊆ cart.map (·.itemId) := by
    intro id hid
    obtain ⟨i, hi, rfl⟩ := List.mem_map.1 hid
    exact hsub i hi
  have hperm : (items.map (·.id)).Perm (cart.map (·.itemId)) :=
    (List.subperm_of_subset hids hsubset).perm_of_length_le (by simp [hlength])
  have hsum := (hperm.map (priceIn items)).sum_eq
  rw [List.map_map, List.map_map] at hsum
  rw [show (fun line : CartLine => priceIn items line.itemId) = priceIn items ∘ (·.itemId) from rfl, ← hsum]
  congr 1
  exact List.map_congr_left fun i hi => priceIn_of_mem hids hi

theorem lines_le {items : List Item} {cart : List CartLine} {lines : List ℤ}
    (hlines : priceLines items cart = .ok lines) :
    lines.sum ≤ 50 * (cart.map fun line => priceIn items line.itemId).sum := by
  rw [priceLines_eq hlines, ← List.sum_map_mul_left]
  refine List.sum_le_sum fun line _ => ?_
  have hprice := priceIn_nonneg items line.itemId
  have hmax := line.quantity_max
  simp only [priceIn] at hprice ⊢
  nlinarith

theorem priceLines_ok {items : List Item} {cart : List CartLine} (h : ∀ line ∈ cart, ∃ i ∈ items, i.id = line.itemId) :
    ∃ lines, priceLines items cart = .ok lines := by
  induction cart with
  | nil => exact ⟨[], rfl⟩
  | cons line cart ih =>
    obtain ⟨lines, hlines⟩ := ih fun l hl => h l (.tail _ hl)
    obtain ⟨i, hi, hid⟩ := h line (.head _)
    cases hfound : items.find? fun i => i.id == line.itemId with
    | none => exact absurd hid (by simpa using List.find?_eq_none.1 hfound i hi)
    | some item =>
      refine ⟨item.priceXAF * line.quantity :: lines, ?_⟩
      simp only [priceLines, hfound, hlines]

/-! The menu and the carts. -/

/-- Ids are primary keys. -/
structure MenuSound (m : MenuDb) : Prop where
  vendors : (m.vendors.map (·.id)).Nodup
  items : (m.items.map (·.id)).Nodup

theorem findVendor_serves {vendor : Vendor} {vendorId : VendorId} (hserves : m.Serves db)
    (h : findVendor db vendorId = .ok vendor) :
    ∃ v ∈ m.vendors, v.id = vendorId ∧ v.status = .active ∧ v.isOpen = true ∧ vendor = v.toVendor := by
  unfold findVendor at h
  split at h
  · cases h
  next v hfound =>
  split at h
  · cases h
  next hstatus =>
  split at h
  · cases h
  next hopen =>
  obtain rfl := Except.ok.inj h
  have hmem := List.mem_of_find?_eq_some hfound
  rw [hserves.vendors] at hmem
  obtain ⟨row, hrow, rfl⟩ := List.mem_map.1 hmem
  exact ⟨row, hrow, by simpa using List.find?_some hfound, not_not.1 hstatus, by simpa using hopen, rfl⟩

theorem DishesFit.amountsFit (h : DishesFit m) (hm : MenuSound m) : AmountsFit m := by
  intro db dto distance_m a hserves _ ha
  obtain ⟨vendor, items, lines, hvendor, hload, hlines, rfl⟩ := orderAmounts_ok ha
  obtain ⟨v, hv, hid, hactive, hopen, rfl⟩ := findVendor_serves hserves hvendor
  obtain ⟨hitems, hlength, hsale⟩ := loadItems_ok_iff.1 hload
  rw [List.length_map] at hlength
  have hself : items.filter (fun i => i.isAvailable && i.isInStock) = items :=
    List.filter_eq_self.2 fun i hi => by simp [hsale i hi]
  have hsublist : List.Sublist items (m.onSale v.id) := by
    rw [← hself, hitems, hserves.items, List.filter_filter]
    refine List.monotone_filter_right _ fun i hi => ?_
    simp only [Bool.and_eq_true] at hi ⊢
    exact ⟨⟨hi.2.2, hi.1.1⟩, hi.1.2⟩
  have hids : (items.map (·.id)).Nodup := by
    rw [hitems, hserves.items]
    exact hm.items.sublist (List.filter_sublist.map _)
  have hasked : ∀ i ∈ items, i.id ∈ dto.items.map (·.itemId) := by
    intro i hi
    rw [hitems] at hi
    have htest := (List.mem_filter.1 hi).2
    simp only [Bool.and_eq_true, List.contains_iff_mem] at htest
    exact htest.1
  have hdishes := h v hv hactive hopen items hsublist (hlength ▸ dto.items_max)
  have hsum := lines_le hlines
  rw [prices_perm hids hasked hlength] at hsum
  have hcap := (computeDeliveryFeeXAF_fee (distance_m / 1000)).cap
  have hfloor := (computeDeliveryFeeXAF_fee (distance_m / 1000)).floor
  simp only [DISHES_MAX_XAF] at hdishes
  have hpos : ∀ x ∈ lines, 0 ≤ x := fun x hx => le_trans (by decide) ((priceLines_min hlines).2 x hx)
  refine ⟨fun x hx => (List.single_le_sum hpos x hx).trans ?_, ?_, ?_⟩
  all_goals
    simp only [INT_MAX]
    omega

/-- The tables that createOrder reads, and no orders yet. -/
def MenuDb.creationDb (m : MenuDb) : CreationDb := ⟨m.vendors.map (·.toVendor), m.items, [], [], []⟩

theorem findVendor_served {v : VendorRow} (hm : MenuSound m) (hv : v ∈ m.vendors) (hactive : v.status = .active)
    (hopen : v.isOpen = true) : findVendor m.creationDb v.id = .ok v.toVendor := by
  have hids : (m.creationDb.vendors.map (·.id)).Nodup := by
    rw [MenuDb.creationDb, List.map_map]
    exact hm.vendors
  have hmem : v.toVendor ∈ m.creationDb.vendors := List.mem_map_of_mem hv
  have hfound : m.creationDb.vendors.find? (fun x => x.id == v.id) = some v.toVendor := Table.find?_of_nodup hids hmem
  simp only [findVendor, hfound, hactive, hopen]
  rfl

theorem one_le_fifty : (1 : ℤ) ≤ 50 := by decide

theorem fifty_le_fifty : (50 : ℤ) ≤ 50 := le_rfl

/-- Fifty portions of each of the dishes. -/
def fiftyOfEach (vendorId : VendorId) (dishes : List Item) (hmin : 1 ≤ dishes.length) (hmax : dishes.length ≤ 30) :
    CreateOrderDto where
  vendorId := vendorId
  items := dishes.map fun i => ⟨i.id, 50, one_le_fifty, fifty_le_fifty⟩
  paymentMethod := .mtnMomo
  scheduledFor := none
  couponCode := none
  items_min := by simpa using hmin
  items_max := by simpa using hmax

/-- The rows of such a cart are the dishes. -/
theorem loaded_perm {v : VendorRow} {dishes : List Item} (hm : MenuSound m)
    (hdishes : List.Sublist dishes (m.onSale v.id)) :
    (m.items.filter fun i => (dishes.map (·.id)).contains i.id && i.vendorId == v.id).Perm dishes := by
  have hids := List.Nodup.of_map _ hm.items
  rw [List.perm_ext_iff_of_nodup (hids.filter _) (hdishes.nodup (hids.filter _))]
  intro i
  simp only [List.mem_filter, Bool.and_eq_true, List.contains_iff_mem, List.mem_map, beq_iff_eq]
  constructor
  · rintro ⟨hi, ⟨j, hj, hid⟩, -⟩
    have hj' : j ∈ m.items := (List.mem_filter.1 (hdishes.subset hj)).1
    rwa [← List.inj_on_of_nodup_map hm.items hj' hi hid]
  · intro hi
    obtain ⟨hmem, hsale⟩ := List.mem_filter.1 (hdishes.subset hi)
    simp only [Bool.and_eq_true, beq_iff_eq] at hsale
    exact ⟨hmem, ⟨i, hi, rfl⟩, hsale.1.1⟩

theorem loadItems_fiftyOfEach {v : VendorRow} {dishes : List Item} (hmin : 1 ≤ dishes.length)
    (hmax : dishes.length ≤ 30) (hm : MenuSound m) (hdishes : List.Sublist dishes (m.onSale v.id)) :
    ∃ items, loadItems m.creationDb v.id ((fiftyOfEach v.id dishes hmin hmax).items.map (·.itemId)) = .ok items ∧
      items.Perm dishes := by
  have hperm := loaded_perm hm hdishes
  have hasked : (fiftyOfEach v.id dishes hmin hmax).items.map (·.itemId) = dishes.map (·.id) := by
    simp [fiftyOfEach, List.map_map, Function.comp_def]
  refine ⟨_, loadItems_ok_iff.2 ⟨rfl, ?_, ?_⟩, ?_⟩
  · rw [hasked, List.length_map]
    exact hperm.length_eq
  · intro i hi
    rw [hasked] at hi
    have htest := (List.mem_filter.1 (hdishes.subset (hperm.mem_iff.1 hi))).2
    simp only [Bool.and_eq_true] at htest
    exact ⟨htest.1.2, htest.2⟩
  · rw [hasked]
    exact hperm

theorem lines_fiftyOfEach {vendorId : VendorId} {items dishes : List Item} {hmin : 1 ≤ dishes.length}
    {hmax : dishes.length ≤ 30} {lines : List ℤ} (hids : (items.map (·.id)).Nodup) (hmem : ∀ i ∈ dishes, i ∈ items)
    (hlines : priceLines items (fiftyOfEach vendorId dishes hmin hmax).items = .ok lines) :
    lines.sum = 50 * (dishes.map (·.priceXAF)).sum := by
  rw [priceLines_eq hlines, ← List.sum_map_mul_left, fiftyOfEach, List.map_map]
  congr 1
  refine List.map_congr_left fun i hi => ?_
  have hprice := priceIn_of_mem hids (hmem i hi)
  rw [priceIn] at hprice
  simp only [Function.comp, hprice]
  ring

/-- The dearest cart of a menu whose carts all fit. -/
theorem AmountsFit.dishesFit (h : AmountsFit m) (hm : MenuSound m) : DishesFit m := by
  intro v hv hactive hopen dishes hdishes hmax
  rcases Nat.eq_zero_or_pos dishes.length with hzero | hmin
  · rw [List.eq_nil_of_length_eq_zero hzero]
    decide
  obtain ⟨items, hload, hperm⟩ := loadItems_fiftyOfEach hmin hmax hm hdishes
  have hmem : ∀ i ∈ dishes, i ∈ items := fun i hi => hperm.mem_iff.2 hi
  have hids : (items.map (·.id)).Nodup := by
    rw [(loadItems_ok_iff.1 hload).1]
    exact hm.items.sublist (List.filter_sublist.map _)
  have hfound : ∀ line ∈ (fiftyOfEach v.id dishes hmin hmax).items, ∃ i ∈ items, i.id = line.itemId := by
    intro line hline
    obtain ⟨i, hi, rfl⟩ := List.mem_map.1 hline
    exact ⟨i, hmem i hi, rfl⟩
  obtain ⟨lines, hlines⟩ := priceLines_ok hfound
  have hvendor : findVendor m.creationDb (fiftyOfEach v.id dishes hmin hmax).vendorId = .ok v.toVendor :=
    findVendor_served hm hv hactive hopen
  have hamounts : orderAmounts m.creationDb (fiftyOfEach v.id dishes hmin hmax) 12500 =
      .ok ⟨lines, lines.sum, lines.sum + computeDeliveryFeeXAF (12500 / 1000)⟩ := by
    simp only [orderAmounts, hvendor, hload, hlines]
  have htotal := (h m.creationDb _ 12500 _ ⟨rfl, rfl⟩ (by norm_num) hamounts).totalXAF
  have hfee : computeDeliveryFeeXAF (12500 / 1000) = 1500 := by decide +kernel
  rw [lines_fiftyOfEach hids hmem hlines, hfee] at htotal
  simp only [DISHES_MAX_XAF, INT_MAX] at htotal ⊢
  omega

/-! Runs of the menus. -/

/-- The prices that a request states. -/
def MenuEvent.prices : MenuEvent → List ℤ
  | .submitInformal dto _ _ _ => dto.dishes.map (·.2.1)
  | .createItem _ dto _ | .updateItem _ _ dto => [dto.priceXAF.1]
  | _ => []

/-- What a request can do to the tables: keys stay unique, and a new price is one that it states. -/
structure Serving (m m' : MenuDb) (prices : List ℤ) : Prop where
  vendors : (m.vendors.map (·.id)).Nodup → (m'.vendors.map (·.id)).Nodup
  items : (m.items.map (·.id)).Nodup → (m'.items.map (·.id)).Nodup
  priced : ∀ i ∈ m'.items, (∃ j ∈ m.items, j.priceXAF = i.priceXAF) ∨ i.priceXAF ∈ prices

theorem insertItems_serving {rows : List Item} (h : m.insertItems rows = .ok m') :
    Serving m m' (rows.map (·.priceXAF)) := by
  unfold MenuDb.insertItems at h
  split at h
  · cases h
  next hids =>
  split at h
  · cases h
  obtain rfl := Except.ok.inj h
  refine ⟨fun hv => hv, fun _ => not_not.1 hids, fun i hi => ?_⟩
  rcases List.mem_append.1 hi with hi | hi
  · exact .inl ⟨i, hi, rfl⟩
  · exact .inr (List.mem_map_of_mem hi)

theorem writeItem_serving {itemId : ItemId} {f : Item → Item} {prices : List ℤ} (hid : ∀ i, (f i).id = i.id)
    (hprice : ∀ i, (f i).priceXAF = i.priceXAF ∨ (f i).priceXAF ∈ prices) : Serving m (m.writeItem itemId f) prices := by
  refine ⟨fun hv => hv, fun hi => ?_, fun i hi => ?_⟩
  · have hsame : (m.writeItem itemId f).items.map (·.id) = m.items.map (·.id) := by
      rw [MenuDb.writeItem, List.map_map]
      refine List.map_congr_left fun i _ => ?_
      simp only [Function.comp]
      split
      · exact hid i
      · rfl
    rwa [hsame]
  · rcases Table.mem_update (fun j : Item => j.id) hi with ⟨hold, -⟩ | ⟨j, hj, -, rfl⟩
    · exact .inl ⟨i, hold, rfl⟩
    · rcases hprice j with hsame | hnew
      · exact .inl ⟨j, hj, hsame.symm⟩
      · exact .inr hnew

theorem insertVendor_items {row : VendorRow} (h : m.insertVendor row = .ok m') :
    m'.items = m.items ∧ ((m.vendors.map (·.id)).Nodup → (m'.vendors.map (·.id)).Nodup) := by
  unfold MenuDb.insertVendor at h
  split at h
  · cases h
  next hfree =>
  obtain rfl := Except.ok.inj h
  refine ⟨rfl, fun hids => ?_⟩
  simp only [List.any_eq_true, Bool.or_eq_true, beq_iff_eq, not_exists, not_and, not_or] at hfree
  rw [List.map_append, List.nodup_append]
  refine ⟨hids, List.nodup_singleton _, ?_⟩
  rintro id hid j hj rfl
  obtain ⟨v, hv, rfl⟩ := List.mem_map.1 hid
  exact (hfree v hv).1 (by simpa using hj)

theorem submitInformal_serving {dto : SubmitVendorDto} {files : SubmitFiles} {seed : SubmitSeed} {now : Time}
    (h : m.submitInformal dto files seed now = .ok m') : Serving m m' (dto.dishes.map (·.2.1)) := by
  unfold MenuDb.submitInformal at h
  split at h
  · cases h
  split at h
  · cases h
  split at h
  · cases h
  simp only at h
  split at h
  · cases h
  split at h
  · cases h
  split at h
  · cases h
  next db' hvendor =>
  obtain ⟨hitems, hvendors⟩ := insertVendor_items hvendor
  obtain ⟨hvendors', hitems', hpriced⟩ := insertItems_serving h
  refine ⟨fun hv => hvendors' (hvendors hv), fun hi => hitems' (hitems ▸ hi), fun i hi => ?_⟩
  rcases hpriced i hi with hold | hnew
  · rw [hitems] at hold
    exact .inl hold
  · obtain ⟨row, hrow, hprice⟩ := List.mem_map.1 hnew
    obtain ⟨k, hk, rfl⟩ := List.mem_mapIdx.1 hrow
    exact .inr (hprice ▸ List.mem_map_of_mem (List.getElem_mem hk))

theorem createItem_serving {userId : UserId} {dto : UpsertItemDto} {id : ItemId}
    (h : m.createItem userId dto id = .ok m') : Serving m m' [dto.priceXAF.1] := by
  unfold MenuDb.createItem at h
  split at h
  · cases h
  split at h
  · cases h
  split at h
  · cases h
  exact insertItems_serving h

theorem updateItem_serving {userId : UserId} {itemId : ItemId} {dto : UpsertItemDto}
    (h : m.updateItem userId itemId dto = .ok m') : Serving m m' [dto.priceXAF.1] := by
  unfold MenuDb.updateItem at h
  split at h
  · cases h
  split at h
  · cases h
  split at h
  · cases h
  obtain rfl := Except.ok.inj h
  exact writeItem_serving (fun i => rfl) fun i => .inr (List.mem_singleton.2 rfl)

theorem deleteItem_serving {userId : UserId} {itemId : ItemId} (h : m.deleteItem userId itemId = .ok m') :
    Serving m m' [] := by
  unfold MenuDb.deleteItem at h
  split at h
  · cases h
  split at h
  · cases h
  obtain rfl := Except.ok.inj h
  exact ⟨fun hv => hv, fun hi => hi.sublist (List.filter_sublist.map _), fun i hi =>
    .inl ⟨i, (List.mem_filter.1 hi).1, rfl⟩⟩

theorem setItemStock_serving {userId : UserId} {itemId : ItemId} {stockLevel : Option StockLevel}
    {isInStock : Option Bool} (h : m.setItemStock userId itemId stockLevel isInStock = .ok m') : Serving m m' [] := by
  unfold MenuDb.setItemStock at h
  split at h
  · cases h
  split at h
  · cases h
  obtain rfl := Except.ok.inj h
  exact writeItem_serving (fun i => rfl) fun i => .inl rfl

theorem vendorColumns_serving (columns : Vendor) : Serving m { m with
    vendors := m.vendors.map fun v => if v.id = columns.id then { columns with userId := v.userId } else v } [] := by
  refine ⟨fun hv => ?_, fun hi => hi, fun i hi => .inl ⟨i, hi, rfl⟩⟩
  have hsame : (m.vendors.map fun v => if v.id = columns.id then { columns with userId := v.userId } else v).map (·.id) =
      m.vendors.map (·.id) := by
    rw [List.map_map]
    refine List.map_congr_left fun v _ => ?_
    simp only [Function.comp]
    split
    · next hid => exact hid.symm
    · rfl
  rwa [hsame]

theorem serve_serving (h : n.serve m = .ok m') : Serving m m' n.prices := by
  cases n with
  | submitInformal dto files seed now => exact submitInformal_serving h
  | createItem userId dto id => exact createItem_serving h
  | updateItem userId itemId dto => exact updateItem_serving h
  | deleteItem userId itemId => exact deleteItem_serving h
  | setItemStock userId itemId stockLevel isInStock => exact setItemStock_serving h
  | vendorColumns columns =>
    obtain rfl := Except.ok.inj h
    exact vendorColumns_serving columns
  | users rows =>
    obtain rfl := Except.ok.inj h
    exact ⟨fun hv => hv, fun hi => hi, fun i hi => .inl ⟨i, hi, rfl⟩⟩
  | categories rows =>
    obtain rfl := Except.ok.inj h
    exact ⟨fun hv => hv, fun hi => hi, fun i hi => .inl ⟨i, hi, rfl⟩⟩

theorem menuStep_serving (m : MenuDb) (n : MenuEvent) : Serving m (menuStep m n) n.prices := by
  unfold menuStep
  split
  · exact ⟨fun hv => hv, fun hi => hi, fun i hi => .inl ⟨i, hi, rfl⟩⟩
  · next h => exact serve_serving h

theorem menuRun_sound (events : List MenuEvent) : MenuSound (menuRun events) := by
  refine List.foldlRecOn events menuStep ⟨List.nodup_nil, List.nodup_nil⟩ fun m hm n _ => ?_
  have hserving := menuStep_serving m n
  exact ⟨hserving.vendors hm.vendors, hserving.items hm.items⟩

/-- A cap that every request respects is a cap of the menu. -/
theorem menuRun_capped {events : List MenuEvent} {capXAF : ℤ} (hcap : ∀ n ∈ events, ∀ p ∈ n.prices, p ≤ capXAF) :
    ∀ i ∈ (menuRun events).items, i.priceXAF ≤ capXAF := by
  refine List.foldlRecOn (motive := fun m : MenuDb => ∀ i ∈ m.items, i.priceXAF ≤ capXAF) events menuStep
    (fun i hi => by cases hi) fun m hm n hn i hi => ?_
  rcases (menuStep_serving m n).priced i hi with ⟨j, hj, hsame⟩ | hnew
  · exact hsame ▸ hm j hj
  · exact hcap n hn _ hnew

theorem dishesFit_of_capped (hcap : ∀ i ∈ m.items, i.priceXAF ≤ 1000000) : DishesFit m := by
  intro v _ _ _ dishes hdishes hmax
  have hsum := List.sum_le_card_nsmul (dishes.map (·.priceXAF)) 1000000 (by
    intro p hp
    obtain ⟨i, hi, rfl⟩ := List.mem_map.1 hp
    exact hcap i (List.mem_filter.1 (hdishes.subset hi)).1)
  rw [List.length_map, nsmul_eq_mul] at hsum
  simp only [DISHES_MAX_XAF]
  have hmax' : (dishes.length : ℤ) ≤ 30 := by exact_mod_cast hmax
  linarith

/-- Every submission keeps to the cap of createItem and updateItem. -/
def SubmissionsCapped (events : List MenuEvent) : Prop :=
  ∀ dto files seed now, .submitInformal dto files seed now ∈ events → ∀ dish ∈ dto.dishes, dish.2.1 ≤ 1000000

/-- In the menu that any run leaves, every cart's amounts fit if and only if no thirty dishes on
sale are too dear together, and that they never are where submissions keep to the cap too. -/
theorem amounts_fit_iff (events : List MenuEvent) :
    (AmountsFit (menuRun events) ↔ DishesFit (menuRun events)) ∧
      (SubmissionsCapped events → AmountsFit (menuRun events)) := by
  have hm := menuRun_sound events
  refine ⟨⟨fun h => h.dishesFit hm, fun h => h.amountsFit hm⟩, fun hcapped => ?_⟩
  refine (dishesFit_of_capped (menuRun_capped fun n hn p hp => ?_)).amountsFit hm
  cases n with
  | submitInformal dto files seed now =>
    obtain ⟨dish, hdish, rfl⟩ := List.mem_map.1 hp
    exact hcapped dto files seed now hn dish hdish
  | createItem userId dto id =>
    obtain rfl := List.mem_singleton.1 hp
    exact dto.priceXAF_max
  | updateItem userId itemId dto =>
    obtain rfl := List.mem_singleton.1 hp
    exact dto.priceXAF_max
  | _ => cases hp

/-- A dish of fifty million, submitted and approved. -/
def dearSubmission : List MenuEvent := [
  .submitInformal {
      type := none
      whatsappPhone := "+237670000009"
      momoPhone := "+237670000009"
      firstItemName := "Poulet DG"
      firstItemPriceXAF := ⟨50000000, by decide⟩
      extraItem1Name := none
      extraItem1PriceXAF := none
      extraItem2Name := none
      extraItem2PriceXAF := none }
    ⟨true, true, false⟩ ⟨1, 9, fun k => k + 1⟩ 0,
  .vendorColumns ⟨1, .informal, .active, true, true, 6 / 100, "+237670000009", 0⟩]

def fiftyPortions : CreateOrderDto where
  vendorId := 1
  items := [⟨1, 50, one_le_fifty, fifty_le_fifty⟩]
  paymentMethod := .mtnMomo
  scheduledFor := none
  couponCode := none
  items_min := by decide
  items_max := by decide

/-- Fifty portions of it are more than the column holds. -/
theorem dear_dish_overflows : ¬ ∀ events, AmountsFit (menuRun events) := by
  intro h
  have hlarge : (orderAmounts (menuRun dearSubmission).creationDb fiftyPortions 0).toOption.any
      (fun a => INT_MAX < a.totalXAF) = true := by decide +kernel
  cases hamounts : orderAmounts (menuRun dearSubmission).creationDb fiftyPortions 0 with
  | error err =>
    rw [hamounts] at hlarge
    cases hlarge
  | ok a =>
    have hfits := (h dearSubmission _ _ 0 a ⟨rfl, rfl⟩ le_rfl hamounts).totalXAF
    rw [hamounts] at hlarge
    exact absurd hfits (not_le.2 (of_decide_eq_true hlarge))

end ChopNow
