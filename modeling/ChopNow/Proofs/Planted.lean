import ChopNow.Spec.Api

/-! A secret of one order put in place of another: an operation then writes and answers the
same, but for that secret. -/

namespace ChopNow

/-- A value for one of the three columns that not everybody may see. -/
inductive Secret
  | pickupCode (code : ℕ)
  | deliveryCode (code : ℕ)
  | deliveryPhone (phone : Phone)
  deriving DecidableEq, Repr

namespace Secret

def write (o : Order) : Secret → Order
  | .pickupCode code => { o with pickupCode := code }
  | .deliveryCode code => { o with deliveryCode := code }
  | .deliveryPhone _ => o

def put (x : Secret) (id : OrderId) (o : Order) : Order := if o.id = id then x.write o else o

def writeSeed (seed : OrderSeed) : Secret → OrderSeed
  | .pickupCode code => { seed with pickupCode := code }
  | .deliveryCode code => { seed with deliveryCode := code }
  | .deliveryPhone _ => seed

def putSeed (x : Secret) (id : OrderId) (seed : OrderSeed) : OrderSeed :=
  if seed.id = id then x.writeSeed seed else seed

/-- The phone of order `i`. -/
def putPhone (x : Secret) (id i : OrderId) (phone : Phone) : Phone :=
  match x with
  | .deliveryPhone phone' => if i = id then phone' else phone
  | _ => phone

end Secret

/-- Two values of one column; the phones look the same once masked. -/
def Secret.alike : Secret → Secret → Prop
  | .pickupCode _, .pickupCode _ => True
  | .deliveryCode _, .deliveryCode _ => True
  | .deliveryPhone phone, .deliveryPhone phone' => maskPhone phone = maskPhone phone'
  | _, _ => False

def CreationDb.put (x : Secret) (id : OrderId) (db : CreationDb) : CreationDb :=
  { db with orders := db.orders.map (x.put id) }

def ApiDb.put (x : Secret) (id : OrderId) (db : ApiDb) : ApiDb :=
  { db with
    toCreationDb := db.toCreationDb.put x id
    deliveryPhone := fun i => x.putPhone id i (db.deliveryPhone i) }

/-- An order that the call would create has the secret from the start. -/
def ApiCall.put (x : Secret) (id : OrderId) : ApiCall → ApiCall
  | .createOrder seed dto deliveryPhone idempotencyKey distance_m =>
    .createOrder (x.putSeed id seed) dto (x.putPhone id seed.id deliveryPhone) idempotencyKey distance_m
  | c => c

def ApiStep.put (x : Secret) (id : OrderId) : ApiStep → ApiStep
  | .call c => .call (c.put x id)
  | step => step

def OrderAnswer.map (f : Order → Order) : OrderAnswer → OrderAnswer
  | .error err => .error err
  | .order view row => .order view (f row)
  | .orders view rows => .orders view (rows.map f)

section

variable {a b x : Secret} {id i : OrderId} {o row : Order} {db : ApiDb} {user : UserId}

/-! One row. -/

@[simp] theorem blank_put : (x.put id o).blank = o.blank := by
  unfold Secret.put
  split
  · cases x <;> rfl
  · rfl

/-- What can be told without the codes is the same. -/
theorem of_blank {α : Type} (f : Order → α) (hf : ∀ o, f o = f o.blank) : f (x.put id o) = f o := by
  rw [hf, blank_put, ← hf]

@[simp] theorem put_id : (x.put id o).id = o.id := of_blank Order.id fun _ => rfl

theorem put_other (h : o.id ≠ id) : x.put id o = o := if_neg h

/-- Writing other columns first or last. -/
theorem put_write (f : Order → Order) (hid : ∀ o, (f o).id = o.id) (hf : ∀ o, f (x.write o) = x.write (f o)) :
    f (x.put id o) = x.put id (f o) := by
  unfold Secret.put
  rw [hid]
  split
  · exact hf o
  · rfl

theorem check_put (call : DecisionCall) (now : Time) : call.check (x.put id o) now = call.check o now :=
  of_blank (fun o => call.check o now) fun _ => by cases call <;> rfl

theorem awaitsDecision_put : (x.put id o).awaitsDecision = o.awaitsDecision := of_blank Order.awaitsDecision fun _ => rfl

theorem decide_put (now : Time) (verdict : Verdict) : (x.put id o).decide now verdict = x.put id (o.decide now verdict) := by
  refine put_write (fun o => o.decide now verdict) (fun _ => ?_) fun _ => ?_
  · cases verdict <;> rfl
  · cases verdict <;> cases x <;> rfl

theorem overwrite_put (columns : Order) : (x.put id o).overwrite columns = x.put id (o.overwrite columns) :=
  put_write (fun o => o.overwrite columns) (fun _ => rfl) fun _ => by cases x <;> rfl

/-! The tables. -/

theorem findOrder_put : (db.put x id).findOrder i = (db.findOrder i).map (x.put id) := by
  have hid : (fun o : Order => o.id == i) ∘ x.put id = fun o => o.id == i := funext fun o => by simp
  simp only [ApiDb.findOrder, ApiDb.put, CreationDb.put, List.find?_map, hid]

theorem setRow_put (orders : List Order) : setRow (orders.map (x.put id)) (x.put id row) = (setRow orders row).map (x.put id) := by
  simp only [setRow, List.map_map]
  refine List.map_congr_left fun o _ => ?_
  simp only [Function.comp_apply, put_id]
  split <;> rfl

theorem setOrder_put : (db.put x id).setOrder (x.put id row) = (db.setOrder row).put x id := by
  simp only [ApiDb.setOrder, ApiDb.put, CreationDb.put, setRow_put]

theorem filter_put {orders : List Order} (p : Order → Bool) (hp : ∀ o, p o = p o.blank) :
    (orders.map (x.put id)).filter p = (orders.filter p).map (x.put id) := by
  rw [List.filter_map]
  exact congrArg (List.map _) (List.filter_congr fun o _ => of_blank p hp)

theorem latestFirst_put {rows : List Order} (key : Order → Option Time) (hkey : ∀ o, key o = key o.blank) :
    latestFirst key (rows.map (x.put id)) = (latestFirst key rows).map (x.put id) := by
  unfold latestFirst
  refine (List.map_mergeSort fun a _ b _ => ?_).symm
  rw [of_blank key hkey, of_blank key hkey]

theorem soonestFirst_put {rows : List Order} (key : Order → Option Time) (hkey : ∀ o, key o = key o.blank) :
    soonestFirst key (rows.map (x.put id)) = (soonestFirst key rows).map (x.put id) := by
  unfold soonestFirst
  refine (List.map_mergeSort fun a _ b _ => ?_).symm
  rw [of_blank key hkey, of_blank key hkey]

/-! Reads. -/

theorem getOrder_put : (db.put x id).getOrder i user = (db.getOrder i user).map (x.put id) := by
  unfold ApiDb.getOrder
  rw [findOrder_put]
  cases db.findOrder i with
  | none => rfl
  | some order =>
    have huser : (x.put id order).userId = order.userId := of_blank Order.userId fun _ => rfl
    have hside : (db.put x id).isVendorSide (x.put id order) user = db.isVendorSide order user :=
      of_blank (fun o => db.isVendorSide o user) fun _ => rfl
    simp only [Option.map_some, huser, hside]
    split <;> rfl

theorem listConsumerOrders_put : (db.put x id).listConsumerOrders user = (db.listConsumerOrders user).map (x.put id) := by
  simp only [ApiDb.listConsumerOrders, ApiDb.put, CreationDb.put, OrderAnswer.map]
  rw [filter_put _ fun _ => rfl, latestFirst_put (fun o => some o.placedAt) fun _ => rfl, List.map_take]

theorem sort_put {rows : List Order} (type : ListType) : type.sort (rows.map (x.put id)) = (type.sort rows).map (x.put id) := by
  cases type with
  | immediate => exact latestFirst_put (fun o => some o.placedAt) fun _ => rfl
  | preorder => exact soonestFirst_put _ fun _ => rfl

theorem listVendorOrders_put (status : Option OrderStatus) (type : ListType) :
    (db.put x id).listVendorOrders user status type = (db.listVendorOrders user status type).map (x.put id) := by
  simp only [ApiDb.listVendorOrders, ApiDb.put, CreationDb.put]
  cases db.directory.vendorOf user with
  | none => rfl
  | some vendor =>
    simp only [OrderAnswer.map]
    rw [filter_put _ fun _ => (by cases type <;> rfl), sort_put, List.map_take]

theorem listCourses_put : (db.put x id).listCourses user = (db.listCourses user).map (x.put id) := by
  simp only [ApiDb.listCourses, ApiDb.put, CreationDb.put]
  cases db.directory.riderOf user with
  | none => rfl
  | some rider =>
    simp only [OrderAnswer.map]
    rw [filter_put _ fun _ => rfl, latestFirst_put _ fun _ => rfl]

/-! createOrder. -/

variable {tables : CreationDb} {seed : OrderSeed} {dto : CreateOrderDto} {idempotencyKey : Option String} {now : Time}

theorem priorPaidOrderCount_put : priorPaidOrderCount (tables.put x id) user = priorPaidOrderCount tables user := by
  simp only [priorPaidOrderCount, CreationDb.put, List.countP_map]
  exact List.countP_congr fun o _ => iff_of_eq (congrArg (· = true) (of_blank (fun o : Order => o.userId == user &&
    (o.paymentStatus == .paid || o.paymentStatus == .refunded) && o.status != .cancelled) fun _ => rfl))

theorem redeemInTransaction_put (rawCode : String) (orderId : OrderId) (subtotalXAF deliveryFeeXAF : ℤ) :
    redeemInTransaction (tables.put x id) rawCode user orderId subtotalXAF deliveryFeeXAF now =
      (redeemInTransaction tables rawCode user orderId subtotalXAF deliveryFeeXAF now).map
        fun r => (r.1.put x id, r.2) := by
  simp only [redeemInTransaction, priorPaidOrderCount_put]
  simp only [CreationDb.put]
  by_cases hblank : (normalizeCode rawCode == "") = true
  · rw [if_pos hblank, if_pos hblank]
    rfl
  · rw [if_neg hblank, if_neg hblank]
    cases validateRow (tables.coupons.find? fun c => c.code == normalizeCode rawCode) subtotalXAF deliveryFeeXAF
        (priorPaidOrderCount tables user) now with
    | error err => rfl
    | ok r =>
      by_cases hredeemed : (tables.redemptions.any fun r' => r'.couponId == r.1.id && r'.userId == user) = true
      · simp [hredeemed, Except.map]
      · simp [hredeemed, Except.map]

theorem discounted_put (discountXAF : ℤ) (code : String) :
    { x.put id o with
      discountXAF
      couponCode := some code
      totalXAF := (x.put id o).subtotalXAF + (x.put id o).deliveryFeeXAF - discountXAF } =
    x.put id { o with
      discountXAF
      couponCode := some code
      totalXAF := o.subtotalXAF + o.deliveryFeeXAF - discountXAF } :=
  put_write (fun o => { o with
    discountXAF
    couponCode := some code
    totalXAF := o.subtotalXAF + o.deliveryFeeXAF - discountXAF }) (fun _ => rfl) fun _ => by cases x <;> rfl

theorem commitOrder_put (couponCode : Option String) :
    commitOrder (tables.put x id) (x.put id o) couponCode now =
      (commitOrder tables o couponCode now).map fun r => (r.1.put x id, x.put id r.2) := by
  unfold commitOrder
  split
  · simp [Except.map, CreationDb.put]
  · simp [Except.map, CreationDb.put]
  · next rawCode _ =>
    have hredeem : redeemInTransaction (tables.put x id) rawCode (x.put id o).userId (x.put id o).id
        (x.put id o).subtotalXAF (x.put id o).deliveryFeeXAF now =
        (redeemInTransaction tables rawCode o.userId o.id o.subtotalXAF o.deliveryFeeXAF now).map
          fun r => (r.1.put x id, r.2) := by
      have huser : (x.put id o).userId = o.userId := of_blank Order.userId fun _ => rfl
      have hsubtotal : (x.put id o).subtotalXAF = o.subtotalXAF := of_blank Order.subtotalXAF fun _ => rfl
      have hfee : (x.put id o).deliveryFeeXAF = o.deliveryFeeXAF := of_blank Order.deliveryFeeXAF fun _ => rfl
      rw [huser, put_id, hsubtotal, hfee]
      exact redeemInTransaction_put rawCode o.id o.subtotalXAF o.deliveryFeeXAF
    rw [hredeem]
    cases redeemInTransaction tables rawCode o.userId o.id o.subtotalXAF o.deliveryFeeXAF now with
    | error err => rfl
    | ok r =>
      simp only [Except.map, discounted_put]
      simp [CreationDb.put]

theorem newOrder_put (vendor : Vendor) (subtotalXAF deliveryFeeXAF : ℤ) :
    newOrder (x.putSeed id seed) user vendor dto idempotencyKey subtotalXAF deliveryFeeXAF now =
      x.put id (newOrder seed user vendor dto idempotencyKey subtotalXAF deliveryFeeXAF now) := by
  have hid : (newOrder seed user vendor dto idempotencyKey subtotalXAF deliveryFeeXAF now).id = seed.id := rfl
  unfold Secret.put Secret.putSeed
  rw [hid]
  split
  · cases x <;> rfl
  · rfl

theorem keyTaken_put : keyTaken (tables.put x id) user idempotencyKey = keyTaken tables user idempotencyKey := by
  have hsame : (fun o : Order => o.userId == user && idempotencyKey.isSome && o.idempotencyKey == idempotencyKey) ∘
      x.put id = fun o => o.userId == user && idempotencyKey.isSome && o.idempotencyKey == idempotencyKey :=
    funext fun o => of_blank (fun o : Order => o.userId == user && idempotencyKey.isSome &&
      o.idempotencyKey == idempotencyKey) fun _ => rfl
  simp only [keyTaken, CreationDb.put, List.any_map, hsame]

theorem checkInsert_put {lines : List ℤ} : checkInsert (tables.put x id) (x.put id o) lines = checkInsert tables o lines := by
  have hcode : (fun row : Order => row.code == (x.put id o).code) ∘ x.put id = fun row => row.code == o.code :=
    funext fun row => by
      have hnew : (x.put id o).code = o.code := of_blank (fun o : Order => o.code) fun _ => rfl
      rw [hnew]
      exact of_blank (fun row : Order => row.code == o.code) fun _ => rfl
  have hkey : keyTaken (tables.put x id) (x.put id o).userId (x.put id o).idempotencyKey =
      keyTaken tables o.userId o.idempotencyKey := by
    rw [keyTaken_put]
    exact of_blank (fun o : Order => keyTaken tables o.userId o.idempotencyKey) fun _ => rfl
  have hamounts : ((x.put id o).subtotalXAF :: (x.put id o).deliveryFeeXAF :: (x.put id o).totalXAF :: lines) =
      o.subtotalXAF :: o.deliveryFeeXAF :: o.totalXAF :: lines :=
    of_blank (fun o : Order => o.subtotalXAF :: o.deliveryFeeXAF :: o.totalXAF :: lines) fun _ => rfl
  have htaken : (tables.put x id).orders.any (fun row => row.code == (x.put id o).code) =
      tables.orders.any fun row => row.code == o.code := by
    simp only [CreationDb.put, List.any_map, hcode]
  simp only [checkInsert, hkey, htaken, hamounts]

theorem placeOrder_put (distance_m : ℚ) :
    placeOrder (tables.put x id) (x.putSeed id seed) user dto idempotencyKey distance_m now =
      (placeOrder tables seed user dto idempotencyKey distance_m now).map fun r => (r.1.put x id, x.put id r.2) := by
  have hvendor : findVendor (tables.put x id) dto.vendorId = findVendor tables dto.vendorId := rfl
  have hitems : ∀ vendor, loadItems (tables.put x id) vendor (dto.items.map (·.itemId)) =
      loadItems tables vendor (dto.items.map (·.itemId)) := fun _ => rfl
  unfold placeOrder
  rw [hvendor]
  cases findVendor tables dto.vendorId with
  | error err => rfl
  | ok vendor =>
    simp only [hitems]
    cases loadItems tables vendor.id (dto.items.map (·.itemId)) with
    | error err => rfl
    | ok items =>
      simp only
      cases priceLines items dto.items with
      | error err => rfl
      | ok lines =>
        simp only
        split
        · rfl
        · cases checkSchedule vendor dto.scheduledFor now with
          | error err => rfl
          | ok u =>
            simp only [newOrder_put, checkInsert_put]
            cases checkInsert tables (newOrder seed user vendor dto idempotencyKey lines.sum
                (computeDeliveryFeeXAF (distance_m / 1000)) now) lines with
            | error err => rfl
            | ok u => exact commitOrder_put dto.couponCode

theorem createOrder_put (distance_m : ℚ) :
    createOrder (tables.put x id) (x.putSeed id seed) user dto idempotencyKey distance_m now =
      (createOrder tables seed user dto idempotencyKey distance_m now).map fun r => (r.1.put x id, x.put id r.2) := by
  have hknown : (fun o : Order => o.userId == user && givenKey idempotencyKey && o.idempotencyKey == idempotencyKey) ∘
      x.put id = fun o => o.userId == user && givenKey idempotencyKey && o.idempotencyKey == idempotencyKey :=
    funext fun o => of_blank (fun o : Order => o.userId == user && givenKey idempotencyKey &&
      o.idempotencyKey == idempotencyKey) fun _ => rfl
  unfold createOrder
  simp only [CreationDb.put, List.find?_map, hknown]
  cases tables.orders.find? fun o => o.userId == user && givenKey idempotencyKey && o.idempotencyKey == idempotencyKey with
  | some existing => rfl
  | none => exact placeOrder_put distance_m

/-- Whose order it is, and at which vendor. -/
theorem commitOrder_row {tables' : CreationDb} {couponCode : Option String}
    (h : commitOrder tables o couponCode now = .ok (tables', row)) :
    row.id = o.id ∧ row.userId = o.userId ∧ row.vendorId = o.vendorId := by
  unfold commitOrder at h
  split at h
  · obtain ⟨-, rfl⟩ := Prod.mk.inj (Except.ok.inj h)
    exact ⟨rfl, rfl, rfl⟩
  · obtain ⟨-, rfl⟩ := Prod.mk.inj (Except.ok.inj h)
    exact ⟨rfl, rfl, rfl⟩
  · split at h
    · cases h
    · obtain ⟨-, rfl⟩ := Prod.mk.inj (Except.ok.inj h)
      exact ⟨rfl, rfl, rfl⟩

theorem placeOrder_row {tables' : CreationDb} {distance_m : ℚ}
    (h : placeOrder tables seed user dto idempotencyKey distance_m now = .ok (tables', row)) :
    row.id = seed.id ∧ row.userId = user ∧ row.vendorId = dto.vendorId := by
  obtain ⟨_, _, _, hp⟩ := placeOrder_ok h
  obtain ⟨hid, huser, hvendorId⟩ := commitOrder_row hp.committed
  exact ⟨hid, huser, hvendorId.trans (findVendor_id hp.served)⟩

/-- The order of the answer was there, or it is the new one. -/
theorem createOrder_row {tables' : CreationDb} {distance_m : ℚ}
    (h : createOrder tables seed user dto idempotencyKey distance_m now = .ok (tables', row)) :
    tables' = tables ∧ row ∈ tables.orders ∧ row.userId = user ∨
      tables'.orders = tables.orders ++ [row] ∧ row.id = seed.id ∧ row.userId = user ∧ row.vendorId = dto.vendorId := by
  unfold createOrder at h
  split at h
  · next existing hfound =>
    obtain ⟨rfl, rfl⟩ := Prod.mk.inj (Except.ok.inj h)
    have huser := List.find?_some hfound
    simp only [Bool.and_eq_true, beq_iff_eq] at huser
    exact .inl ⟨rfl, List.mem_of_find?_eq_some hfound, huser.1.1⟩
  · exact .inr ⟨placeOrder_orders h, placeOrder_row h⟩

theorem findOrder_isSome (h : row ∈ db.orders) : (db.findOrder row.id).isSome :=
  List.find?_isSome.2 ⟨row, h, by simp⟩

theorem db_createOrder_put (deliveryPhone : Phone) (distance_m : ℚ) :
    (db.put x id).createOrder (x.putSeed id seed) user dto (x.putPhone id seed.id deliveryPhone) idempotencyKey distance_m =
      ((db.createOrder seed user dto deliveryPhone idempotencyKey distance_m).1.put x id,
        (db.createOrder seed user dto deliveryPhone idempotencyKey distance_m).2.map (x.put id)) := by
  unfold ApiDb.createOrder
  have hcreate : ChopNow.createOrder (db.put x id).toCreationDb (x.putSeed id seed) user dto idempotencyKey distance_m
      (db.put x id).clock = (ChopNow.createOrder db.toCreationDb seed user dto idempotencyKey distance_m db.clock).map
        fun r => (r.1.put x id, x.put id r.2) := createOrder_put distance_m
  rw [hcreate]
  cases hr : ChopNow.createOrder db.toCreationDb seed user dto idempotencyKey distance_m db.clock with
  | error err => rfl
  | ok r =>
    have hphone : ∀ i, (if i = (x.put id r.2).id ∧ ((db.put x id).findOrder i).isNone = true
        then x.putPhone id seed.id deliveryPhone else x.putPhone id i (db.deliveryPhone i)) =
        x.putPhone id i (if i = r.2.id ∧ (db.findOrder i).isNone = true then deliveryPhone else db.deliveryPhone i) := by
      intro i
      rw [put_id, findOrder_put, Option.isNone_map]
      split
      · next hnew =>
        obtain ⟨rfl, hnone⟩ := hnew
        rcases createOrder_row hr with ⟨-, hmem, -⟩ | ⟨-, hid, -⟩
        · have hsome := findOrder_isSome hmem
          simp [Option.isNone_iff_eq_none.1 hnone] at hsome
        · rw [hid]
      · rfl
    simp only [Except.map, OrderAnswer.map]
    exact Prod.ext (congrArg (fun phones => ApiDb.mk _ _ phones _ _) (funext hphone)) rfl

/-! The other writes. -/

theorem decideOrder_put (call : DecisionCall) :
    (db.put x id).decideOrder i call = ((db.decideOrder i call).1.put x id, (db.decideOrder i call).2.map (x.put id)) := by
  unfold ApiDb.decideOrder
  rw [findOrder_put]
  cases db.findOrder i with
  | none => rfl
  | some order =>
    have hcheck : call.check (x.put id order) (db.put x id).clock = call.check order db.clock := check_put call db.clock
    have hdecide : (x.put id order).decide (db.put x id).clock call.verdict =
        x.put id (order.decide db.clock call.verdict) := decide_put db.clock call.verdict
    simp only [Option.map_some, hcheck, awaitsDecision_put, hdecide, setOrder_put]
    cases call.check order db.clock with
    | error err => rfl
    | ok go =>
      simp only
      split <;> rfl

theorem acceptOrder_put :
    (db.put x id).acceptOrder i user = ((db.acceptOrder i user).1.put x id, (db.acceptOrder i user).2.map (x.put id)) := by
  have hdirectory : (db.put x id).directory = db.directory := rfl
  unfold ApiDb.acceptOrder
  rw [hdirectory]
  cases db.directory.vendorOf user with
  | none => rfl
  | some vendor => exact decideOrder_put _

theorem refuseOrder_put (reason : RefusalReason) (note : Option String) :
    (db.put x id).refuseOrder i user reason note =
      ((db.refuseOrder i user reason note).1.put x id, (db.refuseOrder i user reason note).2.map (x.put id)) := by
  have hdirectory : (db.put x id).directory = db.directory := rfl
  unfold ApiDb.refuseOrder
  rw [hdirectory]
  cases db.directory.vendorOf user with
  | none => rfl
  | some vendor => exact decideOrder_put _

/-- The row passes the check of its code, or fails it, as with its own code. -/
def SameCheck (x : Secret) (id : OrderId) (user : UserId) (db : ApiDb) : ApiCall → Prop
  | .markPickedUp i submittedCode => ∀ rider order, db.directory.riderOf user = some rider →
      db.findOrder i = some order → checkPickup (x.put id order) rider submittedCode = checkPickup order rider submittedCode
  | .markDelivered i submittedCode => ∀ rider order, db.directory.riderOf user = some rider →
      db.findOrder i = some order →
        checkDelivery (x.put id order) rider submittedCode = checkDelivery order rider submittedCode
  | _ => True

theorem markPickedUp_put {submittedCode : ℕ} (h : SameCheck x id user db (.markPickedUp i submittedCode)) :
    (db.put x id).markPickedUp user i submittedCode =
      ((db.markPickedUp user i submittedCode).1.put x id, (db.markPickedUp user i submittedCode).2.map (x.put id)) := by
  have hdirectory : (db.put x id).directory = db.directory := rfl
  have hclock : (db.put x id).clock = db.clock := rfl
  unfold ApiDb.markPickedUp
  rw [hdirectory, findOrder_put]
  cases hrider : db.directory.riderOf user with
  | none => rfl
  | some rider =>
    cases horder : db.findOrder i with
    | none => rfl
    | some order =>
      have hrow := @put_write x id order
        (fun o => { o with status := .pickedUp, pickedUpAt := some db.clock }) (fun _ => rfl) fun _ => by cases x <;> rfl
      simp only [Option.map_some, h rider order hrider horder]
      cases checkPickup order rider submittedCode with
      | error err => rfl
      | ok u =>
        simp only [hclock, OrderAnswer.map]
        rw [hrow, setOrder_put]

theorem deliver_put {rider : RiderId} {submittedCode : ℕ}
    (h : checkDelivery (x.put id o) rider submittedCode = checkDelivery o rider submittedCode) :
    (db.put x id).deliver (x.put id o) rider submittedCode =
      (db.deliver o rider submittedCode).map fun r => (x.put id r.1, r.2) := by
  have hinput : ∀ snapshot, deliveryInput (x.put id o) snapshot = deliveryInput o snapshot := fun snapshot =>
    of_blank (fun o => deliveryInput o snapshot) fun _ => rfl
  have hstatus : (x.put id o).status = o.status := of_blank Order.status fun _ => rfl
  have hrow := @put_write x id o
    (fun o => { o with status := .delivered, deliveredAt := some db.clock }) (fun _ => rfl) fun _ => by cases x <;> rfl
  have hledger : (db.put x id).ledger = db.ledger := rfl
  have hclock : (db.put x id).clock = db.clock := rfl
  unfold ApiDb.deliver ChopNow.markDelivered
  simp only [World.start, h, hledger, hclock]
  cases checkDelivery o rider submittedCode with
  | error err => rfl
  | ok snapshot =>
    simp only [commitDelivery, World.bookOrThrow, World.bookIf, World.book, hinput, hstatus, hrow]
    cases o.status == .pickedUp with
    | false => rfl
    | true => cases recordTransaction db.ledger db.clock (deliveryInput o snapshot) <;> rfl

theorem markDelivered_put {submittedCode : ℕ} (h : SameCheck x id user db (.markDelivered i submittedCode)) :
    (db.put x id).markDelivered user i submittedCode =
      ((db.markDelivered user i submittedCode).1.put x id, (db.markDelivered user i submittedCode).2.map (x.put id)) := by
  have hdirectory : (db.put x id).directory = db.directory := rfl
  unfold ApiDb.markDelivered
  rw [hdirectory, findOrder_put]
  cases hrider : db.directory.riderOf user with
  | none => rfl
  | some rider =>
    cases horder : db.findOrder i with
    | none => rfl
    | some order =>
      simp only [Option.map_some, deliver_put (h rider order hrider horder)]
      cases db.deliver order rider submittedCode with
      | error err => rfl
      | ok r =>
        simp only [Except.map, OrderAnswer.map, setOrder_put]
        rfl

/-- Every operation writes and answers the same, but for the secret. -/
theorem answer_put {call : ApiCall} (h : SameCheck x id user db call) :
    (db.put x id).answer user (call.put x id) = ((db.answer user call).1.put x id, (db.answer user call).2.map (x.put id)) := by
  cases call with
  | createOrder seed dto deliveryPhone idempotencyKey distance_m => exact db_createOrder_put deliveryPhone distance_m
  | getOrder i => exact Prod.ext rfl getOrder_put
  | listConsumerOrders => exact Prod.ext rfl listConsumerOrders_put
  | listVendorOrders status type => exact Prod.ext rfl (listVendorOrders_put status type)
  | cancelOrder i => exact decideOrder_put _
  | acceptOrder i => exact acceptOrder_put
  | refuseOrder i reason note => exact refuseOrder_put reason note
  | listCourses => exact Prod.ext rfl listCourses_put
  | markPickedUp i submittedCode => exact markPickedUp_put h
  | markDelivered i submittedCode => exact markDelivered_put h

/-! The last secret counts. -/

theorem write_write (h : a.alike b) (o : Order) : b.write (a.write o) = b.write o := by
  cases a <;> cases b <;> first | rfl | exact h.elim

theorem put_put (h : a.alike b) (o : Order) : b.put id (a.put id o) = b.put id o := by
  unfold Secret.put
  by_cases hid : o.id = id
  · have hid' : (a.write o).id = id := by cases a <;> exact hid
    simp only [if_pos hid, if_pos hid', write_write h]
  · simp only [if_neg hid]

theorem putPhone_putPhone (h : a.alike b) (phone : Phone) :
    b.putPhone id i (a.putPhone id i phone) = b.putPhone id i phone := by
  cases a <;> cases b <;> first | rfl | cases h | skip
  simp only [Secret.putPhone]
  split <;> rfl

theorem putSeed_putSeed (h : a.alike b) (seed : OrderSeed) : b.putSeed id (a.putSeed id seed) = b.putSeed id seed := by
  unfold Secret.putSeed
  by_cases hid : seed.id = id
  · have hid' : (a.writeSeed seed).id = id := by cases a <;> exact hid
    simp only [if_pos hid, if_pos hid']
    cases a <;> cases b <;> first | rfl | exact h.elim
  · simp only [if_neg hid]

theorem db_put_put (h : a.alike b) (db : ApiDb) : (db.put a id).put b id = db.put b id := by
  simp only [ApiDb.put, CreationDb.put, List.map_map, putPhone_putPhone h]
  congr 2
  exact List.map_congr_left fun o _ => put_put h o

theorem putSeed_id {seed : OrderSeed} : (x.putSeed id seed).id = seed.id := by
  unfold Secret.putSeed
  split
  · cases x <;> rfl
  · rfl

theorem step_put_put (h : a.alike b) (step : ApiStep) : (step.put a id).put b id = step.put b id := by
  cases step with
  | call c =>
    cases c with
    | createOrder seed dto deliveryPhone idempotencyKey distance_m =>
      simp only [ApiStep.put, ApiCall.put, putSeed_putSeed h, putSeed_id, putPhone_putPhone h]
    | _ => rfl
  | _ => rfl

theorem alike_refl (a : Secret) : a.alike a := by cases a <;> trivial

/-! Rows and phones that have the secret. -/

theorem row_planted (h : db.put a id = db) (ho : o ∈ db.orders) : a.put id o = o := by
  have horders : db.orders.map (a.put id) = db.orders := congrArg (fun db : ApiDb => db.orders) h
  exact List.map_inj_left.1 (horders.trans (List.map_id _).symm) o ho

theorem phone_planted {phone : Phone} (h : db.put (.deliveryPhone phone) id = db) : db.deliveryPhone id = phone := by
  have hphone := congrFun (congrArg ApiDb.deliveryPhone h) id
  simpa [ApiDb.put, Secret.putPhone] using hphone.symm

end

end ChopNow
