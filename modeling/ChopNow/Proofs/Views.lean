import ChopNow.Proofs.Planted

/-! What an answer shows of an order. A row that reaches a user from whom a column is kept
hides that column, unless it goes out whole. -/

namespace ChopNow

/-- The pickup code is for the vendor's owner alone and the delivery code for the consumer;
the digits that the mask hides are kept from the vendor's owner. -/
def Secret.keptFrom (directory : Directory) (user consumer : UserId) (vendor : VendorId) : Secret → Prop
  | .pickupCode _ => directory.vendorUser vendor ≠ some user
  | .deliveryCode _ => consumer ≠ user
  | .deliveryPhone _ => directory.vendorUser vendor = some user ∧ consumer ≠ user

def Secret.KeptOn (x : Secret) (id : OrderId) (user : UserId) (directory : Directory) (o : Order) : Prop :=
  o.id = id → x.keptFrom directory user o.userId o.vendorId

def ApiDb.Keeps (x : Secret) (id : OrderId) (user : UserId) (db : ApiDb) : Prop :=
  ∀ o ∈ db.orders, x.KeptOn id user db.directory o

/-- The user does not create the order, or has it created where the secret is kept too. -/
def ApiStep.Keeps (x : Secret) (id : OrderId) (user : UserId) (directory : Directory) : ApiStep → Prop
  | .call (.createOrder seed dto _ _ _) => seed.id = id → x.keptFrom directory user user dto.vendorId
  | _ => True

/-- The call gets past its checks and answers with the whole row of the order. -/
def ApiDb.shows (id : OrderId) (user : UserId) (db : ApiDb) : ApiStep → Prop
  | .call (.createOrder seed dto _ idempotencyKey distance_m) =>
    ∃ tables order,
      ChopNow.createOrder db.toCreationDb seed user dto idempotencyKey distance_m db.clock = .ok (tables, order) ∧
        order.id = id
  | .call (.cancelOrder i) =>
    i = id ∧ ∃ order, db.findOrder id = some order ∧ (DecisionCall.cancelOrder user).check order db.clock = .ok true
  | .call (.acceptOrder i) => i = id ∧ ∃ vendor order, db.directory.vendorOf user = some vendor ∧
      db.findOrder id = some order ∧ (DecisionCall.acceptOrder vendor).check order db.clock = .ok true
  | .call (.refuseOrder i reason note) => i = id ∧ ∃ vendor order, db.directory.vendorOf user = some vendor ∧
      db.findOrder id = some order ∧ (DecisionCall.refuseOrder vendor reason note).check order db.clock = .ok true
  | .call .listCourses =>
    ∃ rider, db.directory.riderOf user = some rider ∧ ∃ order ∈ db.orders, order.isCourseOf rider = true ∧ order.id = id
  | .call (.markPickedUp i submittedCode) => i = id ∧ ∃ rider order, db.directory.riderOf user = some rider ∧
      db.findOrder id = some order ∧ checkPickup order rider submittedCode = .ok ()
  | .call (.markDelivered i submittedCode) => i = id ∧ ∃ rider order row, db.directory.riderOf user = some rider ∧
      db.findOrder id = some order ∧ db.deliver order rider submittedCode = .ok row
  | _ => False

/-! Answers. -/

def OrderAnswer.All (P : View → Order → Prop) : OrderAnswer → Prop
  | .error _ => True
  | .order view row => P view row
  | .orders view rows => ∀ row ∈ rows, P view row

/-- The whole row of the order is in it. -/
def OrderAnswer.holds (id : OrderId) : OrderAnswer → Prop
  | .error _ => False
  | .order view row => view = .whole ∧ row.id = id
  | .orders view rows => ∃ row ∈ rows, view = .whole ∧ row.id = id

/-- A view is used for rows of the user's own alone. -/
def View.admits (directory : Directory) (user : UserId) (row : Order) : View → Prop
  | .whole | .forParties => True
  | .forConsumer => row.userId = user
  | .forVendor => directory.vendorUser row.vendorId = some user

section

variable {a b x : Secret} {id i : OrderId} {o row : Order} {db : ApiDb} {user : UserId} {directory : Directory}

/-! What the calls keep. -/

theorem KeptOn_of_same {o o' : Order} (h : x.KeptOn id user directory o) (hid : o'.id = o.id) (huser : o'.userId = o.userId)
    (hvendor : o'.vendorId = o.vendorId) : x.KeptOn id user directory o' := by
  unfold Secret.KeptOn
  rw [hid, huser, hvendor]
  exact h

theorem Keeps_found (h : db.Keeps x id user) (hfound : db.findOrder i = some o) : x.KeptOn id user db.directory o :=
  h o (List.mem_of_find?_eq_some hfound)

theorem Keeps_setOrder (h : db.Keeps x id user) (hrow : x.KeptOn id user db.directory row) :
    (db.setOrder row).Keeps x id user := by
  intro o ho
  obtain ⟨o', ho', rfl⟩ := List.mem_map.1 ho
  split
  · exact hrow
  · exact h o' ho'

/-- The rows of an answer keep the secret, and each is seen through a view for it. -/
def OrderAnswer.ScopedTo (x : Secret) (id : OrderId) (user : UserId) (directory : Directory) (answer : OrderAnswer) : Prop :=
  answer.All fun view row => x.KeptOn id user directory row ∧ view.admits directory user row

/-- What an operation owes: its tables keep the secret, and its answer is scoped. -/
structure Scoped (x : Secret) (id : OrderId) (user : UserId) (directory : Directory) (r : ApiDb × OrderAnswer) : Prop where
  same : r.1.directory = directory
  keeps : r.1.Keeps x id user
  rows : r.2.ScopedTo x id user directory

theorem Scoped.error (h : db.Keeps x id user) (err : ApiError) : Scoped x id user db.directory (db, .error err) :=
  ⟨rfl, h, trivial⟩

theorem Scoped.written (h : db.Keeps x id user) (hrow : x.KeptOn id user db.directory row) :
    Scoped x id user db.directory (db.setOrder row, .order .whole row) :=
  ⟨rfl, Keeps_setOrder h hrow, hrow, trivial⟩

theorem decide_KeptOn (call : DecisionCall) (now : Time) (h : x.KeptOn id user directory o) :
    x.KeptOn id user directory (o.decide now call.verdict) := by
  refine KeptOn_of_same h ?_ ?_ ?_ <;> cases call.verdict <;> rfl

theorem decideOrder_scoped (h : db.Keeps x id user) (call : DecisionCall) :
    Scoped x id user db.directory (db.decideOrder i call) := by
  unfold ApiDb.decideOrder
  split
  · exact .error h _
  · next order hfound =>
    split
    · exact .error h _
    · simp only
      split
      · exact .written h (decide_KeptOn call db.clock (Keeps_found h hfound))
      · exact .error h _

theorem filter_KeptOn (h : db.Keeps x id user) (p : Order → Bool) (ho : o ∈ db.orders.filter p) :
    x.KeptOn id user db.directory o ∧ p o = true :=
  ⟨h o (List.mem_filter.1 ho).1, (List.mem_filter.1 ho).2⟩

theorem mem_sort {rows : List Order} {type : ListType} : o ∈ type.sort rows ↔ o ∈ rows := by
  cases type <;> exact List.mem_mergeSort

theorem deliver_row {rider : RiderId} {submittedCode : ℕ} {ledger : Ledger}
    (h : db.deliver o rider submittedCode = .ok (row, ledger)) :
    row = { o with status := .delivered, deliveredAt := some db.clock } := by
  unfold ApiDb.deliver at h
  cases hw : ChopNow.markDelivered { World.start o with ledger := db.ledger, clock := db.clock } rider submittedCode with
  | error err =>
    rw [hw] at h
    cases h
  | ok w =>
    rw [hw] at h
    obtain ⟨rfl, -⟩ := Prod.mk.inj (Except.ok.inj h)
    unfold ChopNow.markDelivered at hw
    split at hw
    · cases hw
    · obtain ⟨-, hbook⟩ := World.bookOrThrow_ok_iff.1 hw
      obtain ⟨-, -, -, rfl⟩ := World.book_ok_iff.1 hbook
      rfl

theorem createOrder_scoped {seed : OrderSeed} {dto : CreateOrderDto} {deliveryPhone : Phone}
    {idempotencyKey : Option String} {distance_m : ℚ} (h : db.Keeps x id user)
    (hcall : seed.id = id → x.keptFrom db.directory user user dto.vendorId) :
    Scoped x id user db.directory (db.createOrder seed user dto deliveryPhone idempotencyKey distance_m) := by
  unfold ApiDb.createOrder
  split
  · exact .error h _
  · next tables order hcreate =>
    rcases createOrder_row hcreate with ⟨rfl, hmem, -⟩ | ⟨horders, hid, huser, hvendor⟩
    · exact ⟨rfl, h, h order hmem, trivial⟩
    · have hrow : x.KeptOn id user db.directory order := by
        unfold Secret.KeptOn
        rw [hid, huser, hvendor]
        exact hcall
      refine ⟨rfl, fun o ho => ?_, hrow, trivial⟩
      simp only [horders] at ho
      rcases List.mem_append.1 ho with ho | ho
      · exact h o ho
      · obtain rfl := List.mem_singleton.1 ho
        exact hrow

theorem getOrder_scoped (h : db.Keeps x id user) : (db.getOrder i user).ScopedTo x id user db.directory := by
  unfold ApiDb.getOrder
  split
  · trivial
  · next order hfound =>
    split
    · exact ⟨Keeps_found h hfound, trivial⟩
    · trivial

theorem listConsumerOrders_scoped (h : db.Keeps x id user) :
    (db.listConsumerOrders user).ScopedTo x id user db.directory := by
  intro row hrow
  have hmem := List.mem_mergeSort.1 (List.mem_of_mem_take hrow)
  obtain ⟨hkept, huser⟩ := filter_KeptOn h _ hmem
  exact ⟨hkept, beq_iff_eq.1 huser⟩

theorem listVendorOrders_scoped (h : db.Keeps x id user) (status : Option OrderStatus) (type : ListType) :
    (db.listVendorOrders user status type).ScopedTo x id user db.directory := by
  unfold ApiDb.listVendorOrders
  split
  · trivial
  · next vendor hvendor =>
    intro row hrow
    obtain ⟨hkept, hmine⟩ := filter_KeptOn h _ (mem_sort.1 (List.mem_of_mem_take hrow))
    simp only [Bool.and_eq_true, beq_iff_eq] at hmine
    refine ⟨hkept, ?_⟩
    change db.directory.vendorUser row.vendorId = some user
    rw [hmine.1.1.1]
    exact db.directory.vendorUser_iff.1 hvendor

theorem listCourses_scoped (h : db.Keeps x id user) : (db.listCourses user).ScopedTo x id user db.directory := by
  unfold ApiDb.listCourses
  split
  · trivial
  · intro row hrow
    exact ⟨(filter_KeptOn h _ (List.mem_mergeSort.1 hrow)).1, trivial⟩

theorem markPickedUp_scoped (h : db.Keeps x id user) (submittedCode : ℕ) :
    Scoped x id user db.directory (db.markPickedUp user i submittedCode) := by
  unfold ApiDb.markPickedUp
  split
  · exact .error h _
  · exact .error h _
  · next rider order hrider hfound =>
    split
    · exact .error h _
    · exact .written h (KeptOn_of_same (Keeps_found h hfound) rfl rfl rfl)

theorem markDelivered_scoped (h : db.Keeps x id user) (submittedCode : ℕ) :
    Scoped x id user db.directory (db.markDelivered user i submittedCode) := by
  unfold ApiDb.markDelivered
  split
  · exact .error h _
  · exact .error h _
  · next rider order hrider hfound =>
    split
    · exact .error h _
    · next row ledger hdeliver =>
      obtain rfl := deliver_row hdeliver
      have hrow : x.KeptOn id user db.directory { order with status := .delivered, deliveredAt := some db.clock } :=
        KeptOn_of_same (Keeps_found h hfound) rfl rfl rfl
      exact ⟨rfl, Keeps_setOrder h hrow, hrow, trivial⟩

theorem answer_scoped {call : ApiCall} (h : db.Keeps x id user) (hcall : (ApiStep.call call).Keeps x id user db.directory) :
    Scoped x id user db.directory (db.answer user call) := by
  cases call with
  | createOrder seed dto deliveryPhone idempotencyKey distance_m => exact createOrder_scoped h hcall
  | getOrder i => exact ⟨rfl, h, getOrder_scoped h⟩
  | listConsumerOrders => exact ⟨rfl, h, listConsumerOrders_scoped h⟩
  | listVendorOrders status type => exact ⟨rfl, h, listVendorOrders_scoped h status type⟩
  | cancelOrder i => exact decideOrder_scoped h _
  | acceptOrder i =>
    simp only [ApiDb.answer, ApiDb.acceptOrder]
    split
    · exact .error h _
    · exact decideOrder_scoped h _
  | refuseOrder i reason note =>
    simp only [ApiDb.answer, ApiDb.refuseOrder]
    split
    · exact .error h _
    · exact decideOrder_scoped h _
  | listCourses => exact ⟨rfl, h, listCourses_scoped h⟩
  | markPickedUp i submittedCode => exact markPickedUp_scoped h submittedCode
  | markDelivered i submittedCode => exact markDelivered_scoped h submittedCode

/-! Which answers hold the whole row. -/

theorem awaitsDecision_of_mem (h : o.status ∈ [OrderStatus.pending, .confirmed]) : o.awaitsDecision = true := by
  simpa [Order.awaitsDecision] using h

/-- A call of a user goes on with an order that awaits its decision, or throws. -/
theorem check_ok {call : DecisionCall} {now : Time} {go : Bool} (hcall : call.isJob = false)
    (h : call.check o now = .ok go) : go = true ∧ o.awaitsDecision = true := by
  cases call with
  | acceptOrder vendor | refuseOrder vendor reason note =>
    simp only [DecisionCall.check] at h
    split at h
    · cases h
    · split at h
      · cases h
      · next hstatus => exact ⟨(Except.ok.inj h).symm, awaitsDecision_of_mem (not_not.1 hstatus)⟩
  | cancelOrder user =>
    simp only [DecisionCall.check] at h
    split at h
    · cases h
    · split at h
      · cases h
      · split at h
        · cases h
        · next hstatus => exact ⟨(Except.ok.inj h).symm, awaitsDecision_of_mem (not_not.1 hstatus)⟩
  | sweepExpired => cases hcall
  | expireVendorDecision => cases hcall

theorem found_id (h : db.findOrder i = some o) : o.id = i := by simpa using List.find?_some h

theorem decideOrder_holds {call : DecisionCall} (hcall : call.isJob = false) :
    (db.decideOrder i call).2.holds id ↔
      i = id ∧ ∃ order, db.findOrder id = some order ∧ call.check order db.clock = .ok true := by
  unfold ApiDb.decideOrder
  constructor
  · intro h
    split at h
    · exact h.elim
    · next order hfound =>
      split at h
      · exact h.elim
      · next go hcheck =>
        obtain ⟨rfl, -⟩ := check_ok hcall hcheck
        simp only at h
        split at h
        · have hid : (order.decide db.clock call.verdict).id = order.id := by cases call.verdict <;> rfl
          have hi : i = id := (found_id hfound).symm.trans (hid.symm.trans h.2)
          exact ⟨hi, order, hi ▸ hfound, hcheck⟩
        · exact h.elim
  · rintro ⟨rfl, order, hfound, hcheck⟩
    simp only [hfound, hcheck, (check_ok hcall hcheck).2, if_true]
    refine ⟨rfl, ?_⟩
    rw [← found_id hfound]
    cases call.verdict <;> rfl

theorem getOrder_holds : ¬(db.getOrder i user).holds id := by
  unfold ApiDb.getOrder
  intro h
  split at h
  · exact h
  · split at h
    · cases h.1
    · exact h

theorem listVendorOrders_holds {status : Option OrderStatus} {type : ListType} :
    ¬(db.listVendorOrders user status type).holds id := by
  unfold ApiDb.listVendorOrders
  intro h
  split at h
  · exact h
  · obtain ⟨row, -, hview, -⟩ := h
    cases hview

theorem markPickedUp_holds {submittedCode : ℕ} :
    (db.markPickedUp user i submittedCode).2.holds id ↔ db.shows id user (.call (.markPickedUp i submittedCode)) := by
  constructor
  · intro h
    unfold ApiDb.markPickedUp at h
    split at h
    · exact h.elim
    · exact h.elim
    · next rider order hrider hfound =>
      split at h
      · exact h.elim
      · next hcheck =>
        have hi : i = id := (found_id hfound).symm.trans h.2
        exact ⟨hi, rider, order, hrider, hi ▸ hfound, hcheck⟩
  · rintro ⟨rfl, rider, order, hrider, hfound, hcheck⟩
    have hid : order.id = i := found_id hfound
    simp only [ApiDb.markPickedUp, hrider, hfound, hcheck]
    exact ⟨rfl, hid⟩

theorem markDelivered_holds {submittedCode : ℕ} :
    (db.markDelivered user i submittedCode).2.holds id ↔ db.shows id user (.call (.markDelivered i submittedCode)) := by
  constructor
  · intro h
    unfold ApiDb.markDelivered at h
    split at h
    · exact h.elim
    · exact h.elim
    · next rider order hrider hfound =>
      split at h
      · exact h.elim
      · next row ledger hdeliver =>
        have hi : i = id := by rw [← found_id hfound, ← h.2, deliver_row hdeliver]
        exact ⟨hi, rider, order, _, hrider, hi ▸ hfound, hdeliver⟩
  · rintro ⟨rfl, rider, order, ⟨row, ledger⟩, hrider, hfound, hdeliver⟩
    have hid : order.id = i := found_id hfound
    simp only [ApiDb.markDelivered, hrider, hfound, hdeliver]
    refine ⟨rfl, ?_⟩
    rw [deliver_row hdeliver]
    exact hid

theorem holds_iff_shows {call : ApiCall} : (db.answer user call).2.holds id ↔ db.shows id user (.call call) := by
  cases call with
  | createOrder seed dto deliveryPhone idempotencyKey distance_m =>
    simp only [ApiDb.answer, ApiDb.createOrder, ApiDb.shows]
    cases ChopNow.createOrder db.toCreationDb seed user dto idempotencyKey distance_m db.clock with
    | error err => simp [OrderAnswer.holds]
    | ok r => simp [OrderAnswer.holds, Prod.ext_iff]
  | getOrder i => exact iff_of_false getOrder_holds fun h => h.elim
  | listConsumerOrders =>
    refine iff_of_false (fun h => ?_) fun h => h.elim
    obtain ⟨row, -, hview, -⟩ := h
    cases hview
  | listVendorOrders status type => exact iff_of_false listVendorOrders_holds fun h => h.elim
  | cancelOrder i => exact decideOrder_holds rfl
  | acceptOrder i =>
    simp only [ApiDb.answer, ApiDb.acceptOrder, ApiDb.shows]
    cases db.directory.vendorOf user with
    | none => simp [OrderAnswer.holds]
    | some vendor => simpa using decideOrder_holds rfl
  | refuseOrder i reason note =>
    simp only [ApiDb.answer, ApiDb.refuseOrder, ApiDb.shows]
    cases db.directory.vendorOf user with
    | none => simp [OrderAnswer.holds]
    | some vendor => simpa using decideOrder_holds rfl
  | listCourses =>
    simp only [ApiDb.answer, ApiDb.listCourses, ApiDb.shows]
    cases db.directory.riderOf user with
    | none => simp [OrderAnswer.holds]
    | some rider => simp [OrderAnswer.holds, latestFirst, and_assoc]
  | markPickedUp i submittedCode => exact markPickedUp_holds
  | markDelivered i submittedCode => exact markDelivered_holds

/-! What a row looks like to the user. -/

theorem not_vendorSide (h : db.directory.vendorUser o.vendorId ≠ some user) : db.isVendorSide o user = false :=
  beq_eq_false_iff_ne.2 h

theorem respond_pickup {p q : ℕ} (hne : p ≠ q) (hp : o.pickupCode = p)
    (hkept : db.directory.vendorUser o.vendorId ≠ some user) {view : View} (hview : view.admits db.directory user o) :
    db.respond user view o = (db.put (.pickupCode q) id).respond user view { o with pickupCode := q } ↔ view ≠ .whole := by
  cases view with
  | whole => exact iff_of_false (fun h => hne (hp.symm.trans (Option.some.inj (congrArg OrderResponse.pickupCode h)))) (by simp)
  | forParties =>
    refine iff_of_true ?_ (by simp)
    have hside : (db.put (.pickupCode q) id).isVendorSide { o with pickupCode := q } user = false := not_vendorSide hkept
    simp only [ApiDb.respond, hside, not_vendorSide hkept]
    rfl
  | forConsumer => exact iff_of_true rfl (by simp)
  | forVendor => exact absurd hview hkept

theorem respond_delivery {p q : ℕ} (hne : p ≠ q) (hp : o.deliveryCode = p) (hkept : o.userId ≠ user) {view : View}
    (hview : view.admits db.directory user o) :
    db.respond user view o = (db.put (.deliveryCode q) id).respond user view { o with deliveryCode := q } ↔ view ≠ .whole := by
  cases view with
  | whole => exact iff_of_false (fun h => hne (hp.symm.trans (Option.some.inj (congrArg OrderResponse.deliveryCode h)))) (by simp)
  | forParties =>
    refine iff_of_true ?_ (by simp)
    simp only [ApiDb.respond, if_neg hkept]
    rfl
  | forConsumer => exact absurd hview hkept
  | forVendor => exact iff_of_true rfl (by simp)

theorem respond_phone {p q : Phone} (hne : p ≠ q) (hmask : maskPhone p = maskPhone q) (hp : db.deliveryPhone o.id = p)
    (hkept : db.directory.vendorUser o.vendorId = some user ∧ o.userId ≠ user) {view : View}
    (hview : view.admits db.directory user o) :
    db.respond user view o = (db.put (.deliveryPhone q) o.id).respond user view o ↔ view ≠ .whole := by
  have hq : (db.put (.deliveryPhone q) o.id).deliveryPhone o.id = q := by simp [ApiDb.put, Secret.putPhone]
  cases view with
  | whole =>
    refine iff_of_false (fun h => hne ?_) (by simp)
    have hphone : db.deliveryPhone o.id = (db.put (.deliveryPhone q) o.id).deliveryPhone o.id :=
      congrArg OrderResponse.deliveryPhone h
    rw [hp, hq] at hphone
    exact hphone
  | forParties =>
    refine iff_of_true ?_ (by simp)
    have hside : db.isVendorSide o user = true := beq_iff_eq.2 hkept.1
    have hside' : (db.put (.deliveryPhone q) o.id).isVendorSide o user = true := hside
    simp only [ApiDb.respond, hside, hside', if_true, hp, hq, hmask]
  | forConsumer => exact absurd hview hkept.2
  | forVendor =>
    refine iff_of_true ?_ (by simp)
    simp only [ApiDb.respond, hp, hq, hmask]

/-- Only the whole row tells the two apart. -/
theorem respond_put_iff (halike : a.alike b) (hne : a ≠ b) (hdb : db.put a id = db) (ho : a.put id o = o)
    (hkept : a.KeptOn id user db.directory o) {view : View} (hview : view.admits db.directory user o) :
    db.respond user view o = (db.put b id).respond user view (b.put id o) ↔ ¬(view = .whole ∧ o.id = id) := by
  by_cases hid : o.id = id
  · have hwrite : a.write o = o := by simpa [Secret.put, hid] using ho
    have hput : b.put id o = b.write o := if_pos hid
    have hsame : (¬(view = .whole ∧ o.id = id)) ↔ view ≠ .whole := by simp [hid]
    rw [hput, hsame]
    cases a with
    | pickupCode p =>
      cases b with
      | pickupCode q =>
        exact respond_pickup (fun h => hne (congrArg _ h)) (congrArg Order.pickupCode hwrite).symm (hkept hid) hview
      | _ => exact halike.elim
    | deliveryCode p =>
      cases b with
      | deliveryCode q =>
        exact respond_delivery (fun h => hne (congrArg _ h)) (congrArg Order.deliveryCode hwrite).symm (hkept hid) hview
      | _ => exact halike.elim
    | deliveryPhone p =>
      cases b with
      | deliveryPhone q =>
        obtain rfl := hid
        exact respond_phone (fun h => hne (congrArg _ h)) halike (phone_planted hdb) (hkept rfl) hview
      | _ => exact halike.elim
  · refine iff_of_true ?_ fun h => hid h.2
    have hphone : (db.put b id).deliveryPhone o.id = db.deliveryPhone o.id := by
      cases b with
      | deliveryPhone q => exact if_neg hid
      | _ => rfl
    rw [put_other hid]
    simp only [ApiDb.respond, hphone]
    rfl

theorem render_put_iff (halike : a.alike b) (hne : a ≠ b) (hdb : db.put a id = db) {answer : OrderAnswer}
    (hplanted : answer.map (a.put id) = answer)
    (hscoped : answer.ScopedTo a id user db.directory) :
    db.render user answer = (db.put b id).render user (answer.map (b.put id)) ↔ ¬answer.holds id := by
  cases answer with
  | error err => exact iff_of_true rfl fun h => h
  | order view row =>
    have hrow : a.put id row = row := (OrderAnswer.order.inj hplanted).2
    simp only [ApiDb.render, OrderAnswer.map, ApiResponse.order.injEq]
    exact respond_put_iff halike hne hdb hrow hscoped.1 hscoped.2
  | orders view rows =>
    have hrows : rows.map (a.put id) = rows := (OrderAnswer.orders.inj hplanted).2
    have hiff : ∀ row ∈ rows, (db.respond user view row = (db.put b id).respond user view (b.put id row) ↔
        ¬(view = .whole ∧ row.id = id)) := fun row hrow =>
      respond_put_iff halike hne hdb (List.map_inj_left.1 (hrows.trans (List.map_id _).symm) row hrow)
        (hscoped row hrow).1 (hscoped row hrow).2
    simp only [ApiDb.render, OrderAnswer.map, ApiResponse.orders.injEq, List.map_map, List.map_inj_left,
      Function.comp_apply, OrderAnswer.holds, not_exists]
    refine forall_congr' fun row => ?_
    constructor
    · exact fun h hrow => (hiff row hrow.1).1 (h hrow.1) hrow.2
    · exact fun h hrow => (hiff row hrow).2 fun hwhole => h ⟨hrow, hwhole⟩

end

end ChopNow
