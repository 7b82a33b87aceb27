import ChopNow.Spec.Calls
import ChopNow.Spec.Creation
import ChopNow.Proofs.Mirror
import ChopNow.Proofs.OrderStep

/-! What a vendor has earned, told twice: by the rows of its orders and penalties, and by the
journal. While calls follow one another the two agree in every window of time. -/

namespace ChopNow

open Interleave Tally

/-! Sums over a window. -/

def Order.deliveredIn (window : Time → Bool) (o : Order) : Bool := o.status == .delivered && o.deliveredAt.any window

def Order.soldBy (vendor : VendorId) (window : Time → Bool) (o : Order) : Bool :=
  o.vendorId == vendor && o.deliveredIn window

def subtotalsXAF (vendor : VendorId) (window : Time → Bool) (orders : List Order) : ℤ :=
  tally (Order.soldBy vendor window) (·.subtotalXAF) orders

def commissionsXAF (vendor : VendorId) (window : Time → Bool) (orders : List Order) : ℤ :=
  tally (Order.soldBy vendor window) (fun o => o.commissionXAF.getD 0) orders

/-- The penalty rows whose entries were booked in the window. -/
def Books.penaltiesXAF (b : Books) (vendor : VendorId) (window : Time → Bool) : ℤ :=
  tally (fun p => p.vendorId == vendor && b.ledger.any fun e => e.eventId == p.eventId && window e.createdAt)
    (·.amountXAF) b.penalties

/-- The vendor's entries of one account and one type. -/
def bookedXAF (account : LedgerAccount) (vendor : VendorId) (eventType : LedgerEventType) (window : Time → Bool)
    (ledger : Ledger) : ℤ :=
  tally (fun e => e.account == account && e.vendorId == some vendor && e.eventType == eventType && window e.createdAt)
    (·.amountXAF) ledger

/-- What VENDOR_PAYABLE was credited with for stolen food. -/
def compensationsXAF (vendor : VendorId) (window : Time → Bool) (ledger : Ledger) : ℤ :=
  -bookedXAF .vendorPayable vendor .adjustment window ledger

section

variable {account : LedgerAccount} {vendor : VendorId} {eventType : LedgerEventType} {window : Time → Bool} {l m : Ledger}

@[simp] theorem bookedXAF_append : bookedXAF account vendor eventType window (l ++ m) =
    bookedXAF account vendor eventType window l + bookedXAF account vendor eventType window m := tally_append ..

theorem bookedXAF_untagged (h : ∀ e ∈ l, e.vendorId = none) : bookedXAF account vendor eventType window l = 0 :=
  tally_eq_zero fun e he hp => by simp [h e he] at hp

end

/-! An order's row. -/

/-- What payouts look at in an order stays as it is. -/
structure SameDelivery (o o' : Order) : Prop where
  id : o'.id = o.id
  vendorId : o'.vendorId = o.vendorId
  subtotalXAF : o'.subtotalXAF = o.subtotalXAF
  delivered : o'.status = .delivered ↔ o.status = .delivered
  still : o.status = .delivered → o'.riderId = o.riderId ∧ o'.deliveredAt = o.deliveredAt ∧
    o'.commissionXAF = o.commissionXAF

/-- A commission was snapshot when the money came in, and a delivered order has one. -/
structure RowSound (opened clock : Time) (o : Order) : Prop where
  subtotal_nonneg : 0 ≤ o.subtotalXAF
  rate_nonneg : 0 ≤ o.commissionRate
  commission : ∀ c, o.commissionXAF = some c → 0 ≤ c ∧ o.paymentStatus.received = true
  delivered : o.status = .delivered → o.riderId ≠ none ∧ o.commissionXAF ≠ none ∧
    ∃ t, o.deliveredAt = some t ∧ opened ≤ t ∧ t < clock

section

variable {opened clock clock' : Time} {o o' : Order} {vendor : VendorId} {window : Time → Bool}

theorem SameDelivery.refl (o : Order) : SameDelivery o o := ⟨rfl, rfl, rfl, .rfl, fun _ => ⟨rfl, rfl, rfl⟩⟩

theorem SameDelivery.soldBy (h : SameDelivery o o') : o'.soldBy vendor window = o.soldBy vendor window := by
  unfold Order.soldBy Order.deliveredIn
  rw [h.vendorId]
  by_cases hd : o.status = .delivered
  · rw [hd, h.delivered.2 hd, (h.still hd).2.1]
  · have hd' : o'.status ≠ .delivered := fun hd' => hd (h.delivered.1 hd')
    rw [beq_eq_false_iff_ne.2 hd, beq_eq_false_iff_ne.2 hd', Bool.false_and, Bool.false_and]

/-- A row that is not delivered and does not become so. -/
theorem SameDelivery.of_open (hid : o'.id = o.id) (hvendor : o'.vendorId = o.vendorId)
    (hsubtotal : o'.subtotalXAF = o.subtotalXAF) (h : o.status ≠ .delivered) (h' : o'.status ≠ .delivered) :
    SameDelivery o o' :=
  ⟨hid, hvendor, hsubtotal, ⟨fun hd => absurd hd h', fun hd => absurd hd h⟩, fun hd => absurd hd h⟩

theorem RowSound.later (h : RowSound opened clock o) (hle : clock ≤ clock') : RowSound opened clock' o :=
  ⟨h.subtotal_nonneg, h.rate_nonneg, h.commission, fun hd => by
    obtain ⟨hrider, hcommission, t, ht, hopened, hpast⟩ := h.delivered hd
    exact ⟨hrider, hcommission, t, ht, hopened, hpast.trans_le hle⟩⟩

/-- The money columns are untouched, and the order is as far from delivered as it was. -/
theorem RowSound.of_same (h : RowSound opened clock o) (hs : SameDelivery o o') (hrate : o'.commissionRate = o.commissionRate)
    (hcommission : o'.commissionXAF = o.commissionXAF)
    (hpaid : o.paymentStatus.received = true → o'.paymentStatus.received = true) : RowSound opened clock o' where
  subtotal_nonneg := hs.subtotalXAF ▸ h.subtotal_nonneg
  rate_nonneg := hrate ▸ h.rate_nonneg
  commission := fun c hc => (h.commission c (hcommission ▸ hc)).imp_right hpaid
  delivered := fun hd => by
    obtain ⟨hrider, hdeliveredAt, -⟩ := hs.still (hs.delivered.1 hd)
    rw [hrider, hcommission, hdeliveredAt]
    exact h.delivered (hs.delivered.1 hd)

theorem mathRound_nonneg {x : ℚ} (h : 0 ≤ x) : 0 ≤ mathRound x :=
  Int.floor_nonneg.2 (by linarith)

/-- An order that waits for its money is not delivered. -/
theorem RowSound.unpaid (h : RowSound opened clock o) (hpaid : o.paymentStatus.received = false) :
    o.status ≠ .delivered := by
  intro hd
  obtain ⟨-, hcommission, -⟩ := h.delivered hd
  obtain ⟨c, hc⟩ := Option.ne_none_iff_exists'.1 hcommission
  have := (h.commission c hc).2
  rw [hpaid] at this
  cases this

theorem RowSound.paid (h : RowSound opened clock o) (payload : PaymentSucceeded) (now : Time) :
    RowSound opened clock (o.paymentPatch o payload now) where
  subtotal_nonneg := h.subtotal_nonneg
  rate_nonneg := h.rate_nonneg
  commission := fun c hc => by
    obtain rfl := Option.some.inj hc
    have hsubtotal : (0 : ℚ) ≤ o.subtotalXAF := by exact_mod_cast h.subtotal_nonneg
    exact ⟨mathRound_nonneg (mul_nonneg hsubtotal h.rate_nonneg), rfl⟩
  delivered := fun hd => by cases hd

theorem OrderWrite.apply_riderId {x : OrderWrite} {now : Time} (h : x.apply o now = some o') (hrider : o.riderId ≠ none) :
    o'.riderId = o.riderId := by
  cases x with
  | assignRider rider => simp [OrderWrite.apply, hrider] at h
  | setItemPrepared anyPrepared =>
    simp only [OrderWrite.apply] at h
    split at h
    · cases h
      rfl
    · split at h <;> cases h
      rfl
  | _ =>
    simp only [OrderWrite.apply] at h
    split at h <;> cases h
    rfl

/-- None of the guarded writes delivers an order or touches one that is. -/
theorem OrderWrite.same {x : OrderWrite} {now : Time} (h : x.apply o now = some o')
    (hrider : o.status = .delivered → o.riderId ≠ none) : SameDelivery o o' := by
  have heq := OrderWrite.apply_eq h
  have hid : o'.id = o.id := by rw [heq]
  have hvendor : o'.vendorId = o.vendorId := by rw [heq]
  have hsubtotal : o'.subtotalXAF = o.subtotalXAF := by rw [heq]
  rcases OrderWrite.apply_status h with hs | ⟨hopen, -, hnot, -⟩
  · refine ⟨hid, hvendor, hsubtotal, by rw [hs], fun hd => ⟨OrderWrite.apply_riderId h (hrider hd), ?_, ?_⟩⟩ <;> rw [heq]
  · refine .of_open hid hvendor hsubtotal (fun hd => ?_) hnot
    rcases hopen with ho | ho | ho | ho <;> rw [ho] at hd <;> cases hd

end

/-! What one move does to a vendor's account. -/

/-- The order rows stay as they are, as far as payouts look at them, and carry the tags `tag`. -/
structure KeptRows (opened : Time) (tag : Order → Option PayoutId) (b b' : Books) : Prop where
  clock : b.clock ≤ b'.clock
  rows : ∃ f : Order → Order, b'.orders = b.orders.map f ∧ ∀ o ∈ b.orders, SameDelivery o (f o) ∧
    (f o).payoutId = tag o ∧ RowSound opened b'.clock (f o)

/-- The row that markDelivered writes. -/
def Order.deliverAt (o : Order) (now : Time) : Order := { o with status := .delivered, deliveredAt := some now }

/-- A move that tells the vendor's account nothing, or one of the four that move it. -/
inductive AccountStep (opened : Time) (b b' : Books) : Prop
  | kept (rows : Ledger) (orders : KeptRows opened (·.payoutId) b b') (ledger : b'.ledger = b.ledger ++ rows)
      (other : ∀ e ∈ rows, e.vendorId = none ∧ e.account ≠ .vendorPayable ∧ e.eventId.isPenalty = false)
      (now : ∀ e ∈ rows, e.createdAt = b.clock ∧ b'.clock = b.clock + 1) (penalties : b'.penalties = b.penalties)
  | delivered {o : Order} {snapshot : Snapshot} (row : o ∈ b.orders) (picked : o.status = .pickedUp)
      (rider : o.riderId ≠ none) (bill : o.snapshot = some snapshot)
      (orders : b'.orders = b.orders.map fun r => if r.id = o.id then o.deliverAt b.clock else r)
      (ledger : b'.ledger = b.ledger ++ (deliveryInput o snapshot).rows (.delivery o.id) b.clock)
      (penalties : b'.penalties = b.penalties) (clock : b'.clock = b.clock + 1)
  | penalised {row : Order} {penaltyXAF : ℤ} (orders : KeptRows opened (·.payoutId) b b')
      (fresh : ∀ v ∈ b.penalties, v.orderId ≠ row.id)
      (penalties : b'.penalties = b.penalties ++ [⟨row.id, row.vendorId, row.id, penaltyXAF⟩])
      (ledger : b'.ledger = b.ledger ++ (penaltyInput row penaltyXAF).rows (.penalty row.id) b.clock)
      (clock : b'.clock = b.clock + 1)
  | compensated {row : Order} {compensationXAF : ℤ} (orders : KeptRows opened (·.payoutId) b b') (positive : 0 < compensationXAF)
      (ledger : b'.ledger = b.ledger ++
        (compensationInput row compensationXAF).rows (.riderFraudVendorCompensation row.id) b.clock)
      (penalties : b'.penalties = b.penalties) (clock : b'.clock = b.clock + 1)
  | paid {job : PayoutJob} {balance : PartyBalance} {periodStart periodEnd : Time} (positive : 0 < balance.balanceXAF)
      (committed : b.commitPayout job balance periodStart periodEnd = .ok b')

section

variable {opened : Time} {b b' : Books} {order : Order}

theorem KeptRows.same (horders : b'.orders = b.orders) (hclock : b.clock ≤ b'.clock)
    (hrows : ∀ o ∈ b.orders, RowSound opened b.clock o) : KeptRows opened (·.payoutId) b b' :=
  ⟨hclock, id, by rw [horders, List.map_id], fun o ho => ⟨.refl o, rfl, (hrows o ho).later hclock⟩⟩

/-- One row is rewritten. -/
theorem KeptRows.put (hids : (b.orders.map (·.id)).Nodup) (horder : order ∈ b.orders) {row : Order}
    (horders : b'.orders = b.orders.map fun o => if o.id = order.id then row else o) (hclock : b.clock ≤ b'.clock)
    (hrows : ∀ o ∈ b.orders, RowSound opened b.clock o) (hsame : SameDelivery order row)
    (htag : row.payoutId = order.payoutId) (hsound : RowSound opened b.clock row) :
    KeptRows opened (·.payoutId) b b' := by
  refine ⟨hclock, _, horders, fun o ho => ?_⟩
  split
  · next hid =>
    obtain rfl := List.inj_on_of_nodup_map hids ho horder hid
    exact ⟨hsame, htag, hsound.later hclock⟩
  · exact ⟨.refl o, rfl, (hrows o ho).later hclock⟩

theorem AccountStep.quiet (horders : b'.orders = b.orders) (hledger : b'.ledger = b.ledger)
    (hpenalties : b'.penalties = b.penalties) (hclock : b.clock ≤ b'.clock)
    (hrows : ∀ o ∈ b.orders, RowSound opened b.clock o) : AccountStep opened b b' :=
  .kept [] (.same horders hclock hrows) (by rw [hledger, List.append_nil]) (by simp) (by simp) hpenalties

/-! The transactions of the calls. -/

theorem orderRow_mem {id : OrderId} (h : b.orderRow id = some order) : order ∈ b.orders ∧ order.id = id :=
  ⟨List.mem_of_find?_eq_some h, by simpa using List.find?_some h⟩

/-- A transaction finds the row that its call has read. -/
theorem commitOrder_read {x : OrderTx} (hrow : b.orderRow x.orderId = some order) (h : b.commitOrder x = .ok b') :
    ∃ w, x.commit (b.orderWorld order) = .ok w ∧
      b' = { b.putOrder order w with riders := x.punish (b.putOrder order w).riders } := by
  unfold Books.commitOrder at h
  split at h
  · cases h
  next row hfound =>
  obtain rfl := Option.some.inj (hfound.symm.trans hrow)
  split at h
  · cases h
  · next w hw => exact ⟨w, hw, (Except.ok.inj h).symm⟩

@[simp] theorem orderWorld_order : (b.orderWorld order).order = order := rfl

@[simp] theorem orderWorld_penalty :
    (b.orderWorld order).penalty = b.penalties.find? fun p => p.orderId == order.id := rfl

theorem putOrder_penalties {w : World} (h : w.penalty = (b.orderWorld order).penalty) :
    (b.putOrder order w).penalties = b.penalties := by
  unfold Books.putOrder
  rw [h, orderWorld_penalty]
  cases b.penalties.find? fun p => p.orderId == order.id <;> simp

/-- A row write with its entries, none of them for a vendor. -/
theorem AccountStep.booked (hids : (b.orders.map (·.id)).Nodup) (hrows : ∀ o ∈ b.orders, RowSound opened b.clock o)
    (horder : order ∈ b.orders) {w : World} {riders : List Rider} {row : Order} {input : RecordTransactionInput}
    (h : (b.orderWorld order).book row input = .ok w)
    (hother : ∀ e ∈ input.entries, e.vendorId = none ∧ e.account ≠ .vendorPayable)
    (hid : ∀ id, input.eventId = some id → id.isPenalty = false) (hsame : SameDelivery order row)
    (htag : row.payoutId = order.payoutId) (hsound : RowSound opened b.clock row) :
    AccountStep opened b { b.putOrder order w with riders } := by
  obtain ⟨-, id, hinput, rfl⟩ := World.book_ok_iff.1 h
  refine .kept _ (.put hids horder rfl (Nat.le_succ _) hrows hsame htag hsound) rfl (fun e he => ?_) (fun e he => ?_)
    (putOrder_penalties rfl)
  · rw [eventId_of_mem_rows he]
    obtain ⟨entry, hentry, rfl⟩ := List.mem_map.1 he
    exact ⟨(hother entry hentry).1, (hother entry hentry).2, hid id hinput⟩
  · exact ⟨createdAt_of_mem_rows he, rfl⟩

/-- The row is written back as it was read. -/
theorem AccountStep.idle (hids : (b.orders.map (·.id)).Nodup) (hrows : ∀ o ∈ b.orders, RowSound opened b.clock o)
    (horder : order ∈ b.orders) {riders : List Rider} :
    AccountStep opened b { b.putOrder order (b.orderWorld order) with riders } :=
  .kept [] (.put hids horder rfl (Nat.le_succ _) hrows (.refl order) rfl (hrows order horder))
    (List.append_nil _).symm (by simp) (by simp) (putOrder_penalties rfl)

/-- The two transactions whose count of zero is no error. -/
theorem bookIf_getD_ok {w w' : World} {guard : Bool} {row : Order} {input : RecordTransactionInput}
    (h : ((w.bookIf guard row input).map (·.getD w)).mapError OrderError.ledger = .ok w') :
    w' = w ∨ guard = true ∧ w.book row input = .ok w' := by
  cases hb : w.bookIf guard row input with
  | error err => simp [hb, Except.map, Except.mapError] at h
  | ok landed =>
    simp only [hb, Except.map, Except.mapError, Except.ok.injEq] at h
    cases landed with
    | none => exact .inl h.symm
    | some landed =>
      obtain rfl : landed = w' := by simpa using h
      exact .inr (World.bookIf_some_iff.1 hb)

/-- What a call hands to the transaction on the order that it has read. -/
inductive Handed (b : Books) (order : Order) : OrderTx → Prop
  | payment (payload : PaymentSucceeded) : Handed b order (.payment order payload b.clock)
  | delivery {snapshot : Snapshot} (picked : order.status = .pickedUp) (rider : order.riderId ≠ none)
      (bill : order.snapshot = some snapshot) : Handed b order (.delivery order snapshot b.clock)
  | preOrderCancel (note : Option String) : Handed b order (.preOrderCancel order note b.clock)
  | riderFraud (input : ResolveRiderFraudInput) (action : RiderFraudAction) (picked : order.status = .pickedUp) :
      Handed b order (.riderFraud order input action b.clock)
  | refundInitiated (ref : Reference) : Handed b order (.refundInitiated order.id order.totalXAF ref)
  | refundSettled : Handed b order (.refundSettled order b.clock)

theorem checkRiderFraud_ok {input : ResolveRiderFraudInput} (h : checkRiderFraud order input = .ok ()) :
    order.status = .pickedUp := by
  unfold checkRiderFraud at h
  by_contra hne
  rw [if_pos hne] at h
  cases h

theorem BooksCall.handed {call : BooksCall} {x : OrderTx} (h : call.transaction b = some x) :
    ∃ order, b.orderRow x.orderId = some order ∧ order ∈ b.orders ∧ Handed b order x := by
  cases call with
  | onPaymentSucceeded id payload =>
    obtain ⟨order, hrow, hrest⟩ := Option.bind_eq_some_iff.1 h
    obtain ⟨hmem, rfl⟩ := orderRow_mem hrow
    split at hrest <;> cases hrest
    exact ⟨order, hrow, hmem, .payment payload⟩
  | markDelivered id rider submittedCode =>
    obtain ⟨order, hrow, hrest⟩ := Option.bind_eq_some_iff.1 h
    obtain ⟨hmem, rfl⟩ := orderRow_mem hrow
    split at hrest <;> cases hrest
    next hchecked =>
    obtain ⟨hrider, hpicked, -, hbill⟩ := checkDelivery_ok_iff.1 hchecked
    exact ⟨order, hrow, hmem, .delivery hpicked (by rw [hrider]; simp) hbill⟩
  | vendorCancelPreOrder id vendor note =>
    obtain ⟨order, hrow, hrest⟩ := Option.bind_eq_some_iff.1 h
    obtain ⟨hmem, rfl⟩ := orderRow_mem hrow
    split at hrest <;> cases hrest
    exact ⟨order, hrow, hmem, .preOrderCancel note⟩
  | resolveRiderFraud id input action =>
    obtain ⟨order, hrow, hrest⟩ := Option.bind_eq_some_iff.1 h
    obtain ⟨hmem, rfl⟩ := orderRow_mem hrow
    split at hrest <;> cases hrest
    next hchecked => exact ⟨order, hrow, hmem, .riderFraud input action (checkRiderFraud_ok hchecked)⟩
  | tryRefund id ref =>
    obtain ⟨order, hrow, hrest⟩ := Option.bind_eq_some_iff.1 h
    obtain ⟨hmem, rfl⟩ := orderRow_mem hrow
    split at hrest <;> cases hrest
    exact ⟨order, hrow, hmem, .refundInitiated ref⟩
  | handleRefundWebhook id =>
    obtain ⟨order, hrow, rfl⟩ := Option.map_eq_some_iff.1 h
    obtain ⟨hmem, rfl⟩ := orderRow_mem hrow
    exact ⟨order, hrow, hmem, .refundSettled⟩
  | _ => cases h

section

variable (hids : (b.orders.map (·.id)).Nodup) (hrows : ∀ o ∈ b.orders, RowSound opened b.clock o) (horder : order ∈ b.orders)
  {w : World} {riders : List Rider}

include hids hrows horder

theorem payment_account {payload : PaymentSucceeded}
    (h : OrderTx.commit (b.orderWorld order) (.payment order payload b.clock) = .ok w) :
    AccountStep opened b { b.putOrder order w with riders } := by
  rcases bookIf_getD_ok h with rfl | ⟨hguard, hbook⟩
  · exact .idle hids hrows horder
  · have hpaid : order.paymentStatus.received = false := by
      have hp : order.paymentStatus = .pending ∨ order.paymentStatus = .processing := by simpa using hguard
      rcases hp with hp | hp <;> rw [hp] <;> rfl
    have hopen := (hrows order horder).unpaid hpaid
    exact .booked hids hrows horder hbook (by simp [paymentInput]) (fun id hid => by cases hid; rfl)
      (.of_open rfl rfl rfl hopen fun hd => by cases hd) rfl
      ((hrows order horder).paid payload b.clock)

omit hids hrows in
theorem delivery_account {snapshot : Snapshot} (hpicked : order.status = .pickedUp) (hrider : order.riderId ≠ none)
    (hbill : order.snapshot = some snapshot)
    (h : OrderTx.commit (b.orderWorld order) (.delivery order snapshot b.clock) = .ok w) :
    AccountStep opened b { b.putOrder order w with riders } := by
  obtain ⟨-, id, hid, rfl⟩ := World.book_ok_iff.1 (World.bookOrThrow_ok_iff.1 h).2
  obtain rfl := Option.some.inj hid
  exact .delivered horder hpicked hrider hbill rfl rfl (putOrder_penalties rfl) rfl

theorem preOrderCancel_account {note : Option String}
    (h : OrderTx.commit (b.orderWorld order) (.preOrderCancel order note b.clock) = .ok w) :
    AccountStep opened b { b.putOrder order w with riders } := by
  simp only [OrderTx.commit, commitPreOrderCancel] at h
  split at h
  · cases h
  next hstatus =>
  split at h
  · cases h
  next hpenalty =>
  obtain ⟨-, id, hid, rfl⟩ := World.book_ok_iff.1 (World.bookOrThrow_ok_iff.1 h).2
  obtain rfl := Option.some.inj hid
  have hnone : b.penalties.find? (fun p => p.orderId == order.id) = none := by
    simpa only [orderWorld_penalty, Bool.not_eq_true, Option.isSome_eq_false_iff, Option.isNone_iff_eq_none] using hpenalty
  have hopen : order.status ≠ .delivered := fun hd => hstatus (by simp [hd])
  have hsame : SameDelivery order (order.cancelPreOrder note b.clock) :=
    .of_open rfl rfl rfl hopen fun hd => by cases hd
  refine .penalised (.put hids horder rfl (Nat.le_succ _) hrows hsame rfl ?_) (fun v hv => ?_) ?_ rfl rfl
  · exact (hrows order horder).of_same hsame rfl rfl fun _ => rfl
  · simpa using List.find?_eq_none.1 hnone v hv
  · simp [Books.putOrder, hnone]

theorem riderFraud_account {input : ResolveRiderFraudInput} {action : RiderFraudAction} (hpicked : order.status = .pickedUp)
    (h : OrderTx.commit (b.orderWorld order) (.riderFraud order input action b.clock) = .ok w) :
    AccountStep opened b { b.putOrder order w with riders } := by
  have hsame : SameDelivery order (order.cancelForFraud order input b.clock) :=
    .of_open rfl rfl rfl (by rw [hpicked]; simp) fun hd => by cases hd
  have hsound : RowSound opened b.clock (order.cancelForFraud order input b.clock) :=
    (hrows order horder).of_same hsame rfl rfl fun hp => by
      simp only [Order.cancelForFraud]
      split
      · rfl
      · exact hp
  simp only [OrderTx.commit, commitRiderFraud] at h
  split at h
  · next hpos =>
    obtain ⟨-, id, hid, rfl⟩ := World.book_ok_iff.1 (World.bookOrThrow_ok_iff.1 h).2
    obtain rfl := Option.some.inj hid
    exact .compensated (.put hids horder rfl (Nat.le_succ _) hrows hsame rfl hsound) hpos rfl (putOrder_penalties rfl) rfl
  · split at h <;> cases h
    exact .kept [] (.put hids horder rfl (Nat.le_succ _) hrows hsame rfl hsound) (List.append_nil _).symm
      (by simp) (by simp) (putOrder_penalties rfl)

theorem refundInitiated_account {ref : Reference}
    (h : OrderTx.commit (b.orderWorld order) (.refundInitiated order.id order.totalXAF ref) = .ok w) :
    AccountStep opened b { b.putOrder order w with riders } := by
  have hsame : SameDelivery order { order with refundCampayRef := some ref } := ⟨rfl, rfl, rfl, .rfl, fun _ => ⟨rfl, rfl, rfl⟩⟩
  simp only [OrderTx.commit, commitRefund] at h
  cases hbook : (b.orderWorld order).book { order with refundCampayRef := some ref }
      (refundInitiatedInput order order.totalXAF) with
  | error err => simp [hbook, Except.mapError] at h
  | ok landed =>
    obtain rfl : landed = w := by simpa [hbook, Except.mapError] using h
    exact .booked hids hrows horder hbook (by simp [refundInitiatedInput]) (fun id hid => by cases hid; rfl) hsame rfl
      ((hrows order horder).of_same hsame rfl rfl id)

theorem refundSettled_account (h : OrderTx.commit (b.orderWorld order) (.refundSettled order b.clock) = .ok w) :
    AccountStep opened b { b.putOrder order w with riders } := by
  rcases bookIf_getD_ok h with rfl | ⟨-, hbook⟩
  · exact .idle hids hrows horder
  · have hsame : SameDelivery order { order with paymentStatus := .refunded, refundedAt := some b.clock } :=
      ⟨rfl, rfl, rfl, .rfl, fun _ => ⟨rfl, rfl, rfl⟩⟩
    exact .booked hids hrows horder hbook (by simp [refundSettledInput]) (fun id hid => by cases hid; rfl) hsame rfl
      ((hrows order horder).of_same hsame rfl rfl fun _ => rfl)

end

/-- What a whole call on an order does. -/
theorem transaction_account {call : BooksCall} {x : OrderTx} (hids : (b.orders.map (·.id)).Nodup)
    (hrows : ∀ o ∈ b.orders, RowSound opened b.clock o) (hcall : call.transaction b = some x)
    (h : b.commitOrder x = .ok b') : AccountStep opened b b' := by
  obtain ⟨order, hrow, horder, hhanded⟩ := BooksCall.handed hcall
  obtain ⟨w, hw, rfl⟩ := commitOrder_read hrow h
  cases hhanded with
  | payment payload => exact payment_account hids hrows horder hw
  | delivery picked rider bill => exact delivery_account horder picked rider bill hw
  | preOrderCancel note => exact preOrderCancel_account hids hrows horder hw
  | riderFraud input action picked => exact riderFraud_account hids hrows horder picked hw
  | refundInitiated ref => exact refundInitiated_account hids hrows horder hw
  | refundSettled => exact refundSettled_account hids hrows horder hw

theorem checkPickup_open {rider : RiderId} {submittedCode : ℕ} (h : checkPickup order rider submittedCode = .ok ()) :
    order.status ≠ .delivered := by
  intro hd
  unfold checkPickup at h
  split at h
  · cases h
  · simp [hd, PICKUPABLE] at h

/-- What an event of a whole call does. -/
theorem event_account {call : BooksCall} {n : BooksEvent} (hids : (b.orders.map (·.id)).Nodup)
    (hrows : ∀ o ∈ b.orders, RowSound opened b.clock o) (hcall : call.event b = some n) :
    AccountStep opened b (booksEvent b n).1 := by
  have htransaction : (call.transaction b).map .order = some n → AccountStep opened b (booksEvent b n).1 := by
    intro h
    obtain ⟨x, hx, rfl⟩ := Option.map_eq_some_iff.1 h
    simp only [booksEvent, Books.transaction, BooksTx.commit]
    split
    · exact .quiet rfl rfl rfl le_rfl hrows
    · exact transaction_account hids hrows hx ‹_›
  have hstatement : ∀ (id : OrderId) (f : Order → Order), (∀ o ∈ b.orders, o.id = id → SameDelivery o (f o) ∧
      (f o).payoutId = o.payoutId ∧ RowSound opened b.clock (f o)) →
      AccountStep opened b { b with orders := b.orders.map fun o => if o.id = id then f o else o } := by
    refine fun id f hf => .kept [] ⟨le_rfl, _, rfl, fun o ho => ?_⟩ (List.append_nil _).symm (by simp) (by simp) rfl
    split
    · next hid => exact hf o ho hid
    · exact ⟨.refl o, rfl, hrows o ho⟩
  cases call with
  | serve id x =>
    cases hcall
    refine hstatement id _ fun o ho _ => ?_
    change SameDelivery o ((x.apply o b.clock).getD o) ∧ ((x.apply o b.clock).getD o).payoutId = o.payoutId ∧
      RowSound opened b.clock ((x.apply o b.clock).getD o)
    cases hx : x.apply o b.clock with
    | none => exact ⟨.refl o, rfl, hrows o ho⟩
    | some o' =>
      have hsame := OrderWrite.same hx fun hd => ((hrows o ho).delivered hd).1
      have heq := OrderWrite.apply_eq hx
      rw [Option.getD_some]
      exact ⟨hsame, by rw [heq], (hrows o ho).of_same hsame (by rw [heq]) (by rw [heq]) (by rw [heq]; exact fun hp => hp)⟩
  | markPickedUp id rider submittedCode =>
    obtain ⟨order, hrow, hrest⟩ := Option.bind_eq_some_iff.1 hcall
    obtain ⟨hmem, rfl⟩ := orderRow_mem hrow
    split at hrest <;> cases hrest
    next hchecked =>
    have hopen := checkPickup_open hchecked
    refine hstatement order.id _ fun o ho hid => ?_
    obtain rfl := List.inj_on_of_nodup_map hids ho hmem hid
    have hsame : SameDelivery o { o with status := .pickedUp, pickedUpAt := some b.clock } :=
      .of_open rfl rfl rfl hopen fun hd => by cases hd
    exact ⟨hsame, rfl, (hrows o ho).of_same hsame rfl rfl fun hp => hp⟩
  | tick elapsed =>
    cases hcall
    exact .quiet rfl rfl rfl (Nat.le_add_right _ _) hrows
  | payout id x =>
    cases hcall
    exact .quiet rfl rfl rfl le_rfl hrows
  | tryScheduleVendorPayout vendor momoPhone elapsed =>
    cases hcall
    exact .quiet rfl rfl rfl (Nat.le_succ _) hrows
  | tryScheduleRiderPayout rider momoPhone elapsed =>
    cases hcall
    exact .quiet rfl rfl rfl (Nat.le_succ _) hrows
  | approveCashoutRequest request adminUserId =>
    cases hcall
    exact .quiet rfl rfl rfl le_rfl hrows
  | _ => exact htransaction hcall

theorem scheduler_account {t t' : Scheduler} (hrows : ∀ o ∈ b.orders, RowSound opened b.clock o) (ht : t.positive)
    (h : SchedulerMove b t b' t') : AccountStep opened b b' := by
  cases h with
  | schedule outcome hcommit => exact .paid ht hcommit
  | cashoutPeriod => exact .quiet rfl rfl rfl (Nat.le_succ _) hrows
  | _ => exact .quiet rfl rfl rfl le_rfl hrows

end

/-! The journal on its own. -/

/-- VENDOR_PAYABLE has four sorts of entries, and what PLATFORM_REVENUE says of a vendor is
the other side of two of them. -/
structure Told (ledger : Ledger) : Prop where
  sorts : ∀ e ∈ ledger, e.account = .vendorPayable → e.eventType = .orderDelivered ∨ e.eventType = .penaltyApplied ∨
    e.eventType = .adjustment ∧ e.amountXAF < 0 ∨ e.eventType = .vendorPayout ∧ 0 < e.amountXAF
  untagged : ∀ vendor window, bookedXAF .platformRevenue vendor .orderDelivered window ledger = 0
  fines : ∀ vendor window, bookedXAF .platformRevenue vendor .penaltyApplied window ledger =
    -bookedXAF .vendorPayable vendor .penaltyApplied window ledger
  adjustments : ∀ vendor window, bookedXAF .platformRevenue vendor .adjustment window ledger =
    -bookedXAF .vendorPayable vendor .adjustment window ledger

section

variable {l rows : Ledger} {now : Time} {id : EventId}

theorem Told.append (h : Told l) (hrows : Told rows) : Told (l ++ rows) where
  sorts := fun e he => (List.mem_append.1 he).elim (h.sorts e) (hrows.sorts e)
  untagged := fun vendor window => by rw [bookedXAF_append, h.untagged, hrows.untagged, add_zero]
  fines := fun vendor window => by rw [bookedXAF_append, bookedXAF_append, h.fines, hrows.fines, neg_add]
  adjustments := fun vendor window => by rw [bookedXAF_append, bookedXAF_append, h.adjustments, hrows.adjustments, neg_add]

theorem told_other (h : ∀ e ∈ rows, e.vendorId = none ∧ e.account ≠ .vendorPayable ∧ e.eventId.isPenalty = false) :
    Told rows where
  sorts := fun e he haccount => absurd haccount (h e he).2.1
  untagged := fun vendor window => bookedXAF_untagged fun e he => (h e he).1
  fines := fun vendor window => by simp only [bookedXAF_untagged fun e he => (h e he).1, neg_zero]
  adjustments := fun vendor window => by simp only [bookedXAF_untagged fun e he => (h e he).1, neg_zero]

theorem told_delivery (o : Order) (snapshot : Snapshot) : Told ((deliveryInput o snapshot).rows id now) where
  sorts := by simp [RecordTransactionInput.rows, deliveryInput]
  untagged := fun vendor window => by simp [bookedXAF, RecordTransactionInput.rows, deliveryInput]
  fines := fun vendor window => by simp [bookedXAF, RecordTransactionInput.rows, deliveryInput]
  adjustments := fun vendor window => by simp [bookedXAF, RecordTransactionInput.rows, deliveryInput]

theorem told_penalty (o : Order) (penaltyXAF : ℤ) : Told ((penaltyInput o penaltyXAF).rows id now) where
  sorts := by simp [RecordTransactionInput.rows, penaltyInput]
  untagged := fun vendor window => by simp [bookedXAF, RecordTransactionInput.rows, penaltyInput]
  fines := fun vendor window => by
    simp only [bookedXAF, RecordTransactionInput.rows, penaltyInput, List.map_cons, List.map_nil, tally_cons, tally_nil]
    cases window now <;> by_cases hv : o.vendorId = vendor <;> simp [hv]
  adjustments := fun vendor window => by simp [bookedXAF, RecordTransactionInput.rows, penaltyInput]

theorem told_compensation (o : Order) {compensationXAF : ℤ} (h : 0 < compensationXAF) :
    Told ((compensationInput o compensationXAF).rows id now) where
  sorts := by simp [RecordTransactionInput.rows, compensationInput, h]
  untagged := fun vendor window => by simp [bookedXAF, RecordTransactionInput.rows, compensationInput]
  fines := fun vendor window => by simp [bookedXAF, RecordTransactionInput.rows, compensationInput]
  adjustments := fun vendor window => by
    simp only [bookedXAF, RecordTransactionInput.rows, compensationInput, List.map_cons, List.map_nil, tally_cons,
      tally_nil]
    cases window now <;> by_cases hv : o.vendorId = vendor <;> simp [hv]

theorem told_payout {p : Payout} (h : 0 < p.netXAF) (description : String) :
    Told ((payoutInput p description).rows id now) where
  sorts := by
    cases hp : p.party <;> simp [RecordTransactionInput.rows, payoutInput, hp, Party.account, h]
  untagged := fun vendor window => by
    cases hp : p.party <;> simp [bookedXAF, RecordTransactionInput.rows, payoutInput, hp, Party.account]
  fines := fun vendor window => by
    cases hp : p.party <;> simp [bookedXAF, RecordTransactionInput.rows, payoutInput, hp, Party.account]
  adjustments := fun vendor window => by
    cases hp : p.party <;> simp [bookedXAF, RecordTransactionInput.rows, payoutInput, hp, Party.account]

/-- The vendor's account is the sum of its four sorts of entries. -/
theorem Told.balance (h : Told l) (vendor : VendorId) (window : Time → Bool) :
    tally (fun e => e.account == .vendorPayable && e.vendorId == some vendor && window e.createdAt) (·.amountXAF) l =
      bookedXAF .vendorPayable vendor .orderDelivered window l + bookedXAF .vendorPayable vendor .penaltyApplied window l +
      bookedXAF .vendorPayable vendor .adjustment window l + bookedXAF .vendorPayable vendor .vendorPayout window l := by
  have hsorts := h.sorts
  clear h
  induction l with
  | nil => rfl
  | cons e l ih =>
    have hih := ih fun e he => hsorts e (.tail _ he)
    simp only [bookedXAF, tally_cons] at hih ⊢
    by_cases haccount : e.account = .vendorPayable
    · have hsort := hsorts e (.head _) haccount
      rw [haccount]
      cases (e.vendorId == some vendor) <;> cases window e.createdAt <;>
        rcases hsort with ht | ht | ⟨ht, -⟩ | ⟨ht, -⟩ <;> simp [ht] at hih ⊢ <;> omega
    · have hne := beq_eq_false_iff_ne.2 haccount
      simp only [hne, Bool.false_and, Bool.false_eq_true, if_false] at hih ⊢
      omega

end

/-! The two tellings agree. -/

structure Agreed (opened : Time) (b : Books) : Prop where
  ids : (b.orders.map (·.id)).Nodup
  rows : ∀ o ∈ b.orders, RowSound opened b.clock o
  opened_le : opened ≤ b.clock
  stamped : ∀ e ∈ b.ledger, opened ≤ e.createdAt ∧ e.createdAt < b.clock
  mirrored : Mirrored b
  told : Told b.ledger
  sold : ∀ vendor window, bookedXAF .vendorPayable vendor .orderDelivered window b.ledger =
    commissionsXAF vendor window b.orders - subtotalsXAF vendor window b.orders
  fined : ∀ vendor window, bookedXAF .vendorPayable vendor .penaltyApplied window b.ledger = b.penaltiesXAF vendor window

section

variable {opened now : Time} {b b' : Books} {vendor : VendorId} {window : Time → Bool} {rows : Ledger}
  {tag : Order → Option PayoutId}

theorem booked_delivery (o : Order) (snapshot : Snapshot) (id : EventId) :
    bookedXAF .vendorPayable vendor .orderDelivered window ((deliveryInput o snapshot).rows id now) =
      if o.vendorId == vendor && window now then snapshot.commissionXAF - o.subtotalXAF else 0 := by
  simp only [bookedXAF, RecordTransactionInput.rows, deliveryInput, List.map_cons, List.map_nil, tally_cons, tally_nil]
  cases window now <;> by_cases hv : o.vendorId = vendor <;> simp [hv]

theorem booked_penalty (o : Order) (penaltyXAF : ℤ) (id : EventId) :
    bookedXAF .vendorPayable vendor .penaltyApplied window ((penaltyInput o penaltyXAF).rows id now) =
      if o.vendorId == vendor && window now then penaltyXAF else 0 := by
  simp only [bookedXAF, RecordTransactionInput.rows, penaltyInput, List.map_cons, List.map_nil, tally_cons, tally_nil]
  cases window now <;> by_cases hv : o.vendorId = vendor <;> simp [hv]

/-- Entries of another type. -/
theorem booked_other {input : RecordTransactionInput} {id : EventId} {account : LedgerAccount} {eventType : LedgerEventType}
    (h : input.eventType ≠ eventType) : bookedXAF account vendor eventType window (input.rows id now) = 0 :=
  tally_eq_zero fun e he hp => by
    obtain ⟨entry, -, rfl⟩ := List.mem_map.1 he
    simp [h] at hp

theorem KeptRows.ids (h : KeptRows opened tag b b') : b'.orders.map (·.id) = b.orders.map (·.id) := by
  obtain ⟨f, horders, hf⟩ := h.rows
  rw [horders, List.map_map]
  exact List.map_congr_left fun o ho => (hf o ho).1.id

theorem KeptRows.sound (h : KeptRows opened tag b b') : ∀ o ∈ b'.orders, RowSound opened b'.clock o := by
  obtain ⟨f, horders, hf⟩ := h.rows
  rw [horders]
  intro o' ho'
  obtain ⟨o, ho, rfl⟩ := List.mem_map.1 ho'
  exact (hf o ho).2.2

theorem KeptRows.subtotals (h : KeptRows opened tag b b') :
    subtotalsXAF vendor window b'.orders = subtotalsXAF vendor window b.orders := by
  obtain ⟨f, horders, hf⟩ := h.rows
  rw [horders, subtotalsXAF, tally_map]
  exact tally_congr fun o ho => by rw [(hf o ho).1.soldBy, (hf o ho).1.subtotalXAF]

theorem KeptRows.commissions (h : KeptRows opened tag b b') :
    commissionsXAF vendor window b'.orders = commissionsXAF vendor window b.orders := by
  obtain ⟨f, horders, hf⟩ := h.rows
  rw [horders, commissionsXAF, tally_map]
  refine tally_congr fun o ho => ?_
  rw [(hf o ho).1.soldBy]
  split
  · next hsold =>
    have hd : o.status = .delivered := by
      simp only [Order.soldBy, Order.deliveredIn, Bool.and_eq_true, beq_iff_eq] at hsold
      exact hsold.2.1
    rw [((hf o ho).1.still hd).2.2]
  · rfl

/-- What is booked for others does not date a penalty. -/
theorem penaltiesXAF_append (hpenalties : b'.penalties = b.penalties) (hledger : b'.ledger = b.ledger ++ rows)
    (hother : ∀ p ∈ b.penalties, ∀ e ∈ rows, e.eventId ≠ p.eventId) :
    b'.penaltiesXAF vendor window = b.penaltiesXAF vendor window := by
  unfold Books.penaltiesXAF
  rw [hpenalties, hledger]
  refine tally_congr fun p hp => ?_
  have hnone : (rows.any fun e => e.eventId == p.eventId && window e.createdAt) = false :=
    List.any_eq_false.2 fun e he => by simp [hother p hp e he]
  rw [List.any_append, hnone, Bool.or_false]

theorem penaltiesXAF_other (hpenalties : b'.penalties = b.penalties) (hledger : b'.ledger = b.ledger ++ rows)
    (hother : ∀ e ∈ rows, e.eventId.isPenalty = false) : b'.penaltiesXAF vendor window = b.penaltiesXAF vendor window :=
  penaltiesXAF_append hpenalties hledger fun p _ e he heq => by
    have hkind := hother e he
    rw [heq] at hkind
    cases hkind

/-- A new penalty, with its entries. -/
theorem penaltiesXAF_fined (hm : Mirrored b) {row : Order} {penaltyXAF : ℤ} (hfresh : ∀ v ∈ b.penalties, v.orderId ≠ row.id)
    (hpenalties : b'.penalties = b.penalties ++ [⟨row.id, row.vendorId, row.id, penaltyXAF⟩])
    (hledger : b'.ledger = b.ledger ++ (penaltyInput row penaltyXAF).rows (.penalty row.id) now) :
    b'.penaltiesXAF vendor window =
      b.penaltiesXAF vendor window + if row.vendorId == vendor && window now then penaltyXAF else 0 := by
  have hold : { b' with penalties := b.penalties }.penaltiesXAF vendor window = b.penaltiesXAF vendor window :=
    penaltiesXAF_append rfl hledger fun p hp e he heq => by
      rw [eventId_of_mem_rows he] at heq
      exact hfresh p hp ((hm.penaltyIds p hp).symm.trans (EventId.penalty.inj heq).symm)
  have hnone : (b.ledger.any fun e => e.eventId == EventId.penalty row.id && window e.createdAt) = false := by
    have habsent : Mirror.rowsOf LedgerEntry.eventId (.penalty row.id) b.ledger = [] :=
      hm.penalties.absent _ rfl fun hmem => by
        obtain ⟨p, hp, heq⟩ := List.mem_map.1 hmem
        exact hfresh p hp ((hm.penaltyIds p hp).symm.trans (EventId.penalty.inj heq))
    refine List.any_eq_false.2 fun e he => ?_
    have hne : e.eventId ≠ .penalty row.id := by simpa using List.filter_eq_nil_iff.1 habsent e he
    simp [hne]
  have hnew : (b'.ledger.any fun e => e.eventId == EventId.penalty row.id && window e.createdAt) = window now := by
    rw [hledger, List.any_append, hnone, Bool.false_or]
    simp [RecordTransactionInput.rows, penaltyInput]
  rw [← hold]
  unfold Books.penaltiesXAF
  rw [hpenalties, tally_append]
  simp only [tally_cons, tally_nil, VendorPenalty.eventId, hnew, add_zero]

theorem stamped_append (hopened : opened ≤ b.clock) (h : ∀ e ∈ b.ledger, opened ≤ e.createdAt ∧ e.createdAt < b.clock)
    (hledger : b'.ledger = b.ledger ++ rows) (hnow : ∀ e ∈ rows, e.createdAt = b.clock ∧ b'.clock = b.clock + 1)
    (hclock : b.clock ≤ b'.clock) : ∀ e ∈ b'.ledger, opened ≤ e.createdAt ∧ e.createdAt < b'.clock := by
  rw [hledger]
  intro e he
  rcases List.mem_append.1 he with he | he
  · exact ⟨(h e he).1, (h e he).2.trans_le hclock⟩
  · obtain ⟨hat, hlater⟩ := hnow e he
    rw [hat, hlater]
    exact ⟨hopened, Nat.lt_succ_self _⟩

/-- The row of the order that is delivered now. -/
theorem RowSound.deliver {o : Order} {snapshot : Snapshot} {clock' : Time} (h : RowSound opened now o) (hrider : o.riderId ≠ none)
    (hbill : o.commissionXAF = some snapshot.commissionXAF) (hopened : opened ≤ now) (hlater : now < clock') :
    RowSound opened clock' (o.deliverAt now) where
  subtotal_nonneg := h.subtotal_nonneg
  rate_nonneg := h.rate_nonneg
  commission := h.commission
  delivered := fun _ => ⟨hrider, by simp [Order.deliverAt, hbill], now, rfl, hopened, hlater⟩

theorem snapshot_commission {o : Order} {snapshot : Snapshot} (h : o.snapshot = some snapshot) :
    o.commissionXAF = some snapshot.commissionXAF := by
  unfold Order.snapshot at h
  split at h
  · next hcommission _ _ =>
    cases h
    exact hcommission
  · cases h

theorem Agreed.kept (h : Agreed opened b) (horders : KeptRows opened tag b b') (hmirrored : Mirrored b')
    (hledger : b'.ledger = b.ledger ++ rows) (hnow : ∀ e ∈ rows, e.createdAt = b.clock ∧ b'.clock = b.clock + 1)
    (htold : Told rows) (hsold : ∀ vendor window, bookedXAF .vendorPayable vendor .orderDelivered window rows = 0)
    (hfined : ∀ vendor window, b.penaltiesXAF vendor window + bookedXAF .vendorPayable vendor .penaltyApplied window rows =
      b'.penaltiesXAF vendor window) : Agreed opened b' where
  ids := horders.ids ▸ h.ids
  rows := horders.sound
  opened_le := h.opened_le.trans horders.clock
  stamped := stamped_append h.opened_le h.stamped hledger hnow horders.clock
  mirrored := hmirrored
  told := hledger ▸ h.told.append htold
  sold := fun vendor window => by
    rw [hledger, bookedXAF_append, h.sold, hsold, horders.commissions, horders.subtotals, add_zero]
  fined := fun vendor window => by rw [hledger, bookedXAF_append, h.fined, hfined]

/-- An order on the road is delivered: the vendor's sums have one more. -/
theorem tally_deliver {orders : List Order} (hids : (orders.map (·.id)).Nodup) {o : Order} (horder : o ∈ orders)
    (hpicked : o.status = .pickedUp) (f : Order → ℤ) :
    tally (Order.soldBy vendor window) f (orders.map fun r => if r.id = o.id then o.deliverAt now else r) =
      tally (Order.soldBy vendor window) f orders + if o.vendorId == vendor && window now then f (o.deliverAt now) else 0 := by
  have hupdate := tally_update hids horder (Order.soldBy vendor window) f (o.deliverAt now)
  have hunsold : o.soldBy vendor window = false := by simp [Order.soldBy, Order.deliveredIn, hpicked]
  have hsold : (o.deliverAt now).soldBy vendor window = (o.vendorId == vendor && window now) := by
    simp [Order.soldBy, Order.deliveredIn, Order.deliverAt]
  rw [hunsold, hsold, if_neg Bool.false_ne_true, add_zero] at hupdate
  exact hupdate

theorem Agreed.delivered (h : Agreed opened b) {o : Order} {snapshot : Snapshot} (horder : o ∈ b.orders)
    (hpicked : o.status = .pickedUp) (hrider : o.riderId ≠ none) (hbill : o.snapshot = some snapshot)
    (horders : b'.orders = b.orders.map fun r => if r.id = o.id then o.deliverAt b.clock else r)
    (hledger : b'.ledger = b.ledger ++ (deliveryInput o snapshot).rows (.delivery o.id) b.clock)
    (hpenalties : b'.penalties = b.penalties) (hclock : b'.clock = b.clock + 1) (hmirrored : Mirrored b') :
    Agreed opened b' := by
  have hcommission := snapshot_commission hbill
  have hlater : b.clock < b'.clock := hclock ▸ Nat.lt_succ_self _
  have hids : b'.orders.map (·.id) = b.orders.map (·.id) := by
    rw [horders, List.map_map]
    refine List.map_congr_left fun r _ => ?_
    simp only [Function.comp]
    split
    · next hid => exact hid.symm
    · rfl
  refine ⟨hids ▸ h.ids, ?_, h.opened_le.trans hlater.le, ?_, hmirrored, hledger ▸ h.told.append (told_delivery o snapshot),
    fun vendor window => ?_, fun vendor window => ?_⟩
  · rw [horders]
    intro r' hr'
    obtain ⟨r, hr, rfl⟩ := List.mem_map.1 hr'
    split
    · exact (h.rows o horder).deliver hrider hcommission h.opened_le hlater
    · exact (h.rows r hr).later hlater.le
  · exact stamped_append h.opened_le h.stamped hledger (fun e he => ⟨createdAt_of_mem_rows he, hclock⟩) hlater.le
  · have hsubtotals : subtotalsXAF vendor window b'.orders = subtotalsXAF vendor window b.orders +
        if o.vendorId == vendor && window b.clock then o.subtotalXAF else 0 := by
      rw [horders]
      exact tally_deliver h.ids horder hpicked _
    have hcommissions : commissionsXAF vendor window b'.orders = commissionsXAF vendor window b.orders +
        if o.vendorId == vendor && window b.clock then o.commissionXAF.getD 0 else 0 := by
      rw [horders]
      exact tally_deliver h.ids horder hpicked _
    rw [hledger, bookedXAF_append, h.sold, booked_delivery, hsubtotals, hcommissions, hcommission, Option.getD_some]
    split <;> omega
  · rw [hledger, bookedXAF_append, h.fined, booked_other (by simp [deliveryInput]), add_zero,
      penaltiesXAF_other hpenalties hledger fun e he => by rw [eventId_of_mem_rows he]; rfl]

/-- A payout tags orders and changes nothing else about them. -/
theorem commitPayout_orders {job : PayoutJob} {balance : PartyBalance} {periodStart periodEnd : Time}
    (h : b.commitPayout job balance periodStart periodEnd = .ok b') :
    b'.orders = b.orders.map fun o =>
      if (job.row b.payouts.length balance periodStart periodEnd).covers o then
        { o with payoutId := some b.payouts.length } else o := by
  simp only [Books.commitPayout, bind, Except.bind, pure, Except.pure] at h
  split at h
  · cases h
  next created hcreated =>
  split at h
  · cases h
  next booked hbooked =>
  obtain ⟨-, rfl⟩ := Books.createPayout_ok_iff.1 hcreated
  obtain ⟨-, id, -, rfl⟩ := Books.record_ok_iff.1 hbooked
  split at h
  · unfold Books.approveRequest at h
    split at h
    · obtain rfl := Except.ok.inj h
      rfl
    · cases h
  · obtain rfl := Except.ok.inj h
    rfl

theorem commitPayout_kept {job : PayoutJob} {balance : PartyBalance} {periodStart periodEnd : Time}
    (h : b.commitPayout job balance periodStart periodEnd = .ok b') (hrows : ∀ o ∈ b.orders, RowSound opened b.clock o) :
    KeptRows opened (fun o => if (job.row b.payouts.length balance periodStart periodEnd).covers o then
      some b.payouts.length else o.payoutId) b b' := by
  have hclock : b.clock ≤ b'.clock := (commitPayout_ok h).clock ▸ Nat.le_succ _
  refine ⟨hclock, _, commitPayout_orders h, fun o ho => ?_⟩
  have hsound := (hrows o ho).later hclock
  split
  · have hsame : SameDelivery o { o with payoutId := some b.payouts.length } :=
      ⟨rfl, rfl, rfl, .rfl, fun _ => ⟨rfl, rfl, rfl⟩⟩
    exact ⟨hsame, rfl, hsound.of_same hsame rfl rfl fun hp => hp⟩
  · exact ⟨.refl o, rfl, hsound⟩

theorem Agreed.paid (h : Agreed opened b) {job : PayoutJob} {balance : PartyBalance} {periodStart periodEnd : Time}
    (hpositive : 0 < balance.balanceXAF) (hcommit : b.commitPayout job balance periodStart periodEnd = .ok b')
    (hmirrored : Mirrored b') : Agreed opened b' := by
  have hc := commitPayout_ok hcommit
  refine h.kept (commitPayout_kept hcommit h.rows) hmirrored hc.ledger
    (fun e he => ⟨createdAt_of_mem_rows he, hc.clock⟩) (told_payout hpositive _)
    (fun vendor window => booked_other ?_) (fun vendor window => ?_)
  · cases job <;> simp [payoutInput, PayoutJob.row, PayoutJob.party]
  · rw [booked_other (by cases job <;> simp [payoutInput, PayoutJob.row, PayoutJob.party]), add_zero,
      penaltiesXAF_other hc.penalties hc.ledger fun e he => by rw [eventId_of_mem_rows he]; exact (payout_kind _).2]

theorem Agreed.step (h : Agreed opened b) (hstep : AccountStep opened b b') (hmirrored : Mirrored b') :
    Agreed opened b' := by
  cases hstep with
  | kept rows orders ledger other now penalties =>
    refine h.kept orders hmirrored ledger now (told_other other) (fun vendor window => ?_) (fun vendor window => ?_)
    · exact bookedXAF_untagged fun e he => (other e he).1
    · rw [bookedXAF_untagged fun e he => (other e he).1, add_zero,
        penaltiesXAF_other penalties ledger fun e he => (other e he).2.2]
  | delivered row picked rider bill orders ledger penalties clock =>
    exact h.delivered row picked rider bill orders ledger penalties clock hmirrored
  | @penalised row penaltyXAF orders fresh penalties ledger clock =>
    refine h.kept orders hmirrored ledger (fun e he => ⟨createdAt_of_mem_rows he, clock⟩) (told_penalty row penaltyXAF)
      (fun vendor window => booked_other (by simp [penaltyInput])) (fun vendor window => ?_)
    rw [booked_penalty, penaltiesXAF_fined h.mirrored fresh penalties ledger]
  | @compensated row compensationXAF orders positive ledger penalties clock =>
    refine h.kept orders hmirrored ledger (fun e he => ⟨createdAt_of_mem_rows he, clock⟩) (told_compensation row positive)
      (fun vendor window => booked_other (by simp [compensationInput])) (fun vendor window => ?_)
    rw [booked_other (by simp [compensationInput]), add_zero,
      penaltiesXAF_other penalties ledger fun e he => by rw [eventId_of_mem_rows he]; rfl]
  | paid positive committed => exact h.paid positive committed hmirrored

/-- Before anything happened: the orders stand as they were placed. -/
structure Books.Fresh (b : Books) : Prop where
  ledger : b.ledger = []
  payouts : b.payouts = []
  penalties : b.penalties = []
  ids : (b.orders.map (·.id)).Nodup
  orders : ∀ o ∈ b.orders, o.Placed ∧ 0 ≤ o.commissionRate ∧ o.payoutId = none

theorem Books.Fresh.agreed (h : b.Fresh) : Agreed b.clock b where
  ids := h.ids
  rows := fun o ho => by
    obtain ⟨hplaced, hrate, -⟩ := h.orders o ho
    have hsubtotal := hplaced.subtotal_min
    exact ⟨by omega, hrate, fun c hc => by simp [hplaced.commissionXAF] at hc, fun hd => by simp [hplaced.status] at hd⟩
  opened_le := le_rfl
  stamped := by simp [h.ledger]
  mirrored := .start h.ledger h.payouts h.penalties
  told := by
    rw [h.ledger]
    exact told_other (by simp)
  sold := fun vendor window => by
    have hunsold : ∀ o ∈ b.orders, o.soldBy vendor window = true → o.commissionXAF.getD 0 = 0 ∧ o.subtotalXAF = 0 := by
      intro o ho hsold
      simp [Order.soldBy, Order.deliveredIn, (h.orders o ho).1.status] at hsold
    rw [h.ledger, commissionsXAF, subtotalsXAF, tally_eq_zero fun o ho hs => (hunsold o ho hs).1,
      tally_eq_zero fun o ho hs => (hunsold o ho hs).2]
    rfl
  fined := fun vendor window => by
    rw [h.ledger, Books.penaltiesXAF, h.penalties]
    rfl

end

/-! Runs. -/

theorem callsMachine_event {b b' : Books} {call : BooksCall} {ts : List Scheduler}
    (h : callsMachine.event b call = some (b', ts)) :
    ∃ n, call.event b = some n ∧ b' = (booksEvent b n).1 ∧ ts = (booksEvent b n).2 := by
  obtain ⟨n, hn, hev⟩ := Option.map_eq_some_iff.1 h
  exact ⟨n, hn, (Prod.mk.inj hev).1.symm, (Prod.mk.inj hev).2.symm⟩

/-- At every point of a run the two tellings agree. -/
theorem agreed_reach {ok : Guard Books Scheduler BooksCall Reply} {b₀ : Books} (h₀ : b₀.Fresh) {q : Pool Books Scheduler}
    (h : callsMachine.Reach ok ⟨b₀, []⟩ q) :
    Agreed b₀.clock q.shared ∧ ∀ t ∈ q.threads, t.positive := by
  refine h.invariant (J := fun b us => Agreed b₀.clock b ∧ ∀ t ∈ us, t.positive) ⟨h₀.agreed, by simp⟩ ?_ ?_
  · rintro b us call b' ts - ⟨hb, hus⟩ - hev
    obtain ⟨n, hn, rfl, rfl⟩ := callsMachine_event hev
    refine ⟨hb.step (event_account hb.ids hb.rows hn) (hb.mirrored.moves (booksEvent_moves b n)), fun t ht => ?_⟩
    exact (List.mem_append.1 ht).elim (booksEvent_fresh b n t) (hus t)
  · rintro b us vs t e b' ts - ⟨hb, hus⟩ - hst
    obtain ⟨t', rfl, hmove⟩ := booksMachine_step hst
    have ht : t.positive := hus t (by simp)
    refine ⟨hb.step (scheduler_account hb.rows ht hmove) (hb.mirrored.moves hmove.moves), fun u hu => ?_⟩
    rcases List.mem_append.1 hu with hu | hu
    · obtain rfl := List.mem_singleton.1 hu
      exact hmove.positive_next ht
    · exact hus u (by simp only [List.mem_append, List.mem_cons] at hu ⊢; tauto)

/-- One of the vendor's orders, from payment to delivery. -/
def servedCalls (id : OrderId) : List (Act BooksCall Reply) := [
  .event (.onPaymentSucceeded id ⟨900, some "+237677000001"⟩),
  .event (.serve id .acceptOrder),
  .event (.serve id (.assignRider 1)),
  .event (.markPickedUp id 1 1111),
  .event (.markDelivered id 1 2222)]

/-- Books of any orders that were just placed. -/
theorem fresh_of_orders {orders : List Order} (hids : (orders.map (·.id)).Nodup)
    (horders : ∀ o ∈ orders, o.Placed ∧ 0 ≤ o.commissionRate ∧ o.payoutId = none) :
    { exampleBooks with orders }.Fresh := ⟨rfl, rfl, rfl, hids, horders⟩

theorem exampleOrder_placed : exampleOrder.Placed := ⟨rfl, rfl, rfl, by decide, by decide, rfl⟩

end ChopNow
