import ChopNow.Proofs.CheckoutStep

/-! One order for one key: the lookup and the insert are two steps, and a call that has looked
the key up in vain before another call commits it can only fail. -/

namespace ChopNow

open Interleave Transaction

variable {db db' : CreationDb} {order o : Order} {couponCode : Option String} {s s' : Checkout} {userId : UserId}
  {idempotencyKey : String}

def Order.keyed (userId : UserId) (idempotencyKey : String) (o : Order) : Bool :=
  o.userId == userId && o.idempotencyKey == some idempotencyKey

def CreationDb.keyed (db : CreationDb) (userId : UserId) (idempotencyKey : String) : Bool :=
  db.orders.any (·.keyed userId idempotencyKey)

/-- The call has looked for its order, and there was none. -/
def CreateOrder.pastLookup (userId : UserId) (idempotencyKey : String) : CreateOrder → Bool
  | .unkeyed user _ key | .served user _ key _ | .priced user _ key _ _ => user == userId && key == some idempotencyKey
  | .drafted order _ => order.keyed userId idempotencyKey
  | .called .. | .done _ => false

/-- A call of the user with the key that has no answer yet. -/
def CreateOrder.calledWith (userId : UserId) (idempotencyKey : String) : CreateOrder → Bool
  | .called user _ key => user == userId && key == some idempotencyKey
  | t => t.pastLookup userId idempotencyKey

def CheckoutThread.pastLookup (userId : UserId) (idempotencyKey : String) : CheckoutThread → Bool
  | .create t => t.pastLookup userId idempotencyKey
  | .book _ => false

/-- The connection holds. -/
def CheckoutReply.heard : CheckoutReply → Bool
  | .ok | .measured .. => true
  | .lost _ | .unheard | .fail => false

/-- The move commits the order of the key. -/
def commitsKey (userId : UserId) (idempotencyKey : String) (s : Checkout) :
    Move CheckoutThread CheckoutEvent CheckoutReply → Bool
  | .event _ => false
  | .step t e => !s.db.keyed userId idempotencyKey &&
    (checkoutStep s t e).any fun r => r.1.db.keyed userId idempotencyKey

/-- When the order of the key is committed, no other call with the key is past its lookup. -/
def noneBehind (userId : UserId) (idempotencyKey : String) : Guard Checkout CheckoutThread CheckoutEvent CheckoutReply :=
  fun s us m => commitsKey userId idempotencyKey s m = true → ∀ t ∈ us, t.pastLookup userId idempotencyKey = false

/-- At most one order has the key; and where one has it, a call that gets an answer gets that order. -/
structure SameOrderBack (userId : UserId) (idempotencyKey : String) (s : Checkout) (us : List CheckoutThread) : Prop where
  once : s.db.orders.countP (·.keyed userId idempotencyKey) ≤ 1
  back : ∀ t e s' result, .create t ∈ us → t.calledWith userId idempotencyKey = true → e.heard = true →
    t.step s e = some (s', .done result) → ∀ o ∈ s'.db.orders, o.keyed userId idempotencyKey = true → result = .ok o

/-! The rows with the key. -/

theorem keyed_iff : db.keyed userId idempotencyKey = true ↔ 0 < db.orders.countP (·.keyed userId idempotencyKey) := by
  rw [CreationDb.keyed, List.any_eq_true, List.countP_pos_iff]

theorem Order.not_keyed_of_clashes (h : o.clashes order = false) (hkeyed : order.keyed userId idempotencyKey = true) :
    o.keyed userId idempotencyKey = false := by
  simp only [Order.keyed, Bool.and_eq_true, beq_iff_eq] at hkeyed
  obtain ⟨rfl, hkey⟩ := hkeyed
  simp only [Order.clashes, hkey, Option.isSome_some, Bool.and_true, Bool.or_eq_false_iff] at h
  exact h.2

theorem keyed_write {id : OrderId} {f : Order → Order}
    (hf : ∀ o, (f o).userId = o.userId ∧ (f o).idempotencyKey = o.idempotencyKey) :
    (db.write id f).orders.countP (·.keyed userId idempotencyKey) =
      db.orders.countP (·.keyed userId idempotencyKey) := by
  simp only [CreationDb.write, List.countP_map]
  congr 1
  funext o
  simp only [Function.comp, Order.keyed]
  split
  · rw [(hf o).1, (hf o).2]
  · rfl

theorem Commits.keyed_row {now : Time} (h : Commits db order couponCode now db' o) (userId : UserId)
    (idempotencyKey : String) :
    db'.orders = db.orders ++ [o] ∧ o.keyed userId idempotencyKey = order.keyed userId idempotencyKey := by
  cases h <;> exact ⟨rfl, rfl⟩

/-- The insert is the first with its key. -/
theorem CommitStep.keyed_once (h : CommitStep s s' order couponCode o)
    (hkeyed : order.keyed userId idempotencyKey = true) :
    s.db.orders.countP (·.keyed userId idempotencyKey) = 0 ∧
      s'.db.orders.countP (·.keyed userId idempotencyKey) = 1 := by
  have hnone : s.db.orders.countP (·.keyed userId idempotencyKey) = 0 := by
    rw [List.countP_eq_zero]
    intro row hrow
    simp [Order.not_keyed_of_clashes (h.free row hrow) hkeyed]
  obtain ⟨horders, hrow⟩ := h.commits.keyed_row userId idempotencyKey
  rw [horders, List.countP_append, hnone, List.countP_singleton, hrow, hkeyed]
  exact ⟨rfl, rfl⟩

theorem CommitStep.keyed_same (h : CommitStep s s' order couponCode o)
    (hkeyed : order.keyed userId idempotencyKey = false) :
    s'.db.orders.countP (·.keyed userId idempotencyKey) = s.db.orders.countP (·.keyed userId idempotencyKey) := by
  obtain ⟨horders, hrow⟩ := h.commits.keyed_row userId idempotencyKey
  rw [horders, List.countP_append, List.countP_singleton, hrow, hkeyed]
  rfl

/-- What a step does to the rows with the key: nothing, or it commits the first. -/
theorem checkoutStep_keyed {t t' : CheckoutThread} {e : CheckoutReply} (h : checkoutStep s t e = some (s', t'))
    (userId : UserId) (idempotencyKey : String) :
    s'.db.orders.countP (·.keyed userId idempotencyKey) = s.db.orders.countP (·.keyed userId idempotencyKey) ∨
      s.db.orders.countP (·.keyed userId idempotencyKey) = 0 ∧
        s'.db.orders.countP (·.keyed userId idempotencyKey) = 1 ∧ ∃ result, t' = .create (.done result) := by
  cases t with
  | create t =>
    obtain ⟨⟨s'', t''⟩, ht, heq⟩ := Option.map_eq_some_iff.1 h
    obtain ⟨rfl, rfl⟩ := Prod.mk.inj heq
    by_cases hnot : ∀ order couponCode, t ≠ .drafted order couponCode
    · rw [(undrafted_step ht hnot).1]
      exact .inl rfl
    · push Not at hnot
      obtain ⟨order, couponCode, rfl⟩ := hnot
      rcases drafted_step ht with ⟨rfl, -⟩ | ⟨o, hcommit, hdone⟩
      · exact .inl rfl
      · cases hkeyed : order.keyed userId idempotencyKey with
        | false => exact .inl (hcommit.keyed_same hkeyed)
        | true =>
          obtain ⟨hnone, hone⟩ := hcommit.keyed_once hkeyed
          refine .inr ⟨hnone, hone, ?_⟩
          rcases hdone with rfl | ⟨-, rfl⟩
          · exact ⟨_, rfl⟩
          · exact ⟨_, rfl⟩
  | book t =>
    obtain ⟨⟨s'', t''⟩, ht, heq⟩ := Option.map_eq_some_iff.1 h
    obtain ⟨rfl, rfl⟩ := Prod.mk.inj heq
    rcases book_step ht with ⟨rfl, -⟩ | ⟨order, payload, now, rfl, rfl, rfl, hbook⟩
    · exact .inl rfl
    · rw [hbook.db]
      exact .inl (keyed_write fun o => ⟨rfl, rfl⟩)

theorem checkoutEvent_keyed (s : Checkout) (n : CheckoutEvent) (userId : UserId) (idempotencyKey : String) :
    (checkoutEvent s n).1.db.orders.countP (·.keyed userId idempotencyKey) =
        s.db.orders.countP (·.keyed userId idempotencyKey) ∧
      ∀ t ∈ (checkoutEvent s n).2, t.pastLookup userId idempotencyKey = false := by
  cases n with
  | tick => exact ⟨rfl, by simp [checkoutEvent]⟩
  | createOrder => exact ⟨rfl, by simp [checkoutEvent, CheckoutThread.pastLookup, CreateOrder.pastLookup]⟩
  | paymentSucceeded => exact ⟨rfl, by simp [checkoutEvent, CheckoutThread.pastLookup]⟩
  | menu => exact ⟨rfl, by simp [checkoutEvent]⟩
  | elsewhere columns => exact ⟨keyed_write fun o => ⟨rfl, rfl⟩, by simp [checkoutEvent]⟩

/-! The calls. -/

/-- A call gets past its lookup only while the key has no order. -/
theorem pastLookup_step {t t' : CreateOrder} {e : CheckoutReply} (hkey : idempotencyKey ≠ "")
    (h : t.step s e = some (s', t')) (hpast : t'.pastLookup userId idempotencyKey = true) :
    t.pastLookup userId idempotencyKey = true ∨ s.db.keyed userId idempotencyKey = false := by
  unfold CreateOrder.step at h
  split at h
  · next user dto key =>
    split at h
    · obtain ⟨rfl, rfl⟩ := Prod.mk.inj (Option.some.inj h)
      cases hpast
    · next hfind =>
      obtain ⟨rfl, rfl⟩ := Prod.mk.inj (Option.some.inj h)
      simp only [CreateOrder.pastLookup, Bool.and_eq_true, beq_iff_eq] at hpast
      obtain ⟨rfl, rfl⟩ := hpast
      refine .inr (List.any_eq_false.2 fun o ho hkeyed => List.find?_eq_none.1 hfind o ho ?_)
      simp only [Order.keyed, Bool.and_eq_true, beq_iff_eq] at hkeyed
      simp [hkeyed.1, hkeyed.2, givenKey, hkey]
  · split at h <;> obtain ⟨rfl, rfl⟩ := Prod.mk.inj (Option.some.inj h)
    · cases hpast
    · exact .inl hpast
  · split at h <;> obtain ⟨rfl, rfl⟩ := Prod.mk.inj (Option.some.inj h)
    · cases hpast
    · exact .inl hpast
  · split at h <;> obtain ⟨rfl, rfl⟩ := Prod.mk.inj (Option.some.inj h)
    · cases hpast
    · next hdraft =>
      obtain rfl := draftOrder_eq hdraft
      exact .inl hpast
  all_goals
    first
    | obtain ⟨rfl, rfl⟩ := Prod.mk.inj (Option.some.inj h)
      cases hpast
    | cases h

/-- A call that ends with an order has found it or committed it. -/
theorem create_ok {t : CreateOrder} {e : CheckoutReply} (h : t.step s e = some (s', .done (.ok o))) :
    (∃ user dto key, t = .called user dto key ∧ s.db.orders.find? (fun o => o.userId == user && givenKey key &&
      o.idempotencyKey == key) = some o) ∨
    ∃ order couponCode, t = .drafted order couponCode ∧ CommitStep s s' order couponCode o := by
  cases t with
  | drafted order couponCode =>
    rcases drafted_step h with ⟨-, err, herr⟩ | ⟨o', hcommit, hdone | ⟨-, hdone⟩⟩
    · cases herr
    · cases hdone
      exact .inr ⟨order, couponCode, rfl, hcommit⟩
    · cases hdone
  | called user dto key =>
    cases e with
    | ok =>
      simp only [CreateOrder.step] at h
      split at h
      · next existing hfind =>
        cases h
        exact .inl ⟨user, dto, key, rfl, hfind⟩
      · cases h
    | _ => cases h
  | unkeyed user dto key =>
    cases e with
    | ok =>
      simp only [CreateOrder.step] at h
      split at h <;> cases h
    | _ => cases h
  | served user dto key vendor =>
    cases e with
    | ok =>
      simp only [CreateOrder.step] at h
      split at h <;> cases h
    | _ => cases h
  | priced user dto key vendor subtotalXAF =>
    cases e with
    | measured distance_m seed =>
      simp only [CreateOrder.step] at h
      split at h <;> cases h
    | _ => cases h
  | done result => cases e <;> cases h

/-- A call that is past its lookup when its key has an order, and a call with an empty key,
never gets that order. -/
theorem latecomer_fails {t : CreateOrder} {e : CheckoutReply} (hdb : s.db.keyed userId idempotencyKey = true)
    (ht : t.calledWith userId idempotencyKey = true)
    (hlate : t.pastLookup userId idempotencyKey = true ∨ idempotencyKey = "") :
    t.step s e ≠ some (s', .done (.ok o)) := by
  intro h
  rcases create_ok h with ⟨user, dto, key, rfl, hfind⟩ | ⟨order, couponCode, rfl, hcommit⟩
  · simp only [CreateOrder.calledWith, Bool.and_eq_true, beq_iff_eq] at ht
    rcases hlate with hpast | rfl
    · cases hpast
    · have hgiven := List.find?_some hfind
      simp [ht.2, givenKey] at hgiven
  · have hpos := keyed_iff.1 hdb
    rw [(hcommit.keyed_once ht).1] at hpos
    exact absurd hpos (Nat.lt_irrefl 0)

/-! Runs. -/

/-- Once the key has its order, no call is past its lookup. -/
structure Keyed (userId : UserId) (idempotencyKey : String) (s : Checkout) (us : List CheckoutThread) : Prop where
  once : s.db.orders.countP (·.keyed userId idempotencyKey) ≤ 1
  looking : s.db.keyed userId idempotencyKey = true → ∀ t ∈ us, t.pastLookup userId idempotencyKey = false

theorem keyed_congr (h : s'.db.orders.countP (·.keyed userId idempotencyKey) =
    s.db.orders.countP (·.keyed userId idempotencyKey)) :
    s'.db.keyed userId idempotencyKey = s.db.keyed userId idempotencyKey := by
  rw [Bool.eq_iff_iff, keyed_iff, keyed_iff, h]

theorem Keyed.event {us : List CheckoutThread} (h : Keyed userId idempotencyKey s us) (n : CheckoutEvent) :
    Keyed userId idempotencyKey (checkoutEvent s n).1 ((checkoutEvent s n).2 ++ us) := by
  obtain ⟨hcount, hnew⟩ := checkoutEvent_keyed s n userId idempotencyKey
  refine ⟨hcount ▸ h.once, fun hdb t ht => ?_⟩
  rw [keyed_congr hcount] at hdb
  rcases List.mem_append.1 ht with ht | ht
  · exact hnew t ht
  · exact h.looking hdb t ht

theorem Keyed.step {us vs : List CheckoutThread} {t t' : CheckoutThread} {e : CheckoutReply} (hkey : idempotencyKey ≠ "")
    (h : Keyed userId idempotencyKey s (us ++ t :: vs)) (hok : noneBehind userId idempotencyKey s (us ++ vs) (.step t e))
    (hst : checkoutStep s t e = some (s', t')) : Keyed userId idempotencyKey s' (t' :: (us ++ vs)) := by
  rcases checkoutStep_keyed hst userId idempotencyKey with hcount | ⟨hnone, hone, result, rfl⟩
  · refine ⟨hcount ▸ h.once, fun hdb u hu => ?_⟩
    rw [keyed_congr hcount] at hdb
    have hall := forall_middle.1 (h.looking hdb)
    rcases List.mem_cons.1 hu with rfl | hu
    · by_contra hpast
      have hpast' : u.pastLookup userId idempotencyKey = true := by simpa using hpast
      cases t with
      | create t =>
        obtain ⟨⟨s'', t''⟩, ht, heq⟩ := Option.map_eq_some_iff.1 hst
        obtain ⟨rfl, rfl⟩ := Prod.mk.inj heq
        rcases pastLookup_step hkey ht hpast' with hpast | hno
        · exact absurd (hall.1.symm.trans hpast) Bool.false_ne_true
        · exact absurd (hno.symm.trans hdb) Bool.false_ne_true
      | book t =>
        obtain ⟨⟨s'', t''⟩, ht, heq⟩ := Option.map_eq_some_iff.1 hst
        obtain ⟨rfl, rfl⟩ := Prod.mk.inj heq
        cases hpast'
    · exact hall.2 u hu
  · refine ⟨hone.le, fun hdb u hu => ?_⟩
    have hcommits : commitsKey userId idempotencyKey s (.step t e) = true := by
      have hbefore : s.db.keyed userId idempotencyKey = false := by
        rw [← Bool.not_eq_true, keyed_iff, hnone]
        exact Nat.lt_irrefl 0
      simp [commitsKey, hbefore, hst, hdb]
    rcases List.mem_cons.1 hu with rfl | hu
    · rfl
    · exact hok hcommits u hu

/-- What a call answers, where no call is past its lookup once the key has its order. -/
theorem Keyed.answer {us : List CheckoutThread} {t : CreateOrder} {e : CheckoutReply} {result : Except CheckoutError Order}
    (h : Keyed userId idempotencyKey s us) (ht : .create t ∈ us)
    (hcalled : t.calledWith userId idempotencyKey = true) (hheard : e.heard = true)
    (hst : t.step s e = some (s', .done result)) (hdb : s'.db.keyed userId idempotencyKey = true) :
    ∃ o ∈ s'.db.orders, o.keyed userId idempotencyKey = true ∧ result = .ok o := by
  by_cases hnot : ∀ order couponCode, t ≠ .drafted order couponCode
  · obtain rfl := (undrafted_step hst hnot).1
    have hlooking : t.pastLookup userId idempotencyKey = false := h.looking hdb _ ht
    cases t with
    | called user dto key =>
      simp only [CreateOrder.calledWith, Bool.and_eq_true, beq_iff_eq] at hcalled
      obtain ⟨rfl, rfl⟩ := hcalled
      cases e with
      | ok =>
        simp only [CreateOrder.step] at hst
        split at hst
        · next o hfind =>
          cases hst
          have hfound := List.find?_some hfind
          simp only [Bool.and_eq_true, beq_iff_eq] at hfound
          exact ⟨o, List.mem_of_find?_eq_some hfind, by simp [Order.keyed, hfound.1.1, hfound.2], rfl⟩
        · cases hst
      | measured distance_m seed => cases hst
      | _ => cases hheard
    | drafted order couponCode => exact absurd rfl (hnot order couponCode)
    | _ => exact absurd (hlooking.symm.trans hcalled) Bool.false_ne_true
  · push Not at hnot
    obtain ⟨order, couponCode, rfl⟩ := hnot
    rcases drafted_step hst with ⟨rfl, -⟩ | ⟨o, hcommit, hdone | ⟨rfl, -⟩⟩
    · exact absurd ((h.looking hdb _ ht).symm.trans hcalled) Bool.false_ne_true
    · obtain ⟨horders, hrow⟩ := hcommit.commits.keyed_row userId idempotencyKey
      cases hdone
      exact ⟨o, by simp [horders], hrow.trans hcalled, rfl⟩
    · cases hheard

theorem Keyed.sameOrderBack {us : List CheckoutThread} (h : Keyed userId idempotencyKey s us) :
    SameOrderBack userId idempotencyKey s us := by
  refine ⟨h.once, fun t e s' result ht hcalled hheard hst o ho hkeyed => ?_⟩
  have hstep : checkoutStep s (.create t) e = some (s', .create (.done result)) := by
    simp [checkoutStep, hst]
  have honce : s'.db.orders.countP (·.keyed userId idempotencyKey) ≤ 1 := by
    rcases checkoutStep_keyed hstep userId idempotencyKey with hcount | ⟨-, hone, -⟩
    · exact hcount ▸ h.once
    · exact hone.le
  obtain ⟨o', ho', hkeyed', rfl⟩ :=
    h.answer ht hcalled hheard hst (List.any_eq_true.2 ⟨o, ho, hkeyed⟩)
  rw [Table.eq_of_countP_le_one honce ho' hkeyed' ho hkeyed]

/-- Where no call is past its lookup when another commits their key, and the key is not empty,
the order is the only one and every further call gets it. A call that is, or whose key is empty,
never gets it, in no state. -/
theorem same_order_back {vendors : List Vendor} {items : List Item} {coupons : List Coupon} {s : Checkout}
    {us : List CheckoutThread} {userId : UserId} {idempotencyKey : String}
    (hr : checkoutMachine.Reach (noneBehind userId idempotencyKey) ⟨.start vendors items coupons, []⟩ ⟨s, us⟩) :
    (idempotencyKey ≠ "" → SameOrderBack userId idempotencyKey s us) ∧
      ∀ (s s' : Checkout) (t : CreateOrder) (e : CheckoutReply) (o : Order),
        s.db.keyed userId idempotencyKey = true → t.calledWith userId idempotencyKey = true →
        t.pastLookup userId idempotencyKey = true ∨ idempotencyKey = "" → t.step s e ≠ some (s', .done (.ok o)) := by
  refine ⟨fun hkey => ?_, fun s s' t e o hdb ht hlate => latecomer_fails hdb ht hlate⟩
  have hkeyed : Keyed userId idempotencyKey s us := by
    refine hr.invariant (J := Keyed userId idempotencyKey) ⟨by simp [Checkout.start], fun _ t ht => by cases ht⟩ ?_ ?_
    · intro s us n s' ts _ hs _ hev
      obtain ⟨rfl, rfl⟩ := Prod.mk.inj (Option.some.inj hev)
      exact hs.event n
    · intro s us vs t e s' ts _ hs hok hst
      obtain ⟨⟨s'', t'⟩, ht, heq⟩ := Option.map_eq_some_iff.1 hst
      obtain ⟨rfl, rfl⟩ := Prod.mk.inj heq
      have hnext := hs.step hkey hok ht
      exact hnext
  exact hkeyed.sameOrderBack

/-- The newest call's next step ends it with an error, though the key has its order. -/
def failsNext (userId : UserId) (idempotencyKey : String) (q : Pool Checkout CheckoutThread) : Bool :=
  match q.threads with
  | .create t :: _ => t.calledWith userId idempotencyKey && (t.step q.shared .ok).any fun r =>
    match r.2 with
    | .done (.error _) => r.1.db.keyed userId idempotencyKey
    | _ => false
  | _ => false

theorem not_back_of_failsNext {q : Pool Checkout CheckoutThread} (h : failsNext userId idempotencyKey q = true) :
    ¬SameOrderBack userId idempotencyKey q.shared q.threads := by
  intro hback
  unfold failsNext at h
  split at h
  · next t rest hthreads =>
    obtain ⟨hcalled, hany⟩ := Bool.and_eq_true_iff.1 h
    obtain ⟨⟨s', t'⟩, hst, hdone⟩ := Option.any_eq_true _ _ |>.1 hany
    split at hdone
    · next err herr =>
      obtain rfl : t' = .done (.error err) := herr
      obtain ⟨o, ho, hkeyed⟩ := List.any_eq_true.1 hdone
      cases hback.back t .ok s' _ (by simp [hthreads]) hcalled rfl hst o ho hkeyed
    · cases hdone
  · cases h

/-- User 1 taps, and taps again before the first call is through. -/
def doubleTap : List (Act CheckoutEvent CheckoutReply) :=
  [.event (.createOrder 1 (shopCart none) (some "tap")), .step 0 .ok,
    .event (.createOrder 1 (shopCart none) (some "tap")), .step 0 .ok, .step 0 .ok, .step 0 .ok,
    .step 0 (.measured 7500 ⟨1, 101, 1111, 2222⟩), .step 0 .ok,
    .step 1 .ok, .step 0 .ok, .step 0 (.measured 7500 ⟨2, 102, 1111, 2222⟩)]

/-- The insert of the slower call meets the unique key. -/
theorem second_tap_fails :
    ¬ ∀ (vendors : List Vendor) (items : List Item) (coupons : List Coupon) (userId : UserId) (idempotencyKey : String)
      (s : Checkout) (us : List CheckoutThread), idempotencyKey ≠ "" →
      checkoutMachine.Reach anyMove ⟨.start vendors items coupons, []⟩ ⟨s, us⟩ →
      SameOrderBack userId idempotencyKey s us := by
  intro h
  obtain ⟨⟨s, us⟩, hreach, htest⟩ := Machine.reach_of_test checkoutMachine anyMove (fun _ _ _ => true)
    (fun _ _ _ _ => trivial) ⟨shopStart, []⟩ doubleTap (failsNext 1 "tap") (by decide +kernel)
  exact not_back_of_failsNext htest (h _ _ _ 1 "tap" s us (by decide) hreach)

def noneBehindB (userId : UserId) (idempotencyKey : String) (s : Checkout) (us : List CheckoutThread)
    (m : Move CheckoutThread CheckoutEvent CheckoutReply) : Bool :=
  !commitsKey userId idempotencyKey s m || us.all fun t => !t.pastLookup userId idempotencyKey

theorem noneBehind_of_bool (s : Checkout) (us : List CheckoutThread)
    (m : Move CheckoutThread CheckoutEvent CheckoutReply) (h : noneBehindB userId idempotencyKey s us m = true) :
    noneBehind userId idempotencyKey s us m := by
  intro hcommits t ht
  simp only [noneBehindB, hcommits, Bool.not_true, Bool.false_or, List.all_eq_true] at h
  simpa using h t ht

/-- The retry comes when the order is there. -/
theorem late_tap_served :
    ∃ s us, checkoutMachine.Reach (noneBehind 1 "tap") ⟨shopStart, []⟩ ⟨s, us⟩ ∧ SameOrderBack 1 "tap" s us ∧
      s.db.keyed 1 "tap" = true ∧ .create (.called 1 (shopCart none) (some "tap")) ∈ us := by
  obtain ⟨⟨s, us⟩, hreach, htest⟩ := Machine.reach_of_test checkoutMachine (noneBehind 1 "tap") (noneBehindB 1 "tap")
    noneBehind_of_bool ⟨shopStart, []⟩
    [.event (.createOrder 1 (shopCart none) (some "tap")), .step 0 .ok, .step 0 .ok, .step 0 .ok,
      .step 0 (.measured 7500 ⟨1, 101, 1111, 2222⟩), .step 0 .ok]
    (fun q => q.shared.db.keyed 1 "tap") (by decide +kernel)
  have hretry := hreach.event (n := .createOrder 1 (shopCart none) (some "tap")) (fun hcommits => by cases hcommits) rfl
  exact ⟨s, _, hretry, (same_order_back hretry).1 (by decide), htest, .head _⟩

end ChopNow
