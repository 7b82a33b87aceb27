import ChopNow.Proofs.PaidFood

/-! The vendor hears of an order once. ORDER_CREATED and acceptanceDeadlineAt are one
step of whoever finds the column empty; a booking does both for an immediate order,
a promotion for a pre-order. -/

namespace ChopNow

open Interleave

def DomainEvent.isOrderCreated : DomainEvent → Bool
  | .orderCreated .. => true
  | _ => false

/-- The ORDER_CREATED events so far. -/
def World.created (w : World) : List DomainEvent := w.emitted.filter DomainEvent.isOrderCreated

/-- What a step does about the notice: nothing, or it is the one that sends it. -/
inductive Notice (w w' : World) : Prop
  | quiet (deadline : w'.order.acceptanceDeadlineAt = w.order.acceptanceDeadlineAt) (created : w'.created = w.created)
  | sent (free : w.order.acceptanceDeadlineAt = none) (deadline : w'.order.acceptanceDeadlineAt.isSome)
      (order : Order) (created : w'.created = w.created ++ [.created order])

theorem created_append (es es' : List DomainEvent) (h : ∀ e ∈ es', e.isOrderCreated = false) :
    (es ++ es').filter DomainEvent.isOrderCreated = es.filter DomainEvent.isOrderCreated := by
  have hnil : es'.filter DomainEvent.isOrderCreated = [] := List.filter_eq_nil_iff.2 (by simpa using h)
  rw [List.filter_append, hnil, List.append_nil]

section

variable {w w' : World} {e : Reply}

theorem commitPreOrderCancel_emitted {order : Order} {note : Option String} {now : Time}
    (h : commitPreOrderCancel w order note now = .ok w') : w'.emitted = w.emitted := by
  unfold commitPreOrderCancel at h
  split at h
  · cases h
  split at h
  · cases h
  obtain ⟨-, hb⟩ := World.bookOrThrow_ok_iff.1 h
  obtain ⟨-, id, -, rfl⟩ := World.book_ok_iff.1 hb
  rfl

theorem cancelPreOrder_created {t t' : VendorCancelPreOrder} (h : t.step w e = some (w', t')) :
    w'.created = w.created := by
  cases t with
  | called vendor note =>
    cases e <;> simp only [VendorCancelPreOrder.step, Option.some.injEq, Prod.mk.injEq, reduceCtorEq] at h
    · split at h <;>
        (obtain ⟨rfl, -⟩ := Prod.mk.inj (Option.some.inj h)
         rfl)
    · obtain ⟨rfl, -⟩ := h
      rfl
  | checked order note now =>
    cases e <;> simp only [VendorCancelPreOrder.step, Option.some.injEq, Prod.mk.injEq, reduceCtorEq] at h
    · split at h
      · obtain ⟨rfl, -⟩ := Prod.mk.inj (Option.some.inj h)
        rfl
      · next w₁ hc =>
        obtain ⟨rfl, -⟩ := Prod.mk.inj (Option.some.inj h)
        simp only [World.created]
        rw [created_append _ _ (by simp [DomainEvent.isOrderCreated]), commitPreOrderCancel_emitted hc]
    · obtain ⟨rfl, -⟩ := h
      rfl
  | done result => cases e <;> simp [VendorCancelPreOrder.step] at h

/-- The calls of the order's own machine tell the vendor nothing. -/
theorem order_quiet {t t' : OrderThread} (hst : orderMachine.step w t e = some (w', [t'])) (h : OrderStep w t e w' t')
    (hpaid : ∀ t₁, t ≠ .paid t₁) : w'.order.acceptanceDeadlineAt = w.order.acceptanceDeadlineAt ∧ w'.created = w.created := by
  have hcreated : ∀ t₁, t = .cancelPreOrder t₁ → w'.created = w.created := by
    rintro t₁ rfl
    obtain ⟨⟨w₁, t₂⟩, ht, hp⟩ := Option.map_eq_some_iff.1 hst
    obtain ⟨rfl, -⟩ := Prod.mk.inj hp
    exact cancelPreOrder_created ht
  cases h with
  | paid | paidRead | paidJob => exact absurd rfl (hpaid _)
  | cancelled => exact ⟨rfl, hcreated _ rfl⟩
  | _ => exact ⟨rfl, rfl⟩

theorem announcePaid_immediate (w : World) {order : Order} (now : Time) (h : order.scheduledFor = none) :
    (w.announcePaid order now).1.order = w.order ∧
      (w.announcePaid order now).1.created = w.created ++ [.created order] := by
  simp [World.announcePaid, h, World.created, DomainEvent.isOrderCreated, DomainEvent.created]

theorem announcePaid_preOrder (w : World) {order : Order} (now : Time) (h : order.scheduledFor.isSome) :
    (w.announcePaid order now).1.order = w.order ∧ (w.announcePaid order now).1.created = w.created := by
  obtain ⟨scheduledFor, hs⟩ := Option.isSome_iff_exists.1 h
  simp [World.announcePaid, hs, World.created, DomainEvent.isOrderCreated]

/-- A booking tells the vendor of an immediate order, and of no other. -/
inductive BookingNotice (w w' : World) (order : Order) : Prop
  | quiet (deadline : w'.order.acceptanceDeadlineAt = w.order.acceptanceDeadlineAt) (created : w'.created = w.created)
  | sent (due : w.order.paymentStatus = .pending ∨ w.order.paymentStatus = .processing)
      (immediate : order.scheduledFor = none) (deadline : w'.order.acceptanceDeadlineAt.isSome)
      (created : w'.created = w.created ++ [.created order])

theorem booking_notice {payload : PaymentSucceeded} {order : Order} {now : Time} {t' : OnPaymentSucceeded}
    (h : OnPaymentSucceeded.step w (.read payload order now) .ok = some (w', t')) : BookingNotice w w' order := by
  simp only [OnPaymentSucceeded.step] at h
  split at h
  · obtain ⟨rfl, -⟩ := Prod.mk.inj (Option.some.inj h)
    exact .quiet rfl rfl
  · obtain ⟨rfl, -⟩ := Prod.mk.inj (Option.some.inj h)
    exact .quiet rfl rfl
  · next w₁ hc =>
    obtain ⟨rfl, -⟩ := Prod.mk.inj (Option.some.inj h)
    obtain ⟨hg, hb⟩ := World.bookIf_some_iff.1 hc
    obtain ⟨-, id, -, rfl⟩ := World.book_ok_iff.1 hb
    cases hs : order.scheduledFor with
    | none =>
      obtain ⟨horder, hcreated⟩ := announcePaid_immediate { w with
        order := w.order.paymentPatch order payload now
        ledger := w.ledger ++ (paymentInput order).rows id w.clock } now hs
      refine .sent (by simpa using hg) hs ?_ hcreated
      rw [horder]
      simp [Order.paymentPatch, hs]
    | some scheduledFor =>
      have hpre : order.scheduledFor.isSome := by simp [hs]
      obtain ⟨horder, hcreated⟩ := announcePaid_preOrder { w with
        order := w.order.paymentPatch order payload now
        ledger := w.ledger ++ (paymentInput order).rows id w.clock } now hpre
      refine .quiet ?_ hcreated
      rw [horder]
      simp [Order.paymentPatch, hs]

/-- What a step makes of the payment's columns: a booking pays the order up, any other
step keeps `paidAt` and sets neither PAID nor, after a booking, an open status. -/
inductive PaidColumns (w w' : World) : Prop
  | kept (paidAt : w'.order.paidAt = w.order.paidAt)
      (status : w'.order.paymentStatus = w.order.paymentStatus ∨ w'.order.paymentStatus ≠ .paid ∧
        (w.order.paidAt = none ∨ w'.order.paymentStatus ≠ .pending ∧ w'.order.paymentStatus ≠ .processing))
  | booked (paidUp : w'.PaidUp) (paidAt : w'.order.paidAt.isSome) (status : w'.order.paymentStatus = .paid)

end

/-- initiateMomo's write does not land on a booked payment. -/
def momoBeforeBooking : Guard Kitchen LifecycleThread LifecycleEvent Answer := fun k _ m =>
  match m with
  | .step (.collect (.momo (.accepted ..))) (.reply .ok) => k.world.order.paidAt = none
  | _ => True

structure NoticeInv (w : World) : Prop where
  received : w.order.paymentStatus = .paid → w.order.paidAt.isSome
  settled : w.order.paidAt.isSome → w.order.paymentStatus ≠ .pending ∧ w.order.paymentStatus ≠ .processing
  paidUp : w.order.paidAt.isSome → w.PaidUp
  deadline : w.order.acceptanceDeadlineAt.isSome → w.order.paidAt.isSome
  once : w.created.length = if w.order.acceptanceDeadlineAt.isSome then 1 else 0

/-- A promotion that goes on has seen the order paid; only the payment's own machine
books payments. -/
def NoticeLocal (w : World) : LifecycleThread → Prop
  | .promote (.checked ..) => w.order.paidAt.isSome
  | .order (.paid _) => False
  | _ => True

section

variable {k k' : Kitchen} {us ts : List LifecycleThread} {t : LifecycleThread} {a : Answer}

theorem NoticeInv.free {w : World} (h : NoticeInv w)
    (due : w.order.paymentStatus = .pending ∨ w.order.paymentStatus = .processing) :
    w.order.paidAt = none ∧ w.order.acceptanceDeadlineAt = none := by
  have hpaid : w.order.paidAt = none := by
    cases hp : w.order.paidAt with
    | none => rfl
    | some paidAt =>
      obtain ⟨hpending, hprocessing⟩ := h.settled (by simp [hp])
      exact (due.elim hpending hprocessing).elim
  refine ⟨hpaid, ?_⟩
  cases hd : w.order.acceptanceDeadlineAt with
  | none => rfl
  | some deadline => simpa [hpaid] using h.deadline (by simp [hd])

theorem decide_paymentStatus (o : Order) (now : Time) (v : Verdict) :
    (o.decide now v).paymentStatus = o.paymentStatus ∧ (o.decide now v).paidAt = o.paidAt ∧
      (o.decide now v).acceptanceDeadlineAt = o.acceptanceDeadlineAt := by
  cases v <;> exact ⟨rfl, rfl, rfl⟩

theorem move_columns (hok : momoBeforeBooking k us (.step t a)) (hc : Copied k t) (h : LifecycleMove k t a k' ts) :
    PaidColumns k.world k'.world := by
  cases h with
  | decide hd =>
    cases hd with
    | decided =>
      obtain ⟨hs, hp, -⟩ := decide_paymentStatus k.world.order _ _
      exact .kept hp (.inl hs)
    | _ => exact .kept rfl (.inl rfl)
  | expired =>
    refine .kept rfl ?_
    simp only [Order.expireForNoRider]
    split
    · exact .inr ⟨nofun, .inr ⟨nofun, nofun⟩⟩
    · exact .inl rfl
  | @order t t' e w' step ho =>
    cases ho with
    | paid due sound =>
      obtain ⟨hid, htotal, -⟩ := hc _ rfl
      exact .booked (booked_paidUp hid htotal) rfl rfl
    | cancelled | hookRefunded => exact .kept rfl (.inr ⟨nofun, .inr ⟨nofun, nofun⟩⟩)
    | fraudCompensated | fraudCancelled =>
      refine .kept rfl ?_
      simp only [Order.cancelForFraud]
      split
      · exact .inr ⟨nofun, .inr ⟨nofun, nofun⟩⟩
      · exact .inl rfl
    | _ => exact .kept rfl (.inl rfl)
  | @collect t us e w' step hcm =>
    cases hcm with
    | momoStored => exact .kept rfl (.inr ⟨nofun, .inl hok⟩)
    | hookFailed => exact .kept rfl (.inr ⟨nofun, .inr ⟨nofun, nofun⟩⟩)
    | paid hp =>
      cases hp with
      | booked due sound =>
        obtain ⟨hid, htotal, -⟩ := hc _ rfl
        exact .booked (booked_paidUp hid htotal) rfl rfl
      | _ => exact .kept rfl (.inl rfl)
    | _ => exact .kept rfl (.inl rfl)
  | _ => exact .kept rfl (.inl rfl)

theorem failing_created {w w' : World} {status : CampayStatus} {ref : Reference} {ts : List CollectThread}
    (h : collectMachine.step w (.webhook (.failing status ref)) .ok = some (w', ts)) : w'.created = w.created := by
  simp only [collectMachine, collectStep, CollectWebhook.step, Option.map_some, Option.some.injEq,
    Prod.mk.injEq] at h
  obtain ⟨rfl, -⟩ := h
  exact created_append _ _ (by simp [DomainEvent.isOrderCreated])

theorem booking_of_step {w w' : World} {payload : PaymentSucceeded} {order : Order} {now : Time}
    {ts : List CollectThread} (h : collectMachine.step w (.paid (.read payload order now)) .ok = some (w', ts)) :
    BookingNotice w w' order := by
  obtain ⟨⟨w₁, t'⟩, ht, hp⟩ := Option.map_eq_some_iff.1 h
  obtain ⟨rfl, -⟩ := Prod.mk.inj hp
  exact booking_notice ht

theorem collect_notice {w w' : World} {t : CollectThread} {ts : List CollectThread} {e : Reply} (hI : NoticeInv w)
    (hst : collectMachine.step w t e = some (w', ts)) (h : CollectMove w t e w' ts) : Notice w w' := by
  cases h with
  | hookFailed => exact .quiet rfl (failing_created hst)
  | paid hp =>
    cases hp with
    | booked =>
      cases booking_of_step hst with
      | quiet deadline created => exact .quiet deadline created
      | sent due immediate deadline created => exact .sent (hI.free due).2 deadline _ created
    | _ => exact .quiet rfl rfl
  | _ => exact .quiet rfl rfl

theorem verdict_created (order : Order) (now : Time) (v : Verdict) : (v.event order now).isOrderCreated = false := by
  cases v <;> rfl

theorem move_notice (hI : NoticeInv k.world) (hL : NoticeLocal k.world t) (h : LifecycleMove k t a k' ts) :
    Notice k.world k'.world := by
  cases h with
  | decide hd =>
    cases hd with
    | decided =>
      refine .quiet (decide_paymentStatus _ _ _).2.2 (created_append _ _ ?_)
      simp [verdict_created]
    | _ => exact .quiet rfl rfl
  | @promoted call order now t free ht =>
    refine .sent free rfl order ?_
    simp [World.created, DomainEvent.created, DomainEvent.isOrderCreated]
  | ready | expired => exact .quiet rfl (created_append _ _ (by simp [DomainEvent.isOrderCreated]))
  | @order t t' e w' step ho =>
    have hq := order_quiet step ho fun t₁ ht => by
      subst ht
      exact hL
    exact .quiet hq.1 hq.2
  | collect step hcm => exact collect_notice hI step hcm
  | _ => exact .quiet rfl rfl

/-- Only a promotion of a paid order, or a booking, sends the notice. -/
theorem move_sent (hL : NoticeLocal k.world t) (h : LifecycleMove k t a k' ts)
    (hd : k'.world.order.acceptanceDeadlineAt ≠ k.world.order.acceptanceDeadlineAt)
    (hcol : PaidColumns k.world k'.world) : k'.world.order.paidAt.isSome := by
  cases hcol with
  | booked paidUp paidAt status => exact paidAt
  | kept paidAt status =>
    rw [paidAt]
    cases h with
    | promoted => exact hL
    | @collect t us e w' step hcm =>
      cases hcm with
      | paid hp =>
        cases hp with
        | booked =>
          simp only [Order.paymentPatch] at paidAt
          simp [← paidAt]
        | _ => exact absurd rfl hd
      | _ => exact absurd rfl hd
    | @order t t' e w' step ho =>
      exact absurd (order_quiet step ho fun t₁ ht => by subst ht; exact hL).1 hd
    | decide hdec =>
      cases hdec with
      | decided => exact absurd (decide_paymentStatus _ _ _).2.2 hd
      | _ => exact absurd rfl hd
    | _ => exact absurd rfl hd

theorem NoticeInv.move (hI : NoticeInv k.world) (hL : NoticeLocal k.world t)
    (hok : momoBeforeBooking k us (.step t a)) (hc : Copied k t) (h : LifecycleMove k t a k' ts) :
    NoticeInv k'.world := by
  have hkept := move_keeps h
  have hcol := move_columns hok hc h
  have hnotice := move_notice hI hL h
  refine ⟨?_, ?_, ?_, ?_, ?_⟩
  · intro hs
    cases hcol with
    | booked paidUp paidAt status => exact paidAt
    | kept paidAt status =>
      rw [paidAt]
      rcases status with he | ⟨hne, -⟩
      · exact hI.received (he ▸ hs)
      · exact absurd hs hne
  · intro hp
    cases hcol with
    | booked paidUp paidAt status => simp [status]
    | kept paidAt status =>
      rw [paidAt] at hp
      rcases status with he | ⟨-, hnone | hne⟩
      · rw [he]
        exact hI.settled hp
      · simp [hnone] at hp
      · exact hne
  · intro hp
    cases hcol with
    | booked paidUp paidAt status => exact paidUp
    | kept paidAt status => exact hkept.paidUp (hI.paidUp (paidAt ▸ hp))
  · intro hd
    by_cases he : k'.world.order.acceptanceDeadlineAt = k.world.order.acceptanceDeadlineAt
    · have hp := hI.deadline (he ▸ hd)
      cases hcol with
      | booked paidUp paidAt status => exact paidAt
      | kept paidAt status => rwa [paidAt]
    · exact move_sent hL h he hcol
  · cases hnotice with
    | quiet deadline created => rw [created, deadline, hI.once]
    | sent free deadline order created =>
      have honce := hI.once
      simp only [free, Option.isSome_none, Bool.false_eq_true, ↓reduceIte] at honce
      simp [created, deadline, honce]

/-- The order's own machine does not start a payment. -/
theorem orderStep_kind {w w' : World} {t t' : OrderThread} {e : Reply}
    (h : orderMachine.step w t e = some (w', [t'])) (hpaid : ∀ t₁, t ≠ .paid t₁) (t₁ : OnPaymentSucceeded) :
    t' ≠ .paid t₁ := by
  cases t with
  | paid t => exact absurd rfl (hpaid t)
  | _ =>
    obtain ⟨⟨w₁, t₂⟩, ht, hp⟩ := Option.map_eq_some_iff.1 h
    simp only [Prod.mk.injEq, List.cons.injEq, and_true] at hp
    simp [← hp.2]

theorem NoticeLocal.keep {u : LifecycleThread} {w w' : World} (h : NoticeLocal w u)
    (hp : w.order.paidAt.isSome → w'.order.paidAt.isSome) : NoticeLocal w' u := by
  unfold NoticeLocal at h ⊢
  split <;> simp_all

theorem move_local (hI : NoticeInv k.world) (hL : NoticeLocal k.world t) (h : LifecycleMove k t a k' ts) :
    ∀ t' ∈ ts, NoticeLocal k.world t' := by
  cases h with
  | @decide call point point' e w' hd =>
    intro t' ht
    rcases List.mem_cons.1 ht with rfl | ht
    · trivial
    · obtain rfl := mem_listeners ht
      trivial
  | @promoteChecked call helig =>
    simp only [List.mem_singleton, forall_eq]
    refine hI.received ?_
    cases call <;> simp_all [PromotionCall.eligible]
  | @promoted call order now t free ht => rcases ht with rfl | rfl <;> simp [NoticeLocal]
  | @order t t' e w' step ho =>
    simp only [List.mem_singleton, forall_eq]
    have hkind := orderStep_kind step fun t₁ ht => by
      subst ht
      exact hL
    cases t' with
    | paid t₁ => exact absurd rfl (hkind t₁)
    | _ => trivial
  | collect step hcm =>
    intro t' ht
    obtain ⟨u, -, rfl⟩ := List.mem_map.1 ht
    trivial
  | _ => simp [NoticeLocal]

theorem arrival_local {w : World} {n : LifecycleEvent} (h : LifecycleArrival k n k' ts) :
    ∀ t ∈ ts, NoticeLocal w t := by
  cases h with
  | @call n t hcall =>
    simp only [List.mem_singleton, forall_eq]
    unfold LifecycleThread.isCall at hcall
    split at hcall <;> trivial
  | _ => simp [NoticeLocal]

theorem NoticeInv.arrival {n : LifecycleEvent} (hI : NoticeInv k.world) (h : LifecycleArrival k n k' ts) :
    NoticeInv k'.world := by
  have hkept := arrival_keeps h
  cases h <;> exact ⟨hI.received, hI.settled, fun hp => hkept.paidUp (hI.paidUp hp), hI.deadline, hI.once⟩

theorem notice_reach {order : Order} (h₀ : order.Fresh) {items : List OrderItem} {q : Pool Kitchen LifecycleThread}
    (h : lifecycleMachine.Reach momoBeforeBooking ⟨.start order items, []⟩ q) :
    NoticeInv q.shared.world ∧ ∀ t ∈ q.threads, NoticeLocal q.shared.world t := by
  refine h.stable (I := fun k => NoticeInv k.world) (L := fun k => NoticeLocal k.world) ?_ (by simp) ?_ ?_
  · have hp : (Kitchen.start order items).world.order.paidAt = none := h₀.paidAt
    have hd : (Kitchen.start order items).world.order.acceptanceDeadlineAt = none := h₀.acceptanceDeadlineAt
    have hs : (Kitchen.start order items).world.order.paymentStatus = .pending := h₀.paymentStatus
    exact ⟨by simp [hs], by simp [hp], by simp [hp], by simp [hd], by rw [hd]; rfl⟩
  · intro k us n k' ts _ hI _ hev
    have ha := lifecycleEvent_cases hev
    exact ⟨hI.arrival ha, arrival_local ha, fun _ hL => hL.keep fun hp => (arrival_order ha) ▸ hp⟩
  · intro k us vs t a k' ts hr hI hL hok hst
    have hm := lifecycleStep_cases hst
    have hc := (copied_reach hr).2 t (by simp)
    have hp : k.world.order.paidAt.isSome → k'.world.order.paidAt.isSome := fun hp => by
      cases move_columns hok hc hm with
      | kept paidAt _ => rwa [paidAt]
      | booked _ paidAt _ => exact paidAt
    exact ⟨hI.move hL hok hc hm, fun u hu => (move_local hI hL hm u hu).keep hp, fun _ hu => hu.keep hp⟩

end

/-- The vendor has heard of the order at most once, after it was paid; and so it
stays with the next step of any call. -/
structure NotifiedOnce (q : Pool Kitchen LifecycleThread) : Prop where
  once : q.shared.world.created.length = if q.shared.world.order.acceptanceDeadlineAt.isSome then 1 else 0
  paid : q.shared.world.order.acceptanceDeadlineAt.isSome → q.shared.world.PaidUp
  notice : ∀ t ∈ q.threads, ∀ a k' ts, lifecycleMachine.step q.shared t a = some (k', ts) →
    Notice q.shared.world k'.world
  preOrder : q.shared.world.order.scheduledFor.isSome → ∀ t, .collect (.paid t) ∈ q.threads → ∀ a k' ts,
    lifecycleMachine.step q.shared (.collect (.paid t)) a = some (k', ts) →
    k'.world.order.acceptanceDeadlineAt = q.shared.world.order.acceptanceDeadlineAt ∧
      k'.world.created = q.shared.world.created

/-- A payment thread's step on a pre-order. -/
theorem preOrder_quiet {k k' : Kitchen} {t : OnPaymentSucceeded} {a : Answer} {ts : List LifecycleThread}
    (hc : Copied k (.collect (.paid t))) (hpre : k.world.order.scheduledFor.isSome)
    (h : LifecycleMove k (.collect (.paid t)) a k' ts) :
    k'.world.order.acceptanceDeadlineAt = k.world.order.acceptanceDeadlineAt ∧
      k'.world.created = k.world.created := by
  cases h with
  | collect step hcm =>
    cases hcm with
    | paid hp =>
      cases hp with
      | booked =>
        cases booking_of_step step with
        | quiet deadline created => exact ⟨deadline, created⟩
        | sent due immediate deadline created =>
          obtain ⟨-, -, hs⟩ := hc _ rfl
          simp [← hs, immediate] at hpre
      | _ => exact ⟨rfl, rfl⟩

theorem vendor_notified_once {order : Order} (h₀ : order.Fresh) {items : List OrderItem}
    {q : Pool Kitchen LifecycleThread}
    (h : lifecycleMachine.Reach momoBeforeBooking ⟨.start order items, []⟩ q) : NotifiedOnce q := by
  obtain ⟨hI, hL⟩ := notice_reach h₀ h
  have hcopied := (copied_reach h).2
  exact {
    once := hI.once
    paid := fun hd => hI.paidUp (hI.deadline hd)
    notice := fun t ht a k' ts hst => move_notice hI (hL t ht) (lifecycleStep_cases hst)
    preOrder := fun hpre t ht a k' ts hst => preOrder_quiet (hcopied _ ht) hpre (lifecycleStep_cases hst) }

def momoBeforeBookingB (k : Kitchen) (_ : List LifecycleThread) (m : Move LifecycleThread LifecycleEvent Answer) :
    Bool :=
  match m with
  | .step (.collect (.momo (.accepted ..))) (.reply .ok) => k.world.order.paidAt.isNone
  | _ => true

/-- A pre-order that the queue and the cron both find due. -/
theorem promoted_twice_notified_once :
    ∃ q, lifecycleMachine.Reach momoBeforeBooking ⟨.start { exampleOrder with scheduledFor := some 7200000 } [], []⟩ q ∧
      q.shared.world.order.acceptanceDeadlineAt.isSome ∧ NotifiedOnce q := by
  obtain ⟨q, hq, ht⟩ := Machine.reach_of_test lifecycleMachine momoBeforeBooking momoBeforeBookingB
    (fun k us m hm => by
      unfold momoBeforeBookingB at hm
      unfold momoBeforeBooking
      split at hm <;> simp_all)
    ⟨.start { exampleOrder with scheduledFor := some 7200000 } [], []⟩
    (payingExample ++ examplePaid ++ [.event (.tick 3600000), .event .promotePreOrder, .event .promotionSweep,
      .step 0 (.reply .ok), .step 1 (.reply .ok), .step 0 (.reply .ok), .step 1 (.reply .ok)])
    (fun q => q.shared.world.order.acceptanceDeadlineAt.isSome && q.threads.length == 5) (by decide +kernel)
  simp only [Bool.and_eq_true] at ht
  exact ⟨q, hq, ht.1, vendor_notified_once (exampleOrder_fresh.scheduled 7200000) hq⟩

end ChopNow
