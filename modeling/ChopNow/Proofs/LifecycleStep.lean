import ChopNow.Spec.Lifecycle
import ChopNow.Proofs.CollectStep

/-! What one step of the lifecycle can do: the decisions, the kitchen, promotions and
dispatch; the steps of the order's and the payment's own machines are those of
OrderStep and CollectStep. -/

namespace ChopNow

open Interleave

/-- The steps of a call that decides a waiting order. -/
inductive DecisionStep (w : World) (call : DecisionCall) : DecisionPoint → Reply → World → DecisionPoint → Prop
  | rejected {started err} (h : call.check w.order started = .error err) :
      DecisionStep w call (.called started) .ok w (.done none (.error err))
  | skipped {started} (h : call.check w.order started = .ok false) :
      DecisionStep w call (.called started) .ok w (.done none (.ok ()))
  | checked {started} (h : call.check w.order started = .ok true) :
      DecisionStep w call (.called started) .ok w (.checked w.order (call.stamp started w.clock))
  | decided {order now} (awaits : w.order.awaitsDecision = true) :
      DecisionStep w call (.checked order now) .ok
        { w with
          order := w.order.decide now call.verdict
          emitted := w.emitted ++ [call.verdict.event order now] }
        (call.written order now)
  | raced {order now} (late : w.order.awaitsDecision = false) :
      DecisionStep w call (.checked order now) .ok w (.done none call.raced)
  | answered {order now} : DecisionStep w call (.decided order now) .ok w (.done (some (order, now)) (.ok ()))
  | unanswered {order now reason} :
      DecisionStep w call (.decided order now) (.fail reason) w
        (.done (some (order, now)) (.error (.thrown reason)))
  | unread {started reason} :
      DecisionStep w call (.called started) (.fail reason) w (.done none (.error (.thrown reason)))
  | unwritten {order now reason} :
      DecisionStep w call (.checked order now) (.fail reason) w (.done none (.error (.thrown reason)))

section

variable {w w' : World} {e : Reply}

theorem decision_cases {call : DecisionCall} {point point' : DecisionPoint}
    (h : call.step w point e = some (w', point')) : DecisionStep w call point e w' point' := by
  cases point with
  | called started =>
    cases e <;> simp only [DecisionCall.step, Option.some.injEq, Prod.mk.injEq, reduceCtorEq] at h
    · split at h <;> obtain ⟨rfl, rfl⟩ := Prod.mk.inj (Option.some.inj h)
      · exact .rejected ‹_›
      · exact .skipped ‹_›
      · exact .checked ‹_›
    · obtain ⟨rfl, rfl⟩ := h
      exact .unread
  | checked order now =>
    cases e <;> simp only [DecisionCall.step, Option.some.injEq, Prod.mk.injEq, reduceCtorEq] at h
    · split at h <;> obtain ⟨rfl, rfl⟩ := Prod.mk.inj (Option.some.inj h)
      · exact .decided ‹_›
      · exact .raced (by simpa using ‹¬w.order.awaitsDecision = true›)
    · obtain ⟨rfl, rfl⟩ := h
      exact .unwritten
  | decided order now =>
    cases e <;> simp only [DecisionCall.step, Option.some.injEq, Prod.mk.injEq, reduceCtorEq] at h
    · obtain ⟨rfl, rfl⟩ := h
      exact .answered
    · obtain ⟨rfl, rfl⟩ := h
      exact .unanswered
  | done decided result => cases e <;> simp [DecisionCall.step] at h

/-- A listener has done nothing yet. -/
theorem mem_listeners {t : DecisionThread} {t' : LifecycleThread} (h : t' ∈ t.listeners) :
    t' = .dispatch (.called 0 0) := by
  unfold DecisionThread.listeners at h
  split at h
  · exact List.mem_singleton.1 h
  · cases h

theorem awaitsDecision_iff {o : Order} : o.awaitsDecision = true ↔ o.status = .pending ∨ o.status = .confirmed := by
  simp [Order.awaitsDecision]

end

/-- The next thing this thread does is to close the order. -/
def TryDispatch.closing : TryDispatch → Bool
  | .expiring .. => true
  | _ => false

/-- The next thing this thread does is the checklist's transaction. -/
def SetItemPrepared.ticking : SetItemPrepared → Bool
  | .checked .. => true
  | _ => false

/-- The checklist's transaction changes the status that was read. -/
def flips (k : Kitchen) (order : Order) (item : ItemId) (preparedAt : Option Time) : Bool :=
  nextStatus ((tickItem k.items item preparedAt).any fun i => i.preparedAt.isSome) order.status != order.status

inductive LifecycleMove (k : Kitchen) :
    LifecycleThread → Answer → Kitchen → List LifecycleThread → Prop
  | decide {call point point' e w'} (h : DecisionStep k.world call point e w' point') :
      LifecycleMove k (.decide ⟨call, point⟩) (.reply e) { k with world := w' }
        (.decide ⟨call, point'⟩ :: DecisionThread.listeners ⟨call, point'⟩)
  | promoteLeft {t e} : LifecycleMove k (.promote t) (.reply e) k [.promote .done]
  | promoteChecked {call} (h : call.eligible k.world.order = true) :
      LifecycleMove k (.promote (.called call)) (.reply .ok) k
        [.promote (.checked call k.world.order (call.now k.world.clock))]
  | promoted {call order now t} (h : k.world.order.acceptanceDeadlineAt = none)
      (ht : t = .done ∨ t = .promoted (now + ACCEPTANCE_TTL_SECONDS * 1000)) :
      LifecycleMove k (.promote (.checked call order now)) (.reply .ok)
        { k with world := { k.world with
          order := { k.world.order with acceptanceDeadlineAt := some (now + ACCEPTANCE_TTL_SECONDS * 1000) }
          emitted := k.world.emitted ++ [.created order] } }
        [.promote t]
  | promoteChained {deadline} :
      LifecycleMove k (.promote (.promoted deadline)) (.reply .ok)
        { k with world := { k.world with jobs := k.world.jobs ++ [.expireVendorDecision deadline] } }
        [.promote .done]
  | prepareLeft {t e result} (idle : t.ticking = false ∨ e ≠ .ok) :
      LifecycleMove k (.prepare t) (.reply e) k [.prepare (.done result)]
  | prepareFound {vendor item prepared} (h : checkPrepPhase k.world.order vendor = .ok ()) :
      LifecycleMove k (.prepare (.called vendor item prepared)) (.reply .ok) k
        [.prepare (.found k.world.order item prepared)]
  | prepareChecked {order item prepared preparedAt} :
      LifecycleMove k (.prepare (.found order item prepared)) (.reply .ok) k
        [.prepare (.checked order item preparedAt)]
  | ticked {order item preparedAt items result} (still : flips k order item preparedAt = false) :
      LifecycleMove k (.prepare (.checked order item preparedAt)) (.reply .ok) { k with items }
        [.prepare (.done result)]
  | flipped {order item preparedAt items status} (turns : flips k order item preparedAt = true)
      (flip : order.status = .accepted ∧ status = .inPrep ∨ order.status = .inPrep ∧ status = .accepted) :
      LifecycleMove k (.prepare (.checked order item preparedAt)) (.reply .ok)
        { k with world := { k.world with order := { k.world.order with status } }, items }
        [.prepare (.done (.ok status))]
  | readyLeft {t e result} : LifecycleMove k (.ready t) (.reply e) k [.ready (.done result)]
  | readyFound {vendor} (h : checkPrepPhase k.world.order vendor = .ok ()) :
      LifecycleMove k (.ready (.called vendor)) (.reply .ok) k [.ready (.found k.world.order)]
  | readyChecked {order} :
      LifecycleMove k (.ready (.found order)) (.reply .ok) k [.ready (.checked order k.items k.world.clock)]
  | ready {order items now} (due : k.world.order.status = .accepted ∨ k.world.order.status = .inPrep) :
      LifecycleMove k (.ready (.checked order items now)) (.reply .ok)
        { k with world := { k.world with
          order := { k.world.order with status := .readyPickup, preparedAt := some now }
          emitted := k.world.emitted ++ [.orderReady order.vendorId now] } }
        [.ready (.done (.ok ()))]
  | dispatchOn {t a t'} (open_ : t'.closing = false) (idle : t.closing = false ∨ a ≠ .reply .ok) :
      LifecycleMove k (.dispatch t) a k [.dispatch t']
  | assigned {attempt rider now} (h : k.world.order.riderId = none) :
      LifecycleMove k (.dispatch (.chosen attempt rider now)) (.reply .ok)
        { k with world := { k.world with
          order := { k.world.order with riderId := some rider, assignedAt := some now } } }
        [.dispatch .done]
  | expiring (h : k.world.order.status ∈ TERMINABLE) :
      LifecycleMove k (.dispatch .expireForNoRider) (.reply .ok) k
        [.dispatch (.expiring k.world.order k.world.clock)]
  | expired {order now} :
      LifecycleMove k (.dispatch (.expiring order now)) (.reply .ok)
        { k with world := { k.world with
          order := k.world.order.expireForNoRider order now
          emitted := k.world.emitted ++
            [.orderExpired order.userId NO_RIDER_AVAILABLE_REASON (order.paymentStatus == .paid)] } }
        [.dispatch .done]
  | order {t t' e w'} (step : orderMachine.step k.world t e = some (w', [t'])) (h : OrderStep k.world t e w' t') :
      LifecycleMove k (.order t) (.reply e) { k with world := w' } [.order t']
  | collect {t ts e w'} (step : collectMachine.step k.world t e = some (w', ts))
      (h : CollectMove k.world t e w' ts) :
      LifecycleMove k (.collect t) (.reply e) { k with world := w' } (ts.map .collect)

section

variable {k k' : Kitchen} {w' : World} {e : Reply} {a : Answer}

theorem lift_some {τ : Type} {wrap : τ → LifecycleThread} {r : Option (World × List τ)} {ts : List LifecycleThread} :
    k.lift wrap r = some (k', ts) ↔
      ∃ w' us, r = some (w', us) ∧ k' = { k with world := w' } ∧ ts = us.map wrap := by
  simp [Kitchen.lift, eq_comm]

theorem promote_move {t t' : Promotion} (h : t.step k.world e = some (w', t')) :
    LifecycleMove k (.promote t) (.reply e) { k with world := w' } [.promote t'] := by
  cases t with
  | called call =>
    cases e <;> simp only [Promotion.step, Option.some.injEq, Prod.mk.injEq, reduceCtorEq] at h
    · obtain ⟨rfl, rfl⟩ := h
      split
      · exact .promoteChecked ‹_›
      · exact .promoteLeft
    · obtain ⟨rfl, rfl⟩ := h
      exact .promoteLeft
  | checked call order now =>
    cases e <;> simp only [Promotion.step, Option.some.injEq, Prod.mk.injEq, reduceCtorEq] at h
    · split at h <;> obtain ⟨rfl, rfl⟩ := Prod.mk.inj (Option.some.inj h)
      · refine .promoted (by simpa using ‹k.world.order.acceptanceDeadlineAt.isNone = true›) ?_
        split <;> simp
      · exact .promoteLeft
    · obtain ⟨rfl, rfl⟩ := h
      exact .promoteLeft
  | promoted deadline =>
    cases e <;> simp only [Promotion.step, Option.some.injEq, Prod.mk.injEq, reduceCtorEq] at h
    · obtain ⟨rfl, rfl⟩ := h
      exact .promoteChained
    · obtain ⟨rfl, rfl⟩ := h
      exact .promoteLeft
  | done => cases e <;> simp [Promotion.step] at h

/-- The checklist flips a status that was ACCEPTED or IN_PREP to the other one. -/
theorem nextStatus_flips {anyPrepared : Bool} {status : OrderStatus} (h : nextStatus anyPrepared status ≠ status) :
    status = .accepted ∧ nextStatus anyPrepared status = .inPrep ∨
      status = .inPrep ∧ nextStatus anyPrepared status = .accepted := by
  unfold nextStatus at h ⊢
  split
  · next hp => exact .inl ⟨hp.2, rfl⟩
  · split
    · next hp => exact .inr ⟨hp.2, rfl⟩
    · simp_all

theorem checkPrepPhase_ok {order : Order} {vendor : VendorId} (h : checkPrepPhase order vendor = .ok ()) :
    order.status = .accepted ∨ order.status = .inPrep := by
  unfold checkPrepPhase at h
  split at h
  · cases h
  split at h
  · cases h
  · next hs => tauto

theorem prepare_move {t t' : SetItemPrepared} (h : t.step k e = some (k', t')) :
    LifecycleMove k (.prepare t) (.reply e) k' [.prepare t'] := by
  cases t with
  | called vendor item prepared =>
    cases e <;> simp only [SetItemPrepared.step, Option.some.injEq, Prod.mk.injEq, reduceCtorEq] at h
    · split at h <;> obtain ⟨rfl, rfl⟩ := Prod.mk.inj (Option.some.inj h)
      · exact .prepareLeft (by simp [SetItemPrepared.ticking])
      · exact .prepareFound ‹_›
    · obtain ⟨rfl, rfl⟩ := h
      exact .prepareLeft (by simp [SetItemPrepared.ticking])
  | found order item prepared =>
    cases e <;> simp only [SetItemPrepared.step, Option.some.injEq, Prod.mk.injEq, reduceCtorEq] at h
    · split at h <;> obtain ⟨rfl, rfl⟩ := Prod.mk.inj (Option.some.inj h)
      · exact .prepareChecked
      · exact .prepareLeft (by simp [SetItemPrepared.ticking])
    · obtain ⟨rfl, rfl⟩ := h
      exact .prepareLeft (by simp [SetItemPrepared.ticking])
  | checked order item preparedAt =>
    cases e <;> simp only [SetItemPrepared.step, Option.some.injEq, Prod.mk.injEq, reduceCtorEq] at h
    · obtain ⟨rfl, rfl⟩ := h
      split
      · next heq => exact .ticked (by simp [flips, heq])
      · next hne => exact .flipped (by simpa [flips] using hne) (nextStatus_flips hne)
    · obtain ⟨rfl, rfl⟩ := h
      exact .prepareLeft (by simp [SetItemPrepared.ticking])
  | done result => cases e <;> simp [SetItemPrepared.step] at h

theorem ready_move {t t' : MarkOrderReady} (h : t.step k e = some (k', t')) :
    LifecycleMove k (.ready t) (.reply e) k' [.ready t'] := by
  cases t with
  | called vendor =>
    cases e <;> simp only [MarkOrderReady.step, Option.some.injEq, Prod.mk.injEq, reduceCtorEq] at h
    · split at h <;> obtain ⟨rfl, rfl⟩ := Prod.mk.inj (Option.some.inj h)
      · exact .readyLeft
      · exact .readyFound ‹_›
    · obtain ⟨rfl, rfl⟩ := h
      exact .readyLeft
  | found order =>
    cases e <;> simp only [MarkOrderReady.step, Option.some.injEq, Prod.mk.injEq, reduceCtorEq] at h
    · split at h <;> obtain ⟨rfl, rfl⟩ := Prod.mk.inj (Option.some.inj h)
      · exact .readyLeft
      · exact .readyChecked
    · obtain ⟨rfl, rfl⟩ := h
      exact .readyLeft
  | checked order items now =>
    cases e <;> simp only [MarkOrderReady.step, Option.some.injEq, Prod.mk.injEq, reduceCtorEq] at h
    · split at h <;> obtain ⟨rfl, rfl⟩ := Prod.mk.inj (Option.some.inj h)
      · exact .ready ‹_›
      · exact .readyLeft
    · obtain ⟨rfl, rfl⟩ := h
      exact .readyLeft
  | done result => cases e <;> simp [MarkOrderReady.step] at h

theorem tryDispatch_fail {t t' : TryDispatch} {reason : String}
    (h : t.step k.world (.reply (.fail reason)) = some (w', t')) :
    LifecycleMove k (.dispatch t) (.reply (.fail reason)) { k with world := w' } [.dispatch t'] := by
  cases t <;> simp only [TryDispatch.step, Option.some.injEq, Prod.mk.injEq, reduceCtorEq] at h <;>
    (obtain ⟨rfl, rfl⟩ := h
     exact .dispatchOn rfl (by simp [TryDispatch.closing]))

theorem tryDispatch_candidate {t t' : TryDispatch} {rider : Option RiderId}
    (h : t.step k.world (.candidate rider) = some (w', t')) :
    LifecycleMove k (.dispatch t) (.candidate rider) { k with world := w' } [.dispatch t'] := by
  cases t with
  | searching attempt =>
    cases rider <;>
      (simp only [TryDispatch.step, Option.some.injEq, Prod.mk.injEq] at h
       obtain ⟨rfl, rfl⟩ := h
       exact .dispatchOn rfl (by simp [TryDispatch.closing]))
  | _ => simp [TryDispatch.step] at h

theorem tryDispatch_ok {t t' : TryDispatch} (h : t.step k.world (.reply .ok) = some (w', t')) :
    LifecycleMove k (.dispatch t) (.reply .ok) { k with world := w' } [.dispatch t'] := by
  cases t <;> simp only [TryDispatch.step, Option.some.injEq, Prod.mk.injEq, reduceCtorEq] at h
  case called fireAt attempt =>
    split at h
    · cases h
    · split at h <;>
        (obtain ⟨rfl, rfl⟩ := Prod.mk.inj (Option.some.inj h)
         exact .dispatchOn rfl (by simp [TryDispatch.closing]))
  case dispatchOrder attempt =>
    obtain ⟨rfl, rfl⟩ := h
    exact .dispatchOn (by split <;> rfl) (by simp [TryDispatch.closing])
  case chosen attempt rider now =>
    split at h <;> obtain ⟨rfl, rfl⟩ := Prod.mk.inj (Option.some.inj h)
    · exact .assigned (by simpa using ‹k.world.order.riderId.isNone = true›)
    · exact .dispatchOn rfl (by simp [TryDispatch.closing])
  case noRider attempt =>
    obtain ⟨rfl, rfl⟩ := h
    exact .dispatchOn (by split <;> rfl) (by simp [TryDispatch.closing])
  case expireForNoRider =>
    obtain ⟨rfl, rfl⟩ := h
    split
    · exact .expiring ‹_›
    · exact .dispatchOn rfl (by simp [TryDispatch.closing])
  case expiring order now =>
    obtain ⟨rfl, rfl⟩ := h
    exact .expired

theorem tryDispatch_move {t t' : TryDispatch} (h : t.step k.world a = some (w', t')) :
    LifecycleMove k (.dispatch t) a { k with world := w' } [.dispatch t'] := by
  cases a with
  | candidate rider => exact tryDispatch_candidate h
  | reply e =>
    cases e with
    | ok => exact tryDispatch_ok h
    | fail reason => exact tryDispatch_fail h
    | _ => cases t <;> simp [TryDispatch.step] at h

/-- The order's own payment thread steps as the payment machine's. -/
theorem orderPaid_cases {w w' : World} {t : OnPaymentSucceeded} {ts : List OrderThread}
    (h : orderMachine.step w (.paid t) e = some (w', ts)) : ∃ t', ts = [.paid t'] ∧ PaidStep w t e w' t' := by
  obtain ⟨⟨w₁, t'⟩, ht, hp⟩ := Option.map_eq_some_iff.1 h
  obtain ⟨rfl, rfl⟩ := Prod.mk.inj hp
  exact ⟨t', rfl, paid_cases ht⟩

theorem lifecycleStep_cases {t : LifecycleThread} {ts : List LifecycleThread}
    (h : lifecycleMachine.step k t a = some (k', ts)) : LifecycleMove k t a k' ts := by
  simp only [lifecycleMachine, lifecycleStep] at h
  cases t with
  | decide t =>
    cases a with
    | candidate rider => cases h
    | reply e =>
      obtain ⟨⟨w₁, t'⟩, ht, hp⟩ := Option.map_eq_some_iff.1 h
      obtain ⟨rfl, rfl⟩ := Prod.mk.inj hp
      obtain ⟨⟨w₂, point⟩, hd, hq⟩ := Option.map_eq_some_iff.1 ht
      obtain ⟨rfl, rfl⟩ := Prod.mk.inj hq
      exact .decide (decision_cases hd)
  | promote t =>
    cases a with
    | candidate rider => cases h
    | reply e =>
      obtain ⟨w₁, us, ht, rfl, rfl⟩ := lift_some.1 h
      obtain ⟨⟨w₂, t'⟩, hd, hp⟩ := Option.map_eq_some_iff.1 ht
      obtain ⟨rfl, rfl⟩ := Prod.mk.inj hp
      exact promote_move hd
  | prepare t =>
    cases a with
    | candidate rider => cases h
    | reply e =>
      obtain ⟨⟨k₁, t'⟩, ht, hp⟩ := Option.map_eq_some_iff.1 h
      obtain ⟨rfl, rfl⟩ := Prod.mk.inj hp
      exact prepare_move ht
  | ready t =>
    cases a with
    | candidate rider => cases h
    | reply e =>
      obtain ⟨⟨k₁, t'⟩, ht, hp⟩ := Option.map_eq_some_iff.1 h
      obtain ⟨rfl, rfl⟩ := Prod.mk.inj hp
      exact ready_move ht
  | dispatch t =>
    obtain ⟨w₁, us, ht, rfl, rfl⟩ := lift_some.1 h
    obtain ⟨⟨w₂, t'⟩, hd, hp⟩ := Option.map_eq_some_iff.1 ht
    obtain ⟨rfl, rfl⟩ := Prod.mk.inj hp
    exact tryDispatch_move hd
  | order t =>
    cases a with
    | candidate rider => cases h
    | reply e =>
      obtain ⟨w₁, us, ht, rfl, rfl⟩ := lift_some.1 h
      obtain ⟨t', rfl, hs⟩ := orderStep_cases ht
      exact .order ht hs
  | collect t =>
    cases a with
    | candidate rider => cases h
    | reply e =>
      obtain ⟨w₁, us, ht, rfl, rfl⟩ := lift_some.1 h
      exact .collect ht (collectStep_cases ht)

end

/-! Events. -/

/-- A call that has done nothing yet, other than resolveRiderFraud's. -/
def LifecycleThread.isCall : LifecycleThread → Bool
  | .decide ⟨_, .called _⟩ | .promote (.called _) | .prepare (.called ..) | .ready (.called _)
  | .order (.pickUp (.called ..)) | .order (.deliver (.called ..)) | .order (.cancelPreOrder (.called ..))
  | .order (.refund .called) | .collect (.momo (.called ..)) | .collect (.paid (.called _)) => true
  | _ => false

inductive LifecycleArrival (k : Kitchen) : LifecycleEvent → Kitchen → List LifecycleThread → Prop
  | tick {elapsed} :
      LifecycleArrival k (.tick elapsed) { k with world := { k.world with clock := k.world.clock + elapsed } } []
  | call {n t} (h : t.isCall = true) : LifecycleArrival k n k [t]
  | fraud {input} : LifecycleArrival k (.resolveRiderFraud input) k [.order (.fraud (.called input))]
  | collectCallback {payload ref} (href : payload.reference = some ref)
      (hissued : issued ref k.world.collects = true) :
      LifecycleArrival k (.collectCallback payload)
        { k with world := { k.world with collects := report ref payload.status k.world.collects } }
        [.collect (.webhook (.received payload))]
  | refundCallback {payload ref} (href : payload.reference = some ref)
      (hissued : issued ref k.world.refunds = true) :
      LifecycleArrival k (.refundCallback payload)
        { k with world := { k.world with refunds := report ref payload.status k.world.refunds } }
        [.order (.refundWebhook (.received payload))]

theorem lifecycleEvent_cases {k k' : Kitchen} {n : LifecycleEvent} {ts : List LifecycleThread}
    (h : lifecycleMachine.event k n = some (k', ts)) : LifecycleArrival k n k' ts := by
  simp only [lifecycleMachine] at h
  cases n with
  | tick elapsed =>
    obtain ⟨rfl, rfl⟩ := Prod.mk.inj (Option.some.inj h)
    exact .tick
  | resolveRiderFraud input =>
    obtain ⟨rfl, rfl⟩ := Prod.mk.inj (Option.some.inj h)
    exact .fraud
  | collectCallback payload =>
    obtain ⟨w₁, us, ht, rfl, rfl⟩ := lift_some.1 h
    have hev : collectMachine.event k.world (.callback payload) = some (w₁, us) := ht
    cases collectEvent_cases hev with
    | callback href hissued => exact .collectCallback href hissued
  | refundCallback payload =>
    obtain ⟨w₁, us, ht, rfl, rfl⟩ := lift_some.1 h
    obtain ⟨rfl, ref, href, hissued, rfl⟩ := callback_of_event ht
    exact .refundCallback href hissued
  | _ =>
    obtain ⟨rfl, rfl⟩ := Prod.mk.inj (Option.some.inj h)
    exact .call rfl

theorem arrival_order {k k' : Kitchen} {n : LifecycleEvent} {ts : List LifecycleThread}
    (h : LifecycleArrival k n k' ts) : k'.world.order = k.world.order := by cases h <;> rfl

end ChopNow
