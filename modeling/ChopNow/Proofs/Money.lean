import ChopNow.Proofs.Collect
import ChopNow.Proofs.LifecycleStep

/-! What every step of the lifecycle leaves alone, and the booking of a payment: the
one step that sets the snapshots and writes the PAYMENT_RECEIVED pair. -/

namespace ChopNow

open Interleave

/-- The journal has a PAYMENT_RECEIVED pair of this order. -/
def World.PaymentPaired (w : World) : Prop :=
  paymentPair w.order.totalXAF ⊆ paymentRows w.order.id w.ledger

theorem paired_of_eq {w : World} (h : paymentRows w.order.id w.ledger = paymentPair w.order.totalXAF) :
    w.PaymentPaired := by
  unfold World.PaymentPaired
  rw [h]
  exact List.Subset.refl _

/-- The payment is in the journal and its three amounts are on the row. -/
structure World.PaidUp (w : World) : Prop where
  paired : w.PaymentPaired
  snapshot : w.order.snapshot.isSome

/-- Columns that no step writes or clears, and the journal, which grows. -/
structure Kept (w w' : World) : Prop where
  id : w'.order.id = w.order.id
  totalXAF : w'.order.totalXAF = w.order.totalXAF
  scheduledFor : w'.order.scheduledFor = w.order.scheduledFor
  snapshot : w.order.snapshot.isSome → w'.order.snapshot.isSome
  ledger : w.ledger <+: w'.ledger

theorem Kept.refl (w : World) : Kept w w := ⟨rfl, rfl, rfl, fun h => h, List.prefix_refl _⟩

theorem Kept.trans {a b c : World} (h : Kept a b) (h' : Kept b c) : Kept a c where
  id := h'.id.trans h.id
  totalXAF := h'.totalXAF.trans h.totalXAF
  scheduledFor := h'.scheduledFor.trans h.scheduledFor
  snapshot := h'.snapshot ∘ h.snapshot
  ledger := h.ledger.trans h'.ledger

theorem paymentRows_mono (id : OrderId) {ledger ledger' : Ledger} (h : ledger <+: ledger') :
    paymentRows id ledger ⊆ paymentRows id ledger' := by
  obtain ⟨rows, rfl⟩ := h
  intro x hx
  simp only [paymentRows, List.filter_append, List.map_append]
  exact List.mem_append_left _ hx

/-- A payment stays in the journal. -/
theorem Kept.paired {w w' : World} (h : Kept w w') (hp : w.PaymentPaired) : w'.PaymentPaired := by
  unfold World.PaymentPaired
  rw [h.id, h.totalXAF]
  exact List.Subset.trans hp (paymentRows_mono _ h.ledger)

theorem Kept.paidUp {w w' : World} (h : Kept w w') (hp : w.PaidUp) : w'.PaidUp :=
  ⟨h.paired hp.paired, h.snapshot hp.snapshot⟩

theorem order_keeps {w w' : World} {t t' : OrderThread} {e : Reply} (h : OrderStep w t e w' t') : Kept w w' := by
  cases h with
  | paid => exact ⟨rfl, rfl, rfl, fun _ => rfl, List.prefix_append _ _⟩
  | delivered | cancelled | fraudCompensated | refundRecorded | hookRefunded =>
    exact ⟨rfl, rfl, rfl, fun h => h, List.prefix_append _ _⟩
  | _ => exact ⟨rfl, rfl, rfl, fun h => h, List.prefix_refl _⟩

theorem paid_keeps {w w' : World} {t t' : OnPaymentSucceeded} {e : Reply} (h : PaidStep w t e w' t') : Kept w w' := by
  cases h with
  | booked => exact ⟨rfl, rfl, rfl, fun _ => rfl, List.prefix_append _ _⟩
  | _ => exact ⟨rfl, rfl, rfl, fun h => h, List.prefix_refl _⟩

theorem collect_keeps {w w' : World} {t : CollectThread} {ts : List CollectThread} {e : Reply}
    (h : CollectMove w t e w' ts) : Kept w w' := by
  cases h with
  | paid h => exact paid_keeps h
  | _ => exact ⟨rfl, rfl, rfl, fun h => h, List.prefix_refl _⟩

theorem decision_keeps {w w' : World} {call : DecisionCall} {point point' : DecisionPoint} {e : Reply}
    (h : DecisionStep w call point e w' point') : Kept w w' := by
  cases h with
  | decided => cases call.verdict <;> exact ⟨rfl, rfl, rfl, fun h => h, List.prefix_refl _⟩
  | _ => exact .refl _

section

variable {k k' : Kitchen} {t : LifecycleThread} {a : Answer} {ts : List LifecycleThread} {n : LifecycleEvent}

theorem move_keeps (h : LifecycleMove k t a k' ts) : Kept k.world k'.world := by
  cases h with
  | decide hd => exact decision_keeps hd
  | order _ ho => exact order_keeps ho
  | collect _ hc => exact collect_keeps hc
  | _ => exact ⟨rfl, rfl, rfl, fun h => h, List.prefix_refl _⟩

theorem arrival_keeps (h : LifecycleArrival k n k' ts) : Kept k.world k'.world := by
  cases h <;> exact ⟨rfl, rfl, rfl, fun h => h, List.prefix_refl _⟩

/-! Rows that were read before: they name the same order, at the same price. -/

/-- The row a thread read and still works with. -/
def LifecycleThread.copy : LifecycleThread → Option Order
  | .decide ⟨_, .checked row _⟩ | .promote (.checked _ row _) | .prepare (.found row ..)
  | .prepare (.checked row ..) | .ready (.found row) | .ready (.checked row ..) | .dispatch (.expiring row _)
  | .order (.paid (.read _ row _)) | .order (.deliver (.checked row ..)) | .order (.cancelPreOrder (.checked row ..))
  | .order (.fraud (.checked row ..)) | .order (.refundWebhook (.found row ..)) | .collect (.momo (.checked row _))
  | .collect (.momo (.locked row _)) | .collect (.momo (.accepted row ..)) | .collect (.paid (.read _ row _)) =>
    some row
  | _ => none

/-- A copy agrees with the row in what no step writes. -/
def Copied (k : Kitchen) (t : LifecycleThread) : Prop :=
  ∀ order ∈ t.copy, order.id = k.world.order.id ∧ order.totalXAF = k.world.order.totalXAF ∧
    order.scheduledFor = k.world.order.scheduledFor

theorem Copied.keep (h : Copied k t) (hk : Kept k.world k'.world) : Copied k' t := by
  intro order ho
  rw [hk.id, hk.totalXAF, hk.scheduledFor]
  exact h order ho

theorem Copied.of (h : Copied k t) {t' : LifecycleThread} (hc : t'.copy = none ∨ t'.copy = t.copy ∨
    t'.copy = some k.world.order) : Copied k t' := by
  intro order ho
  rcases hc with hc | hc | hc
  · simp [hc] at ho
  · exact h order (hc ▸ ho)
  · obtain rfl := Option.some.inj (hc ▸ ho)
    exact ⟨rfl, rfl, rfl⟩

theorem order_copy {w w' : World} {t t' : OrderThread} {e : Reply} (h : OrderStep w t e w' t') :
    (LifecycleThread.order t').copy = none ∨ (LifecycleThread.order t').copy = (LifecycleThread.order t).copy ∨
      (LifecycleThread.order t').copy = some w.order := by
  cases h with
  | @finish t e t' h => 
    refine .inl ?_
    unfold LifecycleThread.copy
    split <;> simp_all [OrderThread.isDone]
  | paidRead | deliverChecked | cancelChecked | fraudChecked | hookFound => exact .inr (.inr rfl)
  | _ => exact .inl rfl

theorem collect_copy {w w' : World} {t : CollectThread} {ts : List CollectThread} {e : Reply}
    (h : CollectMove w t e w' ts) : ∀ t' ∈ ts, (LifecycleThread.collect t').copy = none ∨
      (LifecycleThread.collect t').copy = (LifecycleThread.collect t).copy ∨
      (LifecycleThread.collect t').copy = some w.order := by
  cases h with
  | paid h => cases h <;> simp [LifecycleThread.copy]
  | _ => simp [LifecycleThread.copy]

theorem written_copy (call : DecisionCall) (order : Order) (now : Time) :
    (LifecycleThread.decide ⟨call, call.written order now⟩).copy = none := by
  unfold DecisionCall.written
  split <;> rfl

theorem move_copy (h : LifecycleMove k t a k' ts) : ∀ t' ∈ ts, t'.copy = none ∨ t'.copy = t.copy ∨
    t'.copy = some k.world.order := by
  cases h with
  | @decide call point point' e w' hd =>
    intro t' ht
    rcases List.mem_cons.1 ht with rfl | ht
    · cases hd with
      | decided => exact .inl (written_copy _ _ _)
      | _ => simp [LifecycleThread.copy]
    · obtain rfl := mem_listeners ht
      exact .inl rfl
  | order _ ho => simpa using order_copy ho
  | collect _ hc =>
    intro t' ht
    obtain ⟨u, hu, rfl⟩ := List.mem_map.1 ht
    exact collect_copy hc u hu
  | @promoted call order now t h ht => rcases ht with rfl | rfl <;> simp [LifecycleThread.copy]
  | @dispatchOn t a t' open_ idle => cases t' <;> simp_all [LifecycleThread.copy, TryDispatch.closing]
  | _ => simp [LifecycleThread.copy]

theorem arrival_copy (h : LifecycleArrival k n k' ts) : ∀ t ∈ ts, t.copy = none := by
  cases h with
  | @call n t h =>
    simp only [List.mem_singleton, forall_eq]
    unfold LifecycleThread.isCall at h
    split at h <;> first | rfl | cases h
  | _ => simp [LifecycleThread.copy]

theorem copied_reach {ok : Guard Kitchen LifecycleThread LifecycleEvent Answer} {q : Pool Kitchen LifecycleThread}
    (h : lifecycleMachine.Reach ok ⟨k, []⟩ q) :
    Kept k.world q.shared.world ∧ ∀ t ∈ q.threads, Copied q.shared t := by
  refine h.stable (I := fun k₁ => Kept k.world k₁.world) (L := Copied) (.refl _) (by simp) ?_ ?_
  · intro k₁ us n k' ts _ hI _ hev
    have ha := lifecycleEvent_cases hev
    refine ⟨hI.trans (arrival_keeps ha), fun t ht order ho => ?_, fun _ hc => hc.keep (arrival_keeps ha)⟩
    rw [arrival_copy ha t ht] at ho
    cases ho
  · intro k₁ us vs t a k' ts _ hI hc _ hst
    have hm := lifecycleStep_cases hst
    exact ⟨hI.trans (move_keeps hm), fun t' ht => (hc.of (move_copy hm t' ht)).keep (move_keeps hm),
      fun _ hu => hu.keep (move_keeps hm)⟩

/-- The transaction of onPaymentSucceeded pays the order up. -/
theorem booked_paidUp {w : World} {order : Order} {payload : PaymentSucceeded} {now : Time}
    {emitted : List DomainEvent} (hid : order.id = w.order.id) (htotal : order.totalXAF = w.order.totalXAF) :
    World.PaidUp { w with
      order := w.order.paymentPatch order payload now
      ledger := w.ledger ++ (paymentInput order).rows (.payment order.id) w.clock
      emitted } := by
  refine ⟨?_, rfl⟩
  change paymentPair w.order.totalXAF ⊆ paymentRows w.order.id _
  rw [paymentRows_payment _ hid, htotal]
  exact List.subset_append_right _ _

end

end ChopNow
