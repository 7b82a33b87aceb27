import ChopNow.Proofs.Money

/-! Food is paid for when it leaves. A delivery needs the snapshots that only the
booking of the payment sets; an order that was accepted while PENDING has none. -/

namespace ChopNow

open Interleave

/-- Statuses that only a paid order takes, and program points that only a call on a
paid order reaches. -/
structure PaidMarks where
  status : OrderStatus → Bool
  point : LifecycleThread → Bool

/-- Nothing that marks a paid order is there. -/
structure Unpaid (m : PaidMarks) (k : Kitchen) (us : List LifecycleThread) : Prop where
  snapshot : k.world.order.snapshot = none
  status : m.status k.world.order.status = false
  points : ∀ t ∈ us, m.point t = false

/-- Whatever a run starts from stays unpaid until the payment is booked. -/
theorem paidUp_or_unpaid {m : PaidMarks} {ok : Guard Kitchen LifecycleThread LifecycleEvent Answer} {k₀ : Kitchen}
    {q : Pool Kitchen LifecycleThread} (h : lifecycleMachine.Reach ok ⟨k₀, []⟩ q) (h₀ : Unpaid m k₀ [])
    (harrival : ∀ k n k' ts, LifecycleArrival k n k' ts → ∀ t ∈ ts, m.point t = false)
    (hstep : ∀ k us t a k' ts, ok k us (.step t a) → Copied k t → Unpaid m k [t] → LifecycleMove k t a k' ts →
      k'.world.PaidUp ∨ Unpaid m k' ts) :
    q.shared.world.PaidUp ∨ Unpaid m q.shared q.threads := by
  refine h.invariant (J := fun k us => k.world.PaidUp ∨ Unpaid m k us) (.inr h₀) ?_ ?_
  · intro k us n k' ts _ hJ _ hev
    have ha := lifecycleEvent_cases hev
    rcases hJ with hp | hu
    · exact .inl ((arrival_keeps ha).paidUp hp)
    · have horder : k'.world.order = k.world.order := arrival_order ha
      refine .inr ⟨horder ▸ hu.snapshot, horder ▸ hu.status, fun t ht => ?_⟩
      rcases List.mem_append.1 ht with ht | ht
      · exact harrival _ _ _ _ ha t ht
      · exact hu.points t ht
  · intro k us vs t a k' ts hr hJ hok hst
    have hm := lifecycleStep_cases hst
    rcases hJ with hp | hu
    · exact .inl ((move_keeps hm).paidUp hp)
    · have ht : Unpaid m k [t] := ⟨hu.snapshot, hu.status, by simpa using hu.points t (by simp)⟩
      refine (hstep _ _ _ _ _ _ hok ((copied_reach hr).2 t (by simp)) ht hm).imp id fun hu' => ?_
      refine ⟨hu'.snapshot, hu'.status, fun u hmem => ?_⟩
      rcases List.mem_append.1 hmem with hmem | hmem
      · exact hu'.points u hmem
      · exact hu.points u (by rcases List.mem_append.1 hmem with hmem | hmem <;> simp [hmem])

/-! Deliveries, in any run. -/

def deliveryMarks : PaidMarks where
  status s := s == .delivered
  point
    | .order (.deliver (.checked ..)) => true
    | _ => false

/-- ACCEPTED, IN_PREP, READY_PICKUP, PICKED_UP and DELIVERED. -/
def OrderStatus.isAccepted : OrderStatus → Bool
  | .accepted | .inPrep | .readyPickup | .pickedUp | .delivered => true
  | _ => false

/-- As long as no unpaid order is accepted. -/
def acceptanceMarks : PaidMarks where
  status s := s == .confirmed || s.isAccepted
  point
    | .order (.deliver (.checked ..)) | .order (.pickUp .checked) | .prepare (.found ..) | .prepare (.checked ..) => true
    | _ => false

section

variable {k k' : Kitchen} {us ts : List LifecycleThread} {t : LifecycleThread} {a : Answer}

theorem decide_snapshot (o : Order) (now : Time) (v : Verdict) : (o.decide now v).snapshot = o.snapshot := by
  cases v <;> rfl

/-- A step that sets no snapshot, and leaves behind only threads that know nothing. -/
theorem Unpaid.move {m : PaidMarks} (h : Unpaid m k [t]) (hs : k'.world.order.snapshot = k.world.order.snapshot)
    (hstatus : k'.world.order.status = k.world.order.status ∨ m.status k'.world.order.status = false)
    (hts : ∀ t' ∈ ts, m.point t' = false) : Unpaid m k' ts := by
  refine ⟨hs.trans h.snapshot, ?_, hts⟩
  rcases hstatus with he | he
  · rw [he]
    exact h.status
  · exact he

theorem booking_copied {w w' : World} {t t' : OnPaymentSucceeded} {e : Reply} (h : PaidStep w t e w' t')
    (hc : ∀ payload order now, t = .read payload order now →
      order.id = w.order.id ∧ order.totalXAF = w.order.totalXAF) : w'.PaidUp ∨ w'.order = w.order := by
  cases h with
  | booked due sound =>
    obtain ⟨hid, htotal⟩ := hc _ _ _ rfl
    exact .inl (booked_paidUp hid htotal)
  | _ => exact .inr rfl

/-- The payment's own threads book it or leave the status and the snapshots alone. -/
theorem collect_paidUp {w w' : World} {t : CollectThread} {us : List CollectThread} {e : Reply}
    (hc : Copied { k with world := w } (.collect t)) (h : CollectMove w t e w' us) :
    w'.PaidUp ∨ w'.order.snapshot = w.order.snapshot ∧ w'.order.status = w.order.status := by
  cases h with
  | @paid t t' e w' hp =>
    refine (booking_copied hp ?_).imp id fun he => ⟨by rw [he], by rw [he]⟩
    rintro payload order now rfl
    exact ⟨(hc order rfl).1, (hc order rfl).2.1⟩
  | _ => exact .inr ⟨rfl, rfl⟩

theorem written_point {m : PaidMarks} (hd : ∀ t, m.point (.decide t) = false)
    (hl : ∀ t, m.point (.dispatch t) = false) (t : DecisionThread) :
    ∀ t' ∈ LifecycleThread.decide t :: t.listeners, m.point t' = false := by
  intro t' ht
  rcases List.mem_cons.1 ht with rfl | ht
  · exact hd t
  · obtain rfl := mem_listeners ht
    exact hl _

theorem acceptance_done {t : OrderThread} (h : t.isDone = true) : acceptanceMarks.point (.order t) = false := by
  simp only [acceptanceMarks]
  split <;> simp_all [OrderThread.isDone]

theorem delivery_done {t : OrderThread} (h : t.isDone = true) : deliveryMarks.point (.order t) = false := by
  simp only [deliveryMarks]
  split <;> simp_all [OrderThread.isDone]

/-- An order that is not paid is not delivered. -/
theorem delivery_step (hc : Copied k t) (h : Unpaid deliveryMarks k [t]) (hm : LifecycleMove k t a k' ts) :
    k'.world.PaidUp ∨ Unpaid deliveryMarks k' ts := by
  cases hm with
  | @decide call point point' e w' hd =>
    refine .inr (h.move ?_ ?_ (written_point (fun _ => rfl) (fun _ => rfl) _))
    · cases hd with
      | decided => exact decide_snapshot _ _ _
      | _ => rfl
    · cases hd with
      | decided => exact .inr (by cases call.verdict <;> rfl)
      | _ => exact .inl rfl
  | @order t t' e w' step ho =>
    cases ho with
    | paid due sound =>
      obtain ⟨hid, htotal, -⟩ := hc _ rfl
      exact .inl (booked_paidUp hid htotal)
    | delivered => exact absurd (h.points _ (.head _)) (by simp [deliveryMarks])
    | deliverChecked hcheck =>
      have hsnapshot := (checkDelivery_ok_iff.1 hcheck).2.2.2
      rw [h.snapshot] at hsnapshot
      cases hsnapshot
    | finish hdone => exact .inr (h.move rfl (.inl rfl) (by simpa using delivery_done hdone))
    | cancelled | fraudCompensated | fraudCancelled | pickedUp =>
      exact .inr (h.move rfl (.inr rfl) (by simp [deliveryMarks]))
    | _ => exact .inr (h.move rfl (.inl rfl) (by simp [deliveryMarks]))
  | @collect t us e w' step hcm =>
    refine (collect_paidUp hc hcm).imp id fun he => h.move he.1 (.inl he.2) ?_
    simp [deliveryMarks]
  | flipped turns flip =>
    refine .inr (h.move rfl (.inr ?_) (by simp [deliveryMarks]))
    rcases flip with hf | hf <;> rw [hf.2] <;> rfl
  | ready | expired => exact .inr (h.move rfl (.inr rfl) (by simp [deliveryMarks]))
  | _ => exact .inr (h.move rfl (.inl rfl) (by simp [deliveryMarks]))

/-- acceptOrder's update does not land on a PENDING order. -/
def acceptsConfirmed : Guard Kitchen LifecycleThread LifecycleEvent Answer := fun k _ m =>
  match m with
  | .step (.decide ⟨.acceptOrder _, .checked ..⟩) (.reply .ok) => k.world.order.status ≠ .pending
  | _ => True

theorem checkPickup_ok {order : Order} {rider : RiderId} {submittedCode : ℕ}
    (h : checkPickup order rider submittedCode = .ok ()) : order.status ∈ PICKUPABLE := by
  unfold checkPickup at h
  split at h
  · cases h
  split at h
  · cases h
  · next hs => exact not_not.1 hs

/-- Nor is it accepted, unless it was PENDING then. -/
theorem acceptance_step (hok : acceptsConfirmed k us (.step t a)) (hc : Copied k t)
    (h : Unpaid acceptanceMarks k [t]) (hm : LifecycleMove k t a k' ts) :
    k'.world.PaidUp ∨ Unpaid acceptanceMarks k' ts := by
  have hstatus : ∀ s, k.world.order.status = s → (s == .confirmed || s.isAccepted) = false := by
    rintro s rfl
    exact h.status
  cases hm with
  | @decide call point point' e w' hd =>
    refine .inr (h.move ?_ ?_ (written_point (fun _ => rfl) (fun _ => rfl) _))
    · cases hd with
      | decided => exact decide_snapshot _ _ _
      | _ => rfl
    · cases hd with
      | decided awaits =>
        have hpending : k.world.order.status = .pending := by
          refine (awaitsDecision_iff.1 awaits).resolve_right fun hconfirmed => ?_
          cases hstatus _ hconfirmed
        cases call with
        | acceptOrder vendor => exact absurd hpending hok
        | _ => exact .inr rfl
      | _ => exact .inl rfl
  | @order t t' e w' step ho =>
    cases ho with
    | paid due sound =>
      obtain ⟨hid, htotal, -⟩ := hc _ rfl
      exact .inl (booked_paidUp hid htotal)
    | delivered | pickedUp => exact absurd (h.points _ (.head _)) (by simp [acceptanceMarks])
    | deliverChecked hcheck => cases hstatus _ (checkDelivery_ok_iff.1 hcheck).2.1
    | pickUpChecked hcheck =>
      have hpick := checkPickup_ok hcheck
      simp only [PICKUPABLE, List.mem_cons, List.not_mem_nil, or_false] at hpick
      rcases hpick with hs | hs | hs <;> cases hstatus _ hs
    | finish hdone => exact .inr (h.move rfl (.inl rfl) (by simpa using acceptance_done hdone))
    | cancelled | fraudCompensated | fraudCancelled => exact .inr (h.move rfl (.inr rfl) (by simp [acceptanceMarks]))
    | _ => exact .inr (h.move rfl (.inl rfl) (by simp [acceptanceMarks]))
  | @collect t us e w' step hcm =>
    refine (collect_paidUp hc hcm).imp id fun he => h.move he.1 (.inl he.2) ?_
    simp [acceptanceMarks]
  | prepareFound hcheck => rcases checkPrepPhase_ok hcheck with hs | hs <;> cases hstatus _ hs
  | prepareChecked | flipped => exact absurd (h.points _ (.head _)) (by simp [acceptanceMarks])
  | ready due => rcases due with hs | hs <;> cases hstatus _ hs
  | expired => exact .inr (h.move rfl (.inr rfl) (by simp [acceptanceMarks]))
  | _ => exact .inr (h.move rfl (.inl rfl) (by simp [acceptanceMarks]))

theorem arrival_points {n : LifecycleEvent} (h : LifecycleArrival k n k' ts) :
    ∀ t ∈ ts, deliveryMarks.point t = false ∧ acceptanceMarks.point t = false := by
  cases h with
  | @call n t hcall =>
    simp only [List.mem_singleton, forall_eq]
    unfold LifecycleThread.isCall at hcall
    split at hcall <;> first | exact ⟨rfl, rfl⟩ | cases hcall
  | _ => simp [deliveryMarks, acceptanceMarks]

end

theorem Order.Fresh.snapshot {order : Order} (h : order.Fresh) : order.snapshot = none := by
  simp [Order.snapshot, h.commissionXAF]

/-- In every run a delivered order is paid up; and as long as no PENDING order is
accepted, so is every order from its acceptance on. -/
theorem served_order_paid {order : Order} (h₀ : order.Fresh) (items : List OrderItem) :
    (∀ q, lifecycleMachine.Reach anyMove ⟨.start order items, []⟩ q →
      q.shared.world.order.status = .delivered → q.shared.world.PaidUp) ∧
    ∀ q, lifecycleMachine.Reach acceptsConfirmed ⟨.start order items, []⟩ q →
      q.shared.world.order.status.isAccepted = true → q.shared.world.PaidUp := by
  have hs : (Kitchen.start order items).world.order.status = .pending := h₀.status
  refine ⟨fun q h hd => ?_, fun q h ha => ?_⟩
  · refine (paidUp_or_unpaid (m := deliveryMarks) h ⟨h₀.snapshot, by simp [deliveryMarks, hs], by simp⟩
      (fun _ _ _ _ ha t ht => (arrival_points ha t ht).1)
      fun _ _ _ _ _ _ _ hc hu hm => delivery_step hc hu hm).resolve_right fun hu => ?_
    have := hu.status
    simp [hd, deliveryMarks] at this
  · refine (paidUp_or_unpaid (m := acceptanceMarks) h
      ⟨h₀.snapshot, by simp [acceptanceMarks, hs, OrderStatus.isAccepted], by simp⟩
      (fun _ _ _ _ ha t ht => (arrival_points ha t ht).2)
      fun _ _ _ _ _ _ hok hc hu hm => acceptance_step hok hc hu hm).resolve_right fun hu => ?_
    have := hu.status
    simp [ha, acceptanceMarks] at this

/-- A vendor accepts an order that nobody has paid. -/
theorem unpaid_order_accepted :
    ¬ ∀ (order : Order) (items : List OrderItem) (q : Pool Kitchen LifecycleThread), order.Fresh →
      lifecycleMachine.Reach anyMove ⟨.start order items, []⟩ q →
      q.shared.world.order.status.isAccepted = true → q.shared.world.PaidUp := by
  intro h
  obtain ⟨q, hq, ht⟩ := Machine.reach_of_test lifecycleMachine anyMove (fun _ _ _ => true) (fun _ _ _ _ => trivial)
    ⟨.start exampleOrder [], []⟩ [.event (.decide (.acceptOrder 1)), .step 0 (.reply .ok), .step 0 (.reply .ok)]
    (fun q => q.shared.world.order.status == .accepted && q.shared.world.order.snapshot.isNone) (by decide +kernel)
  simp only [Bool.and_eq_true, beq_iff_eq, Option.isNone_iff_eq_none] at ht
  have hp := (h _ _ q exampleOrder_fresh hq (by rw [ht.1]; rfl)).snapshot
  rw [ht.2] at hp
  cases hp

def acceptsConfirmedB (k : Kitchen) (_ : List LifecycleThread) (m : Move LifecycleThread LifecycleEvent Answer) :
    Bool :=
  match m with
  | .step (.decide ⟨.acceptOrder _, .checked ..⟩) (.reply .ok) => k.world.order.status != .pending
  | _ => true

/-- Paid, accepted, and on its way. -/
theorem picked_up_order_paid :
    ∃ q, lifecycleMachine.Reach acceptsConfirmed ⟨.start exampleOrder [], []⟩ q ∧
      q.shared.world.order.status = .pickedUp ∧ q.shared.world.PaidUp := by
  obtain ⟨q, hq, ht⟩ := Machine.reach_of_test lifecycleMachine acceptsConfirmed acceptsConfirmedB
    (fun k us m hm => by
      unfold acceptsConfirmedB at hm
      unfold acceptsConfirmed
      split at hm <;> simp_all)
    ⟨.start exampleOrder [], []⟩
    (payingExample ++ examplePaid ++ [.event (.decide (.acceptOrder 1)), .step 0 (.reply .ok), .step 0 (.reply .ok),
      .step 1 (.reply .ok), .step 0 (.reply .ok), .step 0 (.candidate (some 5)), .step 0 (.reply .ok),
      .event (.markPickedUp 5 1111), .step 0 (.reply .ok), .step 0 (.reply .ok)])
    (fun q => q.shared.world.order.status == .pickedUp) (by decide +kernel)
  have hs : q.shared.world.order.status = .pickedUp := by simpa using ht
  exact ⟨q, hq, hs, (served_order_paid exampleOrder_fresh []).2 q hq (by rw [hs]; rfl)⟩

end ChopNow
