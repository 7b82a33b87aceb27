import ChopNow.Proofs.LifecycleStep

/-! The status of an order under all its writers. Where a write repeats its check in
the `where`, the order moves forward; the four that do not may take it back. -/

namespace ChopNow

open Interleave

/-- PENDING < CONFIRMED < ACCEPTED, IN_PREP < READY_PICKUP < PICKED_UP < the rest. -/
def OrderStatus.stage : OrderStatus → ℕ
  | .pending => 0
  | .confirmed => 1
  | .accepted | .inPrep => 2
  | .readyPickup => 3
  | .pickedUp => 4
  | .delivered | .cancelled | .refused | .expired => 5

def OrderStatus.isFinal (s : OrderStatus) : Bool := s.stage == 5

/-- A final status stays, any other does not step back. -/
structure Forward (s s' : OrderStatus) : Prop where
  stays : s.isFinal = true → s' = s
  rises : s.stage ≤ s'.stage

theorem Forward.refl (s : OrderStatus) : Forward s s := ⟨fun _ => rfl, le_rfl⟩

theorem Forward.trans {a b c : OrderStatus} (h : Forward a b) (h' : Forward b c) : Forward a c := by
  refine ⟨fun ha => ?_, h.rises.trans h'.rises⟩
  have hb := h.stays ha
  exact (h'.stays (hb ▸ ha)).trans hb

/-- A status that is not final may go anywhere that is not earlier. -/
theorem Forward.of_le {s s' : OrderStatus} (hs : s.stage ≤ 4) (h : s.stage ≤ s'.stage) : Forward s s' :=
  ⟨fun hf => by simp [OrderStatus.isFinal] at hf; omega, h⟩

theorem Forward.final {s s' : OrderStatus} (hs : s.stage ≤ 4) (h : s'.isFinal = true) : Forward s s' := by
  simp only [OrderStatus.isFinal, beq_iff_eq] at h
  exact .of_le hs (by omega)

theorem OrderStatus.stage_le (s : OrderStatus) : s.stage ≤ 5 := by cases s <;> decide

theorem stage_awaits {o : Order} : o.awaitsDecision = true ↔ o.status.stage ≤ 1 := by
  rw [awaitsDecision_iff]
  cases o.status <;> simp [OrderStatus.stage]

/-- Where the four unguarded writes may land: a payment on an order that awaits its
decision, a flip before READY_PICKUP, a pickup on an order that is not final, a search
given up on one that nobody else has closed. -/
def landsForward : Guard Kitchen LifecycleThread LifecycleEvent Answer := fun k _ m =>
  match m with
  | .step (.collect (.paid (.read _ order _))) (.reply .ok) | .step (.order (.paid (.read _ order _))) (.reply .ok) =>
    k.world.order.paymentStatus = .pending ∨ k.world.order.paymentStatus = .processing → order.totalXAF ≠ 0 →
      k.world.order.awaitsDecision = true
  | .step (.prepare (.checked order item preparedAt)) (.reply .ok) =>
    flips k order item preparedAt = true → k.world.order.status.stage ≤ 2
  | .step (.order (.pickUp .checked)) (.reply .ok) => k.world.order.status.isFinal = false
  | .step (.dispatch (.expiring ..)) (.reply .ok) =>
    k.world.order.status.isFinal = false ∨ k.world.order.status = .expired
  | _ => True

section

variable {k k' : Kitchen} {us : List LifecycleThread} {t : LifecycleThread} {a : Answer} {ts : List LifecycleThread}

theorem stage_lt_of_not_final {s : OrderStatus} : s.isFinal = false ↔ s.stage ≤ 4 := by
  have := s.stage_le
  simp only [OrderStatus.isFinal, beq_eq_false_iff_ne]
  omega

/-- A booking takes any order to CONFIRMED. -/
theorem booking_forward {s : OrderStatus} : Forward s .confirmed ↔ s.stage ≤ 1 :=
  ⟨fun h => h.rises, fun h => .of_le (by omega) h⟩

theorem pickUp_forward {s : OrderStatus} : Forward s .pickedUp ↔ s.isFinal = false := by
  rw [stage_lt_of_not_final]
  exact ⟨fun h => h.rises, fun h => .of_le h h⟩

theorem expired_forward {s : OrderStatus} : Forward s .expired ↔ s.isFinal = false ∨ s = .expired := by
  constructor
  · intro h
    cases hf : s.isFinal with
    | false => exact .inl rfl
    | true => exact .inr (h.stays hf).symm
  · rintro (h | rfl)
    · exact .of_le (stage_lt_of_not_final.1 h) s.stage_le
    · exact .refl _

theorem flip_forward {s s' : OrderStatus} (h : s' = .accepted ∨ s' = .inPrep) : Forward s s' ↔ s.stage ≤ 2 := by
  have hs' : s'.stage = 2 := by rcases h with rfl | rfl <;> rfl
  exact ⟨fun h => hs' ▸ h.rises, fun h => .of_le (by omega) (hs' ▸ h)⟩

/-- What onPaymentSucceeded does to the status. -/
theorem paid_forward {w w' : World} {t t' : OnPaymentSucceeded} {e : Reply} (h : PaidStep w t e w' t') :
    Forward w.order.status w'.order.status ↔
      match t, e with
      | .read _ order _, .ok =>
        w.order.paymentStatus = .pending ∨ w.order.paymentStatus = .processing → order.totalXAF ≠ 0 →
          w.order.awaitsDecision = true
      | _, _ => True := by
  cases h with
  | @lost payload order now h =>
    rw [payment_sound_iff] at h
    exact iff_of_true (.refl _) fun due htotal => absurd ⟨due, htotal⟩ h
  | @booked payload order now emitted job due sound =>
    have htotal := payment_sound_iff.1 sound
    simp only [due, htotal, true_implies, ne_eq, not_false_eq_true, stage_awaits]
    exact booking_forward
  | @thrown t reason => cases t <;> exact iff_of_true (.refl _) trivial
  | _ => exact iff_of_true (.refl _) trivial

/-- An update whose `where` names the status it starts from. -/
theorem guarded_forward {w w' : World} {t t' : OrderThread} {e : Reply} (h : OrderStep w t e w' t')
    (hpaid : ∀ t₁, t ≠ .paid t₁) (hpick : t ≠ .pickUp .checked) : Forward w.order.status w'.order.status := by
  cases h with
  | paid | paidRead | paidJob => exact absurd rfl (hpaid _)
  | pickedUp => exact absurd rfl hpick
  | delivered due | fraudCompensated due | fraudCancelled due =>
    rw [due]
    exact .final (by decide) rfl
  | cancelled due => rcases due with due | due <;> rw [due] <;> exact .final (by decide) rfl
  | _ => exact .refl _

theorem decide_stage (o : Order) (now : Time) (v : Verdict) : 2 ≤ (o.decide now v).status.stage := by
  cases v <;> simp [Order.decide, OrderStatus.stage]

theorem decided_forward {w w' : World} {call : DecisionCall} {point point' : DecisionPoint} {e : Reply}
    (h : DecisionStep w call point e w' point') : Forward w.order.status w'.order.status := by
  cases h with
  | @decided order now awaits =>
    have hle := stage_awaits.1 awaits
    have hge := decide_stage w.order now call.verdict
    exact .of_le (by omega) (by simp only; omega)
  | _ => exact .refl _

/-- A step moves forward exactly if it does not land where it must not. -/
theorem step_forward_iff (hst : lifecycleMachine.step k t a = some (k', ts)) :
    Forward k.world.order.status k'.world.order.status ↔ landsForward k us (.step t a) := by
  cases lifecycleStep_cases hst with
  | decide hd => exact iff_of_true (decided_forward hd) trivial
  | ticked still => exact iff_of_true (.refl _) fun turns => by simp [still] at turns
  | flipped turns flip =>
    simp only [landsForward, turns, true_implies]
    exact flip_forward (by rcases flip with hf | hf <;> simp [hf.2])
  | ready due =>
    refine iff_of_true ?_ trivial
    have hle : k.world.order.status.stage ≤ 2 := by rcases due with due | due <;> rw [due] <;> rfl
    have hge : 2 ≤ OrderStatus.readyPickup.stage := by decide
    exact .of_le (by omega) (hle.trans hge)
  | expired => exact expired_forward
  | @order t t' e w' step ho =>
    cases t with
    | paid t =>
      obtain ⟨t₁, -, hp⟩ := orderPaid_cases step
      rw [paid_forward hp]
      cases t <;> cases e <;> rfl
    | pickUp t =>
      cases t with
      | checked =>
        cases e <;> simp only [orderMachine, orderStep, MarkPickedUp.step, Option.map_some, Option.map_none,
          Option.some.injEq, Prod.mk.injEq, reduceCtorEq] at step
        · obtain ⟨rfl, -⟩ := step
          exact pickUp_forward
        · obtain ⟨rfl, -⟩ := step
          exact iff_of_true (.refl _) trivial
      | _ => exact iff_of_true (guarded_forward ho (by simp) (by simp)) trivial
    | _ => exact iff_of_true (guarded_forward ho (by simp) (by simp)) trivial
  | @collect t us e w' step hc =>
    cases hc with
    | @paid t t' e w' hp =>
      rw [paid_forward hp]
      cases t <;> cases e <;> rfl
    | _ => exact iff_of_true (.refl _) trivial
  | @prepareLeft t e result idle =>
    refine iff_of_true (.refl _) ?_
    cases t <;> cases e <;> simp_all [landsForward, SetItemPrepared.ticking]
  | @dispatchOn t a t' open_ idle =>
    refine iff_of_true (.refl _) ?_
    unfold landsForward
    split <;> simp_all [TryDispatch.closing]
  | _ => exact iff_of_true (.refl _) trivial

end

/-- Runs in which the four unguarded writes land well move forward only, and a step
that lands elsewhere takes the order back. -/
theorem lifecycle_forward_iff (p : Pool Kitchen LifecycleThread) :
    (∀ q, lifecycleMachine.Reach landsForward p q →
      Forward p.shared.world.order.status q.shared.world.order.status) ∧
    ∀ us t a k' ts, lifecycleMachine.step p.shared t a = some (k', ts) →
      (Forward p.shared.world.order.status k'.world.order.status ↔ landsForward p.shared us (.step t a)) := by
  refine ⟨fun q h => ?_, fun us t a k' ts hst => step_forward_iff hst⟩
  induction h with
  | refl => exact .refl _
  | event _ _ hev ih =>
    rw [arrival_order (lifecycleEvent_cases hev)]
    exact ih
  | step _ hok hst ih => exact ih.trans ((step_forward_iff hst).2 hok)

/-- The customer cancels while Campay is still collecting. -/
def cancelledUnpaid : List (Act LifecycleEvent Answer) :=
  payingExample ++
    [.event (.decide (.cancelOrder 1)), .step 0 (.reply .ok), .step 0 (.reply .ok), .step 0 (.reply .ok)]

/-- The payment reopens the cancelled order. -/
theorem cancelled_order_reopened :
    ¬ ∀ (order : Order) (items : List OrderItem) (p q : Pool Kitchen LifecycleThread), order.Fresh →
      lifecycleMachine.Reach anyMove ⟨.start order items, []⟩ p → lifecycleMachine.Reach anyMove p q →
      Forward p.shared.world.order.status q.shared.world.order.status := by
  intro h
  obtain ⟨p, q, hp, hq, ht⟩ := Machine.reach_of_stop lifecycleMachine anyMove (fun _ _ _ => true)
    (fun _ _ _ _ => trivial) ⟨.start exampleOrder [], []⟩ cancelledUnpaid examplePaid
    (fun p q => p.shared.world.order.status == .cancelled && q.shared.world.order.status == .confirmed)
    (by decide +kernel)
  simp only [Bool.and_eq_true, beq_iff_eq] at ht
  have hf := h _ _ p q exampleOrder_fresh hp hq
  rw [ht.1, ht.2] at hf
  exact absurd (hf.stays rfl) (by decide)

def landsForwardB (k : Kitchen) (_ : List LifecycleThread) (m : Move LifecycleThread LifecycleEvent Answer) : Bool :=
  match m with
  | .step (.collect (.paid (.read ..))) (.reply .ok) => k.world.order.awaitsDecision
  | .step (.order (.paid _)) _ | .step (.prepare _) _ | .step (.order (.pickUp _)) _ | .step (.dispatch _) _ => false
  | _ => true

/-- Paid and accepted in turn. -/
theorem accepted_after_payment_forward :
    ∃ q, lifecycleMachine.Reach landsForward ⟨.start exampleOrder [], []⟩ q ∧
      q.shared.world.order.status = .accepted ∧ Forward .pending q.shared.world.order.status := by
  obtain ⟨q, hq, ht⟩ := Machine.reach_of_test lifecycleMachine landsForward landsForwardB
    (fun k us m hm => by
      unfold landsForwardB at hm
      unfold landsForward
      split at hm <;> simp_all)
    ⟨.start exampleOrder [], []⟩
    (payingExample ++ examplePaid ++ [.event (.decide (.acceptOrder 1)), .step 0 (.reply .ok), .step 0 (.reply .ok)])
    (fun q => q.shared.world.order.status == .accepted) (by decide +kernel)
  exact ⟨q, hq, by simpa using ht, (lifecycle_forward_iff _).1 q hq⟩

end ChopNow
