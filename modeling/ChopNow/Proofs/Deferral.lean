import ChopNow.Proofs.HonestRefund

/-! Pre-orders and the search for a rider. The vendor hears of a pre-order an hour
before it is due, but may accept it before that, and the acceptance starts the
search at once. -/

namespace ChopNow

open Interleave

/-- The pre-order is within the lead of its hour; any other order always is. -/
def World.Due (w : World) : Prop :=
  ∀ scheduledFor ∈ w.order.scheduledFor, scheduledFor ≤ w.clock + PRE_ORDER_NOTIFICATION_LEAD_MINUTES * 60000

/-- The order expired for want of a rider. -/
def Order.gaveUp (o : Order) : Prop := o.status = .expired ∧ o.refusalReason = some NO_RIDER_AVAILABLE_REASON

/-- Before the lead it has no rider and has not been given up. -/
def World.Deferred (w : World) : Prop :=
  ∀ scheduledFor ∈ w.order.scheduledFor, w.clock + PRE_ORDER_NOTIFICATION_LEAD_MINUTES * 60000 < scheduledFor →
    w.order.riderId = none ∧ ¬ w.order.gaveUp

/-- An attempt to find a rider goes past its first check only within the lead. -/
def searchesWithinLead : Guard Kitchen LifecycleThread LifecycleEvent Answer := fun k _ m =>
  match m with
  | .step (.dispatch (.called ..)) (.reply .ok) =>
    k.world.order.riderId = none → k.world.order.status ≠ .cancelled → k.world.order.status ≠ .expired → k.world.Due
  | _ => True

/-- This attempt has gone past its first check. -/
def TryDispatch.seeking : TryDispatch → Bool
  | .called .. | .done => false
  | _ => true

def LifecycleThread.seeking : LifecycleThread → Bool
  | .dispatch t => t.seeking
  | _ => false

structure World.Unsought (w : World) : Prop where
  riderId : w.order.riderId = none
  status : w.order.status ≠ .expired

section

variable {k k' : Kitchen} {us ts : List LifecycleThread} {t : LifecycleThread} {a : Answer} {w w' : World}

theorem World.Due.keep (h : w.Due) (hs : w'.order.scheduledFor = w.order.scheduledFor) (hc : w.clock ≤ w'.clock) :
    w'.Due := by
  intro scheduledFor hT
  exact le_trans (h scheduledFor (hs ▸ hT)) (Nat.add_le_add_right hc _)

theorem move_clock (h : LifecycleMove k t a k' ts) : k'.world.clock = k.world.clock := by
  cases h with
  | decide hd => cases hd <;> rfl
  | order _ ho => cases ho <;> rfl
  | collect _ hc =>
    cases hc with
    | paid hp => cases hp <;> rfl
    | _ => rfl
  | _ => rfl

theorem arrival_clock {n : LifecycleEvent} (h : LifecycleArrival k n k' ts) : k.world.clock ≤ k'.world.clock := by
  cases h with
  | tick => exact Nat.le_add_right _ _
  | _ => exact le_rfl

/-- An attempt goes on from where it was, or passes the first check. -/
theorem tryDispatch_seeks {t t' : TryDispatch} (h : t.step w a = some (w', t')) (hs : t'.seeking = true) :
    t.seeking = true ∨ (∃ fireAt attempt, t = .called fireAt attempt) ∧ a = .reply .ok ∧
      w.order.riderId = none ∧ w.order.status ≠ .cancelled ∧ w.order.status ≠ .expired := by
  cases t with
  | called fireAt attempt =>
    refine .inr ⟨⟨fireAt, attempt, rfl⟩, ?_⟩
    cases a with
    | candidate rider => simp [TryDispatch.step] at h
    | reply e =>
      cases e <;> simp only [TryDispatch.step, Option.some.injEq, Prod.mk.injEq, reduceCtorEq] at h
      · split at h
        · cases h
        · split at h <;> obtain ⟨rfl, rfl⟩ := Prod.mk.inj (Option.some.inj h)
          · cases hs
          · next hopen => simpa [not_or, Option.not_isSome_iff_eq_none] using hopen
      · obtain ⟨-, rfl⟩ := h
        cases hs
  | done => rcases a with e | rider <;> [cases e; skip] <;> simp [TryDispatch.step] at h
  | _ => exact .inl rfl

theorem dispatch_of_step {t : TryDispatch} (h : lifecycleMachine.step k (.dispatch t) a = some (k', ts)) :
    ∃ w' t', t.step k.world a = some (w', t') ∧ k' = { k with world := w' } ∧ ts = [.dispatch t'] := by
  obtain ⟨w₁, us, ht, rfl, rfl⟩ := lift_some.1 h
  obtain ⟨⟨w₂, t'⟩, hd, hp⟩ := Option.map_eq_some_iff.1 ht
  obtain ⟨rfl, rfl⟩ := Prod.mk.inj hp
  exact ⟨w₂, t', hd, rfl, rfl⟩

/-- Only a thread that searches passes the search on. -/
theorem move_idle (h : LifecycleMove k t a k' ts) (ht : ∀ u, t ≠ .dispatch u) : ∀ t' ∈ ts, t'.seeking = false := by
  cases h with
  | decide hd =>
    intro t' ht'
    rcases List.mem_cons.1 ht' with rfl | ht'
    · rfl
    · obtain rfl := mem_listeners ht'
      rfl
  | collect _ hc =>
    intro t' ht'
    obtain ⟨u, -, rfl⟩ := List.mem_map.1 ht'
    rfl
  | dispatchOn | assigned | expiring | expired => exact absurd rfl (ht _)
  | _ => simp [LifecycleThread.seeking]

theorem step_seeks (h : lifecycleMachine.step k t a = some (k', ts)) (hok : searchesWithinLead k us (.step t a))
    (hL : t.seeking = true → k.world.Due) : ∀ t' ∈ ts, t'.seeking = true → k.world.Due := by
  intro t' ht' hs
  by_cases ht : ∃ u, t = .dispatch u
  · obtain ⟨u, rfl⟩ := ht
    obtain ⟨w', u', hd, rfl, rfl⟩ := dispatch_of_step h
    obtain rfl := List.mem_singleton.1 ht'
    rcases tryDispatch_seeks hd hs with hu | ⟨⟨fireAt, attempt, rfl⟩, rfl, hrider, hcancelled, hexpired⟩
    · exact hL hu
    · exact hok hrider hcancelled hexpired
  · rw [move_idle (lifecycleStep_cases h) (fun u hu => ht ⟨u, hu⟩) t' ht'] at hs
    cases hs

/-- A thread that does not search assigns nobody and gives nothing up. -/
theorem move_unsought (h : LifecycleMove k t a k' ts) (ht : t.seeking = false) (hI : k.world.Unsought) :
    k'.world.Unsought := by
  obtain ⟨hrider, hstatus⟩ := hI
  cases h with
  | @decide call point point' e w' hd =>
    cases hd with
    | decided =>
      refine ⟨?_, ?_⟩
      · cases call.verdict <;> exact hrider
      · cases call.verdict <;> simp [Order.decide]
    | _ => exact ⟨hrider, hstatus⟩
  | flipped turns flip => exact ⟨hrider, by rcases flip with ⟨-, rfl⟩ | ⟨-, rfl⟩ <;> simp⟩
  | ready => exact ⟨hrider, by simp⟩
  | assigned | expired => cases ht
  | order _ ho =>
    cases ho with
    | paid | pickedUp | delivered | cancelled | fraudCompensated | fraudCancelled =>
      exact ⟨hrider, by simp [Order.paymentPatch, Order.cancelPreOrder, Order.cancelForFraud]⟩
    | _ => exact ⟨hrider, hstatus⟩
  | collect _ hc =>
    cases hc with
    | paid hp =>
      cases hp with
      | booked => exact ⟨hrider, by simp [Order.paymentPatch]⟩
      | _ => exact ⟨hrider, hstatus⟩
    | _ => exact ⟨hrider, hstatus⟩
  | _ => exact ⟨hrider, hstatus⟩

theorem arrival_seeks {n : LifecycleEvent} (h : LifecycleArrival k n k' ts) : ∀ t ∈ ts, t.seeking = false := by
  cases h with
  | @call n t hcall =>
    simp only [List.mem_singleton, forall_eq]
    unfold LifecycleThread.isCall at hcall
    split at hcall <;> first | rfl | cases hcall
  | _ => simp [LifecycleThread.seeking]

/-- Within the lead, or nobody has looked for a rider yet. -/
theorem deferral_reach {order : Order} (hrider : order.riderId = none) (hstatus : order.status ≠ .expired)
    {items : List OrderItem} {q : Pool Kitchen LifecycleThread}
    (h : lifecycleMachine.Reach searchesWithinLead ⟨.start order items, []⟩ q) :
    (q.shared.world.Due ∨ q.shared.world.Unsought) ∧ ∀ t ∈ q.threads, t.seeking = true → q.shared.world.Due := by
  refine h.stable (I := fun k => k.world.Due ∨ k.world.Unsought) (L := fun k t => t.seeking = true → k.world.Due)
    (.inr ⟨hrider, hstatus⟩) (by simp) ?_ ?_
  · intro k us n k' ts _ hI _ hev
    have ha := lifecycleEvent_cases hev
    have hdue : k.world.Due → k'.world.Due := fun h => h.keep (arrival_keeps ha).scheduledFor (arrival_clock ha)
    have hu : k.world.Unsought → k'.world.Unsought := fun hu => by
      obtain ⟨hrider, hstatus⟩ := hu
      rw [← arrival_order ha] at hrider hstatus
      exact ⟨hrider, hstatus⟩
    refine ⟨hI.imp hdue hu, fun t ht hs => ?_, fun _ hL hs => hdue (hL hs)⟩
    rw [arrival_seeks ha t ht] at hs
    cases hs
  · intro k us vs t a k' ts _ hI hL hok hst
    have hm := lifecycleStep_cases hst
    have hdue : k.world.Due → k'.world.Due := fun h => h.keep (move_keeps hm).scheduledFor (move_clock hm).ge
    refine ⟨?_, fun t' ht' hs => hdue (step_seeks hst hok hL t' ht' hs), fun _ hu hs => hdue (hu hs)⟩
    cases hs : t.seeking with
    | true => exact .inl (hdue (hL hs))
    | false => exact hI.imp hdue (move_unsought hm hs)

end

/-- As long as no attempt goes past its first check before the lead, a pre-order keeps
its place until then. -/
theorem preOrder_deferred {order : Order} (h₀ : order.Fresh) (hrider : order.riderId = none)
    {items : List OrderItem} {q : Pool Kitchen LifecycleThread}
    (h : lifecycleMachine.Reach searchesWithinLead ⟨.start order items, []⟩ q) : q.shared.world.Deferred := by
  intro scheduledFor hT hearly
  have hstatus : order.status ≠ .expired := by simp [h₀.status]
  rcases (deferral_reach hrider hstatus h).1 with hdue | hu
  · exact absurd (hdue scheduledFor hT) (not_le_of_gt hearly)
  · exact ⟨hu.riderId, fun hg => hu.status hg.1⟩

/-- The example order, due in five hours. -/
def exampleAheadOrder : Order := { exampleOrder with scheduledFor := some 18000000 }

/-- The vendor accepts. -/
def exampleAccepted : List (Act LifecycleEvent Answer) :=
  [.event (.decide (.acceptOrder 1)), .step 0 (.reply .ok), .step 0 (.reply .ok)]

/-- A paid pre-order is accepted five hours ahead: a rider is on the way at once, or the
order is given up after five minutes. -/
theorem early_search :
    (¬ ∀ (order : Order) (items : List OrderItem) (q : Pool Kitchen LifecycleThread), order.Fresh →
      order.riderId = none → lifecycleMachine.Reach anyMove ⟨.start order items, []⟩ q →
      q.shared.world.order.paymentStatus = .paid → q.shared.world.Deferred) ∧
    ¬ ∀ (order : Order) (items : List OrderItem) (q : Pool Kitchen LifecycleThread), order.Fresh →
      order.riderId = none → lifecycleMachine.Reach anyMove ⟨.start order items, []⟩ q →
      q.shared.world.order.paidAt.isSome → q.shared.world.order.riderId = none → q.shared.world.Deferred := by
  have h₀ : exampleAheadOrder.Fresh := exampleOrder_fresh.scheduled 18000000
  constructor
  · intro h
    obtain ⟨q, hq, ht⟩ := Machine.reach_of_test lifecycleMachine anyMove (fun _ _ _ => true) (fun _ _ _ _ => trivial)
      ⟨.start exampleAheadOrder [], []⟩
      (payingExample ++ examplePaid ++ exampleAccepted ++
        [.step 1 (.reply .ok), .step 0 (.reply .ok), .step 0 (.candidate (some 5)), .step 0 (.reply .ok)])
      (fun q => q.shared.world.order.paymentStatus == .paid && q.shared.world.order.scheduledFor == some 18000000 &&
        q.shared.world.clock == 0 && q.shared.world.order.riderId == some 5)
      (by decide +kernel)
    simp only [Bool.and_eq_true, beq_iff_eq] at ht
    obtain ⟨⟨⟨hpaid, hT⟩, hclock⟩, hrider⟩ := ht
    obtain ⟨hnone, -⟩ := h _ _ q h₀ rfl hq hpaid _ hT (by rw [hclock]; decide)
    rw [hrider] at hnone
    cases hnone
  · intro h
    obtain ⟨q, hq, ht⟩ := Machine.reach_of_test lifecycleMachine anyMove (fun _ _ _ => true) (fun _ _ _ _ => trivial)
      ⟨.start exampleAheadOrder [], []⟩ (payingExample ++ examplePaid ++ exampleAccepted ++ exampleNoRider)
      (fun q => q.shared.world.order.paidAt.isSome && q.shared.world.order.riderId == none &&
        q.shared.world.order.scheduledFor == some 18000000 && q.shared.world.clock == 270000 &&
        q.shared.world.order.status == .expired && q.shared.world.order.refusalReason == some NO_RIDER_AVAILABLE_REASON)
      (by decide +kernel)
    simp only [Bool.and_eq_true, beq_iff_eq] at ht
    obtain ⟨⟨⟨⟨⟨hpaid, hrider⟩, hT⟩, hclock⟩, hexpired⟩, hreason⟩ := ht
    exact (h _ _ q h₀ rfl hq hpaid hrider _ hT (by rw [hclock]; decide)).2 ⟨hexpired, hreason⟩

def searchesWithinLeadB (_ : Kitchen) (_ : List LifecycleThread)
    (m : Move LifecycleThread LifecycleEvent Answer) : Bool :=
  match m with
  | .step (.dispatch _) _ => false
  | _ => true

theorem searchesWithinLead_of_bool {k : Kitchen} {us : List LifecycleThread}
    {m : Move LifecycleThread LifecycleEvent Answer} (h : searchesWithinLeadB k us m = true) :
    searchesWithinLead k us m := by
  unfold searchesWithinLead
  split
  · cases h
  · trivial

/-- The pre-order is accepted five hours ahead, and its search waits. -/
theorem accepted_preOrder_waits :
    ∃ q, lifecycleMachine.Reach searchesWithinLead ⟨.start exampleAheadOrder [], []⟩ q ∧
      q.shared.world.order.paymentStatus = .paid ∧ q.shared.world.order.status = .accepted ∧
      q.shared.world.Deferred := by
  obtain ⟨q, hq, ht⟩ := Machine.reach_of_test lifecycleMachine searchesWithinLead searchesWithinLeadB
    (fun _ _ _ => searchesWithinLead_of_bool) ⟨.start exampleAheadOrder [], []⟩
    (payingExample ++ examplePaid ++ exampleAccepted)
    (fun q => q.shared.world.order.paymentStatus == .paid && q.shared.world.order.status == .accepted)
    (by decide +kernel)
  simp only [Bool.and_eq_true, beq_iff_eq] at ht
  exact ⟨q, hq, ht.1, ht.2, preOrder_deferred (exampleOrder_fresh.scheduled 18000000) rfl hq⟩

end ChopNow
