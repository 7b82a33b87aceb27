import ChopNow.Proofs.Deferral
import ChopNow.Proofs.Notified

/-! The vendor's window: the deadline is one reading of the clock plus the window's length, it
never moves, and no job refuses an order before it. -/

namespace ChopNow

open Interleave

def ACCEPTANCE_TTL_MS : Time := ACCEPTANCE_TTL_SECONDS * 1000

/-- Refused because the vendor did not answer. -/
def Order.autoRefused (o : Order) : Prop := o.status = .refused ∧ o.refusalReason = some EXPIRED_REASON

/-- A delayed job fires when its time has come, and a payment is booked once. -/
def jobsInTime : Guard Kitchen LifecycleThread LifecycleEvent Answer
  | k, _, .event (.decide .expireVendorDecision) =>
    ∃ fireAt, .expireVendorDecision fireAt ∈ k.world.jobs ∧ fireAt ≤ k.world.clock
  | k, _, .step (.collect (.paid (.read ..))) (.reply .ok) =>
    k.world.order.paymentStatus = .pending ∨ k.world.order.paymentStatus = .processing → k.world.order.paidAt = none
  | _, _, _ => True

/-- The next step of this thread shows the order to the vendor: the booking of an order that is due
at once, or the promotion of a pre-order. The time is the one it has read. -/
def LifecycleThread.reveals (o : Order) : LifecycleThread → Option Time
  | .collect (.paid (.read _ _ now)) => if o.scheduledFor.isNone then some now else none
  | .promote (.checked _ _ now) => if o.scheduledFor.isSome then some now else none
  | _ => none

/-! The labels of a vendor's own refusals. -/

theorem reasonLabel_ne (reason : RefusalReason) (note : Option String) : reasonLabel reason note ≠ EXPIRED_REASON := by
  intro h
  have hhead : (reasonLabel reason note).toList.head? = some 'E' := by rw [h]; decide
  have htext : reason.text.toList.head? = some 'E' := by
    unfold reasonLabel at hhead
    split at hhead
    · exact hhead
    · exact hhead
    · next note _ =>
      change (reason.text ++ ": " ++ note).toList.head? = some 'E' at hhead
      cases reason <;> simp [RefusalReason.text] at hhead
  cases reason <;> exact absurd htext (by decide)

/-! What a step does to the columns of the window. -/

structure SameWindow (o o' : Order) : Prop where
  deadline : o'.acceptanceDeadlineAt = o.acceptanceDeadlineAt
  paidAt : o'.paidAt = o.paidAt
  paid : o'.paymentStatus = .paid → o.paymentStatus = .paid
  refused : o'.autoRefused → o.autoRefused ∧ o'.refusedAt = o.refusedAt

theorem SameWindow.refl (o : Order) : SameWindow o o := ⟨rfl, rfl, id, fun h => ⟨h, rfl⟩⟩

/-- An update that leaves a status other than REFUSED. -/
theorem SameWindow.of_status {o o' : Order} (hd : o'.acceptanceDeadlineAt = o.acceptanceDeadlineAt)
    (hp : o'.paidAt = o.paidAt) (hpaid : o'.paymentStatus = .paid → o.paymentStatus = .paid)
    (hs : o'.status ≠ .refused) : SameWindow o o' := ⟨hd, hp, hpaid, fun h => absurd h.1 hs⟩

inductive WindowEffect (k : Kitchen) (t : LifecycleThread) (a : Answer) (k' : Kitchen) : Prop
  | same (columns : SameWindow k.world.order k'.world.order)
  | booked {payload order now} (ht : t = .collect (.paid (.read payload order now))) (ha : a = .reply .ok)
    (due : k.world.order.paymentStatus = .pending ∨ k.world.order.paymentStatus = .processing)
    (row : k'.world.order = k.world.order.paymentPatch order payload now)
  | promoted {call order now} (ht : t = .promote (.checked call order now))
    (free : k.world.order.acceptanceDeadlineAt = none)
    (row : k'.world.order = { k.world.order with acceptanceDeadlineAt := some (now + ACCEPTANCE_TTL_MS) })
  | refused {call order now} (ht : t = .decide ⟨call, .checked order now⟩) (job : call.isJob = true)
    (row : k'.world.order = k.world.order.decide now (.refused EXPIRED_REASON EXPIRED_REASON))

theorem paymentPatch_deadline {row order : Order} {payload : PaymentSucceeded} {now : Time}
    (h : order.scheduledFor = none) :
    (row.paymentPatch order payload now).acceptanceDeadlineAt = some (now + ACCEPTANCE_TTL_MS) := by
  unfold Order.paymentPatch
  rw [h]
  rfl

section

variable {k k' : Kitchen} {us ts : List LifecycleThread} {t u : LifecycleThread} {a : Answer}

theorem decided_effect {call : DecisionCall} {order : Order} {now : Time} (hk : k'.world.order =
    k.world.order.decide now call.verdict) : WindowEffect k (.decide ⟨call, .checked order now⟩) a k' := by
  cases call with
  | sweepExpired => exact .refused rfl rfl hk
  | expireVendorDecision => exact .refused rfl rfl hk
  | acceptOrder vendor => exact .same (hk ▸ .of_status rfl rfl id (by simp [Order.decide, DecisionCall.verdict]))
  | cancelOrder user => exact .same (hk ▸ .of_status rfl rfl id (by simp [Order.decide, DecisionCall.verdict]))
  | refuseOrder vendor reason note =>
    refine .same (hk ▸ ⟨rfl, rfl, id, fun h => ?_⟩)
    exact absurd (Option.some.inj h.2) (reasonLabel_ne reason note)

theorem order_effect {t t' : OrderThread} {e : Reply} {w' : World} (hpaid : ∀ t₁, t ≠ .paid t₁)
    (h : OrderStep k.world t e w' t') : SameWindow k.world.order w'.order := by
  cases h with
  | paid | paidRead | paidJob => exact absurd rfl (hpaid _)
  | pickedUp | delivered => exact .of_status rfl rfl id (by simp)
  | cancelled => exact .of_status rfl rfl (fun h => by cases h) (by simp [Order.cancelPreOrder])
  | fraudCompensated | fraudCancelled =>
    refine .of_status rfl rfl (fun h => ?_) (by simp [Order.cancelForFraud])
    simp only [Order.cancelForFraud] at h
    split at h
    · cases h
    · exact h
  | hookRefunded => exact ⟨rfl, rfl, (fun h => by cases h), fun h => ⟨h, rfl⟩⟩
  | _ => exact ⟨rfl, rfl, id, fun h => ⟨h, rfl⟩⟩

theorem collect_effect {t : CollectThread} {ts : List CollectThread} {e : Reply} {w' : World}
    (h : CollectMove k.world t e w' ts) : WindowEffect k (.collect t) (.reply e) { k with world := w' } := by
  cases h with
  | momoStored => exact .same ⟨rfl, rfl, (fun h => by cases h), fun h => ⟨h, rfl⟩⟩
  | hookFailed => exact .same ⟨rfl, rfl, (fun h => by cases h), fun h => ⟨h, rfl⟩⟩
  | paid hp =>
    cases hp with
    | booked due => exact .booked rfl rfl due rfl
    | _ => exact .same (.refl _)
  | _ => exact .same ⟨rfl, rfl, id, fun h => ⟨h, rfl⟩⟩

theorem window_effect (hpaid : ∀ t₁, t ≠ .order (.paid t₁)) (h : LifecycleMove k t a k' ts) :
    WindowEffect k t a k' := by
  cases h with
  | decide hd =>
    cases hd with
    | decided => exact decided_effect rfl
    | _ => exact .same (.refl _)
  | promoted free => exact .promoted rfl free rfl
  | flipped turns flip =>
    refine .same (.of_status rfl rfl id ?_)
    rcases flip with ⟨-, rfl⟩ | ⟨-, rfl⟩ <;> simp
  | ready => exact .same (.of_status rfl rfl id (by simp))
  | expired =>
    refine .same (.of_status rfl rfl (fun h => ?_) (by simp [Order.expireForNoRider]))
    simp only [Order.expireForNoRider] at h
    split at h
    · cases h
    · exact h
  | @order t t' e w' step ho => exact .same (order_effect (fun t₁ ht => hpaid t₁ (by rw [ht])) ho)
  | collect _ hc => exact collect_effect hc
  | _ => exact .same ⟨rfl, rfl, id, fun h => ⟨h, rfl⟩⟩

/-! The invariant. -/

/-- The job that this thread is about to put on the queue. -/
def LifecycleThread.pendingJob : LifecycleThread → Option Job
  | .collect (.paid (.won job)) => some job
  | .promote (.promoted deadline) => some (.expireVendorDecision deadline)
  | _ => none

structure WindowInv (k : Kitchen) : Prop where
  received : k.world.order.paymentStatus = .paid → k.world.order.paidAt.isSome = true
  immediate : k.world.order.scheduledFor = none →
    k.world.order.acceptanceDeadlineAt = k.world.order.paidAt.map (· + ACCEPTANCE_TTL_MS)
  shown : k.world.order.acceptanceDeadlineAt.isSome = true → k.world.order.paidAt.isSome = true
  queued : ∀ fireAt, .expireVendorDecision fireAt ∈ k.world.jobs → k.world.order.acceptanceDeadlineAt = some fireAt
  refused : k.world.order.autoRefused → ∃ deadline refusedAt, k.world.order.acceptanceDeadlineAt = some deadline ∧
    k.world.order.refusedAt = some refusedAt ∧ deadline ≤ refusedAt ∧ refusedAt ≤ k.world.clock

/-- `now` has been read after the deadline. -/
def Kitchen.overdue (k : Kitchen) (now : Time) : Prop :=
  ∃ deadline, k.world.order.acceptanceDeadlineAt = some deadline ∧ deadline ≤ now ∧ now ≤ k.world.clock

/-- A job that has been called knows that the time has come, a sweep when it started. -/
def DecisionPoint.Timely (k : Kitchen) (call : DecisionCall) : DecisionPoint → Prop
  | .called started => started ≤ k.world.clock ∧ (call = .expireVendorDecision → k.overdue k.world.clock)
  | .checked _ now => call.isJob = true → k.overdue now
  | _ => True

def WindowLocal (k : Kitchen) : LifecycleThread → Prop
  | .decide t => t.point.Timely k t.call
  | .promote (.promoted deadline) => k.world.order.acceptanceDeadlineAt = some deadline
  | .promote (.checked ..) => k.world.order.paidAt.isSome = true ∧ k.world.order.scheduledFor.isSome = true
  | .collect (.paid (.won (.expireVendorDecision fireAt))) => k.world.order.acceptanceDeadlineAt = some fireAt
  | .order (.paid _) => False
  | _ => True

/-- What the later steps of other threads leave of the window: a deadline stays, the rest grows. -/
structure WindowKept (k k' : Kitchen) : Prop where
  deadline : ∀ d, k.world.order.acceptanceDeadlineAt = some d → k'.world.order.acceptanceDeadlineAt = some d
  paidAt : k.world.order.paidAt.isSome = true → k'.world.order.paidAt.isSome = true
  scheduledFor : k'.world.order.scheduledFor = k.world.order.scheduledFor
  clock : k.world.clock ≤ k'.world.clock

theorem Kitchen.overdue.keep {now : Time} (h : k.overdue now) (hk : WindowKept k k') : k'.overdue now := by
  obtain ⟨deadline, hd, hnow, hclock⟩ := h
  exact ⟨deadline, hk.deadline deadline hd, hnow, hclock.trans hk.clock⟩

theorem DecisionPoint.Timely.keep {call : DecisionCall} {point : DecisionPoint} (h : point.Timely k call)
    (hk : WindowKept k k') : point.Timely k' call := by
  cases point with
  | called started =>
    refine ⟨h.1.trans hk.clock, fun hcall => ?_⟩
    obtain ⟨deadline, hd, hnow, -⟩ := h.2 hcall
    exact ⟨deadline, hk.deadline deadline hd, hnow.trans hk.clock, le_rfl⟩
  | checked order now => exact fun hjob => (h hjob).keep hk
  | _ => trivial

theorem WindowLocal.keep (h : WindowLocal k u) (hk : WindowKept k k') : WindowLocal k' u := by
  unfold WindowLocal at h ⊢
  split
  · exact DecisionPoint.Timely.keep h hk
  · exact hk.deadline _ h
  · exact ⟨hk.paidAt h.1, hk.scheduledFor ▸ h.2⟩
  · exact hk.deadline _ h
  · exact h
  · trivial

theorem effect_kept (hI : WindowInv k) (hL : WindowLocal k t) (hok : jobsInTime k us (.step t a))
    (h : LifecycleMove k t a k' ts) : WindowKept k k' := by
  have hclock := (move_clock h).ge
  have hsched := (move_keeps h).scheduledFor
  cases window_effect (fun t₁ ht => by subst ht; exact hL) h with
  | same columns =>
    exact ⟨fun d hd => columns.deadline.trans hd, fun hp => by rwa [columns.paidAt], hsched, hclock⟩
  | booked ht ha due row =>
    subst ht ha
    have hnone : k.world.order.paidAt = none := hok due
    refine ⟨fun d hd => ?_, fun hp => by simp [hnone] at hp, hsched, hclock⟩
    have hshown := hI.shown (by simp [hd])
    simp [hnone] at hshown
  | promoted ht free row =>
    refine ⟨fun d hd => ?_, fun hp => ?_, hsched, hclock⟩
    · rw [free] at hd
      cases hd
    · rwa [row]
  | refused ht job row => exact ⟨fun d hd => by rw [row]; exact hd, fun hp => by rw [row]; exact hp, hsched, hclock⟩

theorem window_jobs (hL : WindowLocal k t) (h : LifecycleMove k t a k' ts) :
    k'.world.jobs = k.world.jobs ∨ ∃ job, t.pendingJob = some job ∧ k'.world.jobs = k.world.jobs ++ [job] := by
  cases h with
  | decide hd => cases hd <;> exact .inl rfl
  | promoteChained => exact .inr ⟨_, rfl, rfl⟩
  | @order t t' e w' step ho =>
    cases ho with
    | paidJob => exact hL.elim
    | _ => exact .inl rfl
  | collect _ hc =>
    cases hc with
    | paid hp =>
      cases hp with
      | job => exact .inr ⟨_, rfl, rfl⟩
      | _ => exact .inl rfl
    | _ => exact .inl rfl
  | _ => exact .inl rfl

/-- A job that is queued, or about to be, is due at the deadline. -/
theorem window_queued (hI : WindowInv k) (hL : WindowLocal k t) (h : LifecycleMove k t a k' ts) {fireAt : Time}
    (hmem : .expireVendorDecision fireAt ∈ k'.world.jobs) : k.world.order.acceptanceDeadlineAt = some fireAt := by
  rcases window_jobs hL h with hjobs | ⟨job, hpending, hjobs⟩
  · exact hI.queued fireAt (hjobs ▸ hmem)
  · rw [hjobs] at hmem
    rcases List.mem_append.1 hmem with hmem | hmem
    · exact hI.queued fireAt hmem
    · obtain rfl := List.mem_singleton.1 hmem
      unfold LifecycleThread.pendingJob at hpending
      split at hpending
      · obtain rfl := Option.some.inj hpending
        exact hL
      · cases hpending
        exact hL
      · cases hpending

theorem WindowInv.move (hI : WindowInv k) (hL : WindowLocal k t) (hok : jobsInTime k us (.step t a))
    (hc : Copied k t) (h : LifecycleMove k t a k' ts) : WindowInv k' := by
  have hkept := effect_kept hI hL hok h
  have hclock := move_clock h
  have hqueued : ∀ fireAt, .expireVendorDecision fireAt ∈ k'.world.jobs →
      k'.world.order.acceptanceDeadlineAt = some fireAt :=
    fun fireAt hmem => hkept.deadline fireAt (window_queued hI hL h hmem)
  cases window_effect (fun t₁ ht => by subst ht; exact hL) h with
  | same columns =>
    refine ⟨fun hs => ?_, fun hs => ?_, fun hd => ?_, hqueued, fun hr => ?_⟩
    · rw [columns.paidAt]
      exact hI.received (columns.paid hs)
    · rw [columns.deadline, columns.paidAt]
      exact hI.immediate (hkept.scheduledFor ▸ hs)
    · rw [columns.paidAt]
      exact hI.shown (columns.deadline ▸ hd)
    · obtain ⟨hr, hat⟩ := columns.refused hr
      rw [columns.deadline, hat, hclock]
      exact hI.refused hr
  | @booked payload order now ht ha due row =>
    subst ht ha
    obtain ⟨-, -, hsched⟩ := hc order rfl
    refine ⟨fun _ => by rw [row]; rfl, fun hs => ?_, fun _ => by rw [row]; rfl, hqueued, fun hr => ?_⟩
    · rw [hkept.scheduledFor, ← hsched] at hs
      rw [row, paymentPatch_deadline hs]
      rfl
    · rw [row] at hr
      exact absurd hr.1 (by simp [Order.paymentPatch])
  | promoted ht free row =>
    subst ht
    obtain ⟨hpaid, hpre⟩ := hL
    refine ⟨fun _ => by rw [row]; exact hpaid, fun hs => ?_, fun _ => by rw [row]; exact hpaid, hqueued, fun hr => ?_⟩
    · rw [hkept.scheduledFor] at hs
      simp [hs] at hpre
    · obtain ⟨deadline, -, hd, -⟩ := hI.refused (by rw [row] at hr; exact hr)
      rw [free] at hd
      cases hd
  | refused ht job row =>
    subst ht
    obtain ⟨deadline, hd, hnow, hle⟩ := hL job
    rw [← hclock] at hle
    refine ⟨fun hs => ?_, fun hs => ?_, fun hd => ?_, hqueued, fun _ => ?_⟩
    · rw [row] at hs ⊢
      exact hI.received hs
    · rw [row] at hs ⊢
      exact hI.immediate hs
    · rw [row] at hd ⊢
      exact hI.shown hd
    · rw [row]
      exact ⟨deadline, _, hd, rfl, hnow, hle⟩

/-! The threads that a step leaves behind. -/

theorem booking_job {w w' : World} {payload : PaymentSucceeded} {order : Order} {now : Time} {job : Job}
    (h : OnPaymentSucceeded.step w (.read payload order now) .ok = some (w', .won job)) :
    ∀ fireAt, job = .expireVendorDecision fireAt → order.scheduledFor = none ∧ fireAt = now + ACCEPTANCE_TTL_MS := by
  rintro fireAt rfl
  simp only [OnPaymentSucceeded.step] at h
  split at h
  · cases h
  · cases h
  · obtain ⟨-, hjob⟩ := Prod.mk.inj (Option.some.inj h)
    have hannounced := OnPaymentSucceeded.won.inj hjob
    unfold World.announcePaid at hannounced
    split at hannounced
    · cases hannounced
    · next hs => exact ⟨hs, (Job.expireVendorDecision.inj hannounced).symm⟩

theorem decision_timely {call : DecisionCall} {point point' : DecisionPoint} {e : Reply} {w' : World}
    (hL : point.Timely k call) (h : DecisionStep k.world call point e w' point') (hkept : WindowKept k k') :
    point'.Timely k' call := by
  cases h with
  | @checked started hcheck =>
    intro hjob
    obtain ⟨hstarted, hdue⟩ := hL
    cases call with
    | sweepExpired =>
      simp only [DecisionCall.check, Except.ok.injEq, Bool.and_eq_true, Option.any_eq_true,
        decide_eq_true_eq] at hcheck
      obtain ⟨-, deadline, hd, hlt⟩ := hcheck
      exact Kitchen.overdue.keep ⟨deadline, hd, hlt.le, hstarted⟩ hkept
    | expireVendorDecision => exact (hdue rfl).keep hkept
    | _ => cases hjob
  | decided =>
    unfold DecisionCall.written
    split <;> trivial
  | _ => trivial

theorem window_local_move (hI : WindowInv k) (hL : WindowLocal k t) (hok : jobsInTime k us (.step t a))
    (hc : Copied k t) (h : LifecycleMove k t a k' ts) : ∀ t' ∈ ts, WindowLocal k' t' := by
  have hkept := effect_kept hI hL hok h
  cases h with
  | decide hd =>
    intro t' ht'
    rcases List.mem_cons.1 ht' with rfl | ht'
    · exact decision_timely hL hd hkept
    · obtain rfl := mem_listeners ht'
      trivial
  | @promoteChecked call helig =>
    simp only [List.mem_singleton, forall_eq]
    have hpaid : k.world.order.paymentStatus = .paid ∧ k.world.order.acceptanceDeadlineAt = none := by
      cases call <;> simp_all [PromotionCall.eligible]
    refine ⟨hI.received hpaid.1, ?_⟩
    by_contra hpre
    have himmediate := hI.immediate (by simpa using hpre)
    obtain ⟨paidAt, hp⟩ := Option.isSome_iff_exists.1 (hI.received hpaid.1)
    rw [hpaid.2, hp] at himmediate
    cases himmediate
  | promoted free ht =>
    simp only [List.mem_singleton, forall_eq]
    rcases ht with rfl | rfl
    · trivial
    · rfl
  | @order t t' e w' step ho =>
    simp only [List.mem_singleton, forall_eq]
    have hkind := orderStep_kind step fun t₁ ht => by
      subst ht
      exact hL
    cases t' with
    | paid t₁ => exact absurd rfl (hkind t₁)
    | _ => trivial
  | collect step hcm =>
    cases hcm with
    | paid hp =>
      cases hp with
      | @booked payload order now emitted job due sound =>
        simp only [List.map_cons, List.map_nil, List.mem_singleton, forall_eq]
        obtain ⟨⟨w₁, t'⟩, ht, hp⟩ := Option.map_eq_some_iff.1 step
        obtain ⟨-, hts⟩ := Prod.mk.inj hp
        obtain rfl : t' = .won job := CollectThread.paid.inj (List.cons.inj hts).1
        cases job with
        | promotePreOrder fireAt => trivial
        | expireVendorDecision fireAt =>
          obtain ⟨hs, rfl⟩ := booking_job ht fireAt rfl
          exact paymentPatch_deadline hs
      | _ => simp [WindowLocal]
    | _ => simp [WindowLocal]
  | _ => simp [WindowLocal]

theorem arrival_kept {n : LifecycleEvent} (h : LifecycleArrival k n k' ts) : WindowKept k k' := by
  have horder := arrival_order h
  exact ⟨fun d hd => by rw [horder]; exact hd, fun hp => by rw [horder]; exact hp, by rw [horder], arrival_clock h⟩

theorem WindowInv.arrival {n : LifecycleEvent} (hI : WindowInv k) (h : LifecycleArrival k n k' ts) : WindowInv k' := by
  have hclock := arrival_clock h
  cases h with
  | tick =>
    refine ⟨hI.received, hI.immediate, hI.shown, hI.queued, fun hr => ?_⟩
    obtain ⟨deadline, refusedAt, hd, hat, hle, hpast⟩ := hI.refused hr
    exact ⟨deadline, refusedAt, hd, hat, hle, hpast.trans hclock⟩
  | _ => exact ⟨hI.received, hI.immediate, hI.shown, hI.queued, hI.refused⟩

theorem arrival_window_local {n : LifecycleEvent} (hI : WindowInv k) (hok : jobsInTime k us (.event n))
    (hev : lifecycleMachine.event k n = some (k', ts)) : ∀ t ∈ ts, WindowLocal k' t := by
  cases n with
  | decide call =>
    obtain ⟨rfl, rfl⟩ := Prod.mk.inj (Option.some.inj hev)
    simp only [List.mem_singleton, forall_eq]
    refine ⟨le_rfl, ?_⟩
    rintro rfl
    obtain ⟨fireAt, hmem, hle⟩ := hok
    exact ⟨fireAt, hI.queued fireAt hmem, hle, le_rfl⟩
  | collectCallback payload =>
    obtain ⟨w₁, us, ht, rfl, rfl⟩ := lift_some.1 hev
    intro t ht'
    obtain ⟨u, -, rfl⟩ := List.mem_map.1 ht'
    have hcall : collectMachine.event k.world (.callback payload) = some (w₁, us) := ht
    cases collectEvent_cases hcall with
    | callback => simp_all [WindowLocal]
  | refundCallback payload =>
    obtain ⟨w₁, us, ht, rfl, rfl⟩ := lift_some.1 hev
    obtain ⟨rfl, -⟩ := callback_of_event ht
    simp [WindowLocal]
  | tick elapsed =>
    obtain ⟨rfl, rfl⟩ := Prod.mk.inj (Option.some.inj hev)
    simp
  | _ =>
    obtain ⟨rfl, rfl⟩ := Prod.mk.inj (Option.some.inj hev)
    simp [WindowLocal]

/-! Runs. -/

theorem window_reach {o : Order} (h₀ : o.Fresh) {items : List OrderItem} {q : Pool Kitchen LifecycleThread}
    (h : lifecycleMachine.Reach jobsInTime ⟨.start o items, []⟩ q) :
    WindowInv q.shared ∧ ∀ t ∈ q.threads, WindowLocal q.shared t := by
  refine h.stable (I := WindowInv) (L := WindowLocal) ?_ (by simp) ?_ ?_
  · have hp : (Kitchen.start o items).world.order.paidAt = none := h₀.paidAt
    have hd : (Kitchen.start o items).world.order.acceptanceDeadlineAt = none := h₀.acceptanceDeadlineAt
    have hs : (Kitchen.start o items).world.order.paymentStatus = .pending := h₀.paymentStatus
    have ho : (Kitchen.start o items).world.order.status = .pending := h₀.status
    exact ⟨by simp [hs], by simp [hp, hd], by simp [hd], by simp [Kitchen.start, World.start],
      fun hr => by simp [Order.autoRefused, ho] at hr⟩
  · intro k us n k' ts _ hI hok hev
    have ha := lifecycleEvent_cases hev
    exact ⟨hI.arrival ha, arrival_window_local hI hok hev, fun _ hL => hL.keep (arrival_kept ha)⟩
  · intro k us vs t a k' ts hr hI hL hok hst
    have hm := lifecycleStep_cases hst
    have hc := (copied_reach hr).2 t (by simp)
    exact ⟨hI.move hL hok hc hm, window_local_move hI hL hok hc hm, fun _ hu => hu.keep (effect_kept hI hL hok hm)⟩

theorem deadline_kept {o : Order} (h₀ : o.Fresh) {items : List OrderItem} {q r : Pool Kitchen LifecycleThread}
    (h : lifecycleMachine.Reach jobsInTime ⟨.start o items, []⟩ q) (hr : lifecycleMachine.Reach jobsInTime q r)
    {d : Time} (hd : q.shared.world.order.acceptanceDeadlineAt = some d) :
    r.shared.world.order.acceptanceDeadlineAt = some d := by
  refine hr.invariant (J := fun k _ => k.world.order.acceptanceDeadlineAt = some d) hd ?_ ?_
  · intro k us n k' ts _ hk _ hev
    exact (arrival_kept (lifecycleEvent_cases hev)).deadline d hk
  · intro k us vs t a k' ts hqk hk hok hst
    obtain ⟨hI, hL⟩ := window_reach h₀ (h.trans hqk)
    exact (effect_kept hI (hL t (by simp)) hok (lifecycleStep_cases hst)).deadline d hk

/-- The clock readings that a thread still works with. -/
def LifecycleThread.noted : LifecycleThread → Option Time
  | .collect (.paid (.read _ _ now)) | .promote (.checked _ _ now) | .promote (.called (.sweep now)) => some now
  | _ => none

theorem noted_move (h : LifecycleMove k t a k' ts) :
    ∀ t' ∈ ts, ∀ now, t'.noted = some now → t.noted = some now ∨ now = k.world.clock := by
  cases h with
  | decide hd =>
    intro t' ht'
    rcases List.mem_cons.1 ht' with rfl | ht'
    · simp [LifecycleThread.noted]
    · obtain rfl := mem_listeners ht'
      simp [LifecycleThread.noted]
  | @promoteChecked call helig =>
    cases call with
    | promotePreOrder => simp [LifecycleThread.noted, PromotionCall.now]
    | sweep now => simp [LifecycleThread.noted, PromotionCall.now]
  | promoted free ht => rcases ht with rfl | rfl <;> simp [LifecycleThread.noted]
  | collect step hcm =>
    cases hcm with
    | paid hp => cases hp <;> simp [LifecycleThread.noted]
    | _ => simp [LifecycleThread.noted]
  | _ => simp [LifecycleThread.noted]

theorem noted_event {n : LifecycleEvent} (hev : lifecycleMachine.event k n = some (k', ts)) :
    ∀ t ∈ ts, ∀ now, t.noted = some now → now = k'.world.clock := by
  cases n with
  | collectCallback payload =>
    obtain ⟨w₁, us, ht, rfl, rfl⟩ := lift_some.1 hev
    intro t ht'
    obtain ⟨u, -, rfl⟩ := List.mem_map.1 ht'
    have hcall : collectMachine.event k.world (.callback payload) = some (w₁, us) := ht
    cases collectEvent_cases hcall with
    | callback => simp_all [LifecycleThread.noted]
  | refundCallback payload =>
    obtain ⟨w₁, us, ht, rfl, rfl⟩ := lift_some.1 hev
    obtain ⟨rfl, -⟩ := callback_of_event ht
    simp [LifecycleThread.noted]
  | _ =>
    obtain ⟨rfl, rfl⟩ := Prod.mk.inj (Option.some.inj hev)
    simp [LifecycleThread.noted]

/-- Every such reading is the clock of an earlier state. -/
theorem noted_past {p q : Pool Kitchen LifecycleThread} (hp : p.threads = [])
    (h : lifecycleMachine.Reach jobsInTime p q) : ∀ t ∈ q.threads, ∀ now, t.noted = some now →
      lifecycleMachine.Past jobsInTime p q fun k => k.world.clock = now := by
  suffices lifecycleMachine.Reach jobsInTime p q ∧ ∀ t ∈ q.threads, ∀ now, t.noted = some now →
      lifecycleMachine.Past jobsInTime p q fun k => k.world.clock = now from this.2
  refine h.invariant (J := fun k us => lifecycleMachine.Reach jobsInTime p ⟨k, us⟩ ∧ ∀ t ∈ us, ∀ now,
    t.noted = some now → lifecycleMachine.Past jobsInTime p ⟨k, us⟩ fun k => k.world.clock = now)
    ⟨.refl, by simp [hp]⟩ ?_ ?_
  · rintro k us n k' ts hr ⟨-, hus⟩ hok hev
    have hnext := hr.event hok hev
    refine ⟨hnext, fun t ht now hnow => ?_⟩
    rcases List.mem_append.1 ht with ht | ht
    · exact .now hnext (noted_event hev t ht now hnow).symm
    · exact (hus t ht now hnow).later (Machine.Reach.refl.event hok hev)
  · rintro k us vs t a k' ts hr ⟨-, hus⟩ hok hst
    have hnext := hr.step hok hst
    refine ⟨hnext, fun u hu now hnow => ?_⟩
    have hlater : lifecycleMachine.Reach jobsInTime _ _ := Machine.Reach.refl.step hok hst
    rcases List.mem_append.1 hu with hu | hu
    · rcases noted_move (lifecycleStep_cases hst) u hu now hnow with hold | rfl
      · exact (hus t (by simp) now hold).later hlater
      · exact (Machine.Past.now (Q := fun k' => k'.world.clock = k.world.clock) hr rfl).later hlater
    · exact (hus u (mem_middle.2 (.inr hu)) now hnow).later hlater

end

/-- The window that the vendor gets, in a state `q` on the way from `p`. -/
structure FullWindow (p q : Pool Kitchen LifecycleThread) : Prop where
  refused : q.shared.world.order.autoRefused → ∃ paidAt deadline refusedAt,
    q.shared.world.order.paidAt = some paidAt ∧ q.shared.world.order.acceptanceDeadlineAt = some deadline ∧
    q.shared.world.order.refusedAt = some refusedAt ∧ deadline ≤ refusedAt ∧ refusedAt ≤ q.shared.world.clock
  shown : ∀ us t vs a k' ts, q.threads = us ++ t :: vs → jobsInTime q.shared (us ++ vs) (.step t a) →
    lifecycleMachine.step q.shared t a = some (k', ts) →
    k'.world.order.acceptanceDeadlineAt ≠ q.shared.world.order.acceptanceDeadlineAt →
    q.shared.world.order.acceptanceDeadlineAt = none ∧ ∃ now, t.reveals q.shared.world.order = some now ∧
      k'.world.order.acceptanceDeadlineAt = some (now + ACCEPTANCE_TTL_MS) ∧
      lifecycleMachine.Past jobsInTime p q fun k => k.world.clock = now
  kept : ∀ d r, q.shared.world.order.acceptanceDeadlineAt = some d → lifecycleMachine.Reach jobsInTime q r →
    r.shared.world.order.acceptanceDeadlineAt = some d

/-- In every state that a fresh order gets to. -/
theorem vendor_gets_full_window {o : Order} (h₀ : o.Fresh) {items : List OrderItem} {q : Pool Kitchen LifecycleThread}
    (h : lifecycleMachine.Reach jobsInTime ⟨.start o items, []⟩ q) : FullWindow ⟨.start o items, []⟩ q := by
  obtain ⟨hI, hlocals⟩ := window_reach h₀ h
  refine ⟨fun hr => ?_, ?_, fun d r hd hr => deadline_kept h₀ h hr hd⟩
  · obtain ⟨deadline, refusedAt, hd, hrest⟩ := hI.refused hr
    obtain ⟨paidAt, hpaid⟩ := Option.isSome_iff_exists.1 (hI.shown (by simp [hd]))
    exact ⟨paidAt, deadline, refusedAt, hpaid, hd, hrest⟩
  · rintro us t vs a k' ts hthreads hok hst hne
    have hmem : t ∈ q.threads := by simp [hthreads]
    have hL := hlocals t hmem
    have hpast := noted_past rfl h t hmem
    have hc := (copied_reach h).2 t hmem
    cases window_effect (fun t₁ ht => by subst ht; exact hL) (lifecycleStep_cases hst) with
    | same columns => exact absurd columns.deadline hne
    | @booked payload order now ht ha due row =>
      subst ht ha
      have hnone : q.shared.world.order.paidAt = none := hok due
      obtain ⟨-, -, hsched⟩ := hc order rfl
      have hfree : q.shared.world.order.acceptanceDeadlineAt = none := by
        by_contra hsome
        have hshown := hI.shown (by simpa [Option.isSome_iff_ne_none] using hsome)
        simp [hnone] at hshown
      cases hs : order.scheduledFor with
      | some scheduledFor =>
        rw [row] at hne
        exact absurd (by simp [Order.paymentPatch, hs]) hne
      | none =>
        refine ⟨hfree, now, ?_, ?_, hpast now rfl⟩
        · simp [LifecycleThread.reveals, ← hsched, hs]
        · rw [row, paymentPatch_deadline hs]
    | @promoted call order now ht free row =>
      subst ht
      refine ⟨free, now, ?_, by rw [row], hpast now rfl⟩
      simp [LifecycleThread.reveals, hL.2]
    | refused ht job row =>
      rw [row] at hne
      exact absurd rfl hne

/-! The example order, with a vendor who does not answer. -/

def Job.fires (clock : Time) : Job → Bool
  | .expireVendorDecision fireAt => Nat.ble fireAt clock
  | .promotePreOrder _ => false

def jobsInTimeB (k : Kitchen) (_ : List LifecycleThread) (m : Move LifecycleThread LifecycleEvent Answer) : Bool :=
  match m with
  | .event (.decide .expireVendorDecision) => k.world.jobs.any (Job.fires k.world.clock)
  | .step (.collect (.paid (.read ..))) (.reply .ok) => k.world.order.paidAt.isNone
  | _ => true

theorem jobsInTime_of_bool (k : Kitchen) (us : List LifecycleThread) (m : Move LifecycleThread LifecycleEvent Answer)
    (h : jobsInTimeB k us m = true) : jobsInTime k us m := by
  unfold jobsInTimeB at h
  split at h
  · obtain ⟨job, hmem, hfires⟩ := List.any_eq_true.1 h
    cases job with
    | expireVendorDecision fireAt => exact ⟨fireAt, hmem, Nat.le_of_ble_eq_true hfires⟩
    | promotePreOrder fireAt => cases hfires
  · exact fun _ => by simpa using h
  · next hjob hbooking =>
    unfold jobsInTime
    split
    · exact absurd rfl hjob
    · next payload order now => exact absurd rfl (hbooking payload order now)
    · trivial

/-- Refused after a minute, to the second. -/
theorem silent_vendor_refused :
    ∃ q, lifecycleMachine.Reach jobsInTime ⟨.start exampleOrder [], []⟩ q ∧ q.shared.world.order.autoRefused ∧
      q.shared.world.order.refusedAt = some 60000 ∧ q.shared.world.order.acceptanceDeadlineAt = some 60000 ∧
      FullWindow ⟨.start exampleOrder [], []⟩ q := by
  obtain ⟨q, hreach, htest⟩ := Machine.reach_of_test lifecycleMachine jobsInTime jobsInTimeB jobsInTime_of_bool
    ⟨.start exampleOrder [], []⟩ (payingExample ++ examplePaid ++ [.step 0 (.reply .ok), .event (.tick 60000),
      .event (.decide .expireVendorDecision), .step 0 (.reply .ok), .step 0 (.reply .ok)])
    (fun q => q.shared.world.order.status == .refused && q.shared.world.order.refusalReason == some EXPIRED_REASON &&
      q.shared.world.order.refusedAt == some 60000 && q.shared.world.order.acceptanceDeadlineAt == some 60000)
    (by decide +kernel)
  simp only [Bool.and_eq_true, beq_iff_eq] at htest
  exact ⟨q, hreach, htest.1.1, htest.1.2, htest.2, vendor_gets_full_window exampleOrder_fresh hreach⟩

end ChopNow
