import ChopNow.Proofs.CollectInbox
import ChopNow.Proofs.PayoutOnce
import ChopNow.Proofs.RefundInbox
import ChopNow.Proofs.RefundOnce
import ChopNow.Proofs.TransferInbox

/-! Callbacks that outrun the write of their reference, in the three Campay flows:
one that was looked up too early has used up the place of those that follow. -/

namespace ChopNow

open Interleave

/-- Only terminal callbacks for `ref` arrive. -/
def outrunning (ref : Reference) (st : CampayStatus) : Guard World CollectThread CollectEvent Reply := fun w us m =>
  relayed ref st w us m ∧
    match m with
    | .event (.callback payload) => payload.status.isFinal = true
    | _ => True

/-- A handler that has filed its callback and not yet acted on it. -/
def CollectThread.handling : CollectThread → Bool
  | .webhook (.first ..) | .webhook (.serialised ..) | .webhook (.failing ..) | .paid (.called _) | .paid (.read ..) =>
    true
  | _ => false

/-- The dedup row is used up, the payment is still open and no handler is going to close it. -/
structure CollectMissed (ref : Reference) (p : Pool World CollectThread) : Prop where
  filed : hasEvent p.shared.dedup .collect ref = true
  open_ : p.shared.order.paymentStatus.settled = false
  through : ∀ t ∈ p.threads, t.handling = false

/-- initiateMomo stores `ref` by the time `p`; by the time `q` another callback for it is through. -/
structure CollectOutrun (w : World) (ref : Reference) (st : CampayStatus) (p q : Pool World CollectThread) : Prop where
  awaiting : w.Awaiting ref
  unset : w.order.paymentReference ≠ some ref
  before : ∃ userId payerPhone,
    collectMachine.Reach (outrunning ref st) ⟨w, [.momo (.called userId payerPhone)]⟩ p
  stored : p.shared.order.paymentReference = some ref
  after : collectMachine.Reach (outrunning ref st) p q
  done : ∀ t ∈ q.threads, t.isDone = true
  redelivered : (reports ref p.shared.collects).length < (reports ref q.shared.collects).length

section

variable {ref : Reference} {st : CampayStatus} {w : World} {p q : Pool World CollectThread}

theorem collectMissed_iff :
    CollectMissed ref p ↔ (p.shared.collectInbox ref).taken = true ∧ (p.shared.collectInbox ref).applied = false ∧
      ∀ t ∈ p.threads, ∀ a ∈ t.task, Inbox.Task.active a = false := by
  have htask : ∀ t : CollectThread, t.handling = false ↔ ∀ a ∈ t.task, Inbox.Task.active a = false := by
    intro t
    cases t <;> rename_i t <;> cases t <;> simp [CollectThread.handling, CollectThread.task, Inbox.Task.active]
  constructor
  · rintro ⟨filed, open_, through⟩
    exact ⟨filed, open_, fun t ht => (htask t).1 (through t ht)⟩
  · rintro ⟨filed, open_, through⟩
    exact ⟨filed, open_, fun t ht => (htask t).2 (through t ht)⟩

theorem collect_closed_iff (h : CollectOutrun w ref st p q) :
    q.shared.EndsRight st ↔ ¬ CollectMissed ref p ∧ (st = .successful → w.order.totalXAF ≠ 0) := by
  obtain ⟨userId, payerPhone, hp⟩ := h.before
  have hattempt : w.attempt ref userId payerPhone = [.momo (.called userId payerPhone)] := if_neg h.unset
  rw [← hattempt] at hp
  have hle : ∀ x us m, outrunning ref st x us m → relayed ref st x us m := fun _ _ _ h => h.1
  by_cases hT : st = .successful → w.order.totalXAF ≠ 0
  · rw [and_iff_left hT, (outcome_reach hle hT h.awaiting (hp.trans h.after)).endsRight_iff, collectMissed_iff]
    have hsim : Simulates collectMachine Inbox.machine (outrunning ref st) Inbox.onlyGood (World.collectInbox ref)
        CollectThread.task ⟨w, w.attempt ref userId payerPhone⟩ :=
      collect_simulates hle Inbox.onlyGood_unordered (fun _ _ _ hok => hok.2) (fun _ _ _ _ => trivial) hT h.awaiting
    have hne : reports ref q.shared.collects ≠ [] := List.ne_nil_of_length_pos (by have := h.redelivered; omega)
    exact Inbox.applied_iff hsim h.awaiting.start hp (by simp [World.collectInbox, h.stored]) h.after
      (task_of_done h.done) (by simp [World.collectInbox, hne])
  · rw [Classical.not_imp, not_not] at hT
    refine iff_of_false (fun he => ?_) fun hr => hr.2 hT.1 hT.2
    rw [World.EndsRight, if_pos hT.1, unbooked_of_zero hle h.awaiting hT.2 (hp.trans h.after)] at he
    cases he.2

end

/-- A terminal callback that arrives after the reference is on its row has its
effect exactly when no earlier one has used up the dedup row in vain. -/
theorem outrun_callback_applied_iff (ref : Reference) (st : CampayStatus) :
    (∀ (w : World) (p q : Pool World CollectThread), CollectOutrun w ref st p q →
      (q.shared.EndsRight st ↔ ¬ CollectMissed ref p ∧ (st = .successful → w.order.totalXAF ≠ 0))) ∧
    (∀ (w : PayoutWorld) (p q : Pool PayoutWorld PayoutThread), TransferOutrun w ref st p q →
      (q.shared.payout.status = st.payoutStatus ↔ ¬ TransferMissed ref p)) ∧
    (∀ (w : World) (p q : Pool World OrderThread), RefundOutrun w ref st p q →
      (q.shared.RefundEnds st ↔ ¬ RefundMissed ref p)) :=
  ⟨fun _ _ _ h => collect_closed_iff h, fun _ _ _ h => transfer_closed_iff h, fun _ _ _ h => refund_closed_iff h⟩

/-! One callback before the write and one after it; the schedule between says how
far the first has come when the reference is stored. -/

def outrunningB (_ : World) (_ : List CollectThread) (m : Move CollectThread CollectEvent Reply) : Bool :=
  match m with
  | .event (.callback payload) => payload.reference == some 7 && payload.status == .successful
  | .event _ | .step _ (.fail _) => false
  | .step .. => true

theorem outrunning_of_bool (w : World) (us : List CollectThread) (m : Move CollectThread CollectEvent Reply)
    (h : outrunningB w us m = true) : outrunning 7 .successful w us m := by
  unfold outrunningB at h
  unfold outrunning relayed
  split at h
  · simp only [Bool.and_eq_true, beq_iff_eq] at h
    exact ⟨⟨h.1, fun _ => h.2⟩, by simp [h.2, CampayStatus.isFinal]⟩
  · cases h
  · cases h
  · refine ⟨?_, trivial⟩
    split <;> simp_all

theorem collect_outrun (as bs : List (Act CollectEvent Reply)) (test : Pool World CollectThread → Bool)
    (h : ((collectMachine.run outrunningB ⟨World.start exampleOrder, [.momo (.called 1 "670000001")]⟩ as).bind fun p =>
      (collectMachine.run outrunningB p bs).map fun q => p.shared.order.paymentReference == some 7 &&
        q.threads.all CollectThread.isDone &&
        decide ((reports 7 p.shared.collects).length < (reports 7 q.shared.collects).length) && test q) = some true) :
    ∃ p q, CollectOutrun (World.start exampleOrder) 7 .successful p q ∧ test q = true := by
  obtain ⟨p, q, hp, hq, ht⟩ := Machine.reach_of_stop collectMachine (outrunning 7 .successful) outrunningB
    outrunning_of_bool _ as bs _ h
  simp only [Bool.and_eq_true, beq_iff_eq, List.all_eq_true, decide_eq_true_eq] at ht
  exact ⟨p, q, ⟨⟨by decide, rfl, rfl, rfl, nofun, rfl⟩, nofun, ⟨_, _, hp⟩, ht.1.1.1, hq, ht.1.1.2, ht.1.2⟩, ht.2⟩

def transferRelayedB (_ : PayoutWorld) (_ : List PayoutThread) (m : Move PayoutThread PayoutEvent Reply) : Bool :=
  match m with
  | .event (.callback payload) => payload.reference == some 7 && payload.status == .successful
  | .event _ | .step _ (.fail _) => false
  | .step .. => true

theorem transferRelayed_of_bool (w : PayoutWorld) (us : List PayoutThread) (m : Move PayoutThread PayoutEvent Reply)
    (h : transferRelayedB w us m = true) : transferRelayed 7 .successful w us m := by
  unfold transferRelayedB at h
  unfold transferRelayed
  split at h
  · simp only [Bool.and_eq_true, beq_iff_eq] at h
    exact ⟨h.1, .inl (by simp [h.2, CampayStatus.isSuccess]), by rw [h.2]⟩
  · cases h
  · cases h
  · split <;> simp_all

theorem transfer_outrun (as bs : List (Act PayoutEvent Reply)) (test : Pool PayoutWorld PayoutThread → Bool)
    (h : ((payoutMachine.run transferRelayedB ⟨unsentWorld, [.transfer .called]⟩ as).bind fun p =>
      (payoutMachine.run transferRelayedB p bs).map fun q => p.shared.payout.campayRef == some 7 &&
        q.threads.all PayoutThread.isDone &&
        decide ((reports 7 p.shared.transfers).length < (reports 7 q.shared.transfers).length) && test q) = some true) :
    ∃ p q, TransferOutrun unsentWorld 7 .successful p q ∧ test q = true := by
  obtain ⟨p, q, hp, hq, ht⟩ := Machine.reach_of_stop payoutMachine (transferRelayed 7 .successful) transferRelayedB
    transferRelayed_of_bool _ as bs _ h
  simp only [Bool.and_eq_true, beq_iff_eq, List.all_eq_true, decide_eq_true_eq] at ht
  exact ⟨p, q, ⟨⟨nofun, rfl, rfl⟩, hp, ht.1.1.1, hq, ht.1.1.2, ht.1.2⟩, ht.2⟩

def refundRelayedB (_ : World) (_ : List OrderThread) (m : Move OrderThread OrderEvent Reply) : Bool :=
  match m with
  | .event (.refundCallback payload) => payload.reference == some 7 && payload.status == .successful
  | .event _ | .step _ (.fail _) => false
  | .step .. => true

theorem refundRelayed_of_bool (w : World) (us : List OrderThread) (m : Move OrderThread OrderEvent Reply)
    (h : refundRelayedB w us m = true) : refundRelayed 7 .successful w us m := by
  unfold refundRelayedB at h
  unfold refundRelayed
  split at h
  · simp only [Bool.and_eq_true, beq_iff_eq] at h
    exact ⟨h.1, .inl (by simp [h.2, CampayStatus.isSuccess]), by rw [h.2]⟩
  · cases h
  · cases h
  · split <;> simp_all

theorem refund_outrun (as bs : List (Act OrderEvent Reply)) (test : Pool World OrderThread → Bool)
    (h : ((orderMachine.run refundRelayedB ⟨.start refundDueOrder, [.refund .called]⟩ as).bind fun p =>
      (orderMachine.run refundRelayedB p bs).map fun q => p.shared.order.refundCampayRef == some 7 &&
        q.threads.all OrderThread.isDone &&
        decide ((reports 7 p.shared.refunds).length < (reports 7 q.shared.refunds).length) && test q) = some true) :
    ∃ p q, RefundOutrun (.start refundDueOrder) 7 .successful p q ∧ test q = true := by
  obtain ⟨p, q, hp, hq, ht⟩ := Machine.reach_of_stop orderMachine (refundRelayed 7 .successful) refundRelayedB
    refundRelayed_of_bool _ as bs _ h
  simp only [Bool.and_eq_true, beq_iff_eq, List.all_eq_true, decide_eq_true_eq] at ht
  exact ⟨p, q, ⟨⟨nofun, rfl, rfl⟩, hp, ht.1.1.1, hq, ht.1.1.2, ht.1.2⟩, ht.2⟩

def paidCallback : CampayWebhookPayload := { status := .successful, reference := some 7 }

/-- In each flow the first callback finds no row and the second is a duplicate. -/
theorem outrun_callback_lost :
    (¬ ∀ (w : World) (ref : Reference) (st : CampayStatus) (p q : Pool World CollectThread),
      CollectOutrun w ref st p q → w.order.totalXAF ≠ 0 → q.shared.EndsRight st) ∧
    (¬ ∀ (w : PayoutWorld) (ref : Reference) (st : CampayStatus) (p q : Pool PayoutWorld PayoutThread),
      TransferOutrun w ref st p q → q.shared.payout.status = st.payoutStatus) ∧
    (¬ ∀ (w : World) (ref : Reference) (st : CampayStatus) (p q : Pool World OrderThread),
      RefundOutrun w ref st p q → q.shared.RefundEnds st) := by
  refine ⟨fun h => ?_, fun h => ?_, fun h => ?_⟩
  · obtain ⟨p, q, hpq, ht⟩ := collect_outrun
      [.step 0 .ok, .step 0 .ok, .step 0 (.accepted 7), .event (.callback paidCallback), .step 0 .ok, .step 0 .ok,
        .step 0 .ok, .step 0 .ok, .step 1 .ok]
      [.event (.callback paidCallback), .step 0 .ok] (fun q => q.shared.order.paymentStatus == .processing)
      (by decide +kernel)
    have := h _ _ _ _ _ hpq (by decide)
    rw [World.EndsRight, if_pos rfl, beq_iff_eq.1 ht] at this
    cases this.1
  · obtain ⟨p, q, hpq, ht⟩ := transfer_outrun
      [.step 0 .ok, .step 0 .ok, .step 0 (.accepted 7), .event (.callback paidCallback), .step 0 .ok, .step 0 .ok,
        .step 0 .ok, .step 1 .ok]
      [.event (.callback paidCallback), .step 0 .ok] (fun q => q.shared.payout.status == .inFlight)
      (by decide +kernel)
    have := h _ _ _ _ _ hpq
    rw [beq_iff_eq.1 ht] at this
    cases this
  · obtain ⟨p, q, hpq, ht⟩ := refund_outrun
      [.step 0 .ok, .step 0 .ok, .step 0 (.accepted 7), .event (.refundCallback paidCallback), .step 0 .ok, .step 0 .ok,
        .step 0 .ok, .step 1 .ok]
      [.event (.refundCallback paidCallback), .step 0 .ok] (fun q => q.shared.order.paymentStatus == .refundPending)
      (by decide +kernel)
    have := h _ _ _ _ _ hpq
    rw [World.RefundEnds, if_pos (by rfl), beq_iff_eq.1 ht] at this
    cases this.1

/-- In each flow the first callback has been filed but not looked up when the
reference is stored, and settles the row. -/
theorem early_callback_applied :
    (∃ p q, CollectOutrun (.start exampleOrder) 7 .successful p q ∧ q.shared.order.paymentStatus = .paid ∧
      (q.shared.EndsRight .successful ↔ ¬ CollectMissed 7 p ∧
        (CampayStatus.successful = .successful → (World.start exampleOrder).order.totalXAF ≠ 0))) ∧
    (∃ p q, TransferOutrun unsentWorld 7 .successful p q ∧ q.shared.payout.status = .paid ∧
      (q.shared.payout.status = CampayStatus.successful.payoutStatus ↔ ¬ TransferMissed 7 p)) ∧
    (∃ p q, RefundOutrun (.start refundDueOrder) 7 .successful p q ∧ q.shared.order.paymentStatus = .refunded ∧
      (q.shared.RefundEnds .successful ↔ ¬ RefundMissed 7 p)) := by
  refine ⟨?_, ?_, ?_⟩
  · obtain ⟨p, q, hpq, ht⟩ := collect_outrun
      [.step 0 .ok, .step 0 .ok, .step 0 (.accepted 7), .event (.callback paidCallback), .step 0 .ok, .step 1 .ok]
      [.event (.callback paidCallback), .step 0 .ok, .step 2 .ok, .step 0 .ok, .step 0 .ok, .step 1 .ok, .step 0 .ok,
        .step 0 .ok]
      (fun q => q.shared.order.paymentStatus == .paid) (by decide +kernel)
    exact ⟨p, q, hpq, beq_iff_eq.1 ht, (outrun_callback_applied_iff 7 .successful).1 _ _ _ hpq⟩
  · obtain ⟨p, q, hpq, ht⟩ := transfer_outrun
      [.step 0 .ok, .step 0 .ok, .step 0 (.accepted 7), .event (.callback paidCallback), .step 0 .ok, .step 1 .ok]
      [.event (.callback paidCallback), .step 0 .ok, .step 2 .ok, .step 0 .ok, .step 0 .ok]
      (fun q => q.shared.payout.status == .paid) (by decide +kernel)
    exact ⟨p, q, hpq, beq_iff_eq.1 ht, (outrun_callback_applied_iff 7 .successful).2.1 _ _ _ hpq⟩
  · obtain ⟨p, q, hpq, ht⟩ := refund_outrun
      [.step 0 .ok, .step 0 .ok, .step 0 (.accepted 7), .event (.refundCallback paidCallback), .step 0 .ok, .step 1 .ok]
      [.event (.refundCallback paidCallback), .step 0 .ok, .step 2 .ok, .step 0 .ok, .step 0 .ok]
      (fun q => q.shared.order.paymentStatus == .refunded) (by decide +kernel)
    exact ⟨p, q, hpq, beq_iff_eq.1 ht, (outrun_callback_applied_iff 7 .successful).2.2 _ _ _ hpq⟩

end ChopNow
