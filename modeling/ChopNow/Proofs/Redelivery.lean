import ChopNow.Lib.Handover
import ChopNow.Proofs.CollectInbox
import ChopNow.Proofs.PayoutStep

/-! A callback whose handling breaks, and its redelivery. The dedup row is committed
before the effect, so what breaks in between is lost: the second delivery is taken
for a duplicate. -/

namespace ChopNow

open Interleave

/-- A statement lands, or throws and writes nothing. -/
def Reply.lands (e : Reply) : Prop := e = .ok

def Reply.throws (e : Reply) : Prop := ∃ reason, e = .fail reason

/-- The first delivery has filed its dedup row and stands in `p`. It goes on until a
fault strikes; after a while the callback comes again, as thread `again`, and meets no
fault. In the end the effect is there exactly if the fault broke nothing before it. -/
def RedeliveredIff {σ τ ν : Type} (M : Machine σ τ ν Reply) (p : Pool σ τ) (after : Time → σ → σ) (again : τ)
    (isDone before : τ → Bool) (applied : σ → Prop) : Prop :=
  ∀ (q q' r : Pool σ τ) (f : Fault τ) (elapsed : Time), M.Reach (smooth Reply.lands) p q →
    f.Strikes M Reply.throws q q' →
    M.Reach (smooth Reply.lands) ⟨after elapsed q'.shared, again :: q'.threads⟩ r →
    (∀ u ∈ r.threads, isDone u = true) → (applied r.shared ↔ f.Spares (before · = true) q)

def World.after (elapsed : Time) (w : World) : World := { w with clock := w.clock + elapsed }

def PayoutWorld.after (elapsed : Time) (w : PayoutWorld) : PayoutWorld := { w with clock := w.clock + elapsed }

theorem setNX_later {held : Option Time} {now now' ttl : Time} (hle : now ≤ now') (h : (setNX held now ttl).isSome = true) :
    (setNX held now' ttl).isSome = true := by
  cases held with
  | none => rfl
  | some expiry =>
    have hfree : ¬now < expiry := fun hlt => by simp [setNX, hlt] at h
    have hfree' : ¬now' < expiry := fun hlt => hfree (hle.trans_lt hlt)
    simp [setNX, hfree']

/-! handleWebhook and onPaymentSucceeded. -/

/-- The dedup insert has just landed and the callback has something to do: without a
fault its effect would follow. -/
structure CollectDue (w : World) (payload : CampayWebhookPayload) (ref : Reference) : Prop where
  key : payload.key = some ref
  filed : hasEvent w.dedup .collect ref = true
  found : w.order.code = ref ∨ w.order.paymentReference = some ref
  unlocked : (setNX (w.hookLocks.lookup ref) w.clock (WEBHOOK_LOCK_TTL_SECONDS * 1000)).isSome = true
  awaited : w.order.paymentStatus.settled = false
  final : payload.status.isFinal = true
  payable : payload.status = .successful → w.order.totalXAF ≠ 0

/-- The payment is booked once, or marked failed. -/
def CollectApplied (w : World) (payload : CampayWebhookPayload) (s : World) : Prop :=
  if payload.status = .successful then
    s.order.paymentStatus = .paid ∧
      ∃ now, s.ledger = w.ledger ++ (paymentInput w.order).rows (.payment w.order.id) now
  else s.order = { w.order with paymentStatus := .failed } ∧ s.ledger = w.ledger

/-- The statements that stand between the dedup row and the effect. -/
def CollectThread.beforeEffect : CollectThread → Bool
  | .webhook (.first ..) | .webhook (.serialised ..) | .webhook (.failing ..) => true
  | .paid (.called _) | .paid (.read ..) => true
  | _ => false

section Collect

variable (w : World) (payload : CampayWebhookPayload) (ref : Reference)

def CollectUntouched (s : World) : Prop :=
  s.order = w.order ∧ s.ledger = w.ledger ∧ hasEvent s.dedup .collect ref = true

def CollectAhead (s : World) : CollectThread → Prop
  | .webhook (.first p r) =>
    p = payload ∧ r = ref ∧ (setNX (s.hookLocks.lookup ref) s.clock (WEBHOOK_LOCK_TTL_SECONDS * 1000)).isSome = true
  | .webhook (.serialised p r) => p = payload ∧ r = ref
  | .webhook (.failing status r) => status = payload.status ∧ r = ref ∧ payload.status.isFailure = true
  | .paid (.called _) => payload.status = .successful
  | .paid (.read _ order _) => payload.status = .successful ∧ order = w.order
  | _ => False

def CollectSpent : CollectThread → Prop
  | .webhook (.received p) => p = payload
  | .webhook (.settled ..) | .webhook .done | .paid (.won _) | .paid .done | .momo (.done _) => True
  | _ => False

variable {w payload ref}

theorem collect_handover (h : CollectDue w payload ref) :
    Handover collectMachine Reply.lands Reply.throws (CollectUntouched w ref)
      (fun s => CollectApplied w payload s ∧ hasEvent s.dedup .collect ref = true)
      (CollectAhead w payload ref) (CollectSpent payload) where
  apart := by
    rintro s ⟨horder, hledger, -⟩ ⟨happlied, -⟩
    unfold CollectApplied at happlied
    split at happlied
    · obtain ⟨hpaid, -⟩ := happlied
      have hsettled := h.awaited
      rw [← horder, hpaid] at hsettled
      cases hsettled
    · have hfailed := congrArg Order.paymentStatus happlied.1
      have hsettled := h.awaited
      rw [← horder, hfailed] at hsettled
      cases hsettled
  exclusive := by
    intro s t hahead hspent
    unfold CollectSpent at hspent
    split at hspent <;> first | exact hahead | exact hspent
  spend := by
    intro s t e s' ts hstage hspent hst
    have hfiled : hasEvent s.dedup .collect ref = true := hstage.elim (·.2.2) (·.2)
    cases collectStep_cases hst with
    | hookKeyless | hookDuplicate | hookThrown =>
      exact ⟨by simp [CollectSpent], fun hp => hp, fun ha => ha, fun _ hu => hu⟩
    | hookFirst key first =>
      obtain rfl := hspent
      obtain rfl := Option.some.inj (key.symm.trans h.key)
      rw [hfiled] at first
      cases first
    | hookRecorded =>
      have hkeep : ∀ {r result}, hasEvent (recordResult s.dedup .collect r result) .collect ref = true := by
        simp [hfiled]
      exact ⟨by simp [CollectSpent], fun hp => ⟨hp.1, hp.2.1, hkeep⟩, fun ha => ⟨ha.1, hkeep⟩, fun _ hu => hu⟩
    | paid hpaid =>
      cases hpaid with
      | job | thrown => exact ⟨by simp [CollectSpent], fun hp => hp, fun ha => ha, fun _ hu => hu⟩
      | _ => exact hspent.elim
    | _ => exact hspent.elim
  carry := by
    rintro s t e s' ts ⟨horder, hledger, hfiled⟩ hahead rfl hst
    have hopen : s.order.paymentStatus = .pending ∨ s.order.paymentStatus = .processing :=
      PaymentStatus.settled_eq_false.1 (horder ▸ h.awaited)
    have hunpaid : s.order.paymentStatus ≠ .paid := by rcases hopen with hs | hs <;> simp [hs]
    -- all but the last statement pass the effect on
    have hpass : ∀ {s₁ : World} {u : CollectThread} {rest ts : List CollectThread}, s₁.order = s.order →
        s₁.ledger = s.ledger → s₁.dedup = s.dedup → ts.Perm (u :: rest) → CollectAhead w payload ref s₁ u →
        (∀ v ∈ rest, CollectSpent payload v) →
        (CollectUntouched w ref s₁ ∧ ∃ u rest, ts.Perm (u :: rest) ∧ CollectAhead w payload ref s₁ u ∧
            ∀ v ∈ rest, CollectSpent payload v) ∨
          (CollectApplied w payload s₁ ∧ hasEvent s₁.dedup .collect ref = true) ∧ ∀ u ∈ ts, CollectSpent payload u :=
      fun ho hl hd hperm hu hrest =>
        .inl ⟨⟨ho.trans horder, hl.trans hledger, hd ▸ hfiled⟩, _, _, hperm, hu, hrest⟩
    cases collectStep_cases hst with
    | hookSerialised free =>
      obtain ⟨rfl, rfl, -⟩ := hahead
      exact hpass rfl rfl rfl (.refl _) ⟨rfl, rfl⟩ (by simp)
    | hookLocked held =>
      obtain ⟨rfl, rfl, hfree⟩ := hahead
      simp [held] at hfree
    | hookMissed miss =>
      obtain ⟨rfl, rfl⟩ := hahead
      exact absurd (horder ▸ h.found) miss
    | hookSucceeded _ status =>
      obtain ⟨rfl, rfl⟩ := hahead
      exact hpass rfl rfl rfl (List.Perm.swap ..) status (by simp [CollectSpent])
    | hookFailing _ status =>
      obtain ⟨rfl, rfl⟩ := hahead
      exact hpass rfl rfl rfl (.refl _) ⟨rfl, rfl, status⟩ (by simp)
    | hookIgnored _ status hignored =>
      obtain ⟨rfl, rfl⟩ := hahead
      have hfinal := h.final
      simp only [CampayStatus.isFinal, Bool.or_eq_true, beq_iff_eq, status, false_or] at hfinal
      rcases hignored with ⟨-, -, hpaid⟩ | ⟨-, hnot⟩
      · exact absurd hpaid hunpaid
      · rw [hfinal] at hnot
        cases hnot
    | hookFailed =>
      obtain ⟨rfl, rfl, hfailure⟩ := hahead
      have hno : payload.status ≠ .successful := fun hs => by simp [hs, CampayStatus.isFailure] at hfailure
      refine .inr ⟨⟨?_, hfiled⟩, by simp [CollectSpent]⟩
      rw [CollectApplied, if_neg hno]
      exact ⟨by simp [horder], hledger⟩
    | paid hpaid =>
      cases hpaid with
      | already hp => exact absurd hp hunpaid
      | read => exact hpass rfl rfl rfl (.refl _) ⟨hahead, horder⟩ (by simp)
      | lost hlost =>
        obtain ⟨hs, rfl⟩ := hahead
        exact absurd ⟨hopen, payment_sound_iff.2 (h.payable hs)⟩ hlost
      | booked =>
        obtain ⟨hs, rfl⟩ := hahead
        refine .inr ⟨⟨?_, hfiled⟩, by simp [CollectSpent]⟩
        rw [CollectApplied, if_pos hs]
        exact ⟨rfl, s.clock, by rw [hledger]⟩
      | job => exact hahead.elim
    | hookKeyless | hookFirst | hookDuplicate | hookRecorded => exact hahead.elim
    | momoRejected | momoChecked | momoBusy | momoLocked | momoStored | momoReleased => exact hahead.elim
  drop := by
    rintro s t e s' ts hpending hahead ⟨reason, rfl⟩ hst
    cases collectStep_cases hst with
    | hookThrown => exact ⟨hpending, by simp [CollectSpent]⟩
    | paid hpaid =>
      cases hpaid with
      | thrown => exact ⟨hpending, by simp [CollectSpent]⟩
    | _ => exact hahead.elim

theorem CollectSpent.of_isDone {u : CollectThread} (h : u.isDone = true) : CollectSpent payload u := by
  cases u with
  | momo t | webhook t | paid t => cases t <;> first | exact trivial | cases h

theorem CollectSpent.not_beforeEffect {u : CollectThread} (h : CollectSpent payload u) : ¬u.beforeEffect = true := by
  cases u with
  | momo t | webhook t | paid t => cases t <;> first | exact Bool.false_ne_true | exact h.elim

theorem CollectAhead.beforeEffect {s : World} {u : CollectThread} (h : CollectAhead w payload ref s u) :
    u.beforeEffect = true := by
  cases u with
  | momo t => exact h.elim
  | webhook t | paid t => cases t <;> first | rfl | exact h.elim

theorem CollectAhead.after {s : World} {u : CollectThread} (h : CollectAhead w payload ref s u) (elapsed : Time) :
    CollectAhead w payload ref (s.after elapsed) u := by
  cases u with
  | momo t => exact h
  | paid t => cases t <;> exact h
  | webhook t =>
    cases t with
    | first p r => exact ⟨h.1, h.2.1, setNX_later (Nat.le_add_right _ _) h.2.2⟩
    | _ => exact h

theorem collect_redelivered (h : CollectDue w payload ref) :
    RedeliveredIff collectMachine ⟨w, [.webhook (.first payload ref)]⟩ World.after (.webhook (.received payload))
      CollectThread.isDone CollectThread.beforeEffect (CollectApplied w payload) := by
  intro q q' r f elapsed hq hf hr hdone
  have hahead : CollectAhead w payload ref w (.webhook (.first payload ref)) := ⟨rfl, rfl, h.unlocked⟩
  have hagain : CollectSpent payload (.webhook (.received payload)) := rfl
  rcases (collect_handover h).redelivered (s := q'.shared.after elapsed) (fun _ _ => CollectAhead.beforeEffect)
    (fun _ => CollectSpent.not_beforeEffect) (.inl ⟨⟨rfl, rfl, h.filed⟩, _, [], .refl _, hahead, by simp⟩) hq hf
    ⟨fun hp => hp, fun ha => ha, fun _ hu => hu.after elapsed⟩ hagain hr fun u hu => .of_isDone (hdone u hu)
    with ⟨happlied, hspared⟩ | ⟨hpending, hstruck⟩
  · exact iff_of_true happlied.1 hspared
  · exact iff_of_false (fun ha => (collect_handover h).apart _ hpending ⟨ha, hpending.2.2⟩) hstruck

end Collect

/-! handleTransferWebhook. -/

structure TransferDue (w : PayoutWorld) (payload : CampayWebhookPayload) (ref : Reference) : Prop where
  key : payload.key = some ref
  filed : hasEvent w.dedup .transfer ref = true
  found : w.payout.campayRef = some ref
  inFlight : w.payout.status = .inFlight
  final : payload.status.isSuccess = true ∨ payload.status.isFailure = true

/-- The outcome is written once. -/
def TransferApplied (w : PayoutWorld) (payload : CampayWebhookPayload) (s : PayoutWorld) : Prop :=
  ∃ now, s.payout = w.payout.settle payload now

def PayoutThread.beforeEffect : PayoutThread → Bool
  | .webhook (.first ..) | .webhook (.found ..) => true
  | _ => false

section Transfer

variable (w : PayoutWorld) (payload : CampayWebhookPayload) (ref : Reference)

def TransferUntouched (s : PayoutWorld) : Prop := s.payout = w.payout ∧ hasEvent s.dedup .transfer ref = true

def TransferAhead (_ : PayoutWorld) : PayoutThread → Prop
  | .webhook (.first p r _) | .webhook (.found p r _) => p = payload ∧ r = ref
  | _ => False

def TransferSpent : PayoutThread → Prop
  | .webhook (.received p) => p = payload
  | .webhook (.settled ..) | .webhook .done | .transfer (.done _) => True
  | _ => False

variable {w payload ref}

theorem settle_status (p : Payout) (now : Time) : (p.settle payload now).status ≠ .inFlight := by
  unfold Payout.settle
  split <;> simp

theorem transfer_handover (h : TransferDue w payload ref) :
    Handover payoutMachine Reply.lands Reply.throws (TransferUntouched w ref)
      (fun s => TransferApplied w payload s ∧ hasEvent s.dedup .transfer ref = true)
      (TransferAhead payload ref) (TransferSpent payload) where
  apart := by
    rintro s ⟨hpayout, -⟩ ⟨⟨now, happlied⟩, -⟩
    exact settle_status w.payout now (happlied ▸ hpayout ▸ h.inFlight)
  exclusive := by
    intro s t hahead hspent
    unfold TransferSpent at hspent
    split at hspent <;> first | exact hahead | exact hspent
  spend := by
    intro s t e s' ts hstage hspent hst
    have hfiled : hasEvent s.dedup .transfer ref = true := hstage.elim (·.2) (·.2)
    obtain ⟨t', rfl, hmove⟩ := payoutStep_cases hst
    cases hmove with
    | hookKeyless | hookEarly | hookDuplicate | hookThrown =>
      exact ⟨by simp [TransferSpent], fun hp => hp, fun ha => ha, fun _ hu => hu⟩
    | hookFirst key _ first =>
      obtain rfl := hspent
      obtain rfl := Option.some.inj (key.symm.trans h.key)
      rw [hfiled] at first
      cases first
    | hookRecorded =>
      have hkeep : ∀ {r result}, hasEvent (recordResult s.dedup .transfer r result) .transfer ref = true := by
        simp [hfiled]
      exact ⟨by simp [TransferSpent], fun hp => ⟨hp.1, hkeep⟩, fun ha => ⟨ha.1, hkeep⟩, fun _ hu => hu⟩
    | _ => exact hspent.elim
  carry := by
    rintro s t e s' ts ⟨hpayout, hfiled⟩ hahead rfl hst
    obtain ⟨t', rfl, hmove⟩ := payoutStep_cases hst
    cases hmove with
    | hookFound => exact .inl ⟨⟨hpayout, hfiled⟩, _, [], .refl _, hahead, by simp⟩
    | hookMissed miss =>
      obtain ⟨rfl, rfl⟩ := hahead
      rw [hpayout] at miss
      exact (miss.elim (fun hm => hm h.found) fun hm => hm h.inFlight).elim
    | @hookSettled p r now result due =>
      obtain ⟨rfl, rfl⟩ := hahead
      exact .inr ⟨⟨⟨now, by rw [hpayout]⟩, hfiled⟩, by simp [TransferSpent]⟩
    | hookLate late => exact absurd (hpayout ▸ h.inFlight) late
    | _ => exact hahead.elim
  drop := by
    rintro s t e s' ts hpending hahead ⟨reason, rfl⟩ hst
    obtain ⟨t', rfl, hmove⟩ := payoutStep_cases hst
    cases hmove with
    | hookThrown => exact ⟨hpending, by simp [TransferSpent]⟩
    | _ => exact hahead.elim

theorem TransferSpent.of_isDone {u : PayoutThread} (h : u.isDone = true) : TransferSpent payload u := by
  cases u with
  | transfer t | webhook t => cases t <;> first | exact trivial | cases h

theorem TransferSpent.not_beforeEffect {u : PayoutThread} (h : TransferSpent payload u) : ¬u.beforeEffect = true := by
  cases u with
  | transfer t | webhook t => cases t <;> first | exact Bool.false_ne_true | exact h.elim

theorem TransferAhead.beforeEffect {s : PayoutWorld} {u : PayoutThread} (h : TransferAhead payload ref s u) :
    u.beforeEffect = true := by
  cases u with
  | transfer t => exact h.elim
  | webhook t => cases t <;> first | rfl | exact h.elim

theorem transfer_redelivered (h : TransferDue w payload ref) (now : Time) :
    RedeliveredIff payoutMachine ⟨w, [.webhook (.first payload ref now)]⟩ PayoutWorld.after
      (.webhook (.received payload)) PayoutThread.isDone PayoutThread.beforeEffect (TransferApplied w payload) := by
  intro q q' r f elapsed hq hf hr hdone
  have hahead : TransferAhead payload ref w (.webhook (.first payload ref now)) := ⟨rfl, rfl⟩
  have hagain : TransferSpent payload (.webhook (.received payload)) := rfl
  rcases (transfer_handover h).redelivered (s := q'.shared.after elapsed) (fun _ _ => TransferAhead.beforeEffect)
    (fun _ => TransferSpent.not_beforeEffect) (.inl ⟨⟨rfl, h.filed⟩, _, [], .refl _, hahead, by simp⟩) hq hf
    ⟨fun hp => hp, fun ha => ha, fun _ hu => hu⟩ hagain hr fun u hu => .of_isDone (hdone u hu)
    with ⟨happlied, hspared⟩ | ⟨hpending, hstruck⟩
  · exact iff_of_true happlied.1 hspared
  · exact iff_of_false (fun ha => (transfer_handover h).apart _ hpending ⟨ha, hpending.2⟩) hstruck

end Transfer

/-! handleRefundWebhook. -/

structure RefundDue (w : World) (payload : CampayWebhookPayload) (ref : Reference) : Prop where
  key : payload.key = some ref
  filed : hasEvent w.dedup .refund ref = true
  found : w.order.refundCampayRef = some ref
  queued : w.order.paymentStatus = .refundPending
  final : payload.status.isSuccess = true ∨ payload.status.isFailure = true
  payable : payload.status.isSuccess = true → w.order.totalXAF ≠ 0

/-- The refund is settled once, or the row is reset for another attempt. -/
def RefundApplied (w : World) (payload : CampayWebhookPayload) (s : World) : Prop :=
  if payload.status.isSuccess then
    s.order.paymentStatus = .refunded ∧
      ∃ now, s.ledger = w.ledger ++ (refundSettledInput w.order).rows (.refundSettled w.order.id) now
  else s.order.refundCampayRef = none ∧ s.order.refundInitiatedAt = none ∧ s.ledger = w.ledger

def OrderThread.beforeRefundEffect : OrderThread → Bool
  | .refundWebhook (.first ..) | .refundWebhook (.found ..) => true
  | _ => false

def RefundWebhook.isDone : RefundWebhook → Bool
  | .done => true
  | _ => false

def OrderThread.isRefundDone : OrderThread → Bool
  | .refundWebhook t => t.isDone
  | _ => false

section Refund

variable (w : World) (payload : CampayWebhookPayload) (ref : Reference)

def RefundUntouched (s : World) : Prop :=
  s.order = w.order ∧ s.ledger = w.ledger ∧ hasEvent s.dedup .refund ref = true

def RefundAhead (_ : World) : OrderThread → Prop
  | .refundWebhook (.first p r) => p = payload ∧ r = ref
  | .refundWebhook (.found order p r _) => order = w.order ∧ p = payload ∧ r = ref
  | _ => False

def RefundSpent : OrderThread → Prop
  | .refundWebhook (.received p) => p = payload
  | .refundWebhook (.settled ..) | .refundWebhook .done => True
  | _ => False

variable {w payload ref}

/-- The threads that the section speaks of are all refund callbacks. -/
theorem refundHook_of_spent {s s' : World} {t : OrderThread} {e : Reply} {ts : List OrderThread}
    (ht : RefundSpent payload t ∨ RefundAhead w payload ref s t) (hst : orderMachine.step s t e = some (s', ts)) :
    ∃ u u', t = .refundWebhook u ∧ ts = [.refundWebhook u'] ∧ RefundHookStep s u e s' u' := by
  cases t with
  | refundWebhook u =>
    obtain ⟨u', hts, hstep⟩ := refundHook_of_step hst
    exact ⟨u, u', rfl, hts, hstep⟩
  | _ => exact (ht.elim (fun h => h) fun h => h).elim

theorem refund_handover (h : RefundDue w payload ref) :
    Handover orderMachine Reply.lands Reply.throws (RefundUntouched w ref)
      (fun s => RefundApplied w payload s ∧ hasEvent s.dedup .refund ref = true)
      (RefundAhead w payload ref) (RefundSpent payload) where
  apart := by
    rintro s ⟨horder, hledger, -⟩ ⟨happlied, -⟩
    unfold RefundApplied at happlied
    split at happlied
    · have hqueued := h.queued
      rw [← horder, happlied.1] at hqueued
      cases hqueued
    · have hfound := h.found
      rw [← horder, happlied.1] at hfound
      cases hfound
  exclusive := by
    intro s t hahead hspent
    unfold RefundSpent at hspent
    split at hspent <;> first | exact hahead | exact hspent
  spend := by
    intro s t e s' ts hstage hspent hst
    have hfiled : hasEvent s.dedup .refund ref = true := hstage.elim (·.2.2) (·.2)
    obtain ⟨u, u', rfl, rfl, hstep⟩ := @refundHook_of_spent w _ ref _ _ _ _ _ (.inl hspent) hst
    cases hstep with
    | keyless | early | duplicate | thrown =>
      exact ⟨by simp [RefundSpent], fun hp => hp, fun ha => ha, fun _ hu => hu⟩
    | first key _ first =>
      obtain rfl := hspent
      obtain rfl := Option.some.inj (key.symm.trans h.key)
      rw [hfiled] at first
      cases first
    | recorded =>
      have hkeep : ∀ {r result}, hasEvent (recordResult s.dedup .refund r result) .refund ref = true := by
        simp [hfiled]
      exact ⟨by simp [RefundSpent], fun hp => ⟨hp.1, hp.2.1, hkeep⟩, fun ha => ⟨ha.1, hkeep⟩, fun _ hu => hu⟩
    | _ => exact hspent.elim
  carry := by
    rintro s t e s' ts ⟨horder, hledger, hfiled⟩ hahead rfl hst
    obtain ⟨u, u', rfl, rfl, hstep⟩ := refundHook_of_spent (.inr hahead) hst
    have hqueued : s.order.paymentStatus = .refundPending := horder ▸ h.queued
    cases hstep with
    | found =>
      obtain ⟨rfl, rfl⟩ := hahead
      exact .inl ⟨⟨horder, hledger, hfiled⟩, _, [], .refl _, ⟨horder, rfl, rfl⟩, by simp⟩
    | missed miss =>
      obtain ⟨rfl, rfl⟩ := hahead
      rw [horder] at miss
      exact (miss.elim (fun hm => hm h.found) fun hm => hm h.queued).elim
    | refunded success =>
      obtain ⟨rfl, rfl, rfl⟩ := hahead
      refine .inr ⟨⟨?_, hfiled⟩, by simp [RefundSpent]⟩
      rw [RefundApplied, if_pos success]
      exact ⟨rfl, s.clock, by rw [hledger]⟩
    | late _ late => exact absurd hqueued late
    | unbooked success unsound =>
      obtain ⟨rfl, rfl, rfl⟩ := hahead
      exact absurd (settlement_sound (h.payable success)) unsound
    | reset failure =>
      obtain ⟨rfl, rfl, rfl⟩ := hahead
      refine .inr ⟨⟨?_, hfiled⟩, by simp [RefundSpent]⟩
      rw [RefundApplied, if_neg (by simp [failure])]
      exact ⟨rfl, rfl, hledger⟩
    | keyless | early | duplicate | first | recorded => exact hahead.elim
  drop := by
    rintro s t e s' ts hpending hahead ⟨reason, rfl⟩ hst
    obtain ⟨u, u', rfl, rfl, hstep⟩ := refundHook_of_spent (.inr hahead) hst
    cases hstep with
    | thrown => exact ⟨hpending, by simp [RefundSpent]⟩

theorem RefundSpent.of_isDone {u : OrderThread} (h : u.isRefundDone = true) : RefundSpent payload u := by
  cases u with
  | refundWebhook t => cases t <;> first | exact trivial | cases h
  | _ => cases h

theorem RefundSpent.not_beforeEffect {u : OrderThread} (h : RefundSpent payload u) : ¬u.beforeRefundEffect = true := by
  cases u with
  | refundWebhook t => cases t <;> first | exact Bool.false_ne_true | exact h.elim
  | _ => exact h.elim

theorem RefundAhead.beforeEffect {s : World} {u : OrderThread} (h : RefundAhead w payload ref s u) :
    u.beforeRefundEffect = true := by
  cases u with
  | refundWebhook t => cases t <;> first | rfl | exact h.elim
  | _ => exact h.elim

theorem refund_redelivered (h : RefundDue w payload ref) :
    RedeliveredIff orderMachine ⟨w, [.refundWebhook (.first payload ref)]⟩ World.after
      (.refundWebhook (.received payload)) OrderThread.isRefundDone OrderThread.beforeRefundEffect
      (RefundApplied w payload) := by
  intro q q' r f elapsed hq hf hr hdone
  have hahead : RefundAhead w payload ref w (.refundWebhook (.first payload ref)) := ⟨rfl, rfl⟩
  have hagain : RefundSpent payload (.refundWebhook (.received payload)) := rfl
  rcases (refund_handover h).redelivered (s := q'.shared.after elapsed) (fun _ _ => RefundAhead.beforeEffect)
    (fun _ => RefundSpent.not_beforeEffect) (.inl ⟨⟨rfl, rfl, h.filed⟩, _, [], .refl _, hahead, by simp⟩) hq hf
    ⟨fun hp => hp, fun ha => ha, fun _ hu => hu⟩ hagain hr fun u hu => .of_isDone (hdone u hu)
    with ⟨happlied, hspared⟩ | ⟨hpending, hstruck⟩
  · exact iff_of_true happlied.1 hspared
  · exact iff_of_false (fun ha => (refund_handover h).apart _ hpending ⟨ha, hpending.2.2⟩) hstruck

end Refund

/-- For each of the three handlers, wherever a single fault strikes after the dedup
row is in: redelivery leaves the effect applied once exactly if no statement before
the effect was broken. -/
theorem redelivered_callback_applied_iff (payload : CampayWebhookPayload) (ref : Reference) :
    (∀ w, CollectDue w payload ref →
      RedeliveredIff collectMachine ⟨w, [.webhook (.first payload ref)]⟩ World.after (.webhook (.received payload))
        CollectThread.isDone CollectThread.beforeEffect (CollectApplied w payload)) ∧
    (∀ w now, TransferDue w payload ref →
      RedeliveredIff payoutMachine ⟨w, [.webhook (.first payload ref now)]⟩ PayoutWorld.after
        (.webhook (.received payload)) PayoutThread.isDone PayoutThread.beforeEffect (TransferApplied w payload)) ∧
    ∀ w, RefundDue w payload ref →
      RedeliveredIff orderMachine ⟨w, [.refundWebhook (.first payload ref)]⟩ World.after
        (.refundWebhook (.received payload)) OrderThread.isRefundDone OrderThread.beforeRefundEffect
        (RefundApplied w payload) :=
  ⟨fun _ h => collect_redelivered h, fun _ now h => transfer_redelivered h now, fun _ h => refund_redelivered h⟩

/-! A payment of which Campay has told us. -/

def heardCallback : CampayWebhookPayload := { status := .successful, reference := some 7 }

/-- The example order waits for the collect 7, whose callback has been filed. -/
def heardWorld : World :=
  { World.start { exampleOrder with paymentStatus := .processing, paymentReference := some 7 } with
    dedup := [⟨.collect, 7, heardCallback, none⟩] }

theorem heardWorld_due : CollectDue heardWorld heardCallback 7 :=
  ⟨rfl, by decide, .inr rfl, by decide, rfl, rfl, fun _ => by decide⟩

def smoothB (_ : World) (_ : List CollectThread) : Move CollectThread CollectEvent Reply → Bool
  | .step _ .ok => true
  | _ => false

theorem smooth_of_smoothB (w : World) (us : List CollectThread) (m : Move CollectThread CollectEvent Reply)
    (h : smoothB w us m = true) : smooth Reply.lands w us m := by
  unfold smoothB at h
  split at h
  · exact rfl
  · cases h

/-- The process dies when the handler has come so far; a minute later the callback
comes again. -/
theorem heard_crash (as : List (Act CollectEvent Reply)) (test test' : Pool World CollectThread → Bool)
    (h : ((collectMachine.run smoothB ⟨heardWorld, [.webhook (.first heardCallback 7)]⟩ as).map fun q =>
      test q && ((collectMachine.run smoothB ⟨q.shared.after 60000, [.webhook (.received heardCallback)]⟩
        [.step 0 .ok]).map fun r => r.threads.all CollectThread.isDone && test' r) == some true) = some true) :
    ∃ q r, collectMachine.Reach (smooth Reply.lands) ⟨heardWorld, [.webhook (.first heardCallback 7)]⟩ q ∧
      test q = true ∧
      collectMachine.Reach (smooth Reply.lands) ⟨q.shared.after 60000, [.webhook (.received heardCallback)]⟩ r ∧
      (∀ u ∈ r.threads, u.isDone = true) ∧ test' r = true := by
  obtain ⟨q, hq, ht⟩ := collectMachine.reach_of_test _ smoothB smooth_of_smoothB _ as _ h
  simp only [Bool.and_eq_true, beq_iff_eq] at ht
  obtain ⟨r, hr, ht'⟩ := collectMachine.reach_of_test _ smoothB smooth_of_smoothB _ _ _ ht.2
  rw [Bool.and_eq_true, List.all_eq_true] at ht'
  exact ⟨q, r, hq, ht.1, hr, ht'.1, ht'.2⟩

/-- It dies after the listener's read: the payment is never booked. -/
theorem broken_callback_lost : CollectDue heardWorld heardCallback 7 ∧
    ∃ q r, collectMachine.Reach (smooth Reply.lands) ⟨heardWorld, [.webhook (.first heardCallback 7)]⟩ q ∧
      collectMachine.Reach (smooth Reply.lands) ⟨q.shared.after 60000, [.webhook (.received heardCallback)]⟩ r ∧
      (∀ u ∈ r.threads, u.isDone = true) ∧ r.shared.order.paymentStatus = .processing ∧ r.shared.ledger.length = 0 := by
  obtain ⟨q, r, hq, -, hr, hdone, ht⟩ := heard_crash [.step 0 .ok, .step 0 .ok, .step 1 .ok] (fun _ => true)
    (fun r => decide (r.shared.order.paymentStatus = .processing ∧ r.shared.ledger.length = 0)) (by decide +kernel)
  exact ⟨heardWorld_due, q, r, hq, hr, hdone, of_decide_eq_true ht⟩

/-- It dies after the booking: the redelivery finds the payment booked once. -/
theorem late_crash_harmless : ∃ r, CollectApplied heardWorld heardCallback r ∧ r.clock = 60000 := by
  obtain ⟨q, r, hq, hspared, hr, hdone, ht⟩ := heard_crash [.step 0 .ok, .step 0 .ok, .step 1 .ok, .step 0 .ok]
    (fun q => q.threads.all fun u => !u.beforeEffect) (fun r => decide (r.shared.clock = 60000)) (by decide +kernel)
  refine ⟨r.shared, ?_, of_decide_eq_true ht⟩
  have hspares : Fault.Spares (CollectThread.beforeEffect · = true) q .crash := fun u hu => by
    simpa using List.all_eq_true.1 hspared u hu
  exact ((redelivered_callback_applied_iff heardCallback 7).1 heardWorld heardWorld_due q ⟨q.shared, []⟩ r .crash 60000
    hq rfl hr hdone).2 hspares

end ChopNow
