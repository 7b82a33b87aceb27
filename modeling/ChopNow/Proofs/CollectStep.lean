import ChopNow.Spec.Collect
import ChopNow.Proofs.OrderStep

/-! What one step of the payment machine can do. -/

namespace ChopNow

open Interleave

inductive CollectMove (w : World) : CollectThread → Reply → World → List CollectThread → Prop
  | momoRejected {userId payerPhone e err} :
      CollectMove w (.momo (.called userId payerPhone)) e w [.momo (.done (.error err))]
  | momoChecked {userId payerPhone} (h : checkPayable w.order userId = .ok ()) :
      CollectMove w (.momo (.called userId payerPhone)) .ok w [.momo (.checked w.order payerPhone)]
  | momoBusy {order payerPhone e err} :
      CollectMove w (.momo (.checked order payerPhone)) e w [.momo (.done (.error err))]
  | momoLocked {order payerPhone expiry} (h : setNX w.payLock w.clock (PAY_LOCK_TTL_SECONDS * 1000) = some expiry) :
      CollectMove w (.momo (.checked order payerPhone)) .ok { w with payLock := some expiry }
        [.momo (.locked order payerPhone)]
  | momoAccepted {order payerPhone phone ref} (fresh : w.isFresh ref = true) :
      CollectMove w (.momo (.locked order payerPhone)) (.accepted ref)
        { w with collects := w.collects ++ [{ reference := ref, amountXAF := order.totalXAF }] }
        [.momo (.accepted order phone ref)]
  | momoRefused {order payerPhone reason err} :
      CollectMove w (.momo (.locked order payerPhone)) (.refused reason) w [.momo (.caught err)]
  | momoLost {order payerPhone ref reason err} (fresh : w.isFresh ref = true) :
      CollectMove w (.momo (.locked order payerPhone)) (.lost ref reason)
        { w with collects := w.collects ++ [{ reference := ref, amountXAF := order.totalXAF }] } [.momo (.caught err)]
  | momoStored {order payerPhone ref} :
      CollectMove w (.momo (.accepted order payerPhone ref)) .ok
        { w with order := w.order.markProcessing ref payerPhone, collects := store ref w.collects }
        [.momo (.done (.ok ref))]
  | momoThrown {order payerPhone ref reason err} :
      CollectMove w (.momo (.accepted order payerPhone ref)) (.fail reason) w [.momo (.caught err)]
  | momoReleased {err} :
      CollectMove w (.momo (.caught err)) .ok { w with payLock := none } [.momo (.done (.error err))]
  | momoStuck {err reason err'} :
      CollectMove w (.momo (.caught err)) (.fail reason) w [.momo (.done (.error err'))]
  | hookKeyless {payload} (key : payload.key = none) :
      CollectMove w (.webhook (.received payload)) .ok w [.webhook .done]
  | hookFirst {payload ref} (key : payload.key = some ref) (first : hasEvent w.dedup .collect ref = false) :
      CollectMove w (.webhook (.received payload)) .ok
        { w with dedup := w.dedup ++ [⟨.collect, ref, payload, none⟩] } [.webhook (.first payload ref)]
  | hookDuplicate {payload ref} (key : payload.key = some ref) (dup : hasEvent w.dedup .collect ref = true) :
      CollectMove w (.webhook (.received payload)) .ok w [.webhook .done]
  | hookSerialised {payload ref expiry}
      (free : setNX (w.hookLocks.lookup ref) w.clock (WEBHOOK_LOCK_TTL_SECONDS * 1000) = some expiry) :
      CollectMove w (.webhook (.first payload ref)) .ok { w with hookLocks := (ref, expiry) :: w.hookLocks }
        [.webhook (.serialised payload ref)]
  | hookLocked {payload ref}
      (held : setNX (w.hookLocks.lookup ref) w.clock (WEBHOOK_LOCK_TTL_SECONDS * 1000) = none) :
      CollectMove w (.webhook (.first payload ref)) .ok w [.webhook .done]
  | hookMissed {payload ref} (miss : ¬(w.order.code = ref ∨ w.order.paymentReference = some ref)) :
      CollectMove w (.webhook (.serialised payload ref)) .ok w [.webhook (.settled ref "no_match")]
  | hookSucceeded {payload ref} (found : w.order.code = ref ∨ w.order.paymentReference = some ref)
      (status : payload.status = .successful) :
      CollectMove w (.webhook (.serialised payload ref)) .ok w
        [.webhook (.settled ref "order_paid_event_emitted"),
          .paid (.called ⟨payload.reference.getD ref, payload.phone_number⟩)]
  | hookFailing {payload ref} (found : w.order.code = ref ∨ w.order.paymentReference = some ref)
      (status : payload.status.isFailure = true) (unpaid : w.order.paymentStatus ≠ .paid) :
      CollectMove w (.webhook (.serialised payload ref)) .ok w [.webhook (.failing payload.status ref)]
  | hookIgnored {payload ref result} (found : w.order.code = ref ∨ w.order.paymentReference = some ref)
      (status : payload.status ≠ .successful)
      (h : result = "already_paid_ignored" ∧ payload.status.isFailure = true ∧ w.order.paymentStatus = .paid ∨
        result = "ignored_non_terminal" ∧ payload.status.isFailure = false) :
      CollectMove w (.webhook (.serialised payload ref)) .ok w [.webhook (.settled ref result)]
  | hookFailed {status ref emitted} :
      CollectMove w (.webhook (.failing status ref)) .ok
        { w with order := { w.order with paymentStatus := .failed }, emitted }
        [.webhook (.settled ref (paymentFailedResult status))]
  | hookRecorded {ref result} :
      CollectMove w (.webhook (.settled ref result)) .ok
        { w with dedup := recordResult w.dedup .collect ref result } [.webhook .done]
  | hookThrown {t reason} : CollectMove w (.webhook t) (.fail reason) w [.webhook .done]
  | paid {t t' e w'} (h : PaidStep w t e w' t') : CollectMove w (.paid t) e w' [.paid t']

variable {w w' : World} {e : Reply}

theorem momo_move {t t' : InitiateMomo} (h : t.step w e = some (w', t')) :
    CollectMove w (.momo t) e w' [.momo t'] := by
  cases t with
  | called userId payerPhone =>
    cases e <;> simp only [InitiateMomo.step, Option.some.injEq, Prod.mk.injEq, reduceCtorEq] at h
    · split at h
      · obtain ⟨rfl, rfl⟩ := Prod.mk.inj (Option.some.inj h)
        exact .momoRejected
      · obtain ⟨rfl, rfl⟩ := Prod.mk.inj (Option.some.inj h)
        exact .momoChecked ‹_›
    · obtain ⟨rfl, rfl⟩ := h
      exact .momoRejected
  | checked order payerPhone =>
    cases e <;> simp only [InitiateMomo.step, Option.some.injEq, Prod.mk.injEq, reduceCtorEq] at h
    · split at h
      · obtain ⟨rfl, rfl⟩ := Prod.mk.inj (Option.some.inj h)
        exact .momoBusy
      · obtain ⟨rfl, rfl⟩ := Prod.mk.inj (Option.some.inj h)
        exact .momoLocked ‹_›
    · obtain ⟨rfl, rfl⟩ := h
      exact .momoBusy
  | locked order payerPhone =>
    cases e <;> simp only [InitiateMomo.step, Option.some.injEq, Prod.mk.injEq, reduceCtorEq] at h
    · split at h
      · obtain ⟨rfl, rfl⟩ := Prod.mk.inj (Option.some.inj h)
        exact .momoAccepted ‹_›
      · cases h
    · obtain ⟨rfl, rfl⟩ := h
      exact .momoRefused
    · split at h
      · obtain ⟨rfl, rfl⟩ := Prod.mk.inj (Option.some.inj h)
        exact .momoLost ‹_›
      · cases h
  | accepted order payerPhone ref =>
    cases e <;> simp only [InitiateMomo.step, Option.some.injEq, Prod.mk.injEq, reduceCtorEq] at h
    · obtain ⟨rfl, rfl⟩ := h
      exact .momoStored
    · obtain ⟨rfl, rfl⟩ := h
      exact .momoThrown
  | caught err =>
    cases e <;> simp only [InitiateMomo.step, Option.some.injEq, Prod.mk.injEq, reduceCtorEq] at h
    · obtain ⟨rfl, rfl⟩ := h
      exact .momoReleased
    · obtain ⟨rfl, rfl⟩ := h
      exact .momoStuck
  | done result => cases e <;> simp [InitiateMomo.step] at h

/-- What the handler makes of an order that it found. -/
theorem dispatch_move {payload : CampayWebhookPayload} {ref : Reference}
    (found : w.order.code = ref ∨ w.order.paymentReference = some ref) :
    CollectMove w (.webhook (.serialised payload ref)) .ok w
      (.webhook (CollectWebhook.dispatch payload ref w.order).1 ::
        ((CollectWebhook.dispatch payload ref w.order).2.map fun p => CollectThread.paid (.called p)).toList) := by
  have hfailure : payload.status = .failed ∨ payload.status = .cancelled → payload.status.isFailure = true := by
    rintro (hs | hs) <;> simp [CampayStatus.isFailure, hs]
  unfold CollectWebhook.dispatch
  cases hs : payload.status with
  | successful => exact .hookSucceeded found hs
  | failed | cancelled =>
    simp only
    have hf := hfailure (by simp [hs])
    split
    · next unpaid =>
      rw [← hs]
      exact .hookFailing found hf unpaid
    · next paid => exact .hookIgnored found (by simp [hs]) (.inl ⟨rfl, hf, not_not.1 paid⟩)
  | success | paid | pending =>
    exact .hookIgnored found (by simp [hs]) (.inr ⟨rfl, by simp [CampayStatus.isFailure, hs]⟩)

theorem webhook_move {t : CollectWebhook} {r : World × CollectWebhook × Option PaymentSucceeded}
    (h : t.step w e = some r) :
    CollectMove w (.webhook t) e r.1
      (.webhook r.2.1 :: (r.2.2.map fun payload => CollectThread.paid (.called payload)).toList) := by
  cases t with
  | received payload =>
    cases e <;> simp only [CollectWebhook.step, Option.some.injEq, reduceCtorEq] at h
    · split at h
      · next key =>
        obtain rfl := Option.some.inj h
        exact .hookKeyless key
      · next ref key =>
        split at h
        · next hm =>
          obtain rfl := Option.some.inj h
          cases hd : hasEvent w.dedup .collect ref with
          | true => exact .hookDuplicate key hd
          | false => simp [markProcessed, hd] at hm
        · next dedup hm =>
          obtain rfl := Option.some.inj h
          obtain ⟨first, rfl⟩ := markProcessed_first.1 hm
          exact .hookFirst key first
    · obtain rfl := h
      exact .hookThrown
  | first payload ref =>
    cases e <;> simp only [CollectWebhook.step, Option.some.injEq, reduceCtorEq] at h
    · split at h
      · obtain rfl := Option.some.inj h
        exact .hookLocked ‹_›
      · obtain rfl := Option.some.inj h
        exact .hookSerialised ‹_›
    · obtain rfl := h
      exact .hookThrown
  | serialised payload ref =>
    cases e <;> simp only [CollectWebhook.step, Option.some.injEq, reduceCtorEq] at h
    · split at h
      · obtain rfl := Option.some.inj h
        exact dispatch_move ‹_›
      · obtain rfl := Option.some.inj h
        exact .hookMissed ‹_›
    · obtain rfl := h
      exact .hookThrown
  | failing status ref =>
    cases e <;> simp only [CollectWebhook.step, Option.some.injEq, reduceCtorEq] at h
    · obtain rfl := h
      exact .hookFailed
    · obtain rfl := h
      exact .hookThrown
  | settled ref result =>
    cases e <;> simp only [CollectWebhook.step, Option.some.injEq, reduceCtorEq] at h
    · obtain rfl := h
      exact .hookRecorded
    · obtain rfl := h
      exact .hookThrown
  | done => cases e <;> simp [CollectWebhook.step] at h

theorem collectStep_cases {t : CollectThread} {ts : List CollectThread}
    (h : collectMachine.step w t e = some (w', ts)) : CollectMove w t e w' ts := by
  simp only [collectMachine, collectStep] at h
  cases t with
  | momo t =>
    obtain ⟨⟨w₁, t'⟩, ht, hp⟩ := Option.map_eq_some_iff.1 h
    obtain ⟨rfl, rfl⟩ := Prod.mk.inj hp
    exact momo_move ht
  | webhook t =>
    obtain ⟨r, ht, hp⟩ := Option.map_eq_some_iff.1 h
    obtain ⟨rfl, rfl⟩ := Prod.mk.inj hp
    exact webhook_move ht
  | paid t =>
    obtain ⟨⟨w₁, t'⟩, ht, hp⟩ := Option.map_eq_some_iff.1 h
    obtain ⟨rfl, rfl⟩ := Prod.mk.inj hp
    exact .paid (paid_cases ht)

/-! Events. -/

inductive CollectArrival (w : World) : CollectEvent → World → List CollectThread → Prop
  | tick {elapsed} : CollectArrival w (.tick elapsed) { w with clock := w.clock + elapsed } []
  | write {x order} (h : x.apply w.order w.clock = some order) :
      CollectArrival w (.write x) { w with order } []
  | refundQueued (h : w.order.paymentStatus = .paid) :
      CollectArrival w .refundQueued
        { w with order := { w.order with status := .cancelled, paymentStatus := .refundPending } } []
  | refundSettled (h : w.order.paymentStatus = .refundPending) :
      CollectArrival w .refundSettled { w with order := { w.order with paymentStatus := .refunded } } []
  | initiateMomo {userId payerPhone} :
      CollectArrival w (.initiateMomo userId payerPhone) w [.momo (.called userId payerPhone)]
  | callback {payload ref} (href : payload.reference = some ref) (hissued : issued ref w.collects = true) :
      CollectArrival w (.callback payload)
        { w with collects := report ref payload.status w.collects } [.webhook (.received payload)]

theorem collectEvent_cases {n : CollectEvent} {ts : List CollectThread}
    (h : collectMachine.event w n = some (w', ts)) : CollectArrival w n w' ts := by
  simp only [collectMachine] at h
  cases n with
  | tick elapsed =>
    obtain ⟨rfl, rfl⟩ := Prod.mk.inj (Option.some.inj h)
    exact .tick
  | write x =>
    obtain ⟨order, hx, hp⟩ := Option.map_eq_some_iff.1 h
    obtain ⟨rfl, rfl⟩ := Prod.mk.inj hp
    exact .write hx
  | refundQueued =>
    simp only [collectEvent] at h
    split at h
    · obtain ⟨rfl, rfl⟩ := Prod.mk.inj (Option.some.inj h)
      exact .refundQueued ‹_›
    · cases h
  | refundSettled =>
    simp only [collectEvent] at h
    split at h
    · obtain ⟨rfl, rfl⟩ := Prod.mk.inj (Option.some.inj h)
      exact .refundSettled ‹_›
    · cases h
  | initiateMomo userId payerPhone =>
    obtain ⟨rfl, rfl⟩ := Prod.mk.inj (Option.some.inj h)
    exact .initiateMomo
  | callback payload =>
    simp only [collectEvent] at h
    split at h
    · cases h
    · next ref href =>
      split at h
      · obtain ⟨rfl, rfl⟩ := Prod.mk.inj (Option.some.inj h)
        exact .callback href ‹_›
      · cases h

/-! The Redis lock of a callback is only ever taken behind its dedup row, so the
one that won the insert finds it free. -/

/-- The reference of a callback that is about to take its lock. -/
def CollectThread.locking : CollectThread → Option Reference
  | .webhook (.first _ ref) => some ref
  | _ => none

def LockInv (w : World) : Prop :=
  ∀ ref, (w.hookLocks.lookup ref).isSome → hasEvent w.dedup .collect ref = true

def LockLocal (w : World) (t : CollectThread) : Prop :=
  ∀ ref, t.locking = some ref → hasEvent w.dedup .collect ref = true ∧ w.hookLocks.lookup ref = none

def LockApart (t u : CollectThread) : Prop := t.locking.isSome → t.locking ≠ u.locking

section

variable {us ts : List CollectThread} {t t' : CollectThread}

abbrev LockMoved (us : List CollectThread) (w' : World) (ts : List CollectThread) : Prop :=
  Moved LockInv LockLocal LockApart us w' ts

theorem LockMoved.quiet (hI : LockInv w) (hus : ∀ u ∈ us, LockLocal w u) (hlocks : w'.hookLocks = w.hookLocks)
    (hdedup : ∀ ref, hasEvent w'.dedup .collect ref = hasEvent w.dedup .collect ref)
    (hts : ∀ t ∈ ts, t.locking = none) : LockMoved us w' ts where
  shared := fun ref hr => (hdedup ref).trans (hI ref (hlocks ▸ hr))
  fresh := fun t ht ref hr => by simp [hts t ht] at hr
  frame := fun u hu ref hr => by
    rw [hdedup, hlocks]
    exact hus u hu ref hr
  apart := List.pairwise_of_forall_mem_list fun t ht _ _ hs => by simp [hts t ht] at hs
  between := fun t ht _ _ hs => by simp [hts t ht] at hs

theorem lock_moved (hI : LockInv w) (hL : LockLocal w t) (hus : ∀ u ∈ us, LockLocal w u ∧ LockApart t u)
    (h : CollectMove w t e w' ts) : LockMoved us w' ts := by
  have hus' := fun u hu => (hus u hu).1
  cases h with
  | hookRecorded => exact .quiet hI hus' rfl (fun _ => hasEvent_recordResult ..) (by simp [CollectThread.locking])
  | @hookFirst payload ref key first =>
    have hmono : ∀ r, hasEvent w.dedup .collect r = true →
        hasEvent (w.dedup ++ [⟨.collect, ref, payload, none⟩]) .collect r = true := fun r hr => by simp [hr]
    refine .one (fun r hr => hmono r (hI r hr)) (fun r hr => ?_) fun u hu => ⟨fun r hr => ?_, fun _ he => ?_⟩
    · obtain rfl := Option.some.inj hr
      refine ⟨by simp [hasEvent], ?_⟩
      by_contra hn
      rw [hI _ (Option.isSome_iff_ne_none.2 hn)] at first
      cases first
    · exact ⟨hmono r (hus' u hu r hr).1, (hus' u hu r hr).2⟩
    · rw [(hus' u hu ref he.symm).1] at first
      cases first
  | @hookSerialised payload ref expiry free =>
    have hlookup : ∀ r, r ≠ ref → ((ref, expiry) :: w.hookLocks).lookup r = w.hookLocks.lookup r :=
      fun r hr => by simp [List.lookup_cons, beq_eq_false_iff_ne.2 hr]
    refine .one (fun r hr => ?_) (fun _ h => by cases h) fun u hu => ⟨fun r hr => ?_, Distinct.idle CollectThread.locking rfl⟩
    · by_cases href : r = ref
      · exact href ▸ (hL ref rfl).1
      · exact hI r (hlookup r href ▸ hr)
    · have hne : r ≠ ref := fun he => (hus u hu).2 rfl (by rw [hr, he]; rfl)
      exact ⟨(hus' u hu r hr).1, (hlookup r hne).trans (hus' u hu r hr).2⟩
  | paid h => cases h <;> exact .quiet hI hus' rfl (fun _ => rfl) (by simp [CollectThread.locking])
  | _ => exact .quiet hI hus' rfl (fun _ => rfl) (by simp [CollectThread.locking])

end

theorem lock_free {ok : Guard World CollectThread CollectEvent Reply} {p q : Pool World CollectThread}
    {payload : CampayWebhookPayload} {ref : Reference} (h : collectMachine.Reach ok p q)
    (hlocks : LockInv p.shared) (hp : ∀ t ∈ p.threads, t.locking = none)
    (ht : .webhook (.first payload ref) ∈ q.threads) : q.shared.hookLocks.lookup ref = none := by
  have hs := h.sat (I := LockInv) (L := LockLocal) (X := LockApart) (fun _ _ hX hs he => hX (he ▸ hs) he.symm)
    ⟨hlocks, fun t ht ref hr => by simp [hp t ht] at hr,
      List.pairwise_of_forall_mem_list fun t ht _ _ hs => by simp [hp t ht] at hs⟩ ?_ ?_
  · exact (hs.locals _ ht ref rfl).2
  · intro x us n x' ts _ hI hus _ hev
    cases collectEvent_cases hev <;>
      exact LockMoved.quiet hI hus rfl (fun _ => rfl) (by simp [CollectThread.locking])
  · intro x us vs t e x' ts _ hI hL hus _ hst
    exact lock_moved hI hL hus (collectStep_cases hst)

end ChopNow
