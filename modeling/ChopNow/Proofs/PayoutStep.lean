import ChopNow.Proofs.Callbacks
import ChopNow.Spec.Payout

/-! What one step of the payout machine can do. -/

namespace ChopNow

open Interleave

inductive PayoutMove (w : PayoutWorld) : PayoutThread → Reply → PayoutWorld → PayoutThread → Prop
  | calledOff {e outcome} : PayoutMove w (.transfer .called) e w (.transfer (.done outcome))
  | candidate {netXAF momoPhone} (due : w.payout.transferDue w.clock = true) :
      PayoutMove w (.transfer .called) .ok w (.transfer (.candidate netXAF momoPhone))
  | skipped {netXAF momoPhone e outcome} :
      PayoutMove w (.transfer (.candidate netXAF momoPhone)) e w (.transfer (.done outcome))
  | locked {netXAF momoPhone} (due : w.payout.status = .pending) :
      PayoutMove w (.transfer (.candidate netXAF momoPhone)) .ok
        { w with payout := { w.payout with status := .inFlight, sentAt := some w.clock } }
        (.transfer (.locked netXAF momoPhone))
  | accepted {netXAF momoPhone ref} (fresh : issued ref w.transfers = false) :
      PayoutMove w (.transfer (.locked netXAF momoPhone)) (.accepted ref)
        { w with transfers := w.transfers ++ [{ reference := ref, amountXAF := netXAF }] } (.transfer (.accepted ref))
  | refused {netXAF momoPhone reason} :
      PayoutMove w (.transfer (.locked netXAF momoPhone)) (.refused reason) w (.transfer (.caught none reason))
  | lost {netXAF momoPhone ref reason} (fresh : issued ref w.transfers = false) :
      PayoutMove w (.transfer (.locked netXAF momoPhone)) (.lost ref reason)
        { w with transfers := w.transfers ++ [{ reference := ref, amountXAF := netXAF }] }
        (.transfer (.caught (some ref) reason))
  | onReference {ref} :
      PayoutMove w (.transfer (.accepted ref)) .ok
        { w with payout := { w.payout with campayRef := some ref }, transfers := store ref w.transfers }
        (.transfer (.done .initiated))
  | unstored {ref reason} :
      PayoutMove w (.transfer (.accepted ref)) (.fail reason) w (.transfer (.caught (some ref) reason))
  | onFail {issued reason} :
      PayoutMove w (.transfer (.caught issued reason)) .ok
        { w with payout := { w.payout with status := .failed, failureReason := some reason } }
        (.transfer (.done .failed))
  | swallowed {issued reason reason'} :
      PayoutMove w (.transfer (.caught issued reason)) (.fail reason') w (.transfer (.done .failed))
  | hookKeyless {payload} (key : payload.key = none) :
      PayoutMove w (.webhook (.received payload)) .ok w (.webhook .done)
  | hookEarly {payload} (status : payload.status.isSuccess = false ∧ payload.status.isFailure = false) :
      PayoutMove w (.webhook (.received payload)) .ok w (.webhook .done)
  | hookDuplicate {payload ref} (key : payload.key = some ref) (dup : hasEvent w.dedup .transfer ref = true) :
      PayoutMove w (.webhook (.received payload)) .ok w (.webhook .done)
  | hookFirst {payload ref} (key : payload.key = some ref)
      (terminal : payload.status.isSuccess = true ∨ payload.status.isFailure = true)
      (first : hasEvent w.dedup .transfer ref = false) :
      PayoutMove w (.webhook (.received payload)) .ok
        { w with dedup := w.dedup ++ [⟨.transfer, ref, payload, none⟩] } (.webhook (.first payload ref w.clock))
  | hookFound {payload ref now} (match_ : w.payout.campayRef = some ref) (due : w.payout.status = .inFlight) :
      PayoutMove w (.webhook (.first payload ref now)) .ok w (.webhook (.found payload ref now))
  | hookMissed {payload ref now result}
      (miss : w.payout.campayRef ≠ some ref ∨ w.payout.status ≠ .inFlight) :
      PayoutMove w (.webhook (.first payload ref now)) .ok w (.webhook (.settled ref result))
  | hookSettled {payload ref now result} (due : w.payout.status = .inFlight) :
      PayoutMove w (.webhook (.found payload ref now)) .ok { w with payout := w.payout.settle payload now }
        (.webhook (.settled ref result))
  | hookLate {payload ref now result} (late : w.payout.status ≠ .inFlight) :
      PayoutMove w (.webhook (.found payload ref now)) .ok w (.webhook (.settled ref result))
  | hookRecorded {ref result} :
      PayoutMove w (.webhook (.settled ref result)) .ok
        { w with dedup := recordResult w.dedup .transfer ref result } (.webhook .done)
  | hookThrown {t reason} : PayoutMove w (.webhook t) (.fail reason) w (.webhook .done)

variable {w w' : PayoutWorld} {e : Reply}

theorem transfer_move {t t' : PayoutTransfer} (h : t.step w e = some (w', t')) :
    PayoutMove w (.transfer t) e w' (.transfer t') := by
  cases t with
  | called =>
    cases e <;> simp only [PayoutTransfer.step, Option.some.injEq, Prod.mk.injEq, reduceCtorEq] at h
    · split at h
      · obtain ⟨rfl, rfl⟩ := Prod.mk.inj (Option.some.inj h)
        exact .candidate ‹_›
      · obtain ⟨rfl, rfl⟩ := Prod.mk.inj (Option.some.inj h)
        exact .calledOff
    · obtain ⟨rfl, rfl⟩ := h
      exact .calledOff
  | candidate netXAF momoPhone =>
    cases e <;> simp only [PayoutTransfer.step, Option.some.injEq, Prod.mk.injEq, reduceCtorEq] at h
    · split at h
      · obtain ⟨rfl, rfl⟩ := Prod.mk.inj (Option.some.inj h)
        exact .skipped
      split at h
      · obtain ⟨rfl, rfl⟩ := Prod.mk.inj (Option.some.inj h)
        exact .locked ‹_›
      · obtain ⟨rfl, rfl⟩ := Prod.mk.inj (Option.some.inj h)
        exact .skipped
    · obtain ⟨rfl, rfl⟩ := h
      exact .skipped
    · obtain ⟨rfl, rfl⟩ := h
      exact .skipped
  | locked netXAF momoPhone =>
    cases e <;> simp only [PayoutTransfer.step, Option.some.injEq, Prod.mk.injEq, reduceCtorEq] at h
    · split at h
      · cases h
      · next fresh =>
        obtain ⟨rfl, rfl⟩ := Prod.mk.inj (Option.some.inj h)
        exact .accepted (by simpa using fresh)
    · obtain ⟨rfl, rfl⟩ := h
      exact .refused
    · split at h
      · cases h
      · next fresh =>
        obtain ⟨rfl, rfl⟩ := Prod.mk.inj (Option.some.inj h)
        exact .lost (by simpa using fresh)
  | accepted ref =>
    cases e <;> simp only [PayoutTransfer.step, Option.some.injEq, Prod.mk.injEq, reduceCtorEq] at h
    · obtain ⟨rfl, rfl⟩ := h
      exact .onReference
    · obtain ⟨rfl, rfl⟩ := h
      exact .unstored
  | caught issued reason =>
    cases e <;> simp only [PayoutTransfer.step, Option.some.injEq, Prod.mk.injEq, reduceCtorEq] at h
    · obtain ⟨rfl, rfl⟩ := h
      exact .onFail
    · obtain ⟨rfl, rfl⟩ := h
      exact .swallowed
  | done outcome => cases e <;> simp [PayoutTransfer.step] at h

theorem transferWebhook_move {t t' : TransferWebhook} (h : t.step w e = some (w', t')) :
    PayoutMove w (.webhook t) e w' (.webhook t') := by
  cases t with
  | received payload =>
    cases e <;> simp only [TransferWebhook.step, Option.some.injEq, Prod.mk.injEq, reduceCtorEq] at h
    · split at h
      · next key =>
        obtain ⟨rfl, rfl⟩ := Prod.mk.inj (Option.some.inj h)
        exact .hookKeyless key
      · next ref key =>
        split at h
        · next terminal =>
          split at h
          · next hm =>
            obtain ⟨rfl, rfl⟩ := Prod.mk.inj (Option.some.inj h)
            cases hd : hasEvent w.dedup .transfer ref with
            | true => exact .hookDuplicate key hd
            | false => simp [markProcessed, hd] at hm
          · next dedup hm =>
            obtain ⟨rfl, rfl⟩ := Prod.mk.inj (Option.some.inj h)
            obtain ⟨first, rfl⟩ := markProcessed_first.1 hm
            exact .hookFirst key (by simpa using terminal) first
        · next early =>
          obtain ⟨rfl, rfl⟩ := Prod.mk.inj (Option.some.inj h)
          exact .hookEarly (by simpa using early)
    · obtain ⟨rfl, rfl⟩ := h
      exact .hookThrown
  | first payload ref now =>
    cases e <;> simp only [TransferWebhook.step, Option.some.injEq, Prod.mk.injEq, reduceCtorEq] at h
    · split at h
      · next hmatch =>
        split at h
        · obtain ⟨rfl, rfl⟩ := Prod.mk.inj (Option.some.inj h)
          exact .hookFound hmatch ‹_›
        · obtain ⟨rfl, rfl⟩ := Prod.mk.inj (Option.some.inj h)
          exact .hookMissed (.inr ‹_›)
      · obtain ⟨rfl, rfl⟩ := Prod.mk.inj (Option.some.inj h)
        exact .hookMissed (.inl ‹_›)
    · obtain ⟨rfl, rfl⟩ := h
      exact .hookThrown
  | found payload ref now =>
    cases e <;> simp only [TransferWebhook.step, Option.some.injEq, Prod.mk.injEq, reduceCtorEq] at h
    · split at h
      · obtain ⟨rfl, rfl⟩ := Prod.mk.inj (Option.some.inj h)
        exact .hookSettled ‹_›
      · obtain ⟨rfl, rfl⟩ := Prod.mk.inj (Option.some.inj h)
        exact .hookLate ‹_›
    · obtain ⟨rfl, rfl⟩ := h
      exact .hookThrown
  | settled ref result =>
    cases e <;> simp only [TransferWebhook.step, Option.some.injEq, Prod.mk.injEq, reduceCtorEq] at h
    · obtain ⟨rfl, rfl⟩ := h
      exact .hookRecorded
    · obtain ⟨rfl, rfl⟩ := h
      exact .hookThrown
  | done => cases e <;> simp [TransferWebhook.step] at h

theorem payoutStep_cases {t : PayoutThread} {ts : List PayoutThread}
    (h : payoutMachine.step w t e = some (w', ts)) : ∃ t', ts = [t'] ∧ PayoutMove w t e w' t' := by
  simp only [payoutMachine, payoutStep] at h
  cases t <;>
    (simp only [Option.map_eq_some_iff] at h
     obtain ⟨⟨w₁, t'⟩, ht, hp⟩ := h
     obtain ⟨rfl, rfl⟩ := Prod.mk.inj hp)
  · exact ⟨_, rfl, transfer_move ht⟩
  · exact ⟨_, rfl, transferWebhook_move ht⟩

inductive PayoutArrival (w : PayoutWorld) : PayoutEvent → PayoutWorld → List PayoutThread → Prop
  | tick {elapsed} : PayoutArrival w (.tick elapsed) { w with clock := w.clock + elapsed } []
  | sweep : PayoutArrival w .sweepPendingTransfers w [.transfer .called]
  | retried (due : w.payout.status = .failed) :
      PayoutArrival w .retryPayout
        { w with payout := { w.payout with
            status := .pending, failureReason := none, sentAt := none, campayRef := none } } []
  | markedPaid {campayRef note failureReason}
      (due : w.payout.status = .pending ∨ w.payout.status = .inFlight ∨ w.payout.status = .failed) :
      PayoutArrival w (.manualMarkPaid campayRef note)
        { w with payout := { w.payout with
            status := .paid, paidAt := some w.clock, campayRef := some campayRef, failureReason } } []
  | callback {payload ref} (href : payload.reference = some ref) (hissued : issued ref w.transfers = true) :
      PayoutArrival w (.callback payload)
        { w with transfers := report ref payload.status w.transfers } [.webhook (.received payload)]

theorem payoutEvent_cases {n : PayoutEvent} {ts : List PayoutThread}
    (h : payoutMachine.event w n = some (w', ts)) : PayoutArrival w n w' ts := by
  simp only [payoutMachine] at h
  cases n with
  | tick elapsed =>
    obtain ⟨rfl, rfl⟩ := Prod.mk.inj (Option.some.inj h)
    exact .tick
  | sweepPendingTransfers =>
    obtain ⟨rfl, rfl⟩ := Prod.mk.inj (Option.some.inj h)
    exact .sweep
  | retryPayout =>
    obtain ⟨payout, hp, hr⟩ := Option.map_eq_some_iff.1 h
    obtain ⟨rfl, rfl⟩ := Prod.mk.inj hr
    unfold Payout.retry at hp
    split at hp <;> cases hp
    exact .retried ‹_›
  | manualMarkPaid campayRef note =>
    obtain ⟨payout, hp, hr⟩ := Option.map_eq_some_iff.1 h
    obtain ⟨rfl, rfl⟩ := Prod.mk.inj hr
    unfold Payout.manualMarkPaid at hp
    split at hp <;> cases hp
    exact .markedPaid ‹_›
  | callback payload =>
    simp only [payoutEvent] at h
    split at h
    · cases h
    · next ref href =>
      split at h
      · obtain ⟨rfl, rfl⟩ := Prod.mk.inj (Option.some.inj h)
        exact .callback href ‹_›
      · cases h

end ChopNow
