import ChopNow.Proofs.Collect

/-! Money that Campay collected is booked. The callback that reports it finds the
row waiting for it, and carries it to onPaymentSucceeded. -/

namespace ChopNow

open Interleave

/-- Campay gives each reference one terminal status, once the reference is
stored, and no statement fails. -/
def terminalOnce : Guard World CollectThread CollectEvent Reply := fun w _ m =>
  match m with
  | .event (.callback payload) => payload.status.isFinal = true ∧
      ∀ c ∈ w.collects, payload.reference = some c.reference → c.stored = true ∧ ∀ s ∈ c.reported, s = payload.status
  | .step _ (.fail _) => False
  | _ => True

/-- What the callbacks so far have in common. -/
structure BookedInv (w : World) : Prop where
  total : w.order.totalXAF ≠ 0
  known : ∀ ref, hasEvent w.dedup .collect ref = true → issued ref w.collects = true
  filed : ∀ c ∈ w.collects, hasEvent w.dedup .collect c.reference = true → c.reported ≠ []
  stored : ∀ c ∈ w.collects, c.reported ≠ [] → c.stored = true
  once : ∀ c ∈ w.collects, ∀ s ∈ c.reported, ∀ s' ∈ c.reported, s = s'

section

variable {w w' : World} {us ts : List CollectThread} {t : CollectThread} {e : Reply}

/-- A move that touches neither the collects nor the dedup table. -/
theorem BookedInv.keep (hJ : BookedInv w) (htotal : w'.order.totalXAF = w.order.totalXAF)
    (hdedup : ∀ ref, hasEvent w'.dedup .collect ref = hasEvent w.dedup .collect ref)
    (hcollects : w'.collects = w.collects) : BookedInv w' where
  total := htotal ▸ hJ.total
  known := fun ref hf => hcollects ▸ hJ.known ref ((hdedup ref).symm.trans hf)
  filed := fun c hc hf => hJ.filed c (hcollects ▸ hc) ((hdedup _).symm.trans hf)
  stored := fun c hc => hJ.stored c (hcollects ▸ hc)
  once := fun c hc => hJ.once c (hcollects ▸ hc)

/-- Campay takes another collect. -/
theorem BookedInv.issue {ref : Reference} {amountXAF : ℤ} (hJ : BookedInv w) (fresh : w.isFresh ref = true) :
    BookedInv { w with collects := w.collects ++ [{ reference := ref, amountXAF }] } := by
  simp only [World.isFresh, Bool.and_eq_true, Bool.not_eq_true', bne_iff_ne, ne_eq] at fresh
  obtain ⟨⟨-, hnew⟩, -⟩ := fresh
  refine ⟨hJ.total, fun r hf => ?_, fun c hc hf => ?_, fun c hc => ?_, fun c hc => ?_⟩
  · simp [hJ.known r hf]
  · rcases List.mem_append.1 hc with hc | hc
    · exact hJ.filed c hc hf
    · obtain rfl := List.mem_singleton.1 hc
      exact absurd (hnew.symm.trans (hJ.known ref hf)) (by decide)
  · rcases List.mem_append.1 hc with hc | hc
    · exact hJ.stored c hc
    · obtain rfl := List.mem_singleton.1 hc
      exact fun hr => absurd rfl hr
  · rcases List.mem_append.1 hc with hc | hc
    · exact hJ.once c hc
    · obtain rfl := List.mem_singleton.1 hc
      intro s hs
      cases hs

theorem booked_step (hJ : BookedInv w) (hL : CollectLocal w.collectView t) (h : CollectMove w t e w' ts) :
    BookedInv w' := by
  cases h with
  | momoRejected | momoChecked | momoBusy | momoLocked | momoRefused | momoThrown | momoReleased | momoStuck
  | hookKeyless | hookDuplicate | hookSerialised | hookLocked | hookMissed | hookSucceeded | hookIgnored
  | hookThrown | hookFailing | hookFailed =>
    exact hJ.keep rfl (fun _ => rfl) rfl
  | hookRecorded => exact hJ.keep rfl (fun _ => hasEvent_recordResult ..) rfl
  | momoAccepted fresh | momoLost fresh => exact hJ.issue fresh
  | @momoStored order payerPhone ref =>
    refine ⟨hJ.total, fun r hf => ?_, fun c hc hf => ?_, fun c hc => ?_, fun c hc => ?_⟩
    · exact (issued_store _ _ _).trans (hJ.known r hf)
    all_goals
      obtain ⟨u, hu, rfl⟩ := mem_store.1 hc
    · rw [CampayTxn.keep_reported]
      exact hJ.filed u hu (by simpa using hf)
    · rw [CampayTxn.keep_reported, CampayTxn.keep_stored]
      exact fun hr => by simp [hJ.stored u hu hr]
    · rw [CampayTxn.keep_reported]
      exact hJ.once u hu
  | @hookFirst payload ref key first =>
    have heard := hL ref key
    have hmono : ∀ r, hasEvent (w.dedup ++ [⟨.collect, ref, payload, none⟩]) .collect r =
        (hasEvent w.dedup .collect r || ref == r) := fun r => by simp [hasEvent]
    refine ⟨hJ.total, fun r hf => ?_, fun c hc hf => ?_, hJ.stored, hJ.once⟩
    · rw [hmono, Bool.or_eq_true, beq_iff_eq] at hf
      rcases hf with hf | rfl
      · exact hJ.known r hf
      · exact heard.known
    · rw [hmono, Bool.or_eq_true, beq_iff_eq] at hf
      rcases hf with hf | rfl
      · exact hJ.filed c hc hf
      · exact List.ne_nil_of_mem (heard.reported c hc rfl)
  | paid h => cases h <;> exact hJ.keep rfl (fun _ => rfl) rfl

theorem booked_arrival {n : CollectEvent} (hJ : BookedInv w) (hok : terminalOnce w us (.event n))
    (h : CollectArrival w n w' ts) : BookedInv w' := by
  cases h with
  | tick | refundQueued | refundSettled | initiateMomo => exact hJ.keep rfl (fun _ => rfl) rfl
  | @write x order h =>
    have htotal : order.totalXAF = w.order.totalXAF := by rw [OrderWrite.apply_eq h]
    exact hJ.keep htotal (fun _ => rfl) rfl
  | @callback payload ref href hissued =>
    have hone : ∀ c ∈ w.collects, c.reference = ref → c.stored = true ∧ ∀ s ∈ c.reported, s = payload.status :=
      fun c hc hcr => hok.2 c hc (href.trans (congrArg some hcr.symm))
    refine ⟨hJ.total, fun r hf => ?_, fun c hc hf => ?_, fun c hc => ?_, fun c hc => ?_⟩
    · exact (issued_report _ _ _ _).trans (hJ.known r hf)
    all_goals
      obtain ⟨u, hu, rfl⟩ := mem_report.1 hc
      rw [CampayTxn.hear_reported]
    · rw [CampayTxn.hear_reference] at hf
      split
      · simp
      · exact hJ.filed u hu hf
    · rw [CampayTxn.hear_stored]
      split
      · next hcr => exact fun _ => (hone u hu hcr).1
      · exact hJ.stored u hu
    · split
      · next hcr =>
        intro s hs s' hs'
        have hall : ∀ x ∈ payload.status :: u.reported, x = payload.status := by
          simpa using (hone u hu hcr).2
        rw [hall s hs, hall s' hs']
      · exact hJ.once u hu

end

/-- The condition: an attempt is never written over one that is awaited, nor
over money that has come in. -/
abbrev oneAtATime : Guard World CollectThread CollectEvent Reply := terminalOnce.and writesIdle

theorem booked_reach {w : World} {q : Pool World CollectThread} (h₀ : w.Uncollected) (hT : w.order.totalXAF ≠ 0)
    (h : collectMachine.Reach oneAtATime ⟨w, []⟩ q) :
    Sat (fun x => CollectInv x.collectView ∧ BookedInv x) (fun x t => CollectLocal x.collectView t) CollectApart
      q.shared q.threads := by
  refine h.sat (fun _ _ => CollectApart.symm) ⟨⟨h₀.inv, ⟨hT, by simp [h₀.filed], ?_, ?_, ?_⟩⟩, by simp, .nil⟩ ?_ ?_
  · simp [h₀.collects]
  · simp [h₀.collects]
  · simp [h₀.collects]
  · intro x us n x' ts _ hI hus hok hev
    have hc := collectEvent_cases hev
    exact (collect_arrival hI.1 hus hc).with_shared (booked_arrival hI.2 hok.1 hc)
  · intro x us vs t e x' ts _ hI hL hus hok hst
    have hc := collectStep_cases hst
    exact (collect_moved hI.1 hL hus hok.2 hc).with_shared (booked_step hI.2 hL hc)

variable {w : World} {q : Pool World CollectThread} {ref : Reference}

theorem BookedInv.not_failed {c : CampayTxn} (hJ : BookedInv w) (hc : c ∈ w.collects)
    (hs : .successful ∈ c.reported) : c.reportedFailed = false := by
  simp only [CampayTxn.reportedFailed, List.any_eq_false]
  intro s hsc
  rw [hJ.once c hc s hsc _ hs]
  simp [CampayStatus.isFailure]

/-- The row still carries a reference that Campay has reported paid. -/
theorem BookedInv.current (hI : CollectInv w.collectView) (hJ : BookedInv w) (h : Succeeded ref w.collects) :
    w.order.paymentReference = some ref := by
  obtain ⟨c, hc, rfl, hs⟩ := h
  exact (hI.current c hc (hJ.stored c hc (List.ne_nil_of_mem hs)) (hJ.not_failed hc hs)).1

/-- Everyone who handles a paid reference has been told so. -/
theorem BookedInv.told {payload : CampayWebhookPayload} (hJ : BookedInv w) (h : Succeeded ref w.collects)
    (hp : Heard payload ref w.collects) : payload.status = .successful := by
  obtain ⟨c, hc, hr, hs⟩ := h
  exact hJ.once c hc _ (hp.reported c hc hr) _ hs

/-- A callback that reports a payment is filed, or about to be. -/
theorem filed_or_received (h : collectMachine.Reach oneAtATime ⟨w, []⟩ q) (h₀ : w.collects = []) :
    (Succeeded ref q.shared.collects → hasEvent q.shared.dedup .collect ref = true) ∨
      ∃ t ∈ q.threads, ∃ payload : CampayWebhookPayload, t = .webhook (.received payload) ∧ payload.key = some ref := by
  refine h.kept (P := fun x => Succeeded ref x.collects → hasEvent x.dedup .collect ref = true)
    (W := fun t => ∃ payload : CampayWebhookPayload, t = .webhook (.received payload) ∧ payload.key = some ref)
    (.inl (by simp [h₀, Succeeded])) ?_ ?_
  · intro x us n x' ts _ hP _ hev
    cases collectEvent_cases hev with
    | tick | write | refundQueued | refundSettled | initiateMomo => exact .inl hP
    | @callback payload r href =>
      by_cases hr : r = ref
      · subst hr
        exact .inr ⟨_, .head _, payload, rfl, by simp [CampayWebhookPayload.key, href]⟩
      · exact .inl fun hs => hP ((succeeded_report hr).1 hs)
  · intro x us vs t e x' ts _ hPW hok hst
    cases collectStep_cases hst with
    | momoRejected | momoChecked | momoBusy | momoLocked | momoRefused | momoThrown | momoReleased | momoStuck
    | hookSerialised | hookLocked | hookMissed | hookSucceeded | hookFailing | hookIgnored | hookFailed =>
      exact .inl (hPW.resolve_right (by simp))
    | momoAccepted | momoLost =>
      exact .inl fun hs => hPW.resolve_right (by simp) ((succeeded_append rfl).1 hs)
    | momoStored => exact .inl fun hs => hPW.resolve_right (by simp) (succeeded_store.1 hs)
    | hookKeyless key => exact .inl (hPW.resolve_right (by simp [key]))
    | @hookFirst payload r key first =>
      refine .inl fun hs => ?_
      rcases hPW with hP | ⟨p, hp, hkey⟩
      · simp [hP hs]
      · cases hp
        simp [hasEvent, Option.some.inj (key.symm.trans hkey)]
    | @hookDuplicate payload r key dup =>
      refine .inl fun hs => ?_
      rcases hPW with hP | ⟨p, hp, hkey⟩
      · exact hP hs
      · cases hp
        exact Option.some.inj (key.symm.trans hkey) ▸ dup
    | hookRecorded => exact .inl fun hs => (hasEvent_recordResult ..).trans (hPW.resolve_right (by simp) hs)
    | hookThrown => exact hok.1.elim
    | paid h =>
      have hP := hPW.resolve_right (by simp)
      cases h <;> exact .inl hP

/-- A payment that was filed is booked, or a thread carries it there. -/
theorem booked_or_carried (h₀ : w.Uncollected) (hT : w.order.totalXAF ≠ 0)
    (h : collectMachine.Reach oneAtATime ⟨w, []⟩ q) :
    (Succeeded ref q.shared.collects → hasEvent q.shared.dedup .collect ref = true →
        q.shared.order.paymentStatus.received = true) ∨
      ∃ t ∈ q.threads, t.hook = some ref := by
  refine h.kept (P := fun x => Succeeded ref x.collects → hasEvent x.dedup .collect ref = true →
    x.order.paymentStatus.received = true) (W := fun t => t.hook = some ref)
    (.inl (by simp [h₀.collects, Succeeded])) ?_ ?_
  · intro x us n x' ts hr hP hok hev
    have hJ := (booked_reach h₀ hT hr).shared.2
    cases collectEvent_cases hev with
    | tick | initiateMomo => exact .inl hP
    | @write y order h =>
      have hsame : order.paymentStatus = x.order.paymentStatus := by rw [OrderWrite.apply_eq h]
      exact .inl fun hs hf => by simpa [hsame] using hP hs hf
    | refundQueued | refundSettled => exact .inl fun _ _ => rfl
    | @callback payload r href hissued =>
      refine .inl fun hs hf => ?_
      by_cases hr : r = ref
      · -- a reference that was filed has reported the same status before
        subst hr
        obtain ⟨c, hc, hcr, hcs⟩ := hs
        obtain ⟨u, hu, rfl⟩ := mem_report.1 hc
        rw [CampayTxn.hear_reference] at hcr
        refine hP ⟨u, hu, hcr, ?_⟩ hf
        have hall := (hok.1.2 u hu (href.trans (congrArg some hcr.symm))).2
        obtain ⟨s, hs⟩ := List.exists_mem_of_ne_nil _ (hJ.filed u hu (hcr ▸ hf))
        rw [CampayTxn.hear_reported, if_pos hcr] at hcs
        rcases List.mem_cons.1 hcs with hcs | hcs
        · rw [hcs, ← hall s hs]
          exact hs
        · exact hcs
      · exact hP ((succeeded_report hr).1 hs) hf
  · intro x us vs t e x' ts hr hPW hok hst
    have hS := booked_reach h₀ hT hr
    obtain ⟨hI, hJ⟩ := hS.shared
    have hL := hS.locals t (by simp)
    cases collectStep_cases hst with
    | momoRejected | momoChecked | momoBusy | momoLocked | momoRefused | momoThrown | momoReleased | momoStuck
    | hookKeyless | hookDuplicate => exact .inl (hPW.resolve_right (by simp [CollectThread.hook]))
    | momoAccepted | momoLost =>
      exact .inl fun hs hf => hPW.resolve_right (by simp [CollectThread.hook]) ((succeeded_append rfl).1 hs) hf
    | momoStored =>
      -- the row had no money in, so nothing that was filed had succeeded
      refine .inl fun hs hf => ?_
      have hin := hPW.resolve_right (by simp [CollectThread.hook]) (succeeded_store.1 hs) hf
      have hidle : x.order.paymentStatus.idle = true := hok.2
      rw [PaymentStatus.idle_eq_false.2 (.inr hin)] at hidle
      cases hidle
    | @hookFirst payload r key first =>
      by_cases hr : r = ref
      · exact .inr ⟨_, .head _, congrArg some hr⟩
      · refine .inl fun hs hf => hPW.resolve_right (by simp [CollectThread.hook]) hs ?_
        simpa [hasEvent, hr] using hf
    | hookSerialised => exact hPW.imp id fun hW => ⟨_, .head _, hW⟩
    | @hookLocked payload r held =>
      have hfree := lock_free hr h₀.locks (by simp) (List.mem_append_right us (.head vs))
      simp [hfree, setNX] at held
    | @hookMissed payload r miss =>
      refine .inl fun hs hf => ?_
      rcases hPW with hP | hW
      · exact hP hs hf
      · obtain rfl := Option.some.inj hW
        exact absurd (.inr (hJ.current hI hs)) miss
    | @hookSucceeded payload r found status =>
      refine hPW.imp id fun hW => ⟨_, .tail _ (.head _), ?_⟩
      obtain rfl := Option.some.inj hW
      have hkey : payload.key = some r := CollectView.Handled.key hL
      simp only [CollectThread.hook, Option.some.injEq]
      cases hp : payload.reference <;> simp_all [CampayWebhookPayload.key]
    | hookFailing found status unpaid => exact hPW.imp id fun hW => ⟨_, .head _, hW⟩
    | @hookIgnored payload r result found status h =>
      refine .inl fun hs hf => ?_
      rcases hPW with hP | hW
      · exact hP hs hf
      · obtain rfl := Option.some.inj hW
        exact absurd (hJ.told hs (CollectView.Handled.heard hL)) status
    | @hookFailed status r emitted =>
      refine .inl fun hs hf => ?_
      obtain ⟨hawaits, hfiled, payload, rfl, hfailure, hheard⟩ := hL
      rcases hPW with hP | hW
      · have hin := hP hs hf
        have hstatus : x.order.paymentStatus = .processing := hawaits.processing
        simp [hstatus, PaymentStatus.received] at hin
      · obtain rfl := Option.some.inj hW
        rw [hJ.told hs hheard] at hfailure
        cases hfailure
    | hookRecorded =>
      exact .inl fun hs hf => hPW.resolve_right (by simp [CollectThread.hook]) hs ((hasEvent_recordResult ..).symm.trans hf)
    | hookThrown => exact hok.1.elim
    | paid h =>
      cases h with
      | already h => exact .inl fun _ _ => by simp [h, PaymentStatus.received]
      | read => exact hPW.imp id fun hW => ⟨_, .head _, hW⟩
      | lost h =>
        -- the row awaits the reference, and the total is not zero
        obtain ⟨hawaits, -, -, htotal⟩ := hL
        refine absurd ⟨.inr hawaits.processing, payment_sound_iff.2 ?_⟩ h
        rw [htotal]
        exact hJ.total
      | booked => exact .inl fun _ _ => rfl
      | job => exact .inl (hPW.resolve_right (by simp [CollectThread.hook]))
      | thrown => exact hok.1.elim

/-- Once all calls are through, a payment that Campay reported is in the journal;
and the write of a failure, the next step of its handler, finds no money there. -/
structure MoneyBooked (q : Pool World CollectThread) : Prop where
  booked : (∀ t ∈ q.threads, t.isDone = true) → ∀ ref, Succeeded ref q.shared.collects →
    paymentRows q.shared.order.id q.shared.ledger = paymentPair q.shared.order.totalXAF
  kept : ∀ status ref, .webhook (.failing status ref) ∈ q.threads →
    q.shared.order.paymentStatus.received = false

/-- While no attempt is written over one that is awaited or over money that has
come in, every payment is booked. -/
theorem accepted_money_booked (h₀ : w.Uncollected) (hT : w.order.totalXAF ≠ 0)
    (h : collectMachine.Reach oneAtATime ⟨w, []⟩ q) : MoneyBooked q := by
  have hS := booked_reach h₀ hT h
  refine ⟨fun hdone ref hs => ?_, fun status ref ht => ?_⟩
  · have hfiled : hasEvent q.shared.dedup .collect ref = true := by
      rcases filed_or_received h h₀.collects with hf | ⟨t, ht, payload, rfl, -⟩
      · exact hf hs
      · exact absurd (hdone _ ht) nofun
    have hin : q.shared.order.paymentStatus.received = true := by
      rcases booked_or_carried h₀ hT h with hb | ⟨t, ht, hhook⟩
      · exact hb hs hfiled
      · have hd := hdone t ht
        cases t <;> rename_i t <;> cases t <;> simp_all [CollectThread.isDone, CollectThread.hook]
    have hrows := hS.shared.1.rows
    simpa [World.collectView, hin] using hrows
  · have hstatus := (hS.locals _ ht).1.processing
    simp only [World.collectView] at hstatus
    simp [hstatus, PaymentStatus.received]

def terminalOnceB (w : World) (_ : List CollectThread) (m : Move CollectThread CollectEvent Reply) : Bool :=
  match m with
  | .event (.callback payload) => payload.status.isFinal && w.collects.all fun c =>
      payload.reference != some c.reference || c.stored && c.reported.all (· == payload.status)
  | .step _ (.fail _) => false
  | _ => true

theorem terminalOnce_of_bool {w : World} {us : List CollectThread} {m : Move CollectThread CollectEvent Reply}
    (h : terminalOnceB w us m = true) : terminalOnce w us m := by
  unfold terminalOnceB at h
  unfold terminalOnce
  split at h
  · simp only [Bool.and_eq_true, List.all_eq_true, Bool.or_eq_true, bne_iff_ne, ne_eq, beq_iff_eq] at h
    exact ⟨h.1, fun c hc href => (h.2 c hc).resolve_left (not_not.2 href)⟩
  · cases h
  · trivial

/-- A first attempt waits for Campay until the lock expires; the attempt that
follows is stored before it. -/
def overtaken : List (Act CollectEvent Reply) :=
  [.event (.initiateMomo 1 "+237670000001"), .step 0 .ok, .step 0 .ok, .event (.tick 30000),
    .event (.initiateMomo 1 "+237670000001"), .step 0 .ok, .step 0 .ok, .step 0 (.accepted 8), .step 0 .ok,
    .step 1 (.accepted 7), .step 0 .ok]

/-- The later attempt is paid, but the row waits for the earlier one: the callback
finds no order. -/
theorem accepted_money_may_be_lost :
    ¬ ∀ (w : World) (q : Pool World CollectThread), w.Uncollected → w.order.totalXAF ≠ 0 →
      collectMachine.Reach terminalOnce ⟨w, []⟩ q → MoneyBooked q := by
  intro h
  obtain ⟨q, hq, ht⟩ := Machine.reach_of_test collectMachine terminalOnce terminalOnceB
    (fun _ _ _ => terminalOnce_of_bool) ⟨.start exampleOrder, []⟩
    (overtaken ++ [.event (.callback { status := .successful, reference := some 8 }), .step 0 .ok,
      .step 0 .ok, .step 0 .ok, .step 0 .ok])
    (fun q => q.threads.all CollectThread.isDone &&
      q.shared.collects.any (fun c => c.reference == 8 && c.reported.any (· == .successful)) &&
      (paymentRows q.shared.order.id q.shared.ledger).isEmpty) (by decide +kernel)
  simp only [Bool.and_eq_true, List.all_eq_true, List.any_eq_true, beq_iff_eq, List.isEmpty_iff] at ht
  obtain ⟨⟨hdone, c, hc, hr, s, hs, rfl⟩, hrows⟩ := ht
  have := (h _ q ⟨rfl, rfl, rfl, fun _ => rfl, rfl, rfl⟩ (by decide) hq).booked hdone 8 ⟨c, hc, hr, hs⟩
  rw [hrows] at this
  cases this

def oneAtATimeB (w : World) (us : List CollectThread) (m : Move CollectThread CollectEvent Reply) : Bool :=
  terminalOnceB w us m &&
    match m with
    | .step (.momo (.accepted ..)) .ok => w.order.paymentStatus.idle
    | _ => true

theorem oneAtATime_of_bool {w : World} {us : List CollectThread} {m : Move CollectThread CollectEvent Reply}
    (h : oneAtATimeB w us m = true) : oneAtATime w us m := by
  unfold oneAtATimeB at h
  rw [Bool.and_eq_true] at h
  refine ⟨terminalOnce_of_bool h.1, ?_⟩
  unfold writesIdle
  split
  · exact h.2
  · trivial

/-- A first attempt fails, the retry is paid. -/
theorem retried_payment_booked :
    ∃ q, collectMachine.Reach oneAtATime ⟨.start exampleOrder, []⟩ q ∧
      paymentRows q.shared.order.id q.shared.ledger = paymentPair q.shared.order.totalXAF := by
  obtain ⟨q, hq, ht⟩ := Machine.reach_of_test collectMachine oneAtATime
    oneAtATimeB (fun _ _ _ => oneAtATime_of_bool) ⟨.start exampleOrder, []⟩
    ([.event (.initiateMomo 1 "+237670000001"), .step 0 .ok, .step 0 .ok, .step 0 (.accepted 7), .step 0 .ok,
      .event (.callback { status := .failed, reference := some 7 }), .step 0 .ok, .step 0 .ok, .step 0 .ok,
      .step 0 .ok, .step 0 .ok, .event (.tick 30000), .event (.initiateMomo 1 "+237670000001"), .step 0 .ok,
      .step 0 .ok, .step 0 (.accepted 8), .step 0 .ok,
      .event (.callback { status := .successful, reference := some 8 }), .step 0 .ok, .step 0 .ok, .step 0 .ok,
      .step 0 .ok, .step 1 .ok, .step 0 .ok, .step 0 .ok])
    (fun q => q.threads.all CollectThread.isDone &&
      q.shared.collects.any (fun c => c.reference == 8 && c.reported.any (· == .successful))) (by decide +kernel)
  simp only [Bool.and_eq_true, List.all_eq_true, List.any_eq_true, beq_iff_eq] at ht
  obtain ⟨hdone, c, hc, hr, s, hs, rfl⟩ := ht
  exact ⟨q, hq, (accepted_money_booked ⟨rfl, rfl, rfl, fun _ => rfl, rfl, rfl⟩ (by decide) hq).booked hdone 8
    ⟨c, hc, hr, hs⟩⟩

end ChopNow
