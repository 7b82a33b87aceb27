import ChopNow.Proofs.PayoutStep

/-! A payout is transferred at most once. The worker that holds the row IN_FLIGHT
without a reference owns it until its last write; after that the reference on the
row names the only transfer that may still be paid. -/

namespace ChopNow

open Interleave

structure PayoutInv (w : PayoutWorld) : Prop where
  pending : w.payout.status = .pending → SettledBut none w.transfers ∧ w.payout.campayRef = none
  failed : w.payout.status = .failed → SettledBut none w.transfers
  inFlight : w.payout.status = .inFlight → w.payout.campayRef.isSome → SettledBut w.payout.campayRef w.transfers

/-- The row waits for a reference, unless the admin has marked it paid meanwhile. -/
structure PayoutWorld.Owned (w : PayoutWorld) (ref : Option Reference) : Prop where
  waiting : w.payout.status = .inFlight ∧ w.payout.campayRef = none ∨ w.payout.status = .paid
  settled : SettledBut ref w.transfers

/-- The callback won the dedup insert with a terminal status. -/
structure PayoutWorld.Handled (w : PayoutWorld) (payload : CampayWebhookPayload) (ref : Reference) : Prop where
  heard : Heard payload ref w.transfers
  inserted : hasEvent w.dedup .transfer ref = true
  terminal : payload.status.isSuccess = true ∨ payload.status.isFailure = true

def PayoutWorld.Awaits (w : PayoutWorld) (ref : Reference) : Prop :=
  w.payout.status = .inFlight ∧ w.payout.campayRef = some ref ∨ w.payout.status = .paid

def PayoutLocal (w : PayoutWorld) : PayoutThread → Prop
  | .transfer (.locked ..) => w.Owned none
  | .transfer (.accepted ref) => w.Owned (some ref)
  | .transfer (.caught issued _) => w.Owned issued
  | .webhook (.received payload) => ∀ ref, payload.key = some ref → Heard payload ref w.transfers
  | .webhook (.first payload ref _) => w.Handled payload ref
  | .webhook (.found payload ref _) => w.Handled payload ref ∧ w.Awaits ref
  | _ => True

/-- Between the lock and the worker's last write. -/
def PayoutThread.owns : PayoutThread → Bool
  | .transfer (.locked ..) | .transfer (.accepted ..) | .transfer (.caught ..) => true
  | _ => false

/-- The reference whose dedup row this callback inserted. -/
def PayoutThread.hook : PayoutThread → Option Reference
  | .webhook (.first _ ref _) | .webhook (.found _ ref _) => some ref
  | _ => none

def PayoutApart (t u : PayoutThread) : Prop :=
  ¬(t.owns = true ∧ u.owns = true) ∧ (t.hook.isSome → t.hook ≠ u.hook)

theorem PayoutApart.symm {t u : PayoutThread} (h : PayoutApart t u) : PayoutApart u t :=
  ⟨Exclusive.symm PayoutThread.owns h.1, Distinct.symm PayoutThread.hook h.2⟩

theorem PayoutApart.idle {t u : PayoutThread} (howns : t.owns = false) (hhook : t.hook = none) : PayoutApart t u :=
  ⟨Exclusive.idle PayoutThread.owns howns, Distinct.idle PayoutThread.hook hhook⟩

/-- A thread that neither claims the lock nor a new reference stays apart from the others. -/
theorem PayoutApart.of {t t' u : PayoutThread} (h : PayoutApart t u) (howns : t'.owns = false ∨ t.owns = true)
    (hhook : t'.hook = none ∨ t'.hook = t.hook) : PayoutApart t' u :=
  ⟨Exclusive.of PayoutThread.owns h.1 howns, Distinct.of PayoutThread.hook h.2 hhook⟩

/-- What `onReference` and `onFail` do not check: neither replaces what the admin
recorded on a PAID row, and no accepted transfer is written off as failed before
Campay has said so. -/
def workerGuarded : Guard PayoutWorld PayoutThread PayoutEvent Reply := fun w _ m =>
  match m with
  | .step (.transfer (.accepted ref)) .ok => w.payout.status = .paid → w.payout.campayRef = some ref
  | .step (.transfer (.caught issued _)) .ok =>
    w.payout.status ≠ .paid ∧ ∀ r ∈ w.transfers, some r.reference = issued → r.reportedFailed = true
  | _ => True

/-- A row as the scheduler creates it. -/
structure PayoutWorld.Unsent (w : PayoutWorld) : Prop where
  status : w.payout.status = .pending
  campayRef : w.payout.campayRef = none
  transfers : w.transfers = []

/-- The next thing the worker does is to call Campay. -/
def PayoutThread.asksCampay : PayoutThread → Bool
  | .transfer (.locked ..) => true
  | _ => false

/-! What other threads' moves leave of a thread's assertion. -/

theorem PayoutLocal.frame {w w' : PayoutWorld} {u : PayoutThread} (h : PayoutLocal w u)
    (hheard : ∀ payload ref, Heard payload ref w.transfers → Heard payload ref w'.transfers)
    (hdedup : ∀ ref, hasEvent w.dedup .transfer ref = true → hasEvent w'.dedup .transfer ref = true)
    (howned : u.owns = true → ∀ ref, w.Owned ref → w'.Owned ref)
    (hfound : ∀ ref, u.hook = some ref → w.Awaits ref → w'.Awaits ref) : PayoutLocal w' u := by
  have hhandled : ∀ payload ref, w.Handled payload ref → w'.Handled payload ref :=
    fun payload ref hp => ⟨hheard _ _ hp.heard, hdedup _ hp.inserted, hp.terminal⟩
  cases u with
  | transfer t =>
    cases t with
    | locked netXAF momoPhone => exact howned rfl _ h
    | accepted ref => exact howned rfl _ h
    | caught issued reason => exact howned rfl _ h
    | _ => trivial
  | webhook t =>
    cases t with
    | received payload => exact fun ref hkey => hheard _ _ (h ref hkey)
    | first payload ref now => exact hhandled _ _ h
    | found payload ref now => exact ⟨hhandled _ _ h.1, hfound ref rfl h.2⟩
    | _ => trivial

theorem PayoutLocal.owned {w : PayoutWorld} {u : PayoutThread} (h : PayoutLocal w u) (ho : u.owns = true) :
    ∃ ref, w.Owned ref := by
  cases u with
  | transfer t =>
    cases t with
    | locked netXAF momoPhone => exact ⟨_, h⟩
    | accepted ref => exact ⟨_, h⟩
    | caught issued reason => exact ⟨_, h⟩
    | _ => cases ho
  | webhook t => cases ho

theorem PayoutLocal.inserted {w : PayoutWorld} {u : PayoutThread} {ref : Reference} (h : PayoutLocal w u)
    (hu : u.hook = some ref) : hasEvent w.dedup .transfer ref = true := by
  cases u with
  | transfer t => cases hu
  | webhook t =>
    cases t with
    | first payload r now =>
      obtain rfl := Option.some.inj hu
      exact PayoutWorld.Handled.inserted h
    | found payload r now =>
      obtain rfl := Option.some.inj hu
      exact h.1.inserted
    | _ => cases hu

/-! Each move. -/

section

variable {w w' : PayoutWorld} {us : List PayoutThread} {t t' : PayoutThread} {e : Reply}

abbrev PayoutMoved (us : List PayoutThread) (w' : PayoutWorld) (ts : List PayoutThread) : Prop :=
  Moved PayoutInv PayoutLocal PayoutApart us w' ts

/-- A step that changes nothing and claims nothing. -/
theorem PayoutMoved.quiet (hI : PayoutInv w) (hus : ∀ u ∈ us, PayoutLocal w u ∧ PayoutApart t u)
    (ht : PayoutLocal w t') (howns : t'.owns = false ∨ t.owns = true) (hhook : t'.hook = none ∨ t'.hook = t.hook) :
    PayoutMoved us w [t'] :=
  .one hI ht fun u hu => ⟨(hus u hu).1, (hus u hu).2.of howns hhook⟩

theorem payout_moved (hI : PayoutInv w) (hL : PayoutLocal w t)
    (hus : ∀ u ∈ us, PayoutLocal w u ∧ PayoutApart t u) (hok : workerGuarded w us (.step t e))
    (h : PayoutMove w t e w' t') : PayoutMoved us w' [t'] := by
  cases h with
  | calledOff | candidate due | skipped | swallowed | hookKeyless | hookEarly | hookDuplicate | hookMissed
  | hookLate | hookThrown => exact .quiet hI hus trivial (.inl rfl) (.inl rfl)
  | locked due =>
    -- a PENDING row has no owner and no reference, and whatever was sent for it has failed
    obtain ⟨hsettled, hunset⟩ := hI.pending due
    refine .one ⟨by simp, by simp, fun _ hsome => ?_⟩ ⟨.inl ⟨rfl, hunset⟩, hsettled⟩ fun u hu =>
      ⟨?_, ?_, Distinct.idle PayoutThread.hook rfl⟩
    · simp [hunset] at hsome
    · refine (hus u hu).1.frame (fun _ _ h => h) (fun _ h => h) (fun _ ref ho => ?_) (fun ref _ ha => ?_)
      · simpa [due] using ho.waiting
      · simp [PayoutWorld.Awaits, due] at ha
    · rintro ⟨-, ho⟩
      obtain ⟨_, hown⟩ := (hus u hu).1.owned ho
      simpa [due] using hown.waiting
  | @accepted netXAF momoPhone ref fresh | @lost netXAF momoPhone ref reason fresh =>
    have hsettled : SettledBut (some ref) (w.transfers ++ [{ reference := ref, amountXAF := netXAF }]) := by
      intro r hr hne
      rcases List.mem_append.1 hr with hr | hr
      · exact hL.settled r hr (by simp)
      · simp_all
    refine .one ⟨fun hs => ?_, fun hs => ?_, fun _ hsome => ?_⟩ ⟨hL.waiting, hsettled⟩ fun u hu => ⟨?_, ?_⟩
    · have := hL.waiting
      simp_all
    · have := hL.waiting
      simp_all
    · have := hL.waiting
      simp_all
    · refine (hus u hu).1.frame (fun _ _ h => h.append fresh) (fun _ h => h) (fun ho => ?_) (fun _ _ ha => ha)
      exact absurd ⟨rfl, ho⟩ (hus u hu).2.1
    · exact (hus u hu).2.of (.inr rfl) (.inl rfl)
  | refused => exact .quiet hI hus hL (.inr rfl) (.inl rfl)
  | @onReference ref =>
    refine .one ⟨fun hs => ?_, fun hs => ?_, fun _ _ => hL.settled.store ref⟩ trivial fun u hu => ⟨?_, ?_⟩
    · have := hL.waiting
      simp_all
    · have := hL.waiting
      simp_all
    · refine (hus u hu).1.frame (fun _ _ h => h.store ref) (fun _ h => h) (fun ho => ?_) fun r _ ha => ?_
      · exact absurd ⟨rfl, ho⟩ (hus u hu).2.1
      rcases ha with ⟨hs, hc⟩ | hpaid
      · have := hL.waiting
        simp_all
      · exact .inr hpaid
    · exact .idle rfl rfl
  | unstored => exact .quiet hI hus hL (.inr rfl) (.inl rfl)
  | @onFail issued reason =>
    -- by the condition on this move, whatever is written off here has failed at Campay
    obtain ⟨hunpaid, hwrittenOff⟩ := hok
    have hsettled : SettledBut none w.transfers := by
      intro r hr _
      by_cases href : some r.reference = issued
      · exact hwrittenOff r hr href
      · exact hL.settled r hr href
    obtain ⟨hflight, hunset⟩ := hL.waiting.resolve_right hunpaid
    refine .one ⟨by simp, fun _ => hsettled, by simp⟩ trivial fun u hu => ⟨?_, ?_⟩
    · refine (hus u hu).1.frame (fun _ _ h => h) (fun _ h => h) (fun ho => ?_) fun r _ ha => ?_
      · exact absurd ⟨rfl, ho⟩ (hus u hu).2.1
      · simp [PayoutWorld.Awaits, hflight, hunset] at ha
    · exact .idle rfl rfl
  | @hookFirst payload ref key terminal first =>
    have hmono : ∀ r, hasEvent w.dedup .transfer r = true →
        hasEvent (w.dedup ++ [⟨.transfer, ref, payload, none⟩]) .transfer r = true := fun r hr => by simp [hr]
    refine .one ⟨hI.pending, hI.failed, hI.inFlight⟩ ⟨hL ref key, by simp [hasEvent], terminal⟩ fun u hu => ⟨?_, ?_⟩
    · exact (hus u hu).1.frame (fun _ _ h => h) hmono (fun _ _ ho => ⟨ho.1, ho.2⟩) (fun _ _ ha => ha)
    · refine ⟨fun h => (by cases h.1), fun _ he => ?_⟩
      have hin : hasEvent w.dedup .transfer ref = true := (hus u hu).1.inserted he.symm
      rw [first] at hin
      cases hin
  | hookFound hmatch due => exact .quiet hI hus ⟨hL, .inl ⟨due, hmatch⟩⟩ (.inl rfl) (.inr rfl)
  | @hookSettled payload ref now result due =>
    -- the row still carries this callback's reference
    obtain ⟨-, hcurrent⟩ := hL.2.resolve_right (by simp [due])
    have hbut : SettledBut (some ref) w.transfers := by
      have := hI.inFlight due (by simp [hcurrent])
      rwa [hcurrent] at this
    refine .one ⟨fun hs => ?_, fun hs r hr _ => ?_, fun hs => ?_⟩ trivial fun u hu => ⟨?_, ?_⟩
    · simp only [Payout.settle] at hs
      split at hs <;> simp at hs
    · have hfailed : payload.status.isFailure = true := by
        refine hL.1.terminal.resolve_left fun hsuccess => ?_
        simp [Payout.settle, hsuccess] at hs
      by_cases href : r.reference = ref
      · exact hL.1.heard.failed hfailed hr href
      · exact hbut r hr (by simpa using href)
    · simp only [Payout.settle] at hs
      split at hs <;> simp at hs
    · refine (hus u hu).1.frame (fun _ _ h => h) (fun _ h => h) (fun _ o ho => ?_) fun r hr ha => ?_
      · have := ho.waiting
        simp [due, hcurrent] at this
      · have hne := (hus u hu).2.2 rfl
        simp_all [PayoutThread.hook, PayoutWorld.Awaits]
    · exact .idle rfl rfl
  | hookRecorded =>
    refine .one ⟨hI.pending, hI.failed, hI.inFlight⟩ trivial fun u hu => ⟨?_, .idle rfl rfl⟩
    exact (hus u hu).1.frame (fun _ _ h => h) (fun _ h => by simpa using h) (fun _ _ ho => ⟨ho.1, ho.2⟩)
      (fun _ _ ha => ha)

theorem payout_arrival {n : PayoutEvent} {ts : List PayoutThread} (hI : PayoutInv w)
    (hus : ∀ u ∈ us, PayoutLocal w u) (h : PayoutArrival w n w' ts) : PayoutMoved us w' ts := by
  cases h with
  | tick =>
    refine .zero ⟨hI.pending, hI.failed, hI.inFlight⟩ fun u hu => ?_
    exact (hus u hu).frame (fun _ _ h => h) (fun _ h => h) (fun _ _ ho => ⟨ho.1, ho.2⟩) (fun _ _ ha => ha)
  | sweep => exact .one hI trivial fun u hu => ⟨hus u hu, .idle rfl rfl⟩
  | retried due =>
    refine .zero ⟨fun _ => ⟨hI.failed due, rfl⟩, nofun, nofun⟩ fun u hu => ?_
    refine (hus u hu).frame (fun _ _ h => h) (fun _ h => h) (fun _ o ho => ?_) fun r _ ha => ?_
    · simpa [due] using ho.waiting
    · simp [PayoutWorld.Awaits, due] at ha
  | markedPaid due =>
    refine .zero ⟨nofun, nofun, nofun⟩ fun u hu => ?_
    exact (hus u hu).frame (fun _ _ h => h) (fun _ h => h) (fun _ _ ho => ⟨.inr rfl, ho.settled⟩)
      (fun _ _ _ => .inr rfl)
  | @callback payload ref href hissued =>
    have hheard : ∀ r, payload.key = some r → Heard payload r (report ref payload.status w.transfers) := by
      intro r hkey
      obtain rfl : ref = r := by simpa [CampayWebhookPayload.key, href] using hkey
      exact .arrived hissued
    refine .one ⟨fun hs => ?_, fun hs => ?_, fun hs hsome => ?_⟩ hheard fun u hu => ⟨?_, .idle rfl rfl⟩
    · exact ⟨(hI.pending hs).1.report ref _, (hI.pending hs).2⟩
    · exact (hI.failed hs).report ref _
    · exact (hI.inFlight hs hsome).report ref _
    · exact (hus u hu).frame (fun _ _ h => h.report ref _) (fun _ h => h)
        (fun _ _ ho => ⟨ho.1, ho.2.report ref _⟩) (fun _ _ ha => ha)

/-- A PAID row is not touched again. -/
theorem paidRow_step (hok : workerGuarded w us (.step t e)) (h : PayoutMove w t e w' t') {ref : Option Reference}
    (hpaid : w.payout.status = .paid ∧ w.payout.campayRef = ref) :
    w'.payout.status = .paid ∧ w'.payout.campayRef = ref := by
  cases h with
  | locked due => simp [due] at hpaid
  | onReference =>
    refine ⟨hpaid.1, ?_⟩
    rw [← hpaid.2, hok hpaid.1]
  | onFail => exact absurd hpaid.1 hok.1
  | hookSettled due => simp [due] at hpaid
  | _ => exact hpaid

theorem paidRow_event {n : PayoutEvent} {ts : List PayoutThread} (h : PayoutArrival w n w' ts) {ref : Option Reference}
    (hpaid : w.payout.status = .paid ∧ w.payout.campayRef = ref) :
    w'.payout.status = .paid ∧ w'.payout.campayRef = ref := by
  cases h with
  | retried due => simp [due] at hpaid
  | markedPaid due => simp [hpaid.1] at due
  | _ => exact hpaid

end

theorem payout_reach {w : PayoutWorld} {q : Pool PayoutWorld PayoutThread} (h₀ : w.Unsent)
    (h : payoutMachine.Reach workerGuarded ⟨w, []⟩ q) : Sat PayoutInv PayoutLocal PayoutApart q.shared q.threads := by
  refine h.sat (fun _ _ => PayoutApart.symm) ⟨?_, by simp, .nil⟩ ?_ ?_
  · have hnone : SettledBut none w.transfers := by simp [h₀.transfers, SettledBut]
    exact ⟨fun _ => ⟨hnone, h₀.campayRef⟩, fun _ => hnone, by simp [h₀.campayRef]⟩
  · intro x us n x' ts _ hI hus _ hev
    exact payout_arrival hI hus (payoutEvent_cases hev)
  · intro x us vs t e x' ts _ hI hL hus hok hst
    obtain ⟨t', rfl, hs⟩ := payoutStep_cases hst
    exact payout_moved hI hL hus hok hs

theorem paidRow_reach {p q : Pool PayoutWorld PayoutThread} (h : payoutMachine.Reach workerGuarded p q)
    (hpaid : p.shared.payout.status = .paid) :
    q.shared.payout.status = .paid ∧ q.shared.payout.campayRef = p.shared.payout.campayRef := by
  refine h.invariant (J := fun x _ => x.payout.status = .paid ∧ x.payout.campayRef = p.shared.payout.campayRef)
    ⟨hpaid, rfl⟩ ?_ ?_
  · intro x us n x' ts _ hJ _ hev
    exact paidRow_event (payoutEvent_cases hev) hJ
  · intro x us vs t e x' ts _ hJ hok hst
    obtain ⟨t', rfl, hs⟩ := payoutStep_cases hst
    exact paidRow_step hok hs hJ

/-- While the worker's unguarded writes land only where a guard would let them,
PAID is final and a transfer is asked for only when all earlier ones failed. -/
theorem payout_sent_once {w : PayoutWorld} {p q : Pool PayoutWorld PayoutThread} (h₀ : w.Unsent)
    (hp : payoutMachine.Reach workerGuarded ⟨w, []⟩ p) (hq : payoutMachine.Reach workerGuarded p q) :
    (p.shared.payout.status = .paid →
      q.shared.payout.status = .paid ∧ q.shared.payout.campayRef = p.shared.payout.campayRef) ∧
    ∀ t ∈ q.threads, t.asksCampay = true → ∀ r ∈ q.shared.transfers, r.reportedFailed = true := by
  refine ⟨paidRow_reach hq, fun t ht hask r hr => ?_⟩
  have hL := (payout_reach h₀ (hp.trans hq)).locals t ht
  cases t with
  | transfer t =>
    cases t with
    | locked netXAF momoPhone => exact hL.settled r hr nofun
    | _ => cases hask
  | webhook t => cases hask

/-- A payout as the weekly run leaves it. -/
def examplePayout : Payout where
  id := 1
  party := .vendor 1
  periodStart := 0
  periodEnd := 7
  grossXAF := 9000
  adjustmentsXAF := 0
  netXAF := 9000
  momoPhone := "+237670000002"
  scheduledFor := 7

def unsentWorld : PayoutWorld := ⟨examplePayout, [], [], 7, true⟩

def sweepUntilLocked : List (Act PayoutEvent Reply) := [.event .sweepPendingTransfers, .step 0 .ok, .step 0 .ok]

/-- Campay accepts, the write of the reference fails and `onFail` lands: after the
admin's retry the next sweep asks for the same money again. -/
theorem payout_may_be_sent_twice :
    ¬ ∀ (w : PayoutWorld) (p q : Pool PayoutWorld PayoutThread), w.Unsent →
      payoutMachine.Reach anyMove ⟨w, []⟩ p → payoutMachine.Reach anyMove p q →
      (p.shared.payout.status = .paid →
        q.shared.payout.status = .paid ∧ q.shared.payout.campayRef = p.shared.payout.campayRef) ∧
      ∀ t ∈ q.threads, t.asksCampay = true → ∀ r ∈ q.shared.transfers, r.reportedFailed = true := by
  intro h
  obtain ⟨q, hq, ht⟩ := Machine.reach_of_test payoutMachine anyMove (fun _ _ _ => true) (fun _ _ _ _ => trivial)
    ⟨unsentWorld, []⟩
    (sweepUntilLocked ++ [.step 0 (.accepted 7), .step 0 (.fail "database"), .step 0 .ok, .event .retryPayout] ++
      sweepUntilLocked)
    (fun q => q.threads.any PayoutThread.asksCampay && q.shared.transfers.any fun r => !r.reportedFailed)
    (by decide +kernel)
  simp only [Bool.and_eq_true, List.any_eq_true, Bool.not_eq_true'] at ht
  obtain ⟨⟨t, hmem, hask⟩, r, hr, hlive⟩ := ht
  have hfailed := (h _ _ _ ⟨rfl, rfl, rfl⟩ hq .refl).2 t hmem hask r hr
  rw [hlive] at hfailed
  cases hfailed

/-- A test for the moves `workerGuarded` allows, as far as the run below makes them. -/
def workerGuardedB (w : PayoutWorld) (_ : List PayoutThread) (m : Move PayoutThread PayoutEvent Reply) : Bool :=
  match m with
  | .step (.transfer (.accepted _)) _ => w.payout.status != .paid
  | .step (.transfer (.caught ..)) _ => false
  | _ => true

theorem workerGuarded_of_bool {w : PayoutWorld} {us : List PayoutThread} {m : Move PayoutThread PayoutEvent Reply}
    (h : workerGuardedB w us m = true) : workerGuarded w us m := by
  unfold workerGuarded
  split <;> simp_all [workerGuardedB]

/-- A first transfer that Campay reports failed is retried; the admin marks the row
paid while the second one is about to be asked for. -/
theorem failed_payout_sent_again :
    ∃ p q, payoutMachine.Reach workerGuarded ⟨unsentWorld, []⟩ p ∧ payoutMachine.Reach workerGuarded p q ∧
      ((p.shared.payout.status = .paid →
        q.shared.payout.status = .paid ∧ q.shared.payout.campayRef = p.shared.payout.campayRef) ∧
      ∀ t ∈ q.threads, t.asksCampay = true → ∀ r ∈ q.shared.transfers, r.reportedFailed = true) ∧
      p.shared.payout.status = .paid ∧ q.threads.any PayoutThread.asksCampay = true ∧ q.shared.transfers ≠ [] := by
  obtain ⟨p, hp, ht⟩ := Machine.reach_of_test payoutMachine workerGuarded
    workerGuardedB (fun _ _ _ => workerGuarded_of_bool) ⟨unsentWorld, []⟩
    (sweepUntilLocked ++ [.step 0 (.accepted 7), .step 0 .ok,
      .event (.callback { status := .failed, reference := some 7 }), .step 0 .ok, .step 0 .ok, .step 0 .ok,
      .event .retryPayout] ++ sweepUntilLocked ++ [.event (.manualMarkPaid 90 none)])
    (fun p => p.shared.payout.status == .paid && p.threads.any PayoutThread.asksCampay &&
      !p.shared.transfers.isEmpty) (by decide +kernel)
  simp only [Bool.and_eq_true, beq_iff_eq, Bool.not_eq_true', List.isEmpty_eq_false_iff] at ht
  have hev : payoutMachine.event p.shared .sweepPendingTransfers = some (p.shared, [.transfer .called]) := rfl
  have hq : payoutMachine.Reach workerGuarded p ⟨p.shared, [.transfer .called] ++ p.threads⟩ :=
    .event .refl trivial hev
  refine ⟨p, _, hp, hq, payout_sent_once ⟨rfl, rfl, rfl⟩ hp hq, ht.1.1, ?_, ht.2⟩
  simpa [PayoutThread.asksCampay] using ht.1.2

end ChopNow
