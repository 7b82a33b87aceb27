import ChopNow.Lib.Inbox
import ChopNow.Proofs.Collect

/-! The collect handler is an inbox: the dedup table files a callback, the row is
looked up by its reference, and onPaymentSucceeded or the write of a failure is
the effect. -/

namespace ChopNow

open Interleave

/-- The outcome of the payment is on the row. -/
def PaymentStatus.settled (s : PaymentStatus) : Bool := !(s == .pending || s == .processing)

theorem PaymentStatus.settled_eq_false {s : PaymentStatus} : s.settled = false ↔ s = .pending ∨ s = .processing := by
  cases s <;> simp [settled]

def World.collectInbox (ref : Reference) (w : World) : Inbox.State where
  stored := w.order.paymentReference == some ref
  taken := hasEvent w.dedup .collect ref
  applied := w.order.paymentStatus.settled
  first := (reports ref w.collects).getLast?.map CampayStatus.isFinal

def CollectThread.task : CollectThread → Option Inbox.Task
  | .momo (.called ..) | .momo (.checked ..) | .momo (.locked ..) | .momo (.accepted ..) => some .write
  | .webhook (.received payload) => some (.receive payload.status.isFinal)
  | .webhook (.first payload _) | .webhook (.serialised payload _) => some (.look payload.status.isFinal)
  | .webhook (.failing ..) | .paid (.called _) | .paid (.read ..) => some .apply
  | _ => none

theorem task_of_done {us : List CollectThread} (h : ∀ u ∈ us, u.isDone = true) :
    us.filterMap CollectThread.task = [] := by
  rw [List.filterMap_eq_nil_iff]
  intro u hu
  have := h u hu
  cases u <;> rename_i t <;> cases t <;> simp_all [CollectThread.isDone, CollectThread.task]

/-- Only callbacks for `ref` arrive, Campay settles on `st`, and no statement fails. -/
def relayed (ref : Reference) (st : CampayStatus) : Guard World CollectThread CollectEvent Reply := fun _ _ m =>
  match m with
  | .event (.callback payload) => payload.reference = some ref ∧ (payload.status.isFinal = true → payload.status = st)
  | .event (.tick _) | .event (.write _) => True
  | .event _ | .step _ (.fail _) => False
  | _ => True

structure RelayInv (ref : Reference) (st : CampayStatus) (totalXAF : ℤ) (w : World) : Prop where
  code : w.order.code ≠ ref
  total : w.order.totalXAF = totalXAF
  reported : ∀ s ∈ reports ref w.collects, s.isFinal = true → s = st

/-- Every callback under way is about `ref`. -/
def RelayLocal (ref : Reference) (st : CampayStatus) (w : World) : CollectThread → Prop
  | .webhook (.received payload) =>
    payload.reference = some ref ∧ (payload.status.isFinal = true → payload.status = st)
  | .webhook (.first payload r) | .webhook (.serialised payload r) =>
    r = ref ∧ payload.reference = some ref ∧ (payload.status.isFinal = true → payload.status = st)
  | .webhook (.failing _ r) => r = ref ∧ st ≠ .successful
  | .paid (.called payload) => payload.providerReference = ref ∧ st = .successful
  | .paid (.read payload order _) =>
    payload.providerReference = ref ∧ st = .successful ∧ order.id = w.order.id ∧ order.totalXAF = w.order.totalXAF
  | _ => True

section

variable {ref : Reference} {st : CampayStatus} {totalXAF : ℤ} {w w' : World} {us ts : List CollectThread}
  {t : CollectThread} {e : Reply}

theorem RelayLocal.frame {u : CollectThread} (h : RelayLocal ref st w u) (hid : w'.order.id = w.order.id)
    (htotal : w'.order.totalXAF = w.order.totalXAF) : RelayLocal ref st w' u := by
  cases u with
  | paid t =>
    cases t with
    | read payload order now => exact ⟨h.1, h.2.1, h.2.2.1.trans hid.symm, h.2.2.2.trans htotal.symm⟩
    | _ => exact h
  | webhook t => cases t <;> exact h
  | momo t => trivial

abbrev RelayMoved (ref : Reference) (st : CampayStatus) (totalXAF : ℤ) (us : List CollectThread) (w' : World)
    (ts : List CollectThread) : Prop :=
  Moved (RelayInv ref st totalXAF) (RelayLocal ref st) (fun _ _ => True) us w' ts

/-- A step that keeps the order's identity and what Campay has reported. -/
theorem RelayMoved.quiet (hI : RelayInv ref st totalXAF w) (hus : ∀ u ∈ us, RelayLocal ref st w u)
    (hid : w'.order.id = w.order.id) (hcode : w'.order.code = w.order.code)
    (htotal : w'.order.totalXAF = w.order.totalXAF) (hreports : reports ref w'.collects = reports ref w.collects)
    (ht : ∀ t ∈ ts, RelayLocal ref st w' t) : RelayMoved ref st totalXAF us w' ts where
  shared := ⟨hcode ▸ hI.code, htotal.trans hI.total, hreports ▸ hI.reported⟩
  fresh := ht
  frame := fun u hu => (hus u hu).frame hid htotal
  apart := List.pairwise_of_forall_mem_list fun _ _ _ _ => trivial
  between := fun _ _ _ _ => trivial

theorem relay_moved (hI : RelayInv ref st totalXAF w) (hL : RelayLocal ref st w t)
    (hus : ∀ u ∈ us, RelayLocal ref st w u) (h : CollectMove w t e w' ts) : RelayMoved ref st totalXAF us w' ts := by
  have hone : ∀ {w' t'}, w'.order.id = w.order.id → w'.order.code = w.order.code →
      w'.order.totalXAF = w.order.totalXAF → reports ref w'.collects = reports ref w.collects →
      RelayLocal ref st w' t' → RelayMoved ref st totalXAF us w' [t'] :=
    fun hid hcode htotal hreports ht => .quiet hI hus hid hcode htotal hreports (by simpa using ht)
  cases h with
  | momoRejected | momoChecked | momoBusy | momoLocked | momoRefused | momoThrown | momoReleased | momoStuck
  | hookKeyless | hookDuplicate | hookLocked | hookMissed | hookIgnored | hookFailed | hookRecorded | hookThrown =>
    exact hone rfl rfl rfl rfl trivial
  | momoAccepted | momoLost => exact hone rfl rfl rfl (reports_append _ _ rfl) trivial
  | momoStored => exact hone rfl rfl rfl (reports_store ..) trivial
  | @hookFirst payload r key first =>
    refine hone rfl rfl rfl rfl ⟨?_, hL⟩
    simpa [CampayWebhookPayload.key, hL.1] using key.symm
  | hookSerialised => exact hone rfl rfl rfl rfl hL
  | @hookSucceeded payload r found status =>
    obtain ⟨rfl, href, hst⟩ := hL
    refine .quiet hI hus rfl rfl rfl rfl ?_
    simp only [List.mem_cons, List.not_mem_nil, or_false, forall_eq_or_imp, forall_eq]
    exact ⟨trivial, by simp [href], (hst (by simp [status, CampayStatus.isFinal])).symm.trans status⟩
  | @hookFailing payload r found status unpaid =>
    refine hone rfl rfl rfl rfl ⟨hL.1, fun hs => ?_⟩
    rw [hL.2.2 (by simp [status, CampayStatus.isFinal]), hs] at status
    cases status
  | paid h =>
    cases h with
    | already | lost | job | thrown => exact hone rfl rfl rfl rfl trivial
    | read => exact hone rfl rfl rfl rfl ⟨hL.1, hL.2, rfl, rfl⟩
    | booked => exact hone rfl rfl rfl rfl trivial

theorem relay_arrival {n : CollectEvent} (hI : RelayInv ref st totalXAF w) (hus : ∀ u ∈ us, RelayLocal ref st w u)
    (hok : relayed ref st w us (.event n)) (h : CollectArrival w n w' ts) : RelayMoved ref st totalXAF us w' ts := by
  cases h with
  | tick => exact .quiet hI hus rfl rfl rfl rfl (by simp)
  | @write x order h =>
    have hid : order.id = w.order.id := by rw [OrderWrite.apply_eq h]
    have hcode : order.code = w.order.code := by rw [OrderWrite.apply_eq h]
    have htotal : order.totalXAF = w.order.totalXAF := by rw [OrderWrite.apply_eq h]
    exact .quiet hI hus hid hcode htotal rfl (by simp)
  | refundQueued | refundSettled | initiateMomo => exact hok.elim
  | @callback payload r href hissued =>
    obtain rfl : r = ref := Option.some.inj (href.symm.trans hok.1)
    refine .one ⟨hI.code, hI.total, fun s hs hf => ?_⟩ hok fun u hu => ⟨(hus u hu).frame rfl rfl, trivial⟩
    rw [reports_report _ _ hissued] at hs
    rcases List.mem_cons.1 hs with rfl | hs
    · exact hok.2 hf
    · exact hI.reported s hs hf

/-! The simulation. -/

variable {ok' : Guard Inbox.State Inbox.Task Bool Bool} {as : List Inbox.Task}

abbrev CollectMatched (ok' : Guard Inbox.State Inbox.Task Bool Bool) (ref : Reference) (as : List Inbox.Task)
    (w : World) (before : List Inbox.Task) (w' : World) (ts : List CollectThread) : Prop :=
  Matched Inbox.machine ok' as (w.collectInbox ref) before (w'.collectInbox ref) (ts.filterMap CollectThread.task)

theorem collect_matched (hT : st = .successful → totalXAF ≠ 0) (hI : RelayInv ref st totalXAF w)
    (hL : RelayLocal ref st w t) (hok : relayed ref st w us (.step t e))
    (hfree : ∀ payload r, t = .webhook (.first payload r) → w.hookLocks.lookup r = none)
    (hA : Inbox.Inv (w.collectInbox ref) ∧ ∀ a ∈ t.task, Inbox.Local (w.collectInbox ref) a)
    (hany : ∀ a b, ok' (w.collectInbox ref) as (.step a b)) (h : CollectMove w t e w' ts) :
    CollectMatched ok' ref as w t.task.toList w' ts := by
  cases h with
  | momoChecked | momoLocked | hookSerialised => exact .stutter
  | momoRejected | momoBusy | momoRefused => exact .step (hany .write false) rfl
  | momoReleased | momoStuck => exact .stutter
  | momoThrown | hookThrown => exact hok.elim
  | @momoAccepted order payerPhone phone r fresh =>
    have hreports : reports ref (w.collects ++ [{ reference := r, amountXAF := order.totalXAF }]) =
        reports ref w.collects := reports_append _ _ rfl
    simp only [CollectMatched, World.collectInbox, hreports]
    exact .stutter
  | @momoLost order payerPhone r reason err fresh =>
    have hreports : reports ref (w.collects ++ [{ reference := r, amountXAF := order.totalXAF }]) =
        reports ref w.collects := reports_append _ _ rfl
    simp only [CollectMatched, World.collectInbox, hreports]
    exact .step (hany .write false) rfl
  | @momoStored order payerPhone r =>
    -- the row does not carry the reference yet, so no outcome either
    have hunstored : (w.collectInbox ref).stored = false := hA.2 .write rfl
    have hopen : w.order.paymentStatus.settled = false := by
      by_contra hn
      have hs := (hA.1.applied (by simpa [World.collectInbox] using hn)).2
      exact absurd (hunstored.symm.trans hs) nofun
    refine .step (hany .write (r == ref)) ?_
    simp only [World.collectInbox, beq_eq_false_iff_ne] at hunstored
    simp only [Inbox.machine, World.collectInbox, Order.markProcessing, reports_store, hopen]
    cases hr : r == ref <;> simp_all [PaymentStatus.settled, CollectThread.task]
  | hookKeyless key => simp [CampayWebhookPayload.key, hL.1] at key
  | @hookFirst payload r key first =>
    obtain rfl : ref = r := by simpa [CampayWebhookPayload.key, hL.1] using key
    have hfiled : hasEvent (w.dedup ++ [⟨.collect, ref, payload, none⟩]) .collect ref = true := by simp [hasEvent]
    refine .step (hany (.receive payload.status.isFinal) true) ?_
    simp [Inbox.machine, World.collectInbox, first, hfiled, CollectThread.task]
  | @hookDuplicate payload r key dup =>
    obtain rfl : ref = r := by simpa [CampayWebhookPayload.key, hL.1] using key
    refine .step (hany (.receive payload.status.isFinal) true) ?_
    simp [Inbox.machine, World.collectInbox, dup, CollectThread.task]
  | @hookLocked payload r held =>
    simp [hfree payload r rfl, setNX] at held
  | @hookMissed payload r miss =>
    obtain ⟨rfl, -⟩ := hL
    have hunstored : (w.order.paymentReference == some r) = false := by simpa using fun h => miss (.inr h)
    refine .step (hany (.look payload.status.isFinal) true) ?_
    simp [Inbox.machine, World.collectInbox, hunstored, CollectThread.task]
  | @hookSucceeded payload r found status =>
    obtain ⟨rfl, -⟩ := hL
    have hstored : w.order.paymentReference = some r := found.resolve_left hI.code
    refine .step (hany (.look payload.status.isFinal) true) ?_
    simp only [Inbox.machine, World.collectInbox, hstored, status, CampayStatus.isFinal, BEq.rfl, Bool.true_or,
      Bool.and_self, ↓reduceIte]
    rfl
  | @hookFailing payload r found status unpaid =>
    obtain ⟨rfl, -⟩ := hL
    have hstored : w.order.paymentReference = some r := found.resolve_left hI.code
    refine .step (hany (.look payload.status.isFinal) true) ?_
    simp [Inbox.machine, World.collectInbox, hstored, status, CampayStatus.isFinal, CollectThread.task]
  | @hookIgnored payload r result found status h =>
    have hopen : w.order.paymentStatus.settled = false := (hA.2 (.look payload.status.isFinal) rfl).2
    rcases h with ⟨-, -, hpaid⟩ | ⟨-, hpending⟩
    · simp [hpaid, PaymentStatus.settled] at hopen
    · refine .step (hany (.look payload.status.isFinal) true) ?_
      simp [Inbox.machine, World.collectInbox, status, hpending, CampayStatus.isFinal, CollectThread.task]
  | hookFailed =>
    refine .step (hany .apply true) ?_
    simp [Inbox.machine, World.collectInbox, PaymentStatus.settled, CollectThread.task]
  | hookRecorded =>
    simp only [CollectMatched, World.collectInbox, hasEvent_recordResult]
    exact .stutter
  | paid h =>
    cases h with
    | already hpaid =>
      have hopen : w.order.paymentStatus.settled = false := (hA.2 .apply rfl).2.1
      simp [hpaid, PaymentStatus.settled] at hopen
    | read => exact .stutter
    | @lost payload order now h =>
      -- no outcome is on the row, so the payment is due
      have hopen : w.order.paymentStatus.settled = false := (hA.2 .apply rfl).2.1
      obtain ⟨-, hst, -, htotal⟩ := hL
      refine absurd ⟨PaymentStatus.settled_eq_false.1 hopen, payment_sound_iff.2 ?_⟩ h
      rw [htotal, hI.total]
      exact hT hst
    | @booked payload order now emitted job due sound =>
      have hstored : w.order.paymentReference = some ref := by
        have := (hA.2 .apply rfl).2.2
        simpa [World.collectInbox] using this
      refine .step (hany .apply true) ?_
      simp [Inbox.machine, World.collectInbox, Order.paymentPatch, hL.1, hstored, PaymentStatus.settled,
        CollectThread.task]
    | job => exact .stutter
    | thrown => exact hok.elim

end

/-- The order waits for a first word about `ref`, or for `ref` itself. -/
structure World.Awaiting (w : World) (ref : Reference) : Prop where
  code : w.order.code ≠ ref
  open_ : w.order.paymentStatus.settled = false
  filed : hasEvent w.dedup .collect ref = false
  unheard : reports ref w.collects = []
  locks : LockInv w
  rows : paymentRows w.order.id w.ledger = []

/-- Nothing is under way but the attempt that will store the reference, where it is
not stored. -/
def World.attempt (w : World) (ref : Reference) (userId : UserId) (payerPhone : Phone) : List CollectThread :=
  if w.order.paymentReference = some ref then [] else [.momo (.called userId payerPhone)]

section

variable {ok : Guard World CollectThread CollectEvent Reply} {ok' : Guard Inbox.State Inbox.Task Bool Bool}
  {ref : Reference} {st : CampayStatus} {w : World} {userId : UserId} {payerPhone : Phone}
  {q : Pool World CollectThread}

theorem relay_reach (hle : ∀ x us m, ok x us m → relayed ref st x us m) (h₀ : w.Awaiting ref)
    (h : collectMachine.Reach ok ⟨w, w.attempt ref userId payerPhone⟩ q) :
    Sat (RelayInv ref st w.order.totalXAF) (RelayLocal ref st) (fun _ _ => True) q.shared q.threads := by
  have hstart : ∀ t ∈ w.attempt ref userId payerPhone, RelayLocal ref st w t := by
    unfold World.attempt
    split
    · simp
    · simp [RelayLocal]
  refine h.sat (fun _ _ h => h) ⟨⟨h₀.code, rfl, by simp [h₀.unheard]⟩, hstart,
    List.pairwise_of_forall_mem_list fun _ _ _ _ => trivial⟩ ?_ ?_
  · intro x us n x' ts _ hI hus hok hev
    exact relay_arrival hI hus (hle _ _ _ hok) (collectEvent_cases hev)
  · intro x us vs t e x' ts _ hI hL hus hok hst
    exact relay_moved hI hL (fun u hu => (hus u hu).1) (collectStep_cases hst)

theorem World.Awaiting.start (h₀ : w.Awaiting ref) :
    Inbox.Start ⟨w.collectInbox ref, (w.attempt ref userId payerPhone).filterMap CollectThread.task⟩ where
  taken := h₀.filed
  applied := h₀.open_
  first := by simp [World.collectInbox, h₀.unheard]
  threads := by
    unfold World.attempt
    split
    · next hs => simp [World.collectInbox, hs]
    · next hs => simp [World.collectInbox, hs, CollectThread.task]

/-- The payment machine, about one reference, is an inbox. -/
theorem collect_simulates (hle : ∀ x us m, ok x us m → relayed ref st x us m) (hun : ok'.Unordered)
    (hmsg : ∀ x us payload, ok x us (.event (.callback payload)) →
      ok' (x.collectInbox ref) (us.filterMap CollectThread.task) (.event payload.status.isFinal))
    (hany : ∀ s us a b, ok' s us (.step a b)) (hT : st = .successful → w.order.totalXAF ≠ 0) (h₀ : w.Awaiting ref) :
    Simulates collectMachine Inbox.machine ok ok' (World.collectInbox ref) CollectThread.task
      ⟨w, w.attempt ref userId payerPhone⟩ := by
  refine ⟨hun, ?_, ?_⟩
  · intro x us n x' ts as _ _ _ hok hev
    have hrelayed := hle _ _ _ hok
    cases collectEvent_cases hev with
    | tick => exact .stutter
    | @write y order h =>
      have hsame : { x with order }.collectInbox ref = x.collectInbox ref := by
        rw [OrderWrite.apply_eq h]
        rfl
      rw [hsame]
      exact .stutter
    | refundQueued | refundSettled | initiateMomo => exact hrelayed.elim
    | @callback payload r href hissued =>
      obtain rfl : r = ref := Option.some.inj (href.symm.trans hrelayed.1)
      refine .event (hmsg _ _ _ hok) ?_
      simp only [Inbox.machine, World.collectInbox, reports_report _ _ hissued, List.getLast?_cons]
      cases reports r x.collects |>.getLast? <;> rfl
  · intro x us vs t e x' ts as hr hra has hok hst
    have hS := relay_reach hle h₀ hr
    have hA := Inbox.sat h₀.start hra
    refine collect_matched hT hS.shared (hS.locals t (by simp)) (hle _ _ _ hok) ?_ ⟨hA.shared, ?_⟩
      (fun a b => hany _ _ a b) (collectStep_cases hst)
    · rintro payload r rfl
      refine lock_free hr h₀.locks ?_ (List.mem_append_right us (.head vs))
      unfold World.attempt
      split
      · simp
      · simp [CollectThread.locking]
    · intro a ha
      exact hA.locals a (has.mem_iff.2 (List.mem_append_left _ (by simpa using ha)))

/-- Where the row and the journal can be. -/
inductive Outcome (st : CampayStatus) (w : World) : Prop
  | open_ (status : w.order.paymentStatus.settled = false) (rows : paymentRows w.order.id w.ledger = [])
  | paid (succeeded : st = .successful) (status : w.order.paymentStatus = .paid)
      (rows : paymentRows w.order.id w.ledger = paymentPair w.order.totalXAF)
  | failed (failed : st ≠ .successful) (status : w.order.paymentStatus = .failed)
      (rows : paymentRows w.order.id w.ledger = [])

theorem Outcome.keep {w w' : World} (h : Outcome st w) (hid : w'.order.id = w.order.id)
    (htotal : w'.order.totalXAF = w.order.totalXAF) (hstatus : w'.order.paymentStatus = w.order.paymentStatus)
    (hledger : w'.ledger = w.ledger) : Outcome st w' := by
  cases h with
  | open_ status rows => exact .open_ (by rwa [hstatus]) (by rwa [hid, hledger])
  | paid succeeded status rows => exact .paid succeeded (by rwa [hstatus]) (by rwa [hid, hledger, htotal])
  | failed failed status rows => exact .failed failed (by rwa [hstatus]) (by rwa [hid, hledger])

theorem Outcome.rows_open {w : World} (h : Outcome st w) (ho : w.order.paymentStatus.settled = false) :
    paymentRows w.order.id w.ledger = [] := by
  cases h with
  | open_ status rows => exact rows
  | paid succeeded status rows => simp [status, PaymentStatus.settled] at ho
  | failed failed status rows => exact rows

theorem outcome_reach (hle : ∀ x us m, ok x us m → relayed ref st x us m) (hT : st = .successful → w.order.totalXAF ≠ 0)
    (h₀ : w.Awaiting ref) (h : collectMachine.Reach ok ⟨w, w.attempt ref userId payerPhone⟩ q) :
    Outcome st q.shared := by
  refine h.invariant (J := fun x _ => Outcome st x) (.open_ h₀.open_ h₀.rows) ?_ ?_
  · intro x us n x' ts _ hO hok hev
    have hrelayed := hle _ _ _ hok
    cases collectEvent_cases hev with
    | tick | callback => exact hO.keep rfl rfl rfl rfl
    | @write y order h =>
      have heq := OrderWrite.apply_eq h
      exact hO.keep (by rw [heq]) (by rw [heq]) (by rw [heq]) rfl
    | refundQueued | refundSettled | initiateMomo => exact hrelayed.elim
  · intro x us vs t e x' ts hr hO hok hst
    have hS := relay_reach hle h₀ hr
    have hL := hS.locals t (by simp)
    -- what the abstract run says about this thread: no outcome before its effect
    have hsim : Simulates collectMachine Inbox.machine ok anyMove (World.collectInbox ref) CollectThread.task
        ⟨w, w.attempt ref userId payerPhone⟩ :=
      collect_simulates hle (fun _ _ _ _ _ _ => trivial) (fun _ _ _ _ => trivial) (fun _ _ _ _ => trivial) hT h₀
    obtain ⟨as, hra, has⟩ := hsim.run hr
    have hA := Inbox.sat h₀.start hra
    have htask : ∀ a ∈ t.task, Inbox.Local (x.collectInbox ref) a := fun a ha =>
      hA.locals a (has.mem_iff.2 (List.mem_filterMap.2 ⟨t, by simp, ha⟩))
    cases collectStep_cases hst with
    | momoRejected | momoChecked | momoBusy | momoLocked | momoRefused | momoThrown | momoReleased | momoStuck
    | momoAccepted | momoLost | hookKeyless | hookFirst | hookDuplicate | hookSerialised | hookLocked | hookMissed
    | hookSucceeded | hookFailing | hookIgnored | hookRecorded | hookThrown =>
      exact hO.keep rfl rfl rfl rfl
    | @momoStored order payerPhone r =>
      have hunstored := htask .write rfl
      have hopen : x.order.paymentStatus.settled = false := by
        by_contra hn
        have hs := (hA.shared.applied (by simpa [World.collectInbox] using hn)).2
        exact absurd (hunstored.symm.trans hs) nofun
      exact .open_ rfl (hO.rows_open hopen)
    | hookFailed => exact .failed hL.2 rfl (hO.rows_open (htask .apply rfl).2.1)
    | paid h =>
      cases h with
      | already | read | lost | job | thrown => exact hO.keep rfl rfl rfl rfl
      | @booked payload order now emitted job due sound =>
        obtain ⟨-, hst, hid, htotal⟩ := hL
        refine .paid hst rfl ?_
        have hadd := paymentRows_payment x.ledger hid (.payment order.id) x.clock
        refine hadd.trans ?_
        rw [hO.rows_open (htask .apply rfl).2.1, htotal]
        rfl

/-- An order without a price is never booked. -/
theorem unbooked_of_zero (hle : ∀ x us m, ok x us m → relayed ref st x us m) (h₀ : w.Awaiting ref)
    (hzero : w.order.totalXAF = 0) (h : collectMachine.Reach ok ⟨w, w.attempt ref userId payerPhone⟩ q) :
    paymentRows q.shared.order.id q.shared.ledger = [] := by
  refine h.invariant (J := fun x _ => paymentRows x.order.id x.ledger = []) h₀.rows ?_ ?_
  · intro x us n x' ts _ hrows hok hev
    cases collectEvent_cases hev with
    | tick | refundQueued | refundSettled | initiateMomo | callback => exact hrows
    | @write y order h =>
      have hid : order.id = x.order.id := by rw [OrderWrite.apply_eq h]
      exact hid ▸ hrows
  · intro x us vs t e x' ts hr hrows _ hst
    have hS := relay_reach hle h₀ hr
    have hL := hS.locals t (by simp)
    cases collectStep_cases hst with
    | paid h =>
      cases h with
      | already | read | lost | job | thrown => exact hrows
      | booked due sound =>
        refine absurd ?_ (payment_sound_iff.1 sound)
        rw [hL.2.2.2, hS.shared.total, hzero]
    | _ => exact hrows

/-- The final state that a reference settled on `st` calls for. -/
def World.EndsRight (st : CampayStatus) (w : World) : Prop :=
  if st = .successful then
    w.order.paymentStatus = .paid ∧ paymentRows w.order.id w.ledger = paymentPair w.order.totalXAF
  else w.order.paymentStatus = .failed ∧ paymentRows w.order.id w.ledger = []

theorem Outcome.endsRight_iff {w : World} (h : Outcome st w) :
    w.EndsRight st ↔ w.order.paymentStatus.settled = true := by
  unfold World.EndsRight
  cases h with
  | open_ status rows =>
    refine ⟨fun he => ?_, fun hs => absurd (status.symm.trans hs) nofun⟩
    split at he <;> rw [he.1] <;> rfl
  | paid succeeded status rows =>
    rw [if_pos succeeded]
    exact ⟨fun _ => by rw [status]; rfl, fun _ => ⟨status, rows⟩⟩
  | failed failed status rows =>
    rw [if_neg failed]
    exact ⟨fun _ => by rw [status]; rfl, fun _ => ⟨status, rows⟩⟩

end

end ChopNow
