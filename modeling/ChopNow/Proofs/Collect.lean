import ChopNow.Proofs.Callbacks
import ChopNow.Proofs.CollectStep

/-! What holds between payment attempts and their callbacks as long as no attempt
is written over another one or over money that has come in. A callback that was
filed owns its reference until its effect is written. -/

namespace ChopNow

open Interleave

/-- No attempt is awaited and no money has come in. -/
def PaymentStatus.idle (s : PaymentStatus) : Bool := s == .pending || s == .failed

/-- The PAYMENT_RECEIVED rows of an order: which account, and how much. -/
def paymentRows (id : OrderId) (ledger : Ledger) : List (LedgerAccount × ℤ) :=
  (ledger.filter fun e => e.eventType == .paymentReceived && e.orderId == some id).map
    fun e => (e.account, e.amountXAF)

def paymentPair (totalXAF : ℤ) : List (LedgerAccount × ℤ) :=
  [(.campayFloat, totalXAF), (.customerEscrow, -totalXAF)]

theorem paymentRows_payment (ledger : Ledger) {order : Order} {id : OrderId} (h : order.id = id) (event : EventId)
    (now : Time) :
    paymentRows id (ledger ++ (paymentInput order).rows event now) =
      paymentRows id ledger ++ paymentPair order.totalXAF := by
  simp [paymentRows, paymentPair, RecordTransactionInput.rows, paymentInput, h]

/-- The columns and tables that payments depend on. -/
structure CollectView where
  id : OrderId
  code : Reference
  totalXAF : ℤ
  status : OrderStatus
  paymentStatus : PaymentStatus
  paymentReference : Option Reference
  collects : List CampayTxn
  dedup : List CampayWebhookEvent
  ledger : Ledger

def World.collectView (w : World) : CollectView where
  id := w.order.id
  code := w.order.code
  totalXAF := w.order.totalXAF
  status := w.order.status
  paymentStatus := w.order.paymentStatus
  paymentReference := w.order.paymentReference
  collects := w.collects
  dedup := w.dedup
  ledger := w.ledger

abbrev CollectView.filed (v : CollectView) (ref : Reference) : Bool := hasEvent v.dedup .collect ref

/-- The row waits for the outcome of `ref`. -/
structure CollectView.Awaits (v : CollectView) (ref : Reference) : Prop where
  reference : v.paymentReference = some ref
  processing : v.paymentStatus = .processing

/-- If the row carries `ref`, it waits for it. -/
def CollectView.Unresolved (v : CollectView) (ref : Reference) : Prop :=
  v.paymentReference = some ref → v.paymentStatus = .processing

structure CollectInv (v : CollectView) : Prop where
  code : issued v.code v.collects = false
  unresolved : ∀ ref, v.filed ref = false → v.Unresolved ref
  current : ∀ t ∈ v.collects, t.stored = true → t.reportedFailed = false →
    v.paymentReference = some t.reference ∧ v.paymentStatus.idle = false
  rows : paymentRows v.id v.ledger = if v.paymentStatus.received then paymentPair v.totalXAF else []
  left : v.paymentStatus.received = true → v.status ≠ .pending

/-- The callback won the dedup insert. -/
structure CollectView.Handled (v : CollectView) (payload : CampayWebhookPayload) (ref : Reference) : Prop where
  key : payload.key = some ref
  heard : Heard payload ref v.collects
  filed : v.filed ref = true
  unresolved : v.Unresolved ref

/-- A row read earlier is still right about what never changes. -/
def CollectView.Carries (v : CollectView) (order : Order) : Prop := order.id = v.id ∧ order.totalXAF = v.totalXAF

def CollectLocal (v : CollectView) : CollectThread → Prop
  | .webhook (.received payload) => ∀ ref, payload.key = some ref → Heard payload ref v.collects
  | .webhook (.first payload ref) | .webhook (.serialised payload ref) => v.Handled payload ref
  | .webhook (.failing status ref) =>
    v.Awaits ref ∧ v.filed ref = true ∧
      ∃ payload, payload.status = status ∧ status.isFailure = true ∧ Heard payload ref v.collects
  | .paid (.called payload) => v.Awaits payload.providerReference ∧ v.filed payload.providerReference = true
  | .paid (.read payload order _) =>
    v.Awaits payload.providerReference ∧ v.filed payload.providerReference = true ∧ v.Carries order
  | _ => True

/-- The reference whose dedup row led to this thread. -/
def CollectThread.hook : CollectThread → Option Reference
  | .webhook (.first _ ref) | .webhook (.serialised _ ref) | .webhook (.failing _ ref) => some ref
  | .paid (.called payload) | .paid (.read payload ..) => some payload.providerReference
  | _ => none

def CollectApart (t u : CollectThread) : Prop := t.hook.isSome → t.hook ≠ u.hook

theorem CollectApart.symm {t u : CollectThread} (h : CollectApart t u) : CollectApart u t :=
  Distinct.symm CollectThread.hook h

theorem CollectApart.idle {t u : CollectThread} (h : t.hook = none) : CollectApart t u :=
  Distinct.idle CollectThread.hook h

theorem CollectApart.of {t t' u : CollectThread} (h : CollectApart t u) (ht : t'.hook = none ∨ t'.hook = t.hook) :
    CollectApart t' u :=
  Distinct.of CollectThread.hook h ht

/-- An attempt is written only where none is awaited and no money has come in. -/
def writesIdle : Guard World CollectThread CollectEvent Reply := fun w _ m =>
  match m with
  | .step (.momo (.accepted ..)) .ok => w.order.paymentStatus.idle = true
  | _ => True

/-! What other threads' moves leave of a thread's assertion. -/

theorem PaymentStatus.idle_eq_false {s : PaymentStatus} :
    s.idle = false ↔ s = .processing ∨ s.received = true := by
  cases s <;> simp [idle, received]

theorem CollectLocal.frame {v v' : CollectView} {u : CollectThread} (h : CollectLocal v u) (hid : v'.id = v.id)
    (htotal : v'.totalXAF = v.totalXAF)
    (hheard : ∀ payload ref, Heard payload ref v.collects → Heard payload ref v'.collects)
    (hfiled : ∀ ref, v.filed ref = true → v'.filed ref = true)
    (hawaits : ∀ ref, u.hook = some ref → v.Awaits ref → v'.Awaits ref)
    (hunresolved : ∀ ref, u.hook = some ref → v.Unresolved ref → v'.Unresolved ref) : CollectLocal v' u := by
  cases u with
  | webhook t =>
    cases t with
    | received payload => exact fun ref hkey => hheard _ _ (h ref hkey)
    | first payload ref | serialised payload ref =>
      exact ⟨h.key, hheard _ _ h.heard, hfiled _ h.filed, hunresolved _ rfl h.unresolved⟩
    | failing status ref =>
      obtain ⟨ha, hf, payload, hs, hfailure, hp⟩ := h
      exact ⟨hawaits _ rfl ha, hfiled _ hf, payload, hs, hfailure, hheard _ _ hp⟩
    | _ => trivial
  | paid t =>
    cases t with
    | called payload => exact ⟨hawaits _ rfl h.1, hfiled _ h.2⟩
    | read payload order now =>
      obtain ⟨ha, hf, hc⟩ := h
      exact ⟨hawaits _ rfl ha, hfiled _ hf, hc.1.trans hid.symm, hc.2.trans htotal.symm⟩
    | _ => trivial
  | momo t => trivial

theorem CollectLocal.filed {v : CollectView} {u : CollectThread} {ref : Reference} (h : CollectLocal v u)
    (hu : u.hook = some ref) : v.filed ref = true := by
  cases u with
  | webhook t =>
    cases t with
    | first payload r | serialised payload r =>
      obtain rfl := Option.some.inj hu
      exact CollectView.Handled.filed h
    | failing status r =>
      obtain rfl := Option.some.inj hu
      exact h.2.1
    | _ => cases hu
  | paid t =>
    cases t with
    | called payload =>
      obtain rfl := Option.some.inj hu
      exact h.2
    | read payload order now =>
      obtain rfl := Option.some.inj hu
      exact h.2.1
    | _ => cases hu
  | momo t => cases hu

theorem CollectView.Awaits.eq {v : CollectView} {ref ref' : Reference} (h : v.Awaits ref)
    (h' : v.paymentReference = some ref') : ref = ref' :=
  Option.some.inj (h.reference.symm.trans h')

/-- While the row awaits `ref`, what moves it on leaves the callbacks of other
references alone. -/
theorem CollectLocal.frame_resolved {v v' : CollectView} {u : CollectThread} {ref : Reference}
    (h : CollectLocal v u) (ha : v.Awaits ref) (hu : u.hook ≠ some ref) (hid : v'.id = v.id)
    (htotal : v'.totalXAF = v.totalXAF) (hcollects : v'.collects = v.collects) (hdedup : v'.dedup = v.dedup)
    (href : v'.paymentReference = v.paymentReference) : CollectLocal v' u := by
  refine h.frame hid htotal (fun _ _ hp => hcollects ▸ hp) (fun r hr => ?_) (fun r hr har => ?_) (fun r hr _ hc => ?_)
  · rwa [CollectView.filed, hdedup]
  · obtain rfl := ha.eq har.reference
    exact absurd hr hu
  · obtain rfl := ha.eq (href ▸ hc)
    exact absurd hr hu

/-- No callback is open once the money has come in, so a refund disturbs none. -/
theorem CollectLocal.refund {v : CollectView} {u : CollectThread} {status : OrderStatus}
    {paymentStatus : PaymentStatus} (h : CollectLocal v u) (hr : v.paymentStatus.received = true) :
    CollectLocal { v with status, paymentStatus } u := by
  have hbusy : v.paymentStatus ≠ .processing := fun hp => by simp [hp, PaymentStatus.received] at hr
  exact h.frame rfl rfl (fun _ _ h => h) (fun _ h => h) (fun _ _ ha => absurd ha.processing hbusy)
    (fun _ _ hu href => absurd (hu href) hbusy)

/-! Each move. -/

section

variable {w w' : World} {us ts : List CollectThread} {t t' : CollectThread} {e : Reply}

abbrev CollectMoved (us : List CollectThread) (w' : World) (ts : List CollectThread) : Prop :=
  Moved (fun w => CollectInv w.collectView) (fun w => CollectLocal w.collectView) CollectApart us w' ts

/-- A step that changes none of the columns and claims no reference. -/
theorem CollectMoved.quiet (hI : CollectInv w.collectView)
    (hus : ∀ u ∈ us, CollectLocal w.collectView u ∧ CollectApart t u) (hv : w'.collectView = w.collectView)
    (ht : CollectLocal w.collectView t') (hhook : t'.hook = none ∨ t'.hook = t.hook) :
    CollectMoved us w' [t'] := by
  refine .one ?_ ?_ fun u hu => ⟨?_, (hus u hu).2.of hhook⟩
  · rwa [hv]
  · rwa [hv]
  · rw [hv]
    exact (hus u hu).1

/-- The order was found by its reference. -/
theorem CollectView.Handled.awaits {payload : CampayWebhookPayload} {ref : Reference}
    (hI : CollectInv w.collectView) (hL : w.collectView.Handled payload ref)
    (found : w.order.code = ref ∨ w.order.paymentReference = some ref) : w.collectView.Awaits ref := by
  rcases found with hcode | href
  · have hknown := hL.heard.known
    rw [← hcode] at hknown
    exact absurd (hI.code.symm.trans hknown) nofun
  · exact ⟨href, hL.unresolved href⟩

/-- A move that touches neither the row's payment columns nor the dedup table. -/
theorem CollectInv.keep {v v' : CollectView} (h : CollectInv v) (hid : v'.id = v.id) (hcode : v'.code = v.code)
    (htotal : v'.totalXAF = v.totalXAF) (hpayment : v'.paymentStatus = v.paymentStatus)
    (href : v'.paymentReference = v.paymentReference) (hledger : v'.ledger = v.ledger)
    (hfiled : ∀ ref, v.filed ref = true → v'.filed ref = true)
    (hissued : issued v.code v'.collects = false)
    (hcurrent : ∀ t ∈ v'.collects, t.stored = true → t.reportedFailed = false →
      ∃ u ∈ v.collects, u.reference = t.reference ∧ u.stored = true ∧ u.reportedFailed = false)
    (hstatus : v'.status = .pending → v.status = .pending) : CollectInv v' where
  code := hcode ▸ hissued
  unresolved := fun ref hf hr => by
    rw [hpayment]
    refine h.unresolved ref ?_ (href ▸ hr)
    by_contra hn
    rw [hfiled ref (by simpa using hn)] at hf
    cases hf
  current := fun t ht hs hf => by
    obtain ⟨u, hu, hru, hsu, hfu⟩ := hcurrent t ht hs hf
    rw [hpayment, href, ← hru]
    exact h.current u hu hsu hfu
  rows := by rw [hid, hledger, hpayment, htotal, h.rows]
  left := fun hr hs => h.left (hpayment ▸ hr) (hstatus hs)

theorem CollectInv.refund {v : CollectView} (h : CollectInv v) {status : OrderStatus}
    {paymentStatus : PaymentStatus} (hr : v.paymentStatus.received = true) (hr' : paymentStatus.received = true)
    (hs : status ≠ .pending) : CollectInv { v with status, paymentStatus } where
  code := h.code
  unresolved := fun ref hf href => by
    have hp := h.unresolved ref hf href
    simp [hp, PaymentStatus.received] at hr
  current := fun t ht hst hf => ⟨(h.current t ht hst hf).1, PaymentStatus.idle_eq_false.2 (.inr hr')⟩
  rows := by
    have hrows := h.rows
    rw [hr] at hrows
    simpa [hr'] using hrows
  left := fun _ => hs

theorem collect_moved (hI : CollectInv w.collectView) (hL : CollectLocal w.collectView t)
    (hus : ∀ u ∈ us, CollectLocal w.collectView u ∧ CollectApart t u) (hok : writesIdle w us (.step t e))
    (h : CollectMove w t e w' ts) : CollectMoved us w' ts := by
  cases h with
  | momoRejected | momoChecked | momoBusy | momoLocked | momoRefused | momoThrown | momoReleased | momoStuck
  | hookKeyless | hookDuplicate | hookLocked | hookMissed | hookIgnored | hookThrown =>
    exact .quiet hI hus rfl trivial (.inl rfl)
  | @momoAccepted order payerPhone phone ref fresh | @momoLost order payerPhone ref reason err fresh =>
    simp only [World.isFresh, Bool.and_eq_true, Bool.not_eq_true', bne_iff_ne, ne_eq] at fresh
    obtain ⟨⟨hcode, hnew⟩, -⟩ := fresh
    refine .one (hI.keep rfl rfl rfl rfl rfl rfl (fun _ h => h) ?_ ?_ id) trivial fun u hu =>
      ⟨(hus u hu).1.frame rfl rfl (fun _ _ h => h.append hnew) (fun _ h => h) (fun _ _ h => ⟨h.1, h.2⟩)
        (fun _ _ h => h), .idle rfl⟩
    · have hcode' : issued w.order.code w.collects = false := hI.code
      simp only [World.collectView, issued_append, hcode', Bool.false_or]
      simpa [issued] using hcode
    · intro r hr hs hf
      rcases List.mem_append.1 hr with hr | hr
      · exact ⟨r, hr, rfl, hs, hf⟩
      · obtain rfl := List.mem_singleton.1 hr
        cases hs
  | @momoStored order payerPhone ref =>
    -- nothing was awaited, so every reference written earlier has failed
    have hidle : w.order.paymentStatus.idle = true := hok
    have hbusy : w.order.paymentStatus ≠ .processing ∧ w.order.paymentStatus.received = false := by
      generalize w.order.paymentStatus = s at hidle ⊢
      cases s <;> simp_all [PaymentStatus.idle, PaymentStatus.received]
    have hrows := hI.rows
    simp only [World.collectView, hbusy.2, Bool.false_eq_true, ↓reduceIte] at hrows
    refine .one ⟨?_, fun _ _ _ => rfl, ?_, hrows, fun h => (by cases h)⟩ trivial fun u hu => ⟨?_, .idle rfl⟩
    · exact (issued_store _ _ _).trans hI.code
    · intro r hr hs hf
      obtain ⟨u, hu, rfl⟩ := mem_store.1 hr
      rw [CampayTxn.keep_reportedFailed] at hf
      rw [CampayTxn.keep_stored, Bool.or_eq_true, decide_eq_true_eq] at hs
      rw [CampayTxn.keep_reference]
      rcases hs with hs | hs
      · exact ⟨congrArg some hs.symm, rfl⟩
      · have := (hI.current u hu hs hf).2
        simp [World.collectView, hidle] at this
    · exact (hus u hu).1.frame rfl rfl (fun _ _ h => h.store ref) (fun _ h => h)
        (fun _ _ h => absurd h.processing hbusy.1) (fun _ _ _ _ => rfl)
  | @hookFirst payload ref key first =>
    have hmono : ∀ r, hasEvent w.dedup .collect r = true →
        hasEvent (w.dedup ++ [⟨.collect, ref, payload, none⟩]) .collect r = true := fun r hr => by simp [hr]
    refine .one (hI.keep rfl rfl rfl rfl rfl rfl hmono hI.code (fun r hr hs hf => ⟨r, hr, rfl, hs, hf⟩) id)
      ⟨key, hL ref key, ?_, hI.unresolved ref first⟩ fun u hu => ⟨?_, fun _ he => ?_⟩
    · simp [CollectView.filed, World.collectView, hasEvent]
    · exact (hus u hu).1.frame rfl rfl (fun _ _ h => h) hmono (fun _ _ h => ⟨h.1, h.2⟩) (fun _ _ h => h)
    · have hin : hasEvent w.dedup .collect ref = true := (hus u hu).1.filed he.symm
      rw [first] at hin
      cases hin
  | hookSerialised free => exact .quiet hI hus rfl hL (.inr rfl)
  | @hookSucceeded payload ref found status =>
    -- the payload's own reference is the key it was filed under
    have hkey : payload.reference.getD ref = ref := by
      have := hL.key
      cases hr : payload.reference <;> simp_all [CampayWebhookPayload.key]
    refine ⟨hI, ?_, fun u hu => (hus u hu).1, ?_, ?_⟩
    · simp only [List.mem_cons, List.not_mem_nil, or_false, forall_eq_or_imp, forall_eq]
      refine ⟨trivial, ?_, ?_⟩
      · rw [hkey]
        exact hL.awaits hI found
      · rw [hkey]
        exact CollectView.Handled.filed hL
    · exact List.pairwise_pair.2 (.idle rfl)
    · simp only [List.mem_cons, List.not_mem_nil, or_false, forall_eq_or_imp, forall_eq]
      refine ⟨fun _ _ => .idle rfl, fun u hu => (hus u hu).2.of (.inr ?_)⟩
      simp [CollectThread.hook, hkey]
  | hookFailing found status unpaid =>
    exact .quiet hI hus rfl ⟨hL.awaits hI found, CollectView.Handled.filed hL, _, rfl, status, hL.heard⟩ (.inr rfl)
  | @hookFailed status ref emitted =>
    obtain ⟨hawaits, hfiled, payload, rfl, hfailure, hheard⟩ := hL
    have hrows := hI.rows
    have hstatus : w.order.paymentStatus = .processing := hawaits.processing
    simp only [World.collectView, hstatus, PaymentStatus.received] at hrows
    refine .one ⟨hI.code, fun r hf hr => ?_, fun r hr hs hf => ?_, hrows, fun h => (by cases h)⟩ trivial fun u hu =>
      ⟨(hus u hu).1.frame_resolved hawaits (fun he => (hus u hu).2 rfl he.symm) rfl rfl rfl rfl rfl, .idle rfl⟩
    · obtain rfl := hawaits.eq hr
      exact absurd (hfiled.symm.trans hf) (by decide)
    · obtain rfl := hawaits.eq (hI.current r hr hs hf).1
      rw [hheard.failed hfailure hr rfl] at hf
      cases hf
  | hookRecorded =>
    have hsame : ∀ ref ref' result, hasEvent (recordResult w.dedup .collect ref' result) .collect ref =
        hasEvent w.dedup .collect ref := fun _ _ _ => hasEvent_recordResult _ _ _ _ _ _
    refine .one (hI.keep rfl rfl rfl rfl rfl rfl (fun _ h => (hsame _ _ _).trans h) hI.code
      (fun r hr hs hf => ⟨r, hr, rfl, hs, hf⟩) id) trivial fun u hu => ⟨?_, .idle rfl⟩
    exact (hus u hu).1.frame rfl rfl (fun _ _ h => h) (fun _ h => (hsame _ _ _).trans h)
      (fun _ _ h => ⟨h.1, h.2⟩) (fun _ _ h => h)
  | paid h =>
    cases h with
    | already | lost | job | thrown => exact .quiet hI hus rfl trivial (.inl rfl)
    | read unpaid => exact .quiet hI hus rfl ⟨hL.1, hL.2, rfl, rfl⟩ (.inr rfl)
    | @booked payload order now emitted job due sound =>
      obtain ⟨hawaits, hfiled, hid, htotal⟩ := hL
      have hrows := hI.rows
      have hstatus : w.order.paymentStatus = .processing := hawaits.processing
      simp only [World.collectView, hstatus, PaymentStatus.received] at hrows
      refine .one ⟨hI.code, fun r hf hr => ?_, fun r hr hs hf => ?_, ?_, fun _ h => (by cases h)⟩ trivial fun u hu =>
        ⟨(hus u hu).1.frame_resolved hawaits (fun he => (hus u hu).2 rfl he.symm) rfl rfl rfl rfl
          hawaits.reference.symm, .idle rfl⟩
      · obtain rfl := Option.some.inj hr
        exact absurd (hfiled.symm.trans hf) (by decide)
      · have := (hI.current r hr hs hf).1
        exact ⟨hawaits.reference.symm.trans this, rfl⟩
      · have hadd := paymentRows_payment w.ledger hid (.payment order.id) w.clock
        refine hadd.trans ?_
        simp only [World.collectView, htotal] at hrows ⊢
        simp [hrows, Order.paymentPatch, PaymentStatus.received]

theorem collect_arrival {n : CollectEvent} (hI : CollectInv w.collectView)
    (hus : ∀ u ∈ us, CollectLocal w.collectView u) (h : CollectArrival w n w' ts) : CollectMoved us w' ts := by
  cases h with
  | tick => exact .zero hI hus
  | @write x order h =>
    have hv : { w with order }.collectView = { w.collectView with status := order.status } := by
      rw [OrderWrite.apply_eq h]
      rfl
    have hstatus : order.status = .pending → w.order.status = .pending := by
      rcases OrderWrite.apply_status h with hs | ⟨-, -, -, hs⟩
      · exact fun hp => hs.symm.trans hp
      · exact fun hp => absurd hp hs
    refine .zero ?_ fun u hu => ?_
    · rw [hv]
      exact hI.keep rfl rfl rfl rfl rfl rfl (fun _ h => h) hI.code (fun r hr hs hf => ⟨r, hr, rfl, hs, hf⟩) hstatus
    · rw [hv]
      exact (hus u hu).frame rfl rfl (fun _ _ h => h) (fun _ h => h) (fun _ _ h => ⟨h.1, h.2⟩) (fun _ _ h => h)
  | refundQueued h =>
    have hr : w.collectView.paymentStatus.received = true := by simp [World.collectView, h, PaymentStatus.received]
    exact .zero (hI.refund hr rfl (by simp)) fun u hu => (hus u hu).refund hr
  | refundSettled h =>
    have hr : w.collectView.paymentStatus.received = true := by simp [World.collectView, h, PaymentStatus.received]
    exact .zero (hI.refund hr rfl (hI.left hr)) fun u hu => (hus u hu).refund hr
  | initiateMomo => exact .one hI trivial fun u hu => ⟨hus u hu, .idle rfl⟩
  | @callback payload ref href hissued =>
    have hheard : ∀ r, payload.key = some r → Heard payload r (report ref payload.status w.collects) := by
      intro r hkey
      obtain rfl : ref = r := by simpa [CampayWebhookPayload.key, href] using hkey
      exact .arrived hissued
    refine .one (hI.keep rfl rfl rfl rfl rfl rfl (fun _ h => h) ((issued_report _ _ _ _).trans hI.code) ?_ id) hheard
      fun u hu => ⟨?_, .idle rfl⟩
    · intro r hr hs hf
      obtain ⟨u, hu, rfl⟩ := mem_report.1 hr
      rw [CampayTxn.hear_reportedFailed, Bool.or_eq_false_iff] at hf
      exact ⟨u, hu, (u.hear_reference _ _).symm, (u.hear_stored _ _).symm.trans hs, hf.2⟩
    · exact (hus u hu).frame rfl rfl (fun _ _ h => h.report ref _) (fun _ h => h) (fun _ _ h => ⟨h.1, h.2⟩)
        (fun _ _ h => h)

end

/-- No payment of this order has been attempted. -/
structure World.Uncollected (w : World) : Prop where
  paymentStatus : w.order.paymentStatus = .pending
  paymentReference : w.order.paymentReference = none
  collects : w.collects = []
  filed : ∀ ref, hasEvent w.dedup .collect ref = false
  hookLocks : w.hookLocks = []
  rows : paymentRows w.order.id w.ledger = []

theorem World.Uncollected.locks {w : World} (h : w.Uncollected) : LockInv w := by simp [LockInv, h.hookLocks]

theorem World.Uncollected.inv {w : World} (h : w.Uncollected) : CollectInv w.collectView where
  code := by simp [World.collectView, h.collects, issued]
  unresolved := fun ref _ hr => by simp [World.collectView, h.paymentReference] at hr
  current := by simp [World.collectView, h.collects]
  rows := by simp [World.collectView, h.rows, h.paymentStatus, PaymentStatus.received]
  left := by simp [World.collectView, h.paymentStatus, PaymentStatus.received]

end ChopNow
