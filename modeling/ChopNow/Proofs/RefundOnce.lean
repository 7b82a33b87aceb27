import ChopNow.Proofs.Callbacks
import ChopNow.Proofs.OrderStep

/-! Refund money leaves at most once. The sweep that holds the lock owns the
refund until it lets go of it; a callback that may reset the row owns the
reference it found there. -/

namespace ChopNow

open Interleave Tally

/-- The columns and tables that refunds depend on. -/
structure RefundView where
  initiatedAt : Option Time
  campayRef : Option Reference
  totalXAF : ℤ
  refunds : List CampayTxn
  dedup : List CampayWebhookEvent

def World.refundView (w : World) : RefundView where
  initiatedAt := w.order.refundInitiatedAt
  campayRef := w.order.refundCampayRef
  totalXAF := w.order.totalXAF
  refunds := w.refunds
  dedup := w.dedup

/-- What Campay may still pay out, or has paid out. -/
def liveRefundsXAF (refunds : List CampayTxn) : ℤ := tally (fun r => !r.reportedFailed) (·.amountXAF) refunds

structure RefundInv (totalXAF : ℤ) (v : RefundView) : Prop where
  total : v.totalXAF = totalXAF
  amounts : ∀ r ∈ v.refunds, r.amountXAF = totalXAF
  idle : v.initiatedAt = none → SettledBut none v.refunds ∧ v.campayRef = none
  current : v.campayRef.isSome → SettledBut v.campayRef v.refunds
  bound : liveRefundsXAF v.refunds ≤ totalXAF

/-- The lock is held and no reference is on the row. -/
structure RefundView.Owned (v : RefundView) (totalXAF : ℤ) (ref : Option Reference) : Prop where
  total : v.totalXAF = totalXAF
  locked : v.initiatedAt.isSome
  unset : v.campayRef = none
  settled : SettledBut ref v.refunds

/-- The callback won the dedup insert with a terminal status. -/
structure RefundView.Handled (v : RefundView) (payload : CampayWebhookPayload) (ref : Reference) : Prop where
  heard : Heard payload ref v.refunds
  inserted : hasEvent v.dedup .refund ref = true
  terminal : payload.status.isSuccess = true ∨ payload.status.isFailure = true

def RefundLocal (v : RefundView) : OrderThread → Prop
  | .refund (.candidate totalXAF _) => v.totalXAF = totalXAF
  | .refund (.locked totalXAF _) => v.Owned totalXAF none
  | .refund (.accepted totalXAF ref) => v.Owned totalXAF (some ref)
  | .refund (.caught issued _) => v.Owned v.totalXAF issued
  | .refundWebhook (.received payload) => ∀ ref, payload.key = some ref → Heard payload ref v.refunds
  | .refundWebhook (.first payload ref) => v.Handled payload ref
  | .refundWebhook (.found _ payload ref _) =>
    v.Handled payload ref ∧ (payload.status.isSuccess = false → v.campayRef = some ref)
  | _ => True

/-- Between the lock and the write that records the reference or lets go. -/
def OrderThread.ownsRefund : OrderThread → Bool
  | .refund (.locked ..) | .refund (.accepted ..) | .refund (.caught ..) => true
  | _ => false

/-- The reference whose dedup row this callback inserted. -/
def OrderThread.refundHook : OrderThread → Option Reference
  | .refundWebhook (.first _ ref) | .refundWebhook (.found _ _ ref _) => some ref
  | _ => none

def RefundApart (t u : OrderThread) : Prop :=
  ¬(t.ownsRefund = true ∧ u.ownsRefund = true) ∧ (t.refundHook.isSome → t.refundHook ≠ u.refundHook)

theorem RefundApart.symm {t u : OrderThread} (h : RefundApart t u) : RefundApart u t :=
  ⟨Exclusive.symm OrderThread.ownsRefund h.1, Distinct.symm OrderThread.refundHook h.2⟩

theorem RefundApart.idle {t u : OrderThread} (howns : t.ownsRefund = false) (hhook : t.refundHook = none) : RefundApart t u :=
  ⟨Exclusive.idle OrderThread.ownsRefund howns, Distinct.idle OrderThread.refundHook hhook⟩

/-- A thread that neither claims the lock nor a new reference stays apart from the others. -/
theorem RefundApart.of {t t' u : OrderThread} (h : RefundApart t u) (howns : t'.ownsRefund = false ∨ t.ownsRefund = true)
    (hhook : t'.refundHook = none ∨ t'.refundHook = t.refundHook) : RefundApart t' u :=
  ⟨Exclusive.of OrderThread.ownsRefund h.1 howns, Distinct.of OrderThread.refundHook h.2 hhook⟩

/-- The catch block's reset lands after an accepted refund only if Campay has
reported that refund failed. -/
def recordedOrFailed : Guard World OrderThread OrderEvent Reply := fun w _ m =>
  match m with
  | .step (.refund (.caught (some ref) _)) .ok => ∀ r ∈ w.refunds, r.reference = ref → r.reportedFailed = true
  | _ => True

/-- Campay has accepted no refund of this order. -/
structure World.Unrefunded (w : World) : Prop where
  refunds : w.refunds = []
  campayRef : w.order.refundCampayRef = none

/-- The next thing the sweep does is to call Campay. -/
def OrderThread.asksCampay : OrderThread → Bool
  | .refund (.locked ..) => true
  | _ => false

/-! What other threads' moves leave of a thread's assertion. -/

theorem RefundLocal.frame {v v' : RefundView} {u : OrderThread} (h : RefundLocal v u)
    (htotal : v'.totalXAF = v.totalXAF)
    (hheard : ∀ payload ref, Heard payload ref v.refunds → Heard payload ref v'.refunds)
    (hdedup : ∀ ref, hasEvent v.dedup .refund ref = true → hasEvent v'.dedup .refund ref = true)
    (howned : u.ownsRefund = true → ∀ total ref, v.Owned total ref → v'.Owned total ref)
    (hfound : ∀ ref, u.refundHook = some ref → v.campayRef = some ref → v'.campayRef = some ref) :
    RefundLocal v' u := by
  have hhandled : ∀ payload ref, v.Handled payload ref → v'.Handled payload ref :=
    fun payload ref hp => ⟨hheard _ _ hp.heard, hdedup _ hp.inserted, hp.terminal⟩
  cases u with
  | refund t =>
    cases t with
    | candidate totalXAF payerPhone => exact htotal.trans h
    | locked totalXAF payerPhone => exact howned rfl _ _ h
    | accepted totalXAF ref => exact howned rfl _ _ h
    | caught issued reason =>
      have := howned rfl _ _ h
      rwa [← htotal] at this
    | _ => trivial
  | refundWebhook t =>
    cases t with
    | received payload => exact fun ref hkey => hheard _ _ (h ref hkey)
    | first payload ref => exact hhandled _ _ h
    | found order payload ref now =>
      exact ⟨hhandled _ _ h.1, fun hs => hfound ref rfl (h.2 hs)⟩
    | _ => trivial
  | _ => trivial

/-- Whoever is between lock and release holds the assertion of the owner. -/
theorem RefundLocal.owned {v : RefundView} {u : OrderThread} (h : RefundLocal v u) (ho : u.ownsRefund = true) :
    ∃ total ref, v.Owned total ref := by
  cases u with
  | refund t =>
    cases t with
    | locked totalXAF payerPhone => exact ⟨_, _, h⟩
    | accepted totalXAF ref => exact ⟨_, _, h⟩
    | caught issued reason => exact ⟨_, _, h⟩
    | _ => cases ho
  | _ => cases ho

theorem RefundLocal.inserted {v : RefundView} {u : OrderThread} {ref : Reference} (h : RefundLocal v u)
    (hu : u.refundHook = some ref) : hasEvent v.dedup .refund ref = true := by
  cases u with
  | refundWebhook t =>
    cases t with
    | first payload r =>
      obtain rfl := Option.some.inj hu
      exact RefundView.Handled.inserted h
    | found order payload r now =>
      obtain rfl := Option.some.inj hu
      exact h.1.inserted
    | _ => cases hu
  | _ => cases hu

theorem liveRefunds_report (ref : Reference) (status : CampayStatus) {refunds : List CampayTxn}
    (h : ∀ r ∈ refunds, 0 ≤ r.amountXAF) : liveRefundsXAF (report ref status refunds) ≤ liveRefundsXAF refunds := by
  induction refunds with
  | nil => exact le_rfl
  | cons r refunds ih =>
    have hr := h r (.head _)
    have ih := ih fun r hr => h r (.tail _ hr)
    simp only [liveRefundsXAF, report, List.map_cons, tally_cons, CampayTxn.hear_amountXAF,
      CampayTxn.hear_reportedFailed] at ih ⊢
    cases r.reportedFailed
    · simp only [Bool.or_false, Bool.not_false, ↓reduceIte]
      split <;> omega
    · simpa using ih

theorem liveRefunds_store (ref : Reference) (refunds : List CampayTxn) :
    liveRefundsXAF (store ref refunds) = liveRefundsXAF refunds := by
  induction refunds with
  | nil => rfl
  | cons r refunds ih =>
    simp only [liveRefundsXAF, store, List.map_cons, tally_cons, CampayTxn.keep_amountXAF,
      CampayTxn.keep_reportedFailed] at ih ⊢
    rw [ih]

theorem liveRefunds_settled {refunds : List CampayTxn} (h : ∀ r ∈ refunds, r.reportedFailed = true) :
    liveRefundsXAF refunds = 0 :=
  tally_eq_zero fun r hr hlive => by simp [h r hr] at hlive

/-! Each move. -/

section

variable {totalXAF : ℤ} {w w' : World} {us : List OrderThread} {t t' : OrderThread} {e : Reply}

abbrev RefundMoved (totalXAF : ℤ) (us : List OrderThread) (w' : World) (ts : List OrderThread) : Prop :=
  Moved (fun w => RefundInv totalXAF w.refundView) (fun w => RefundLocal w.refundView) RefundApart us w' ts

/-- A step that changes none of the columns and claims nothing. -/
theorem RefundMoved.quiet (hI : RefundInv totalXAF w.refundView)
    (hus : ∀ u ∈ us, RefundLocal w.refundView u ∧ RefundApart t u) (hv : w'.refundView = w.refundView)
    (ht : RefundLocal w.refundView t') (howns : t'.ownsRefund = false ∨ t.ownsRefund = true)
    (hhook : t'.refundHook = none ∨ t'.refundHook = t.refundHook) : RefundMoved totalXAF us w' [t'] := by
  refine .one ?_ ?_ fun u hu => ⟨?_, (hus u hu).2.of howns hhook⟩
  · rwa [hv]
  · rwa [hv]
  · rw [hv]
    exact (hus u hu).1

theorem refund_local_done (v : RefundView) (h : t.isDone = true) :
    RefundLocal v t ∧ t.ownsRefund = false ∧ t.refundHook = none := by
  cases t <;> rename_i t <;> cases t <;> simp_all [OrderThread.isDone, RefundLocal, OrderThread.ownsRefund,
    OrderThread.refundHook]

theorem refund_moved (hT : 0 ≤ totalXAF) (hI : RefundInv totalXAF w.refundView) (hL : RefundLocal w.refundView t)
    (hus : ∀ u ∈ us, RefundLocal w.refundView u ∧ RefundApart t u)
    (hok : recordedOrFailed w us (.step t e)) (h : OrderStep w t e w' t') : RefundMoved totalXAF us w' [t'] := by
  cases h with
  | finish h =>
    obtain ⟨ht, howns, hhook⟩ := refund_local_done w.refundView h
    exact .quiet hI hus rfl ht (.inl howns) (.inl hhook)
  | paidRead | paid | paidJob | pickUpChecked | pickedUp | deliverChecked | delivered | cancelChecked
  | cancelled | fraudChecked | fraudCompensated | fraudCancelled | refundMissing | refundNoted =>
    exact .quiet hI hus rfl trivial (.inl rfl) (.inl rfl)
  | refundCandidate due => exact .quiet hI hus rfl rfl (.inl rfl) (.inl rfl)
  | refundLocked due =>
    -- the lock was free, so nobody owned the refund and every earlier one has failed
    have hnone : w.refundView.initiatedAt = none := by
      simp only [Order.refundDue, Bool.and_eq_true, Option.isNone_iff_eq_none] at due
      exact due.2
    obtain ⟨hsettled, hunset⟩ := hI.idle hnone
    have hfree : ∀ total ref, ¬ w.refundView.Owned total ref := fun _ _ ho => by
      simpa [hnone] using ho.locked
    refine .one ⟨hI.total, hI.amounts, fun h => (by cases h), hI.current, hI.bound⟩ ⟨hL, rfl, hunset, hsettled⟩ ?_
    intro u hu
    refine ⟨(hus u hu).1.frame rfl (fun _ _ h => h) (fun _ h => h) (fun _ _ _ ho => absurd ho (hfree _ _))
      (fun _ _ h => h), ⟨fun ho => ?_, Distinct.idle OrderThread.refundHook rfl⟩⟩
    obtain ⟨_, _, hown⟩ := (hus u hu).1.owned ho.2
    exact hfree _ _ hown
  | @refundAccepted total payerPhone ref fresh | @refundLost total payerPhone ref reason fresh =>
    have hnew : issued ref w.refunds = false := by
      simp only [World.isFresh, Bool.and_eq_true, Bool.not_eq_true'] at fresh
      exact fresh.2
    have hsettled : SettledBut (some ref) (w.refunds ++ [{ reference := ref, amountXAF := total }]) := by
      intro r hr hne
      rcases List.mem_append.1 hr with hr | hr
      · exact hL.settled r hr (by simp)
      · simp_all
    have hamount : total = totalXAF := hL.total.symm.trans hI.total
    refine .one ⟨hI.total, ?_, ?_, ?_, ?_⟩ ⟨(by first | exact hL.total | rfl), hL.locked, hL.unset, hsettled⟩ ?_
    · intro r hr
      rcases List.mem_append.1 hr with hr | hr
      · exact hI.amounts r hr
      · simp_all
    · intro hnone
      have := hL.locked
      simp_all [World.refundView]
    · intro hsome
      have := hL.unset
      simp_all [World.refundView]
    · have h0 : liveRefundsXAF w.refunds = 0 := liveRefunds_settled fun r hr => hL.settled r hr (by simp)
      simp only [World.refundView, liveRefundsXAF, tally_append, tally_cons, tally_nil] at h0 ⊢
      split <;> omega
    · intro u hu
      refine ⟨(hus u hu).1.frame rfl (fun _ _ h => h.append hnew) (fun _ h => h) (fun ho => ?_) (fun _ _ h => h),
        (hus u hu).2.of (.inr rfl) (.inl rfl)⟩
      exact absurd ⟨rfl, ho⟩ (hus u hu).2.1
  | refundRefused =>
    exact .quiet hI hus rfl ⟨rfl, hL.locked, hL.unset, hL.settled⟩ (.inr rfl) (.inl rfl)
  | @refundRecorded total ref sound =>
    refine .one ⟨hI.total, ?_, ?_, ?_, ?_⟩ trivial ?_
    · intro r hr
      obtain ⟨u, hu, rfl⟩ := mem_store.1 hr
      rw [CampayTxn.keep_amountXAF]
      exact hI.amounts u hu
    · intro hnone
      have := hL.locked
      simp_all [World.refundView]
    · exact fun _ => hL.settled.store ref
    · exact (liveRefunds_store ref w.refunds).trans_le hI.bound
    · intro u hu
      refine ⟨(hus u hu).1.frame rfl (fun _ _ h => h.store ref) (fun _ h => h) (fun ho => ?_) ?_,
        .idle rfl rfl⟩
      · exact absurd ⟨rfl, ho⟩ (hus u hu).2.1
      · intro r _ hr
        rw [hL.unset] at hr
        cases hr
  | refundUnrecorded =>
    exact .quiet hI hus rfl ⟨rfl, hL.locked, hL.unset, hL.settled⟩ (.inr rfl) (.inl rfl)
  | @refundReset issued reason =>
    -- what the reset lets go of has failed: refused, or by the condition on this move
    have hsettled : SettledBut none w.refunds := by
      intro r hr _
      cases issued with
      | none => exact hL.settled r hr (by simp)
      | some ref =>
        by_cases href : r.reference = ref
        · exact hok r hr href
        · exact hL.settled r hr (by simpa using href)
    refine .one ⟨hI.total, hI.amounts, fun _ => ⟨hsettled, hL.unset⟩, hI.current, hI.bound⟩ trivial ?_
    intro u hu
    refine ⟨(hus u hu).1.frame rfl (fun _ _ h => h) (fun _ h => h) (fun ho => ?_) (fun _ _ h => h),
      .idle rfl rfl⟩
    exact absurd ⟨rfl, ho⟩ (hus u hu).2.1
  | @hookFirst payload ref key terminal first =>
    have hmono : ∀ r, hasEvent w.dedup .refund r = true →
        hasEvent (w.dedup ++ [⟨.refund, ref, payload, none⟩]) .refund r = true := fun r hr => by simp [hr]
    refine .one ⟨hI.total, hI.amounts, hI.idle, hI.current, hI.bound⟩
      ⟨hL ref key, by simp [World.refundView, hasEvent], terminal⟩ ?_
    intro u hu
    refine ⟨(hus u hu).1.frame rfl (fun _ _ h => h) hmono (fun _ _ _ ho => ⟨ho.1, ho.2, ho.3, ho.4⟩)
      (fun _ _ h => h), ⟨fun h => (by cases h.1), fun _ he => ?_⟩⟩
    have hin : hasEvent w.dedup .refund ref = true := (hus u hu).1.inserted he.symm
    rw [first] at hin
    cases hin
  | hookFound hmatch due => exact .quiet hI hus rfl ⟨hL, fun _ => hmatch⟩ (.inl rfl) (.inr rfl)
  | hookMissed miss => exact .quiet hI hus rfl trivial (.inl rfl) (.inl rfl)
  | hookRefunded success due sound => exact .quiet hI hus rfl trivial (.inl rfl) (.inl rfl)
  | hookLate success late => exact .quiet hI hus rfl trivial (.inl rfl) (.inl rfl)
  | @hookReset order payload ref now reason failure =>
    -- the row still carries this callback's reference, and Campay has reported it failed
    have hcurrent : w.order.refundCampayRef = some ref := hL.2 failure
    have hfailed : payload.status.isFailure = true := by simpa [failure] using hL.1.terminal
    have hsettled : SettledBut none w.refunds := by
      intro r hr _
      by_cases href : r.reference = ref
      · exact hL.1.heard.failed hfailed hr href
      · refine hI.current (by simp [World.refundView, hcurrent]) r hr ?_
        simpa [World.refundView, hcurrent] using href
    refine .one ⟨hI.total, hI.amounts, fun _ => ⟨hsettled, rfl⟩, fun h => (by cases h), hI.bound⟩ trivial ?_
    intro u hu
    refine ⟨(hus u hu).1.frame rfl (fun _ _ h => h) (fun _ h => h) (fun _ total r ho => ?_) (fun r hr hc => ?_),
      .idle rfl rfl⟩
    · have := ho.unset
      simp [World.refundView, hcurrent] at this
    · have hne := (hus u hu).2.2 rfl
      simp_all [OrderThread.refundHook, World.refundView]
  | hookRecorded =>
    refine .one ⟨hI.total, hI.amounts, hI.idle, hI.current, hI.bound⟩ trivial fun u hu => ?_
    exact ⟨(hus u hu).1.frame rfl (fun _ _ h => h) (fun _ h => by simpa [World.refundView] using h)
      (fun _ _ _ ho => ⟨ho.1, ho.2, ho.3, ho.4⟩) (fun _ _ h => h), .idle rfl rfl⟩

theorem refund_arrival {n : OrderEvent} {ts : List OrderThread} (hT : 0 ≤ totalXAF)
    (hI : RefundInv totalXAF w.refundView) (hus : ∀ u ∈ us, RefundLocal w.refundView u)
    (h : OrderArrival w n w' ts) : RefundMoved totalXAF us w' ts := by
  cases h with
  | tick => exact .zero hI hus
  | @write x order h =>
    have hv : { w with order }.refundView = w.refundView := by
      rw [OrderWrite.apply_eq h]
      rfl
    refine .zero ?_ ?_
    · rwa [hv]
    · rwa [hv]
  | @call _ t h =>
    have hone : RefundLocal w.refundView t ∧ t.ownsRefund = false ∧ t.refundHook = none := by
      cases t <;> rename_i t <;> cases t <;> simp_all [OrderThread.isCall, RefundLocal, OrderThread.ownsRefund,
        OrderThread.refundHook]
    exact .one hI hone.1 fun u hu => ⟨hus u hu, by simp [hone.2.1], by simp [hone.2.2]⟩
  | @callback payload ref href hissued =>
    have hheard : ∀ r, payload.key = some r → Heard payload r (report ref payload.status w.refunds) := by
      intro r hkey
      obtain rfl : ref = r := by simpa [CampayWebhookPayload.key, href] using hkey
      exact .arrived hissued
    have hnonneg : ∀ r ∈ w.refunds, 0 ≤ r.amountXAF := fun r hr => by
      rw [hI.amounts r hr]
      exact hT
    refine .one ⟨hI.total, ?_, ?_, ?_, ?_⟩ hheard fun u hu => ⟨?_, .idle rfl rfl⟩
    · intro r hr
      obtain ⟨u, hu, rfl⟩ := mem_report.1 hr
      rw [CampayTxn.hear_amountXAF]
      exact hI.amounts u hu
    · exact fun hnone => ⟨(hI.idle hnone).1.report ref _, (hI.idle hnone).2⟩
    · exact fun hsome => (hI.current hsome).report ref _
    · exact (liveRefunds_report ref _ hnonneg).trans hI.bound
    · exact (hus u hu).frame rfl (fun _ _ h => h.report ref _) (fun _ h => h)
        (fun _ _ _ ho => ⟨ho.1, ho.2, ho.3, ho.4.report ref _⟩) (fun _ _ h => h)

end

theorem refund_reach {w : World} {q : Pool World OrderThread} (h₀ : w.Unrefunded) (hT : 0 ≤ w.order.totalXAF)
    (h : orderMachine.Reach recordedOrFailed ⟨w, []⟩ q) :
    Sat (fun x => RefundInv w.order.totalXAF x.refundView) (fun x => RefundLocal x.refundView) RefundApart
      q.shared q.threads := by
  refine h.sat (fun _ _ => RefundApart.symm) ⟨?_, by simp, .nil⟩ ?_ ?_
  · refine ⟨rfl, ?_, fun _ => ⟨?_, h₀.campayRef⟩, ?_, ?_⟩
    · simp [World.refundView, h₀.refunds]
    · simp [World.refundView, h₀.refunds, SettledBut]
    · simp [World.refundView, h₀.campayRef]
    · simpa [World.refundView, h₀.refunds, liveRefundsXAF] using hT
  · intro x us n x' ts _ hI hus _ hev
    exact refund_arrival hT hI hus (orderEvent_cases hev)
  · intro x us vs t e x' ts _ hI hL hus hok hst
    obtain ⟨t', rfl, hs⟩ := orderStep_cases hst
    exact refund_moved hT hI hL hus hok hs

/-- While no reset lands after an accepted refund that Campay has not reported
failed, a refund is asked for only when all earlier ones failed, and no more than
the order's total is ever on its way. -/
theorem refund_leaves_once {w : World} {q : Pool World OrderThread} (h₀ : w.Unrefunded)
    (hT : 0 ≤ w.order.totalXAF) (h : orderMachine.Reach recordedOrFailed ⟨w, []⟩ q) :
    (∀ t ∈ q.threads, t.asksCampay = true → ∀ r ∈ q.shared.refunds, r.reportedFailed = true) ∧
      liveRefundsXAF q.shared.refunds ≤ w.order.totalXAF := by
  have hs := refund_reach h₀ hT h
  refine ⟨fun t ht hask r hr => ?_, hs.shared.bound⟩
  have hL := hs.locals t ht
  cases t with
  | refund t =>
    cases t with
    | locked totalXAF payerPhone => exact hL.settled r hr nofun
    | _ => cases hask
  | _ => cases hask

/-- An order that waits for its refund. -/
def refundDueOrder : Order :=
  { exampleOrder with status := .cancelled, paymentStatus := .refundPending, payerPhone := some "+237670000001" }

def sweepUntilAsked : List (Act OrderEvent Reply) := [.event .sweepPendingRefunds, .step 0 .ok, .step 0 .ok]

/-- Campay accepts, the recording transaction throws, the catch block lets the
next sweep in: it asks again, and both refunds may be paid. -/
theorem refund_may_leave_twice :
    ¬ ∀ (w : World) (q : Pool World OrderThread), w.Unrefunded → 0 ≤ w.order.totalXAF →
      orderMachine.Reach anyMove ⟨w, []⟩ q →
      (∀ t ∈ q.threads, t.asksCampay = true → ∀ r ∈ q.shared.refunds, r.reportedFailed = true) ∧
        liveRefundsXAF q.shared.refunds ≤ w.order.totalXAF := by
  intro h
  obtain ⟨q, hq, ht⟩ := Machine.reach_of_test orderMachine anyMove
    (fun _ _ _ => true) (fun _ _ _ _ => trivial) ⟨.start refundDueOrder, []⟩
    (sweepUntilAsked ++ [.step 0 (.accepted 7), .step 0 (.fail "database"), .step 0 .ok] ++
      sweepUntilAsked ++ [.step 0 (.accepted 8)])
    (fun q => decide (refundDueOrder.totalXAF < liveRefundsXAF q.shared.refunds)) (by decide +kernel)
  have := (h _ _ ⟨rfl, rfl⟩ (by decide) hq).2
  simp at ht
  exact absurd this (not_le.2 ht)

def neverResets (_ : World) (_ : List OrderThread) : Move OrderThread OrderEvent Reply → Bool
  | .step (.refund (.caught ..)) _ => false
  | _ => true

theorem recordedOrFailed_of_neverResets {w : World} {us : List OrderThread} {m : Move OrderThread OrderEvent Reply}
    (h : neverResets w us m = true) : recordedOrFailed w us m := by
  unfold recordedOrFailed
  split
  · cases h
  · trivial

/-- A first refund that Campay reports failed is asked for again. -/
theorem refund_asked_again :
    ∃ q, orderMachine.Reach recordedOrFailed ⟨.start refundDueOrder, []⟩ q ∧
      ((∀ t ∈ q.threads, t.asksCampay = true → ∀ r ∈ q.shared.refunds, r.reportedFailed = true) ∧
        liveRefundsXAF q.shared.refunds ≤ refundDueOrder.totalXAF) ∧
      (q.threads.any OrderThread.asksCampay && !q.shared.refunds.isEmpty) = true := by
  obtain ⟨q, hq, ht⟩ := Machine.reach_of_test orderMachine recordedOrFailed
    neverResets (fun _ _ _ => recordedOrFailed_of_neverResets) ⟨.start refundDueOrder, []⟩
    (sweepUntilAsked ++ [.step 0 (.accepted 7), .step 0 .ok,
      .event (.refundCallback { status := .failed, reference := some 7 }), .step 0 .ok, .step 0 .ok, .step 0 .ok] ++
      sweepUntilAsked)
    (fun q => q.threads.any OrderThread.asksCampay && !q.shared.refunds.isEmpty) (by decide +kernel)
  exact ⟨q, hq, refund_leaves_once ⟨rfl, rfl⟩ (by decide) hq, ht⟩

end ChopNow
