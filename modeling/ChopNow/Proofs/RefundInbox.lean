import ChopNow.Lib.Inbox
import ChopNow.Proofs.Callbacks
import ChopNow.Proofs.OrderStep

/-! The refund handler is an inbox: the dedup table files a terminal callback, the
order is looked up by refundCampayRef, and the settlement or the reset is the effect. -/

namespace ChopNow

open Interleave

/-- A row that has carried `ref` waits for its outcome as long as it carries it in REFUND_PENDING. -/
def World.refundInbox (ref : Reference) (w : World) : Inbox.State where
  stored := kept ref w.refunds
  taken := hasEvent w.dedup .refund ref
  applied := kept ref w.refunds &&
    !(w.order.paymentStatus == .refundPending && w.order.refundCampayRef == some ref)
  first := (reports ref w.refunds).getLast?.map fun _ => true

def OrderThread.task : OrderThread → Option Inbox.Task
  | .refund (.done _) => none
  | .refund _ => some .write
  | .refundWebhook (.received _) => some (.receive true)
  | .refundWebhook (.first ..) => some (.look true)
  | .refundWebhook (.found ..) => some .apply
  | _ => none

/-- One sweep and terminal callbacks for `ref` with one outcome; no statement fails. -/
def refundRelayed (ref : Reference) (st : CampayStatus) : Guard World OrderThread OrderEvent Reply := fun _ _ m =>
  match m with
  | .event (.refundCallback payload) => payload.Settles ref st
  | .event (.tick _) | .event (.write _) => True
  | .event _ | .step _ (.fail _) => False
  | _ => True

/-- The final state that a refund settled on `st` calls for. -/
def World.RefundEnds (st : CampayStatus) (w : World) : Prop :=
  if st.isSuccess then w.order.paymentStatus = .refunded ∧ w.booked (.refundSettled w.order.id) = true
  else w.order.paymentStatus = .refundPending ∧ w.order.refundCampayRef = none ∧ w.order.refundInitiatedAt = none

structure RefundFlow (ref : Reference) (st : CampayStatus) (w : World) : Prop where
  unset : kept ref w.refunds = false → w.order.refundCampayRef ≠ some ref
  due : kept ref w.refunds = true → w.order.totalXAF ≠ 0
  outcome : kept ref w.refunds = true →
    w.order.paymentStatus = .refundPending ∧ w.order.refundCampayRef = some ref ∨ w.RefundEnds st

def RefundFlowLocal (ref : Reference) (st : CampayStatus) (w : World) : OrderThread → Prop
  | .refund .called | .refund .missingPhone => kept ref w.refunds = false
  | .refund (.candidate totalXAF _) => kept ref w.refunds = false ∧ totalXAF = w.order.totalXAF
  | .refund (.locked totalXAF _) =>
    kept ref w.refunds = false ∧ totalXAF = w.order.totalXAF ∧ w.order.paymentStatus = .refundPending
  | .refund (.accepted totalXAF r) =>
    (kept ref w.refunds = false ∧ totalXAF = w.order.totalXAF ∧ w.order.paymentStatus = .refundPending) ∧
      issued r w.refunds = true
  | .refund (.caught ..) => kept ref w.refunds = false ∧ w.order.paymentStatus = .refundPending
  | .refundWebhook (.received payload) => payload.Settles ref st
  | .refundWebhook (.first payload r) => r = ref ∧ payload.Settles ref st
  | .refundWebhook (.found order payload r _) =>
    r = ref ∧ payload.Settles ref st ∧ kept ref w.refunds = true ∧ order.id = w.order.id ∧
      order.totalXAF = w.order.totalXAF
  | .refundWebhook _ => True
  | t => t.isDone = true

def OrderThread.sweeping : OrderThread → Bool
  | .refund (.done _) => false
  | .refund _ => true
  | _ => false

def OneSweep (t u : OrderThread) : Prop := ¬(t.sweeping = true ∧ u.sweeping = true)

theorem OneSweep.symm {t u : OrderThread} (h : OneSweep t u) : OneSweep u t :=
  Exclusive.symm OrderThread.sweeping h

theorem OneSweep.idle {t u : OrderThread} (h : t.sweeping = false) : OneSweep t u :=
  Exclusive.idle OrderThread.sweeping h

section

variable {ref : Reference} {st : CampayStatus} {w w' : World} {us ts : List OrderThread} {t t' : OrderThread}
  {e : Reply}

/-- What a move must leave alone for the other threads. -/
structure RefundKept (ref : Reference) (w w' : World) : Prop where
  id : w'.order.id = w.order.id
  total : w'.order.totalXAF = w.order.totalXAF
  issued : ∀ r, issued r w.refunds = true → issued r w'.refunds = true
  kept : kept ref w.refunds = true → kept ref w'.refunds = true

theorem RefundFlowLocal.frame {u : OrderThread} (h : RefundFlowLocal ref st w u) (hk : RefundKept ref w w')
    (hsweep : u.sweeping = true → kept ref w.refunds = false → kept ref w'.refunds = false ∧
      (w.order.paymentStatus = .refundPending → w'.order.paymentStatus = .refundPending)) :
    RefundFlowLocal ref st w' u := by
  cases u with
  | refund t =>
    cases t with
    | called | missingPhone => exact (hsweep rfl h).1
    | candidate totalXAF payerPhone => exact ⟨(hsweep rfl h.1).1, h.2.trans hk.total.symm⟩
    | locked totalXAF payerPhone =>
      exact ⟨(hsweep rfl h.1).1, h.2.1.trans hk.total.symm, (hsweep rfl h.1).2 h.2.2⟩
    | accepted totalXAF r =>
      obtain ⟨⟨hne, htotal, hpending⟩, hissued⟩ := h
      exact ⟨⟨(hsweep rfl hne).1, htotal.trans hk.total.symm, (hsweep rfl hne).2 hpending⟩, hk.issued r hissued⟩
    | caught issued reason => exact ⟨(hsweep rfl h.1).1, (hsweep rfl h.1).2 h.2⟩
    | done outcome => rfl
  | refundWebhook t =>
    cases t with
    | received | first => exact h
    | found order payload r now =>
      exact ⟨h.1, h.2.1, hk.kept h.2.2.1, h.2.2.2.1.trans hk.id.symm, h.2.2.2.2.trans hk.total.symm⟩
    | settled | done => trivial
  | _ => exact h

abbrev RefundFlowMoved (ref : Reference) (st : CampayStatus) (us : List OrderThread) (w' : World)
    (ts : List OrderThread) : Prop :=
  Moved (RefundFlow ref st) (RefundFlowLocal ref st) OneSweep us w' ts

/-- A move that leaves the reference where it is and the status alone. -/
theorem RefundFlowMoved.quiet (hus : ∀ u ∈ us, RefundFlowLocal ref st w u ∧ OneSweep t u)
    (hI : RefundFlow ref st w') (hk : RefundKept ref w w') (hkept : kept ref w'.refunds = kept ref w.refunds)
    (hstatus : w'.order.paymentStatus = w.order.paymentStatus) (ht : RefundFlowLocal ref st w' t')
    (hs : t'.sweeping = false ∨ t.sweeping = true) : RefundFlowMoved ref st us w' [t'] := by
  refine .one hI ht fun u hu => ⟨(hus u hu).1.frame hk ?_, Exclusive.of OrderThread.sweeping (hus u hu).2 hs⟩
  exact fun _ hn => ⟨hkept.trans hn, fun h => hstatus.trans h⟩

theorem RefundKept.refl (ref : Reference) (w : World) : RefundKept ref w w := ⟨rfl, rfl, fun _ h => h, fun h => h⟩

/-- A sweep's write finds no other sweep. -/
theorem RefundFlowMoved.alone (hus : ∀ u ∈ us, RefundFlowLocal ref st w u ∧ OneSweep t u)
    (hI : RefundFlow ref st w') (hk : RefundKept ref w w') (hsweep : t.sweeping = true) (ht : RefundFlowLocal ref st w' t') :
    RefundFlowMoved ref st us w' [t'] := by
  have hone : ∀ u ∈ us, u.sweeping = false := fun u hu => by
    by_contra hn
    exact (hus u hu).2 ⟨hsweep, by simpa using hn⟩
  refine .one hI ht fun u hu => ⟨(hus u hu).1.frame hk ?_, fun hx => ?_⟩
  · exact fun hs => absurd (hs.symm.trans (hone u hu)) nofun
  · exact absurd (hx.2.symm.trans (hone u hu)) nofun

theorem refundDue_iff {o : Order} :
    o.refundDue = true ↔ o.paymentStatus = .refundPending ∧ o.refundInitiatedAt = none := by
  simp [Order.refundDue]

theorem refundFlow_sweep (hI : RefundFlow ref st w) (hL : RefundFlowLocal ref st w t)
    (hus : ∀ u ∈ us, RefundFlowLocal ref st w u ∧ OneSweep t u) (hnot : ∀ x, t ≠ .refundWebhook x)
    (h : OrderStep w t e w' t') : RefundFlowMoved ref st us w' [t'] := by
  have hself := RefundKept.refl ref w
  cases h with
  | finish hdone =>
    refine .quiet hus hI hself rfl rfl ?_ ?_
    · cases t' <;> rename_i t' <;> cases t' <;> simp_all [OrderThread.isDone, RefundFlowLocal]
    · cases t' <;> rename_i t' <;> cases t' <;> simp_all [OrderThread.isDone, OrderThread.sweeping]
  | refundMissing due => exact .quiet hus hI hself rfl rfl hL (.inr rfl)
  | refundCandidate due => exact .quiet hus hI hself rfl rfl ⟨hL, rfl⟩ (.inr rfl)
  | refundNoted => exact .alone hus ⟨hI.unset, hI.due, hI.outcome⟩ ⟨rfl, rfl, fun _ h => h, id⟩ rfl rfl
  | refundLocked due =>
    have hpending := (refundDue_iff.1 due).1
    refine .alone hus ⟨hI.unset, hI.due, fun hk => ?_⟩ ⟨rfl, rfl, fun _ h => h, id⟩ rfl ⟨hL.1, hL.2, hpending⟩
    exact absurd (hk.symm.trans hL.1) nofun
  | @refundAccepted totalXAF payerPhone r fresh =>
    have hkept : kept ref (w.refunds ++ [{ reference := r, amountXAF := totalXAF }]) = kept ref w.refunds :=
      kept_append rfl
    have hissued : ∀ x, issued x w.refunds = true →
        issued x (w.refunds ++ [{ reference := r, amountXAF := totalXAF }]) = true := fun x hx => by simp [hx]
    refine .alone hus ⟨?_, ?_, ?_⟩ ⟨rfl, rfl, hissued, hkept.trans⟩ rfl ⟨⟨hkept.trans hL.1, hL.2⟩, by simp [issued]⟩
    · exact fun h => hI.unset (hkept.symm.trans h)
    · exact fun h => hI.due (hkept.symm.trans h)
    · exact fun h => hI.outcome (hkept.symm.trans h)
  | @refundLost totalXAF payerPhone r reason fresh =>
    have hkept : kept ref (w.refunds ++ [{ reference := r, amountXAF := totalXAF }]) = kept ref w.refunds :=
      kept_append rfl
    have hissued : ∀ x, issued x w.refunds = true →
        issued x (w.refunds ++ [{ reference := r, amountXAF := totalXAF }]) = true := fun x hx => by simp [hx]
    refine .alone hus ⟨?_, ?_, ?_⟩ ⟨rfl, rfl, hissued, hkept.trans⟩ rfl ⟨hkept.trans hL.1, hL.2.2⟩
    · exact fun h => hI.unset (hkept.symm.trans h)
    · exact fun h => hI.due (hkept.symm.trans h)
    · exact fun h => hI.outcome (hkept.symm.trans h)
  | refundRefused => exact .alone hus hI hself rfl ⟨hL.1, hL.2.2⟩
  | @refundRecorded totalXAF r sound =>
    obtain ⟨⟨hunkept, htotal, hpending⟩, hissued⟩ := hL
    have hkept : kept ref (store r w.refunds) = (kept ref w.refunds || r == ref) := kept_store ref r hissued
    have hdue : w.order.totalXAF ≠ 0 := by
      rw [← htotal]
      exact (((validate_ok_iff _).1 sound).2.2.1 _ (.head _)).nonzero
    refine .alone hus ⟨fun h => ?_, fun _ => hdue, fun h => .inl ⟨hpending, ?_⟩⟩
      ⟨rfl, rfl, fun x hx => by simpa using hx, fun h => absurd (h.symm.trans hunkept) nofun⟩ rfl rfl
    · rw [hkept, hunkept] at h
      simpa using h
    · rw [hkept, hunkept] at h
      simpa using h
  | refundUnrecorded => exact .alone hus hI hself rfl ⟨hL.1.1, hL.1.2.2⟩
  | refundReset =>
    refine .alone hus ⟨hI.unset, hI.due, fun hk => ?_⟩ ⟨rfl, rfl, fun _ h => h, id⟩ rfl rfl
    exact absurd (hk.symm.trans hL.1) nofun
  | hookFirst | hookFound | hookMissed | hookRefunded | hookLate | hookReset | hookRecorded =>
    exact absurd rfl (hnot _)
  | _ => cases hL

theorem refundFlow_hook {t t' : RefundWebhook} (hI : RefundFlow ref st w)
    (hL : RefundFlowLocal ref st w (.refundWebhook t))
    (hus : ∀ u ∈ us, RefundFlowLocal ref st w u ∧ OneSweep (.refundWebhook t) u) (h : RefundHookStep w t e w' t') :
    RefundFlowMoved ref st us w' [.refundWebhook t'] := by
  have hself := RefundKept.refl ref w
  cases h with
  | keyless | early | duplicate | missed | late | unbooked | thrown =>
    exact .quiet hus hI hself rfl rfl trivial (.inl rfl)
  | @first payload r key terminal first =>
    refine .quiet hus ⟨hI.unset, hI.due, hI.outcome⟩ ⟨rfl, rfl, fun _ h => h, id⟩ rfl rfl ⟨?_, hL⟩ (.inl rfl)
    simpa [CampayWebhookPayload.key, hL.reference] using key.symm
  | found hmatch due =>
    refine .quiet hus hI hself rfl rfl ⟨hL.1, hL.2, ?_, rfl, rfl⟩ (.inl rfl)
    by_contra hn
    exact hI.unset (by simpa using hn) (hL.1 ▸ hmatch)
  | @refunded order payload r now success due sound =>
    obtain ⟨rfl, hsettles, hkept, hid, htotal⟩ := hL
    have hst : st.isSuccess = true := hsettles.agrees.symm.trans success
    refine .one ⟨fun hn => absurd (hkept.symm.trans hn) (by decide), hI.due, fun _ => .inr ?_⟩ trivial fun u hu => ⟨?_, .idle rfl⟩
    · rw [World.RefundEnds, if_pos hst]
      refine ⟨rfl, ?_⟩
      simp [World.booked, RecordTransactionInput.rows, refundSettledInput, hid]
    · exact (hus u hu).1.frame ⟨rfl, rfl, fun _ h => h, id⟩ fun _ hn => absurd (hkept.symm.trans hn) (by decide)
  | @reset order payload r now reason failure =>
    obtain ⟨rfl, hsettles, hkept, -⟩ := hL
    have hst : ¬st.isSuccess = true := by simp [← hsettles.agrees, failure]
    have hpending : w.order.paymentStatus = .refundPending := by
      rcases hI.outcome hkept with h | h
      · exact h.1
      · rw [World.RefundEnds, if_neg hst] at h
        exact h.1
    refine .one ⟨fun hn => absurd (hkept.symm.trans hn) (by decide), hI.due, fun _ => .inr ?_⟩ trivial fun u hu => ⟨?_, .idle rfl⟩
    · rw [World.RefundEnds, if_neg hst]
      exact ⟨hpending, rfl, rfl⟩
    · exact (hus u hu).1.frame ⟨rfl, rfl, fun _ h => h, id⟩ fun _ hn => absurd (hkept.symm.trans hn) (by decide)
  | recorded => exact .quiet hus ⟨hI.unset, hI.due, hI.outcome⟩ ⟨rfl, rfl, fun _ h => h, id⟩ rfl rfl trivial (.inl rfl)

theorem refundFlow_moved (hI : RefundFlow ref st w) (hL : RefundFlowLocal ref st w t)
    (hus : ∀ u ∈ us, RefundFlowLocal ref st w u ∧ OneSweep t u) (h : orderMachine.step w t e = some (w', ts)) :
    RefundFlowMoved ref st us w' ts := by
  by_cases hhook : ∃ x, t = .refundWebhook x
  · obtain ⟨x, rfl⟩ := hhook
    obtain ⟨t', rfl, hs⟩ := refundHook_of_step h
    exact refundFlow_hook hI hL hus hs
  · obtain ⟨t', rfl, hs⟩ := orderStep_cases h
    exact refundFlow_sweep hI hL hus (fun x hx => hhook ⟨x, hx⟩) hs

theorem refundFlow_arrival {n : OrderEvent} (hI : RefundFlow ref st w) (hus : ∀ u ∈ us, RefundFlowLocal ref st w u)
    (hok : refundRelayed ref st w us (.event n)) (h : orderMachine.event w n = some (w', ts)) :
    RefundFlowMoved ref st us w' ts := by
  cases n with
  | tick elapsed =>
    obtain ⟨rfl, rfl⟩ := Prod.mk.inj (Option.some.inj h)
    refine .zero ⟨hI.unset, hI.due, hI.outcome⟩ fun u hu => ?_
    exact (hus u hu).frame ⟨rfl, rfl, fun _ h => h, fun h => h⟩ fun _ hn => ⟨hn, fun h => h⟩
  | write x =>
    obtain ⟨rfl, order, hx, rfl⟩ := write_of_event h
    have heq := OrderWrite.apply_eq hx
    have hid : order.id = w.order.id := by rw [heq]
    have htotal : order.totalXAF = w.order.totalXAF := by rw [heq]
    have hstatus : order.paymentStatus = w.order.paymentStatus := by rw [heq]
    have href : order.refundCampayRef = w.order.refundCampayRef := by rw [heq]
    have hends : w.RefundEnds st → { w with order }.RefundEnds st := by
      rw [heq]
      exact fun h => h
    refine .zero ⟨fun hk => href ▸ hI.unset hk, fun hk => htotal ▸ hI.due hk, fun hk => ?_⟩ fun u hu => ?_
    · exact (hI.outcome hk).imp (fun h => ⟨hstatus.trans h.1, href.trans h.2⟩) hends
    · exact (hus u hu).frame ⟨hid, htotal, fun _ h => h, fun h => h⟩ fun _ hn => ⟨hn, hstatus.trans⟩
  | refundCallback payload =>
    obtain ⟨rfl, r, href, hissued, rfl⟩ := callback_of_event h
    have hkept : kept ref (report r payload.status w.refunds) = kept ref w.refunds := kept_report ..
    refine .one ⟨fun hk => hI.unset (hkept.symm.trans hk), fun hk => hI.due (hkept.symm.trans hk),
      fun hk => hI.outcome (hkept.symm.trans hk)⟩ hok fun u hu => ⟨?_, .idle rfl⟩
    exact (hus u hu).frame ⟨rfl, rfl, fun x hx => by simpa using hx, hkept.trans⟩ fun _ hn =>
      ⟨hkept.trans hn, fun h => h⟩
  | _ => exact hok.elim

/-! The simulation. -/

variable {as : List Inbox.Task}

abbrev RefundMatched (ref : Reference) (as : List Inbox.Task) (w : World) (t : OrderThread) (w' : World)
    (t' : OrderThread) : Prop :=
  Matched Inbox.machine Inbox.onlyGood as (w.refundInbox ref) t.task.toList (w'.refundInbox ref)
    ([t'].filterMap OrderThread.task)

theorem refund_sweep_matched (hL : RefundFlowLocal ref st w t) (hnot : ∀ x, t ≠ .refundWebhook x)
    (h : OrderStep w t e w' t') : RefundMatched ref as w t w' t' := by
  cases h with
  | @finish _ _ t' hdone =>
    have ht' : t'.task = none := by
      cases t' <;> rename_i t' <;> cases t' <;> simp_all [OrderThread.isDone, OrderThread.task]
    have ht : t.task = none ∨ t.task = some .write := by
      cases t with
      | refund t => cases t <;> simp [OrderThread.task]
      | refundWebhook t => exact absurd rfl (hnot t)
      | _ => exact .inl rfl
    rcases ht with ht | ht
    · simp only [RefundMatched, ht, List.filterMap_cons, ht', List.filterMap_nil]
      exact .stutter
    · simp only [RefundMatched, ht, List.filterMap_cons, ht', List.filterMap_nil]
      exact .step (e := false) trivial rfl
  | refundMissing | refundCandidate | refundRefused | refundUnrecorded => exact .stutter
  | refundNoted => exact .step (e := false) trivial rfl
  | refundLocked due => exact .stutter
  | @refundAccepted totalXAF payerPhone r fresh | @refundLost totalXAF payerPhone r reason fresh =>
    have hkept : kept ref (w.refunds ++ [{ reference := r, amountXAF := totalXAF }]) = kept ref w.refunds :=
      kept_append rfl
    have hreports : reports ref (w.refunds ++ [{ reference := r, amountXAF := totalXAF }]) = reports ref w.refunds :=
      reports_append _ _ rfl
    simp only [RefundMatched, World.refundInbox, hkept, hreports]
    exact .stutter
  | @refundRecorded totalXAF r sound =>
    obtain ⟨⟨hunkept, htotal, hpending⟩, hissued⟩ := hL
    refine .step (e := r == ref) trivial ?_
    cases hr : r == ref with
    | true =>
      obtain rfl : r = ref := by simpa using hr
      simp [Inbox.machine, World.refundInbox, kept_store _ _ hissued, reports_store, hunkept, hpending,
        OrderThread.task]
    | false =>
      simp [Inbox.machine, World.refundInbox, kept_store _ _ hissued, reports_store, hunkept, hr, OrderThread.task]
  | refundReset =>
    refine .step (e := false) trivial ?_
    simp [Inbox.machine, World.refundInbox, hL.1, OrderThread.task]
  | hookFirst | hookFound | hookMissed | hookRefunded | hookLate | hookReset | hookRecorded =>
    exact absurd rfl (hnot _)
  | _ => cases hL

theorem refund_hook_matched {t t' : RefundWebhook} (hI : RefundFlow ref st w)
    (hL : RefundFlowLocal ref st w (.refundWebhook t)) (hok : refundRelayed ref st w us (.step (.refundWebhook t) e))
    (hA : ∀ a ∈ (OrderThread.refundWebhook t).task, Inbox.Local (w.refundInbox ref) a)
    (h : RefundHookStep w t e w' t') : RefundMatched ref as w (.refundWebhook t) w' (.refundWebhook t') := by
  -- a kept reference without an outcome is still on its row
  have hopen : kept ref w.refunds = true → (w.refundInbox ref).applied = false →
      w.order.paymentStatus = .refundPending ∧ w.order.refundCampayRef = some ref := by
    intro hk happlied
    simpa [World.refundInbox, hk] using happlied
  cases h with
  | keyless key => simp [CampayWebhookPayload.key, hL.reference] at key
  | early early => simpa [early.1, early.2] using hL.terminal
  | @duplicate payload r key dup =>
    obtain rfl : ref = r := by simpa [CampayWebhookPayload.key, hL.reference] using key
    refine .step (e := true) trivial ?_
    simp [Inbox.machine, World.refundInbox, dup, OrderThread.task]
  | @first payload r key terminal first =>
    obtain rfl : ref = r := by simpa [CampayWebhookPayload.key, hL.reference] using key
    have hfiled : hasEvent (w.dedup ++ [⟨.refund, ref, payload, none⟩]) .refund ref = true := by simp [hasEvent]
    refine .step (e := true) trivial ?_
    simp [Inbox.machine, World.refundInbox, first, hfiled, OrderThread.task]
  | found hmatch due =>
    have hkept : kept ref w.refunds = true := by
      by_contra hn
      exact hI.unset (by simpa using hn) (hL.1 ▸ hmatch)
    refine .step (e := true) trivial ?_
    simp [Inbox.machine, World.refundInbox, hkept, OrderThread.task]
  | missed miss =>
    have hunkept : kept ref w.refunds = false := by
      by_contra hn
      obtain ⟨hpending, href⟩ := hopen (by simpa using hn) (hA (.look true) rfl).2
      rw [hL.1] at miss
      exact miss.elim (absurd href) (absurd hpending)
    refine .step (e := true) trivial ?_
    simp [Inbox.machine, World.refundInbox, hunkept, OrderThread.task]
  | refunded success due sound =>
    refine .step (e := true) trivial ?_
    simp [Inbox.machine, World.refundInbox, hL.2.2.1, OrderThread.task]
  | late success late => exact absurd (hopen hL.2.2.1 (hA .apply rfl).2.1).1 late
  | @unbooked order payload r now success unsound =>
    obtain ⟨rfl, -, hkept, hid, htotal⟩ := hL
    exact absurd (settlement_sound (htotal ▸ hI.due hkept)) unsound
  | reset failure =>
    refine .step (e := true) trivial ?_
    simp [Inbox.machine, World.refundInbox, hL.2.2.1, OrderThread.task]
  | recorded =>
    simp only [RefundMatched, World.refundInbox, hasEvent_recordResult]
    exact .stutter
  | thrown => exact hok.elim

end

/-- The row waits for `ref`, which Campay has not issued yet. -/
structure World.AwaitingRefund (w : World) (ref : Reference) : Prop where
  unset : w.order.refundCampayRef ≠ some ref
  filed : hasEvent w.dedup .refund ref = false
  unissued : issued ref w.refunds = false

section

variable {ref : Reference} {st : CampayStatus} {w : World} {p q : Pool World OrderThread}

theorem refundFlow_reach (h₀ : w.AwaitingRefund ref)
    (h : orderMachine.Reach (refundRelayed ref st) ⟨w, [.refund .called]⟩ q) :
    Sat (RefundFlow ref st) (RefundFlowLocal ref st) OneSweep q.shared q.threads := by
  have hunkept := kept_of_unissued h₀.unissued
  refine h.sat (fun _ _ => OneSweep.symm) ⟨⟨fun _ => h₀.unset, ?_, ?_⟩, ?_, List.pairwise_singleton _ _⟩ ?_ ?_
  · exact fun hk => absurd (hk.symm.trans hunkept) nofun
  · exact fun hk => absurd (hk.symm.trans hunkept) nofun
  · intro t ht
    obtain rfl := List.mem_singleton.1 ht
    exact hunkept
  · intro x us n x' ts _ hI hus hok hev
    exact refundFlow_arrival hI hus hok hev
  · intro x us vs t e x' ts _ hI hL hus _ hst
    exact refundFlow_moved hI hL hus hst

theorem World.AwaitingRefund.start (h₀ : w.AwaitingRefund ref) :
    Inbox.Start ⟨w.refundInbox ref, [OrderThread.refund .called].filterMap OrderThread.task⟩ where
  taken := h₀.filed
  applied := by simp [World.refundInbox, kept_of_unissued h₀.unissued]
  first := by simp [World.refundInbox, reports_of_unissued h₀.unissued]
  threads := by simp [World.refundInbox, kept_of_unissued h₀.unissued, OrderThread.task]

theorem refund_simulates (h₀ : w.AwaitingRefund ref) :
    Simulates orderMachine Inbox.machine (refundRelayed ref st) Inbox.onlyGood (World.refundInbox ref)
      OrderThread.task ⟨w, [.refund .called]⟩ := by
  refine ⟨Inbox.onlyGood_unordered, ?_, ?_⟩
  · intro x us n x' ts as _ _ _ hok hev
    cases n with
    | tick elapsed =>
      obtain ⟨rfl, rfl⟩ := Prod.mk.inj (Option.some.inj hev)
      exact .stutter
    | write y =>
      obtain ⟨rfl, order, hx, rfl⟩ := write_of_event hev
      have hsame : { x with order }.refundInbox ref = x.refundInbox ref := by
        rw [OrderWrite.apply_eq hx]
        rfl
      rw [hsame]
      exact .stutter
    | refundCallback payload =>
      obtain ⟨rfl, r, href, hissued, rfl⟩ := callback_of_event hev
      obtain rfl : r = ref := Option.some.inj (href.symm.trans hok.reference)
      refine .event (n := true) rfl ?_
      simp only [Inbox.machine, World.refundInbox, kept_report, reports_report _ _ hissued, List.getLast?_cons]
      cases reports r x.refunds |>.getLast? <;> rfl
    | _ => exact hok.elim
  · intro x us vs t e x' ts as hr hra has hok hst
    have hS := refundFlow_reach h₀ hr
    have hL := hS.locals t (by simp)
    by_cases hhook : ∃ y, t = .refundWebhook y
    · obtain ⟨y, rfl⟩ := hhook
      obtain ⟨t', rfl, hs⟩ := refundHook_of_step hst
      refine refund_hook_matched hS.shared hL hok (fun a ha => ?_) hs
      exact (Inbox.sat h₀.start hra).locals a (has.mem_iff.2 (List.mem_append_left _ (by simpa using ha)))
    · obtain ⟨t', rfl, hs⟩ := orderStep_cases hst
      exact refund_sweep_matched hL (fun y hy => hhook ⟨y, hy⟩) hs

/-- A handler that has filed its callback and not yet acted on it. -/
def OrderThread.handling : OrderThread → Bool
  | .refundWebhook (.first ..) | .refundWebhook (.found ..) => true
  | _ => false

/-- The dedup row is used up, the refund is still open and no handler is going to close it. -/
structure RefundMissed (ref : Reference) (p : Pool World OrderThread) : Prop where
  filed : hasEvent p.shared.dedup .refund ref = true
  open_ : p.shared.order.paymentStatus = .refundPending
  through : ∀ t ∈ p.threads, t.handling = false

/-- The sweep stores `ref` by the time `p`; by the time `q` another callback for it is through. -/
structure RefundOutrun (w : World) (ref : Reference) (st : CampayStatus) (p q : Pool World OrderThread) : Prop where
  awaiting : w.AwaitingRefund ref
  before : orderMachine.Reach (refundRelayed ref st) ⟨w, [.refund .called]⟩ p
  stored : p.shared.order.refundCampayRef = some ref
  after : orderMachine.Reach (refundRelayed ref st) p q
  done : ∀ t ∈ q.threads, t.isDone = true
  redelivered : (reports ref p.shared.refunds).length < (reports ref q.shared.refunds).length

theorem refundMissed_iff (hkept : kept ref p.shared.refunds = true)
    (hstored : p.shared.order.refundCampayRef = some ref) :
    RefundMissed ref p ↔ (p.shared.refundInbox ref).taken = true ∧ (p.shared.refundInbox ref).applied = false ∧
      ∀ t ∈ p.threads, ∀ a ∈ t.task, Inbox.Task.active a = false := by
  have htask : ∀ t : OrderThread, t.handling = false ↔ ∀ a ∈ t.task, Inbox.Task.active a = false := by
    intro t
    cases t with
    | refund t => cases t <;> simp [OrderThread.handling, OrderThread.task, Inbox.Task.active]
    | refundWebhook t => cases t <;> simp [OrderThread.handling, OrderThread.task, Inbox.Task.active]
    | _ => simp [OrderThread.handling, OrderThread.task]
  have hopen : (p.shared.refundInbox ref).applied = false ↔ p.shared.order.paymentStatus = .refundPending := by
    simp [World.refundInbox, hkept, hstored]
  rw [hopen]
  constructor
  · rintro ⟨filed, open_, through⟩
    exact ⟨filed, open_, fun t ht => (htask t).1 (through t ht)⟩
  · rintro ⟨filed, open_, through⟩
    exact ⟨filed, open_, fun t ht => (htask t).2 (through t ht)⟩

theorem refund_closed_iff (h : RefundOutrun w ref st p q) : q.shared.RefundEnds st ↔ ¬ RefundMissed ref p := by
  have hkept : kept ref p.shared.refunds = true := by
    by_contra hn
    exact (refundFlow_reach h.awaiting h.before).shared.unset (by simpa using hn) h.stored
  have hidle : q.threads.filterMap OrderThread.task = [] := by
    rw [List.filterMap_eq_nil_iff]
    intro t ht
    have := h.done t ht
    cases t <;> rename_i t <;> cases t <;> simp_all [OrderThread.isDone, OrderThread.task]
  have hne : reports ref q.shared.refunds ≠ [] := List.ne_nil_of_length_pos (by have := h.redelivered; omega)
  have hfirst : (q.shared.refundInbox ref).first.isSome := by simp [World.refundInbox, hne]
  have hsim := @refund_simulates _ st _ h.awaiting
  have hiff := Inbox.applied_iff hsim h.awaiting.start h.before hkept h.after hidle hfirst
  have hend : kept ref q.shared.refunds = true := Inbox.still_stored hsim h.before hkept h.after
  have happlied : q.shared.RefundEnds st ↔ (q.shared.refundInbox ref).applied = true := by
    have hrow := (refundFlow_reach h.awaiting (h.before.trans h.after)).shared.outcome hend
    simp only [World.refundInbox, hend, Bool.true_and, Bool.not_eq_true', Bool.and_eq_false_iff, beq_eq_false_iff_ne]
    refine ⟨fun he => ?_, fun hn => hrow.resolve_left fun hr => hn.elim (absurd hr.1) (absurd hr.2)⟩
    unfold World.RefundEnds at he
    split at he
    · exact .inl (by simp [he.1])
    · exact .inr (by simp [he.2.1])
  rw [happlied, hiff, refundMissed_iff hkept h.stored]

end

end ChopNow
