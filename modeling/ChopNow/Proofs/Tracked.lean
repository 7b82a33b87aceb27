import ChopNow.Proofs.RefundOnce
import ChopNow.Spec.Escalation

/-! A refund that is owed is in somebody's sight: the next sweep's, that of the sweep at
work on it for less than half an hour, or the admin's. The list of escalations asks for a
reference, so a sweep that stops between its lock and its reference hides the order. -/

namespace ChopNow

open Interleave

/-- How long a refund may be under way before it counts as stuck. -/
def STALE : Time := STALE_IN_FLIGHT_MINUTES * 60000

/-- Selected by the next sweep, initiated lately, or on the admin's list. -/
def World.Tracked (w : World) : Prop :=
  w.order.paymentStatus = .refundPending →
    w.order.refundDue = true ∨ (∃ t, w.order.refundInitiatedAt = some t ∧ w.clock < t + STALE) ∨
      ∀ payouts orders, w.order ∈ orders →
        ∃ item ∈ listEscalations payouts orders w.clock, item.kind = .refund ∧ item.id = w.order.id

/-- No refund has been tried yet. -/
structure Order.Unrefunded (o : Order) : Prop where
  initiatedAt : o.refundInitiatedAt = none
  campayRef : o.refundCampayRef = none
  refundedAt : o.refundedAt = none

/-- A sweep that holds the lock gets on within half an hour, and its release is not lost;
no refund is queued for an order whose money has gone back; and nobody looks at the very
millisecond that ends the half hour. -/
def sweepsGetOn : Guard World OrderThread OrderEvent Reply := fun w us m =>
  match m with
  | .event (.tick elapsed) => w.order.paymentStatus = .refundPending → ∀ t, w.order.refundInitiatedAt = some t →
      ((∃ u ∈ us, u.ownsRefund = true) → w.clock + elapsed < t + STALE) ∧ w.clock + elapsed ≠ t + STALE
  | .step (.refund (.caught ..)) (.fail _) => w.order.refundInitiatedAt = none ∨ w.order.refundCampayRef.isSome
  | .step (.cancelPreOrder (.checked ..)) .ok =>
    w.order.status = .accepted ∨ w.order.status = .inPrep → w.order.refundedAt = none
  | .step (.fraud (.checked order input _)) .ok =>
    w.order.status = .pickedUp → input.consumerRefund = true ∧ order.paymentStatus = .paid → w.order.refundedAt = none
  | _ => True

structure RefundTracked (w : World) (us : List OrderThread) : Prop where
  pending : w.order.refundInitiatedAt.isSome → w.order.refundedAt = none → w.order.paymentStatus = .refundPending
  unrefunded : w.order.paymentStatus = .refundPending → w.order.refundedAt = none
  owned : w.order.refundInitiatedAt.isSome → w.order.refundCampayRef = none → ∃ u ∈ us, u.ownsRefund = true
  recent : w.order.paymentStatus = .refundPending → (∃ u ∈ us, u.ownsRefund = true) →
    ∀ t, w.order.refundInitiatedAt = some t → w.clock < t + STALE
  apart : w.order.paymentStatus = .refundPending → ∀ t, w.order.refundInitiatedAt = some t → w.clock ≠ t + STALE

section

variable {w w' : World} {us vs : List OrderThread} {t t' : OrderThread} {e : Reply}

theorem STALE_pos : 0 < STALE := Nat.mul_pos (Nat.succ_pos _) (Nat.succ_pos _)

theorem isStale_iff {now since : Time} : isStale now since = true ↔ since + STALE < now := decide_eq_true_iff

/-- What covers a refund: no lock, a lock that is young, or a reference. -/
theorem RefundTracked.tracked (h : RefundTracked w us) : w.Tracked := by
  intro hdue
  cases hi : w.order.refundInitiatedAt with
  | none => exact .inl (by simp [Order.refundDue, hdue, hi])
  | some t =>
    refine .inr ?_
    rcases Nat.lt_trichotomy w.clock (t + STALE) with hyoung | hexact | hold
    · exact .inl ⟨t, rfl, hyoung⟩
    · exact absurd hexact (h.apart hdue t hi)
    · have href : w.order.refundCampayRef.isSome = true := by
        rw [Option.isSome_iff_ne_none]
        intro hnone
        exact Nat.lt_asymm (h.recent hdue (h.owned (by rw [hi]; rfl) hnone) t hi) hold
      have hstale := Order.isStaleRefund_iff.2 ⟨hdue, href, ⟨t, hi, isStale_iff.2 hold⟩, h.unrefunded hdue⟩
      exact .inr fun payouts orders ho => ⟨w.order.escalation w.clock,
        mem_listEscalations.2 (.inr ⟨w.order, ho, hstale, rfl⟩), rfl, rfl⟩

/-! Steps. -/

/-- What a step writes to the columns of a refund. -/
inductive RefundColumns (w : World) (t : OrderThread) (o : Order) (t' : OrderThread) : Prop
  | kept (hs : o.paymentStatus = w.order.paymentStatus) (hi : o.refundInitiatedAt = w.order.refundInitiatedAt)
      (hr : o.refundedAt = w.order.refundedAt) (href : o.refundCampayRef = w.order.refundCampayRef ∨ o.refundCampayRef.isSome)
      (howns : t'.ownsRefund = true → t.ownsRefund = true)
  | paid (hdue : w.order.paymentStatus ≠ .refundPending) (hs : o.paymentStatus = .paid)
      (hi : o.refundInitiatedAt = w.order.refundInitiatedAt) (hr : o.refundedAt = w.order.refundedAt)
      (href : o.refundCampayRef = w.order.refundCampayRef) (howns : t.ownsRefund = false ∧ t'.ownsRefund = false)
  | queued (hopen : w.order.refundedAt = none) (hs : o.paymentStatus = .refundPending)
      (hi : o.refundInitiatedAt = w.order.refundInitiatedAt) (hr : o.refundedAt = w.order.refundedAt)
      (href : o.refundCampayRef = w.order.refundCampayRef) (howns : t.ownsRefund = false ∧ t'.ownsRefund = false)
  | locked (hdue : w.order.paymentStatus = .refundPending) (hs : o.paymentStatus = w.order.paymentStatus)
      (hi : o.refundInitiatedAt = some w.clock) (hr : o.refundedAt = w.order.refundedAt) (howns : t'.ownsRefund = true)
  | released (hs : o.paymentStatus = w.order.paymentStatus) (hi : o.refundInitiatedAt = none)
      (hr : o.refundedAt = w.order.refundedAt)
  | refunded (hs : o.paymentStatus = .refunded) (hi : o.refundInitiatedAt = w.order.refundInitiatedAt)
      (hr : o.refundedAt.isSome) (href : o.refundCampayRef = w.order.refundCampayRef)
      (howns : t.ownsRefund = false ∧ t'.ownsRefund = false)

theorem ownsRefund_of_done (h : t.isDone = true) : t.ownsRefund = false := by
  cases t with
  | refund t => cases t <;> first | rfl | cases h
  | _ => rfl

theorem refundColumns_of_step (hok : sweepsGetOn w us (.step t e)) (h : OrderStep w t e w' t') :
    RefundColumns w t w'.order t' ∧ w'.clock = w.clock := by
  refine ⟨?_, by cases h <;> rfl⟩
  cases h with
  | finish hd => exact .kept rfl rfl rfl (.inl rfl) fun ho => by simp [ownsRefund_of_done hd] at ho
  | paid due sound =>
    exact .paid (by rcases due with hd | hd <;> simp [hd]) rfl rfl rfl rfl ⟨rfl, rfl⟩
  | cancelled due sound => exact .queued (hok due) rfl rfl rfl rfl ⟨rfl, rfl⟩
  | @fraudCompensated order input now due sound =>
    by_cases hq : input.consumerRefund = true ∧ order.paymentStatus = .paid
    · exact .queued (hok due hq) (if_pos hq) rfl rfl rfl ⟨rfl, rfl⟩
    · exact .kept (if_neg hq) rfl rfl (.inl rfl) id
  | @fraudCancelled order input now due =>
    by_cases hq : input.consumerRefund = true ∧ order.paymentStatus = .paid
    · exact .queued (hok due hq) (if_pos hq) rfl rfl rfl ⟨rfl, rfl⟩
    · exact .kept (if_neg hq) rfl rfl (.inl rfl) id
  | refundLocked due =>
    have hdue : w.order.paymentStatus = .refundPending := by simpa using (Bool.and_eq_true_iff.1 due).1
    exact .locked hdue rfl rfl rfl rfl
  | refundRecorded => exact .kept rfl rfl rfl (.inr rfl) fun ho => by cases ho
  | refundReset | hookReset => exact .released rfl rfl rfl
  | hookRefunded => exact .refunded rfl rfl rfl rfl ⟨rfl, rfl⟩
  | refundAccepted | refundRefused | refundLost | refundUnrecorded => exact .kept rfl rfl rfl (.inl rfl) fun _ => rfl
  | _ => exact .kept rfl rfl rfl (.inl rfl) fun ho => by cases ho

/-- Whoever lets go of the lock has released the row or left a reference on it. -/
theorem sweep_hands_over {t t' : RefundSweep} (hok : sweepsGetOn w us (.step (.refund t) e))
    (h : t.step w e = some (w', t')) (howns : (OrderThread.refund t).ownsRefund = true) :
    (OrderThread.refund t').ownsRefund = true ∨ w'.order.refundInitiatedAt = none ∨ w'.order.refundCampayRef.isSome := by
  cases t with
  | locked totalXAF payerPhone =>
    left
    cases e with
    | accepted ref =>
      simp only [RefundSweep.step] at h
      split at h
      · obtain ⟨-, rfl⟩ := Prod.mk.inj (Option.some.inj h)
        rfl
      · cases h
    | refused reason =>
      obtain ⟨-, rfl⟩ := Prod.mk.inj (Option.some.inj h)
      rfl
    | lost ref reason =>
      simp only [RefundSweep.step] at h
      split at h
      · obtain ⟨-, rfl⟩ := Prod.mk.inj (Option.some.inj h)
        rfl
      · cases h
    | ok => cases h
    | fail reason => cases h
  | accepted totalXAF ref =>
    cases e with
    | ok =>
      simp only [RefundSweep.step] at h
      split at h
      · obtain ⟨-, rfl⟩ := Prod.mk.inj (Option.some.inj h)
        exact .inl rfl
      · next w₁ hc =>
        obtain ⟨rfl, -⟩ := Prod.mk.inj (Option.some.inj h)
        obtain ⟨-, -, -, rfl⟩ := World.book_ok_iff.1 hc
        exact .inr (.inr rfl)
    | fail reason =>
      obtain ⟨-, rfl⟩ := Prod.mk.inj (Option.some.inj h)
      exact .inl rfl
    | accepted ref => cases h
    | refused reason => cases h
    | lost ref reason => cases h
  | caught issued reason =>
    right
    cases e with
    | ok =>
      obtain ⟨rfl, -⟩ := Prod.mk.inj (Option.some.inj h)
      exact .inl rfl
    | fail reason =>
      obtain ⟨rfl, -⟩ := Prod.mk.inj (Option.some.inj h)
      exact hok
    | accepted ref => cases h
    | refused reason => cases h
    | lost ref reason => cases h
  | _ => cases howns

theorem owner_hands_over (hok : sweepsGetOn w us (.step t e)) (h : orderMachine.step w t e = some (w', [t']))
    (howns : t.ownsRefund = true) :
    t'.ownsRefund = true ∨ w'.order.refundInitiatedAt = none ∨ w'.order.refundCampayRef.isSome := by
  cases t with
  | refund t =>
    obtain ⟨⟨w₁, t₁⟩, hst, hr⟩ := Option.map_eq_some_iff.1 h
    obtain ⟨rfl, ht⟩ := Prod.mk.inj hr
    obtain ⟨rfl, -⟩ := List.cons.inj ht
    exact sweep_hands_over hok hst howns
  | _ => cases howns

/-- The owner of the lock is still there, unless the lock needs none any more. -/
theorem RefundTracked.owned_step (hI : RefundTracked w (us ++ t :: vs)) (hok : sweepsGetOn w (us ++ vs) (.step t e))
    (hst : orderMachine.step w t e = some (w', [t'])) (hi : w.order.refundInitiatedAt.isSome)
    (href : w.order.refundCampayRef = none) (hi' : w'.order.refundInitiatedAt.isSome)
    (href' : w'.order.refundCampayRef = none) : ∃ u ∈ [t'] ++ (us ++ vs), u.ownsRefund = true := by
  rcases exists_middle.1 (hI.owned hi href) with ho | ⟨u, hu, ho⟩
  · rcases owner_hands_over hok hst ho with ho' | hnone | hsome
    · exact ⟨t', .head _, ho'⟩
    · simp [hnone] at hi'
    · simp [href'] at hsome
  · exact ⟨u, .tail _ hu, ho⟩

theorem RefundTracked.step (hI : RefundTracked w (us ++ t :: vs)) (hok : sweepsGetOn w (us ++ vs) (.step t e))
    (hst : orderMachine.step w t e = some (w', [t'])) (h : OrderStep w t e w' t') :
    RefundTracked w' ([t'] ++ (us ++ vs)) := by
  obtain ⟨hcols, hclock⟩ := refundColumns_of_step hok h
  have hnew : (∃ u ∈ [t'] ++ (us ++ vs), u.ownsRefund = true) ↔
      t'.ownsRefund = true ∨ ∃ u ∈ us ++ vs, u.ownsRefund = true := by simp
  have hold : (t'.ownsRefund = true → t.ownsRefund = true) → (∃ u ∈ [t'] ++ (us ++ vs), u.ownsRefund = true) →
      ∃ u ∈ us ++ t :: vs, u.ownsRefund = true := fun himp ho => exists_middle.2 ((hnew.1 ho).imp_left himp)
  cases hcols with
  | kept hs hi hr href howns =>
    refine ⟨?_, ?_, fun hi' href' => ?_, ?_, ?_⟩
    · rw [hs, hi, hr]
      exact hI.pending
    · rw [hs, hr]
      exact hI.unrefunded
    · have hsame : w.order.refundCampayRef = none := by
        rcases href with heq | hsome
        · rw [← heq, href']
        · simp [href'] at hsome
      exact hI.owned_step hok hst (hi ▸ hi') hsame hi' href'
    · rw [hs, hi, hclock]
      exact fun hdue ho => hI.recent hdue (hold howns ho)
    · rw [hs, hi, hclock]
      exact hI.apart
  | paid hdue hs hi hr href howns =>
    refine ⟨fun hi' hr' => ?_, fun hp => ?_, fun hi' href' => ?_, fun hp => ?_, fun hp => ?_⟩
    · exact absurd (hI.pending (hi ▸ hi') (hr ▸ hr')) hdue
    · rw [hs] at hp
      cases hp
    · exact hI.owned_step hok hst (hi ▸ hi') (href ▸ href') hi' href'
    · rw [hs] at hp
      cases hp
    · rw [hs] at hp
      cases hp
  | queued hopen hs hi hr href howns =>
    have hwas : ∀ t₀, w'.order.refundInitiatedAt = some t₀ →
        w.order.refundInitiatedAt = some t₀ ∧ w.order.paymentStatus = .refundPending := fun t₀ ht => by
      rw [hi] at ht
      exact ⟨ht, hI.pending (by rw [ht]; rfl) hopen⟩
    refine ⟨fun _ _ => hs, fun _ => hr.trans hopen,
      fun hi' href' => hI.owned_step hok hst (hi ▸ hi') (href ▸ href') hi' href', fun _ ho t₀ ht => ?_, fun _ t₀ ht => ?_⟩
    · rw [hclock]
      exact hI.recent (hwas t₀ ht).2 (hold (fun ho' => by simp [howns.2] at ho') ho) t₀ (hwas t₀ ht).1
    · rw [hclock]
      exact hI.apart (hwas t₀ ht).2 t₀ (hwas t₀ ht).1
  | locked hdue hs hi hr howns =>
    have hnow : ∀ t₀, w'.order.refundInitiatedAt = some t₀ → w'.clock < t₀ + STALE := fun t₀ ht => by
      obtain rfl := Option.some.inj (hi.symm.trans ht)
      rw [hclock]
      exact Nat.lt_add_of_pos_right STALE_pos
    refine ⟨fun _ _ => hs.trans hdue, ?_, fun _ _ => hnew.2 (.inl howns), fun _ _ t₀ ht => hnow t₀ ht,
      fun _ t₀ ht => (hnow t₀ ht).ne⟩
    rw [hs, hr]
    exact hI.unrefunded
  | released hs hi hr =>
    have hnone : ∀ t₀, w'.order.refundInitiatedAt ≠ some t₀ := fun t₀ ht => by
      rw [hi] at ht
      cases ht
    refine ⟨by simp [hi], ?_, by simp [hi], fun _ _ t₀ ht => absurd ht (hnone t₀), fun _ t₀ ht => absurd ht (hnone t₀)⟩
    rw [hs, hr]
    exact hI.unrefunded
  | refunded hs hi hr href howns =>
    refine ⟨fun _ hr' => ?_, fun hp => ?_, fun hi' href' => hI.owned_step hok hst (hi ▸ hi') (href ▸ href') hi' href',
      fun hp => ?_, fun hp => ?_⟩
    · simp [hr'] at hr
    all_goals
      rw [hs] at hp
      cases hp

/-! Events. -/

/-- Nobody owns the lock of a refund when a call starts. -/
theorem RefundTracked.start {ts : List OrderThread} (hI : RefundTracked w us) (hts : ∀ u ∈ ts, u.ownsRefund = false)
    (hs : w'.order.paymentStatus = w.order.paymentStatus) (hi : w'.order.refundInitiatedAt = w.order.refundInitiatedAt)
    (hr : w'.order.refundedAt = w.order.refundedAt) (href : w'.order.refundCampayRef = w.order.refundCampayRef)
    (hclock : w'.clock = w.clock) : RefundTracked w' (ts ++ us) := by
  have howner : (∃ u ∈ ts ++ us, u.ownsRefund = true) ↔ ∃ u ∈ us, u.ownsRefund = true := by
    constructor
    · rintro ⟨u, hu, ho⟩
      rcases List.mem_append.1 hu with hu | hu
      · simp [hts u hu] at ho
      · exact ⟨u, hu, ho⟩
    · rintro ⟨u, hu, ho⟩
      exact ⟨u, List.mem_append_right _ hu, ho⟩
  refine ⟨?_, ?_, ?_, ?_, ?_⟩
  · rw [hs, hi, hr]
    exact hI.pending
  · rw [hs, hr]
    exact hI.unrefunded
  · rw [hi, href, howner]
    exact hI.owned
  · rw [hs, hi, howner, hclock]
    exact hI.recent
  · rw [hs, hi, hclock]
    exact hI.apart

theorem RefundTracked.event {n : OrderEvent} {ts : List OrderThread} (hI : RefundTracked w us)
    (hok : sweepsGetOn w us (.event n)) (h : OrderArrival w n w' ts) : RefundTracked w' (ts ++ us) := by
  cases h with
  | tick =>
    exact ⟨hI.pending, hI.unrefunded, hI.owned, fun hdue ho t ht => (hok hdue t ht).1 ho,
      fun hdue t ht => (hok hdue t ht).2⟩
  | @write x order hx =>
    have heq := OrderWrite.apply_eq hx
    exact hI.start (by simp) (by rw [heq]) (by rw [heq]) (by rw [heq]) (by rw [heq]) rfl
  | @call n u hcall =>
    refine hI.start (fun u' hu => ?_) rfl rfl rfl rfl rfl
    obtain rfl := List.mem_singleton.1 hu
    cases u' with
    | refund t => cases t <;> first | rfl | cases hcall
    | _ => rfl
  | callback => exact hI.start (by simp [OrderThread.ownsRefund]) rfl rfl rfl rfl rfl

end

/-- While sweeps get on, no refund falls through the cracks. -/
theorem refunds_tracked {w₀ : World} (h₀ : w₀.order.Unrefunded) {q : Pool World OrderThread}
    (h : orderMachine.Reach sweepsGetOn ⟨w₀, []⟩ q) : q.shared.Tracked := by
  refine (h.invariant (J := RefundTracked) ?_ ?_ ?_).tracked
  · have hnone : ∀ t, w₀.order.refundInitiatedAt ≠ some t := fun t ht => by
      rw [h₀.initiatedAt] at ht
      cases ht
    exact ⟨by simp [h₀.initiatedAt], fun _ => h₀.refundedAt, by simp [h₀.initiatedAt],
      fun _ _ t ht => absurd ht (hnone t), fun _ t ht => absurd ht (hnone t)⟩
  · exact fun w us n w' ts _ hI hok hev => hI.event hok (orderEvent_cases hev)
  · intro w us vs t e w' ts _ hI hok hst
    obtain ⟨t', rfl, hmove⟩ := orderStep_cases hst
    exact hI.step hok hst hmove

/-- Campay refuses, the release of the lock is lost, and half an hour later nobody looks
at the order any more. -/
theorem lost_release_untracked :
    ¬ ∀ (w₀ : World) (q : Pool World OrderThread), w₀.order.Unrefunded → orderMachine.Reach anyMove ⟨w₀, []⟩ q →
      q.shared.Tracked := by
  intro h
  obtain ⟨q, hq, ht⟩ := Machine.reach_of_test orderMachine anyMove
    (fun _ _ _ => true) (fun _ _ _ _ => trivial) ⟨.start refundDueOrder, []⟩
    (sweepUntilAsked ++ [.step 0 (.refused "insufficient float"), .step 0 (.fail "database"),
      .event (.tick 1800001)])
    (fun q => q.shared.order.paymentStatus == .refundPending && !q.shared.order.refundDue &&
      q.shared.order.refundInitiatedAt.all (fun t => decide (t + STALE ≤ q.shared.clock)) &&
      !q.shared.order.isStaleRefund q.shared.clock)
    (by decide +kernel)
  simp only [Bool.and_eq_true, beq_iff_eq, Bool.not_eq_true'] at ht
  obtain ⟨⟨⟨hdue, hlocked⟩, hold⟩, hunlisted⟩ := ht
  rcases h _ q ⟨rfl, rfl, rfl⟩ hq hdue with hselected | ⟨t, ht, hyoung⟩ | hlisted
  · rw [hlocked] at hselected
    cases hselected
  · rw [ht, Option.all_some, decide_eq_true_eq] at hold
    exact Nat.not_le_of_gt hyoung hold
  · obtain ⟨item, hitem, -⟩ := hlisted [] [q.shared.order] (.head _)
    rcases mem_listEscalations.1 hitem with ⟨p, hp, -⟩ | ⟨o, ho, hstale, -⟩
    · cases hp
    · obtain rfl := List.mem_singleton.1 ho
      rw [hunlisted] at hstale
      cases hstale

def sweepsGetOnB (w : World) (us : List OrderThread) (m : Move OrderThread OrderEvent Reply) : Bool :=
  match m with
  | .event (.tick elapsed) => w.order.refundInitiatedAt.all fun t =>
      (!us.any OrderThread.ownsRefund || decide (w.clock + elapsed < t + STALE)) && decide (w.clock + elapsed ≠ t + STALE)
  | .step (.refund (.caught ..)) _ | .step (.cancelPreOrder (.checked ..)) _ | .step (.fraud (.checked ..)) _ => false
  | _ => true

theorem sweepsGetOn_of_bool {w : World} {us : List OrderThread} {m : Move OrderThread OrderEvent Reply}
    (h : sweepsGetOnB w us m = true) : sweepsGetOn w us m := by
  unfold sweepsGetOn
  split
  · intro _ t ht
    simp only [sweepsGetOnB, ht, Option.all_some, Bool.and_eq_true, Bool.or_eq_true, Bool.not_eq_true',
      decide_eq_true_eq] at h
    refine ⟨fun ⟨u, hu, ho⟩ => h.1.resolve_left ?_, h.2⟩
    rw [Bool.not_eq_false]
    exact List.any_eq_true.2 ⟨u, hu, ho⟩
  · cases h
  · cases h
  · cases h
  · trivial

/-- A refund without an answer from Campay reaches the admin after half an hour. -/
theorem unanswered_refund_listed :
    ∃ q, orderMachine.Reach sweepsGetOn ⟨.start refundDueOrder, []⟩ q ∧
      (q.shared.order.paymentStatus = .refundPending ∧ q.shared.order.isStaleRefund q.shared.clock = true) ∧
      q.shared.Tracked := by
  obtain ⟨q, hq, ht⟩ := Machine.reach_of_test orderMachine sweepsGetOn sweepsGetOnB
    (fun _ _ _ => sweepsGetOn_of_bool) ⟨.start refundDueOrder, []⟩
    (sweepUntilAsked ++ [.step 0 (.accepted 7), .step 0 .ok, .event (.tick 1800001)])
    (fun q => q.shared.order.paymentStatus == .refundPending && q.shared.order.isStaleRefund q.shared.clock)
    (by decide +kernel)
  simp only [Bool.and_eq_true, beq_iff_eq] at ht
  exact ⟨q, hq, ht, refunds_tracked ⟨rfl, rfl, rfl⟩ hq⟩

end ChopNow
