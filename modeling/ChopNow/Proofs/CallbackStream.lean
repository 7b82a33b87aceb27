import ChopNow.Proofs.CollectInbox

/-! Streams of callbacks about one collect, each handled before the next arrives:
the first one decides. -/

namespace ChopNow

open Interleave

/-- Each callback finds all earlier ones through. -/
def streamed (ref : Reference) (st : CampayStatus) : Guard World CollectThread CollectEvent Reply := fun w us m =>
  relayed ref st w us m ∧
    match m with
    | .event (.callback _) => ∀ u ∈ us, u.isDone = true
    | _ => True

section

variable {w : World} {q : Pool World CollectThread} {ref : Reference} {st : CampayStatus}

/-- The stream has the right end exactly when its first callback is terminal, and
there is something to book if it reports a payment. -/
theorem stream_ends_right_iff (h₀ : w.Awaiting ref) (hstored : w.order.paymentReference = some ref)
    (hst : st.isFinal = true) (h : collectMachine.Reach (streamed ref st) ⟨w, []⟩ q)
    (hdone : ∀ t ∈ q.threads, t.isDone = true) (hseen : st ∈ reports ref q.shared.collects) :
    q.shared.EndsRight st ↔
      (reports ref q.shared.collects).getLast? = some st ∧ (st = .successful → w.order.totalXAF ≠ 0) := by
  have hnone : w.attempt ref 0 "" = [] := if_pos hstored
  rw [← hnone] at h
  by_cases hT : st = .successful → w.order.totalXAF ≠ 0
  · have hle : ∀ x us m, streamed ref st x us m → relayed ref st x us m := fun _ _ _ h => h.1
    rw [(outcome_reach hle hT h₀ h).endsRight_iff, and_iff_left hT]
    obtain ⟨as, hra, has⟩ := (collect_simulates hle Inbox.oneByOne_unordered
      (fun _ _ _ hok => task_of_done hok.2) (fun _ _ _ _ => trivial) hT h₀).run h
    rw [task_of_done hdone] at has
    have hne := List.ne_nil_of_mem hseen
    have hfirst : (q.shared.collectInbox ref).first.isSome := by simp [World.collectInbox, hne]
    have hiff := Inbox.applied_iff_first h₀.start (by simp [World.collectInbox, hstored]) hra has.eq_nil hfirst
    refine hiff.trans ?_
    simp only [World.collectInbox, List.getLast?_eq_some_getLast hne, Option.map_some, Option.some.injEq]
    have hreported := (relay_reach hle h₀ h).shared.reported _ (List.getLast_mem hne)
    exact ⟨hreported, fun he => he ▸ hst⟩
  · rw [Classical.not_imp, not_not] at hT
    refine iff_of_false (fun he => ?_) fun hr => hr.2 hT.1 hT.2
    rw [World.EndsRight, if_pos hT.1, unbooked_of_zero (fun _ _ _ h => h.1) h₀ hT.2 h] at he
    cases he.2

/-- An order whose collect 7 is stored. -/
def promptedWorld : World :=
  { World.start { exampleOrder with paymentReference := some 7, paymentStatus := .processing } with
    collects := [{ reference := 7, amountXAF := 3000, stored := true }] }

def streamedB (_ : World) (us : List CollectThread) (m : Move CollectThread CollectEvent Reply) : Bool :=
  match m with
  | .event (.callback payload) => payload.reference == some 7 &&
      (!payload.status.isFinal || payload.status == .successful) && us.all CollectThread.isDone
  | .event _ => false
  | .step _ (.fail _) => false
  | .step .. => true

theorem streamed_of_bool {w : World} {us : List CollectThread} {m : Move CollectThread CollectEvent Reply}
    (h : streamedB w us m = true) : streamed 7 .successful w us m := by
  unfold streamedB at h
  unfold streamed relayed
  split at h
  · simp only [Bool.and_eq_true, beq_iff_eq, Bool.or_eq_true, Bool.not_eq_true', List.all_eq_true] at h
    refine ⟨⟨h.1.1, fun hf => h.1.2.resolve_left fun hn => absurd (hn.symm.trans hf) nofun⟩, h.2⟩
  · cases h
  · cases h
  · refine ⟨?_, trivial⟩
    split <;> simp_all

/-- One callback for collect 7, through to its end. -/
def heardThrough (status : CampayStatus) (steps : List (Act CollectEvent Reply)) : List (Act CollectEvent Reply) :=
  .event (.callback { status, reference := some 7 }) :: steps

theorem promptedWorld_awaiting : promptedWorld.Awaiting 7 :=
  ⟨by decide, rfl, rfl, rfl, nofun, rfl⟩

/-- A PENDING callback takes the dedup slot, and the SUCCESSFUL one is a duplicate. -/
theorem stream_may_end_wrong :
    ¬ ∀ (w : World) (q : Pool World CollectThread) (ref : Reference) (st : CampayStatus), w.Awaiting ref →
      w.order.paymentReference = some ref → w.order.totalXAF ≠ 0 → st.isFinal = true →
      collectMachine.Reach (streamed ref st) ⟨w, []⟩ q → (∀ t ∈ q.threads, t.isDone = true) →
      st ∈ reports ref q.shared.collects → q.shared.EndsRight st := by
  intro h
  obtain ⟨q, hq, ht⟩ := Machine.reach_of_test collectMachine (streamed 7 .successful) streamedB
    (fun _ _ _ => streamed_of_bool) ⟨promptedWorld, []⟩
    (heardThrough .pending [.step 0 .ok, .step 0 .ok, .step 0 .ok, .step 0 .ok] ++
      heardThrough .successful [.step 0 .ok])
    (fun q => q.threads.all CollectThread.isDone && (reports 7 q.shared.collects).contains .successful &&
      q.shared.order.paymentStatus == .processing) (by decide +kernel)
  simp only [Bool.and_eq_true, List.all_eq_true, List.contains_iff_mem, beq_iff_eq] at ht
  have := h promptedWorld q 7 .successful promptedWorld_awaiting rfl (by decide) rfl hq ht.1.1 ht.1.2
  rw [World.EndsRight, if_pos rfl, ht.2] at this
  cases this.1

/-- SUCCESSFUL, a late PENDING and SUCCESSFUL again. -/
theorem stream_ends_paid :
    ∃ q, collectMachine.Reach (streamed 7 .successful) ⟨promptedWorld, []⟩ q ∧
      (q.shared.EndsRight .successful ↔ (reports 7 q.shared.collects).getLast? = some .successful ∧
        (CampayStatus.successful = .successful → promptedWorld.order.totalXAF ≠ 0)) ∧
      q.shared.order.paymentStatus = .paid := by
  obtain ⟨q, hq, ht⟩ := Machine.reach_of_test collectMachine (streamed 7 .successful) streamedB
    (fun _ _ _ => streamed_of_bool) ⟨promptedWorld, []⟩
    (heardThrough .successful [.step 0 .ok, .step 0 .ok, .step 0 .ok, .step 0 .ok, .step 1 .ok, .step 0 .ok,
        .step 0 .ok] ++
      heardThrough .pending [.step 0 .ok] ++ heardThrough .successful [.step 0 .ok])
    (fun q => q.threads.all CollectThread.isDone && (reports 7 q.shared.collects).contains .successful &&
      q.shared.order.paymentStatus == .paid) (by decide +kernel)
  simp only [Bool.and_eq_true, List.all_eq_true, List.contains_iff_mem, beq_iff_eq] at ht
  exact ⟨q, hq, stream_ends_right_iff promptedWorld_awaiting rfl rfl hq ht.1.1 ht.1.2, ht.2⟩

end

end ChopNow
