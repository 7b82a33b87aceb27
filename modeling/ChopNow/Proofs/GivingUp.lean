import ChopNow.Proofs.Deferral
import ChopNow.Proofs.FailedOrder
import ChopNow.Proofs.OneRider

/-! Assigning a rider and giving up. Both rest on a row that was read some steps
before, so they exclude each other only while the attempts of an order keep apart. -/

namespace ChopNow

open Interleave

/-- From one point of a run to a later one: an assigned order is not given up, and a
closed one gets no rider. -/
structure Excludes (w w' : World) : Prop where
  assigned : w.order.riderId.isSome → w'.order.gaveUp → w.order.gaveUp
  closed : w.order.status.isFailed = true → w'.order.riderId = w.order.riderId

/-- The attempt's next failure ends the search. -/
def TryDispatch.inLastRound : TryDispatch → Bool
  | .dispatchOrder attempt | .searching attempt | .chosen attempt .. | .noRider attempt =>
    !decide (attempt < MAX_RETRIES - 1)
  | .expireForNoRider | .expiring .. => true
  | .called .. | .done => false

/-- The attempt has passed its check and may still assign. -/
def TryDispatch.mayAssign : TryDispatch → Bool
  | .dispatchOrder _ | .searching _ | .chosen .. => true
  | _ => false

/-- Where an attempt stands, its audit row written or not. -/
def DispatchThread.attempt : DispatchThread → TryDispatch
  | .run t | .logDispatchEvent _ t => t
  | .cancelPreOrder _ => .done

/-- A rider is assigned while no other attempt is in its last round, and the order is
closed while no attempt may still assign. -/
def attemptsApart : Guard Dispatching DispatchThread DispatchCall Answer := fun s us m =>
  match m with
  | .step (.run (.chosen ..)) (.reply .ok) =>
    s.world.order.riderId = none → ∀ u ∈ us, u.attempt.inLastRound = false
  | .step (.run (.expiring ..)) (.reply .ok) => ∀ u ∈ us, u.attempt.mayAssign = false
  | .step (.cancelPreOrder (.checked ..)) (.reply .ok) =>
    s.world.order.status = .accepted ∨ s.world.order.status = .inPrep → ∀ u ∈ us, u.attempt.mayAssign = false
  | _ => True

structure ApartLocal (s : Dispatching) (t : DispatchThread) : Prop where
  last : t.attempt.inLastRound = true → s.world.order.riderId = none
  open_ : t.attempt.mayAssign = true → s.world.order.status.isFailed = false

/-- Nothing refuses an order that was accepted. -/
def Unrefused (s : Dispatching) : Prop := s.world.order.status ≠ .refused

section

variable {s s' : Dispatching} {us ts : List DispatchThread} {t u : DispatchThread} {a : Answer}

theorem ApartLocal.same (h : ApartLocal s u) (hr : s'.world.order.riderId = s.world.order.riderId)
    (hs : s'.world.order.status = s.world.order.status) : ApartLocal s' u :=
  ⟨fun hu => hr.trans (h.last hu), fun hu => hs ▸ h.open_ hu⟩

theorem ApartLocal.on {t' : DispatchThread} (h : ApartLocal s t)
    (hlast : t'.attempt.inLastRound = true → t.attempt.inLastRound = true)
    (hassign : t'.attempt.mayAssign = true → t.attempt.mayAssign = true) : ApartLocal s t' :=
  ⟨fun hu => h.last (hlast hu), fun hu => h.open_ (hassign hu)⟩

theorem isFailed_of_open {status : OrderStatus} (hcancelled : status ≠ .cancelled) (hexpired : status ≠ .expired)
    (hrefused : status ≠ .refused) : status.isFailed = false := by
  cases status <;> simp_all [OrderStatus.isFailed]

/-- The order's row stays, and the thread goes on from where it was. -/
theorem moved_same {t' : DispatchThread} (hI : Unrefused s) (hus : ∀ u ∈ us, ApartLocal s u)
    (hr : s'.world.order.riderId = s.world.order.riderId) (hs : s'.world.order.status = s.world.order.status)
    (ht : ApartLocal s t') : Moved Unrefused ApartLocal (fun _ _ => True) us s' [t'] :=
  .one (fun h => hI (hs ▸ h)) (ht.same hr hs) fun u hu => ⟨(hus u hu).same hr hs, trivial⟩

/-- The order is closed, and no other attempt may assign. -/
theorem moved_closed {t' : DispatchThread} (hus : ∀ u ∈ us, ApartLocal s u)
    (hr : s'.world.order.riderId = s.world.order.riderId) (hs : s'.world.order.status ≠ .refused)
    (ht : t'.attempt = .done) (hothers : ∀ u ∈ us, u.attempt.mayAssign = false) :
    Moved Unrefused ApartLocal (fun _ _ => True) us s' [t'] := by
  refine .one hs ⟨fun h => ?_, fun h => ?_⟩ fun u hu => ⟨⟨fun h => hr.trans ((hus u hu).last h), fun h => ?_⟩, trivial⟩
  · rw [ht] at h
    cases h
  · rw [ht] at h
    cases h
  · rw [hothers u hu] at h
    cases h

theorem done_local (h : t.attempt = .done) : ApartLocal s t := by
  refine ⟨fun hu => ?_, fun hu => ?_⟩ <;>
    (rw [h] at hu
     cases hu)

theorem apart_moved (hI : Unrefused s) (hL : ApartLocal s t) (hus : ∀ u ∈ us, ApartLocal s u)
    (hok : attemptsApart s us (.step t a)) (h : DispatchMove s t a s' ts) :
    Moved Unrefused ApartLocal (fun _ _ => True) us s' ts := by
  cases h with
  | left | retry => exact moved_same hI hus rfl rfl (done_local rfl)
  | checked free live unexpired =>
    exact moved_same hI hus rfl rfl ⟨fun _ => free, fun _ => isFailed_of_open live unexpired hI⟩
  | searching | chosen | logged | unlogged => exact moved_same hI hus rfl rfl (hL.on id id)
  | taken | noCandidate | raceLost =>
    exact moved_same hI hus rfl rfl (hL.on id (by simp [DispatchThread.attempt, TryDispatch.mayAssign]))
  | giveUp last =>
    have hlast : s.world.order.riderId = none := hL.last (by simp [DispatchThread.attempt, TryDispatch.inLastRound, last])
    exact moved_same hI hus rfl rfl ⟨fun _ => hlast, by simp [DispatchThread.attempt, TryDispatch.mayAssign]⟩
  | expiring =>
    exact moved_same hI hus rfl rfl (hL.on id (by simp [DispatchThread.attempt, TryDispatch.mayAssign]))
  | assigned free =>
    refine .one hI (done_local rfl) fun u hu => ⟨⟨fun h => ?_, (hus u hu).open_⟩, trivial⟩
    rw [hok free u hu] at h
    cases h
  | expired => exact moved_closed hus rfl (by simp [Order.expireForNoRider]) rfl hok
  | cancelPreOrder ho =>
    cases ho with
    | cancelled due => exact moved_closed hus rfl (by simp [Order.cancelPreOrder]) rfl (hok due)
    | _ => exact moved_same hI hus rfl rfl (done_local rfl)

theorem arrival_attempts {n : DispatchCall} (h : DispatchArrival s n s' ts) :
    s'.world.order = s.world.order ∧ ∀ t ∈ ts, ApartLocal s' t := by
  cases h with
  | tick => exact ⟨rfl, by simp⟩
  | vendorCancelPreOrder => exact ⟨rfl, by simpa using done_local rfl⟩
  | orderAccepted | runRetry =>
    refine ⟨rfl, fun t ht => ?_⟩
    obtain rfl := List.mem_singleton.1 ht
    exact ⟨fun hu => (by cases hu), fun hu => (by cases hu)⟩

theorem apart_reach {w : World} (hw : w.order.status.isFailed = false) {q : Pool Dispatching DispatchThread}
    (h : dispatchMachine.Reach attemptsApart ⟨.start w, []⟩ q) :
    Sat Unrefused ApartLocal (fun _ _ => True) q.shared q.threads := by
  refine h.sat (fun _ _ _ => trivial) ⟨fun hr => ?_, by simp, .nil⟩ ?_ ?_
  · have hs : w.order.status = .refused := hr
    rw [hs] at hw
    cases hw
  · intro s us n s' ts _ hI hus _ hev
    obtain ⟨horder, hts⟩ := arrival_attempts (dispatchEvent_cases hev)
    exact ⟨fun hr => hI (horder ▸ hr), hts, fun u hu => (hus u hu).same (by rw [horder]) (by rw [horder]),
      List.pairwise_of_forall fun _ _ => trivial, fun _ _ _ _ => trivial⟩
  · intro s us vs t a s' ts _ hI hL hus hok hst
    exact apart_moved hI hL (fun u hu => (hus u hu).1) hok (dispatchStep_cases hst)

/-- A closed order stays closed. -/
theorem move_failed (h : DispatchMove s t a s' ts) (hf : s.world.order.status.isFailed = true) :
    s'.world.order.status.isFailed = true := by
  cases h with
  | expired => rfl
  | cancelPreOrder ho =>
    cases ho with
    | cancelled => rfl
    | _ => exact hf
  | _ => exact hf

theorem move_excludes (hL : ApartLocal s t) (h : DispatchMove s t a s' ts) : Excludes s.world s'.world := by
  cases h with
  | assigned free =>
    refine ⟨fun _ hg => hg, fun hf => ?_⟩
    rw [hL.open_ rfl] at hf
    cases hf
  | expired =>
    refine ⟨fun hsome => ?_, fun _ => rfl⟩
    rw [hL.last rfl] at hsome
    cases hsome
  | cancelPreOrder ho =>
    cases ho with
    | cancelled => exact ⟨fun _ hg => absurd hg.1 (by simp [Order.cancelPreOrder]), fun _ => rfl⟩
    | _ => exact ⟨fun _ hg => hg, fun _ => rfl⟩
  | _ => exact ⟨fun _ hg => hg, fun _ => rfl⟩

/-- One step after the others. -/
theorem Excludes.step {w w₁ w₂ : World} (h : Excludes w w₁) (h' : Excludes w₁ w₂)
    (hrider : w.order.riderId.isSome → w₁.order.riderId.isSome)
    (hfailed : w.order.status.isFailed = true → w₁.order.status.isFailed = true) : Excludes w w₂ :=
  ⟨fun hs hg => h.assigned hs (h'.assigned (hrider hs) hg), fun hf => (h'.closed (hfailed hf)).trans (h.closed hf)⟩

end

/-- While the attempts keep apart, assigning and giving up exclude each other. -/
theorem assigned_or_given_up {w : World} (hw : w.order.status.isFailed = false) {p q : Pool Dispatching DispatchThread}
    (hp : dispatchMachine.Reach attemptsApart ⟨.start w, []⟩ p) (hq : dispatchMachine.Reach attemptsApart p q) :
    Excludes p.shared.world q.shared.world := by
  have hrun : Excludes p.shared.world q.shared.world ∧
      (p.shared.world.order.status.isFailed = true → q.shared.world.order.status.isFailed = true) := by
    refine hq.invariant (J := fun s _ => Excludes p.shared.world s.world ∧
      (p.shared.world.order.status.isFailed = true → s.world.order.status.isFailed = true))
      ⟨⟨fun _ hg => hg, fun _ => rfl⟩, id⟩ ?_ ?_
    · intro s us n s' ts _ hI _ hev
      obtain ⟨hE, hf⟩ := hI
      obtain ⟨horder, -⟩ := arrival_attempts (dispatchEvent_cases hev)
      exact ⟨⟨fun hs hg => hE.assigned hs (horder ▸ hg), fun h => (congrArg _ horder).trans (hE.closed h)⟩,
        fun h => by rw [horder]; exact hf h⟩
    · intro s us vs t a s' ts hr hI _ hst
      obtain ⟨hE, hf⟩ := hI
      have hm := dispatchStep_cases hst
      have hL := (apart_reach hw (hp.trans hr)).locals t (by simp)
      have hrider : p.shared.world.order.riderId.isSome → s.world.order.riderId.isSome := fun hs => by
        rw [((written_reach hr).fixed hs).1]
        exact hs
      exact ⟨hE.step (move_excludes hL hm) hrider hf, fun h => move_failed hm (hf h)⟩
  exact hrun.1

/-- One attempt without a rider, up to its audit row. -/
def exampleRound : List (Act DispatchCall Answer) :=
  [.step 0 (.reply .ok), .step 0 (.reply .ok), .step 0 (.candidate none), .step 0 (.reply .ok)]

/-- Nine attempts go by, and the tenth finds nobody either. -/
def exampleTenRounds : List (Act DispatchCall Answer) :=
  .event .orderAccepted :: ((List.range 9).map fun attempt => exampleRound ++
    [.step 0 (.reply .ok), .event (.tick RETRY_INTERVAL_MS), .event (.runRetry (attempt + 1))]).flatten ++ exampleRound

/-- The tenth attempt gives up while a second ORDER_ACCEPTED finds a rider; a vendor
gives up the pre-order while an attempt has picked one. -/
theorem overlapping_attempts :
    (¬ ∀ (w : World) (p q : Pool Dispatching DispatchThread), w.order.status.isFailed = false →
      dispatchMachine.Reach anyMove ⟨.start w, []⟩ p → dispatchMachine.Reach anyMove p q →
      p.shared.world.order.riderId.isSome → q.shared.world.order.gaveUp → p.shared.world.order.gaveUp) ∧
    ¬ ∀ (w : World) (p q : Pool Dispatching DispatchThread), w.order.status.isFailed = false →
      dispatchMachine.Reach anyMove ⟨.start w, []⟩ p → dispatchMachine.Reach anyMove p q →
      p.shared.world.order.status.isFailed = true →
      q.shared.world.order.riderId = p.shared.world.order.riderId := by
  constructor
  · intro h
    obtain ⟨p, q, hp, hq, ht⟩ := Machine.reach_of_stop dispatchMachine anyMove (fun _ _ _ => true)
      (fun _ _ _ _ => trivial) ⟨.start (.start exampleAcceptedOrder), []⟩
      (exampleTenRounds ++ [.event .orderAccepted, .step 0 (.reply .ok), .step 0 (.reply .ok),
        .step 0 (.candidate (some 5)), .step 0 (.reply .ok)])
      [.step 1 (.reply .ok), .step 0 (.reply .ok), .step 0 (.reply .ok)]
      (fun p q => p.shared.world.order.riderId == some 5 && p.shared.world.order.status == .accepted &&
        q.shared.world.order.status == .expired &&
        q.shared.world.order.refusalReason == some NO_RIDER_AVAILABLE_REASON)
      (by decide +kernel)
    simp only [Bool.and_eq_true, beq_iff_eq] at ht
    obtain ⟨⟨⟨hrider, hstatus⟩, hexpired⟩, hreason⟩ := ht
    obtain ⟨hp', -⟩ := h _ p q rfl hp hq (by rw [hrider]; rfl) ⟨hexpired, hreason⟩
    rw [hstatus] at hp'
    cases hp'
  · intro h
    obtain ⟨p, q, hp, hq, ht⟩ := Machine.reach_of_stop dispatchMachine anyMove (fun _ _ _ => true)
      (fun _ _ _ _ => trivial)
      ⟨.start (.start { exampleAcceptedOrder with paymentStatus := .paid, scheduledFor := some 18000000 }), []⟩
      [.event .orderAccepted, .step 0 (.reply .ok), .step 0 (.reply .ok), .step 0 (.candidate (some 5)),
        .event (.vendorCancelPreOrder 1 none), .step 0 (.reply .ok), .step 0 (.reply .ok)]
      [.step 1 (.reply .ok)]
      (fun p q => p.shared.world.order.status == .cancelled && p.shared.world.order.riderId == none &&
        q.shared.world.order.riderId == some 5)
      (by decide +kernel)
    simp only [Bool.and_eq_true, beq_iff_eq] at ht
    obtain ⟨⟨hcancelled, hnone⟩, hrider⟩ := ht
    have hsame := h _ p q rfl hp hq (by rw [hcancelled]; rfl)
    rw [hnone, hrider] at hsame
    cases hsame

def attemptsApartB (_ : Dispatching) (us : List DispatchThread) (m : Move DispatchThread DispatchCall Answer) : Bool :=
  match m with
  | .step (.run (.chosen ..)) _ => us.all fun u => !u.attempt.inLastRound
  | .step (.run (.expiring ..)) _ | .step (.cancelPreOrder (.checked ..)) _ => us.all fun u => !u.attempt.mayAssign
  | _ => true

theorem attemptsApart_of_bool {s : Dispatching} {us : List DispatchThread} {m : Move DispatchThread DispatchCall Answer}
    (h : attemptsApartB s us m = true) : attemptsApart s us m := by
  unfold attemptsApart
  split
  · exact fun _ => by simpa [attemptsApartB] using h
  · simpa [attemptsApartB] using h
  · exact fun _ => by simpa [attemptsApartB] using h
  · trivial

/-- Two attempts race for the order; it is assigned once, and then the vendor gives it up. -/
theorem assigned_before_cancelled :
    ∃ p q, dispatchMachine.Reach attemptsApart
        ⟨.start (.start { exampleAcceptedOrder with paymentStatus := .paid, scheduledFor := some 18000000 }), []⟩ p ∧
      dispatchMachine.Reach attemptsApart p q ∧ p.shared.world.order.riderId = some 6 ∧
      q.shared.world.order.status = .cancelled ∧ Excludes p.shared.world q.shared.world := by
  obtain ⟨p, q, hp, hq, ht⟩ := Machine.reach_of_stop dispatchMachine attemptsApart attemptsApartB
    (fun _ _ _ => attemptsApart_of_bool)
    ⟨.start (.start { exampleAcceptedOrder with paymentStatus := .paid, scheduledFor := some 18000000 }), []⟩
    (exampleTwoChosen ++ [.step 0 (.reply .ok), .step 1 (.reply .ok)])
    [.event (.vendorCancelPreOrder 1 none), .step 0 (.reply .ok), .step 0 (.reply .ok)]
    (fun p q => p.shared.world.order.riderId == some 6 && q.shared.world.order.status == .cancelled)
    (by decide +kernel)
  simp only [Bool.and_eq_true, beq_iff_eq] at ht
  exact ⟨p, q, hp, hq, ht.1, ht.2, assigned_or_given_up rfl hp hq⟩

end ChopNow
