import ChopNow.Proofs.DispatchStep

/-! One rider per order, and the audit rows agree with the order's row, for any number
of attempts that race and any rows that get lost. -/

namespace ChopNow

open Interleave

/-- The rider and the hour stay as they were, or a first rider was written. -/
def RiderWritten (w w' : World) : Prop :=
  w'.order.riderId = w.order.riderId ∧ w'.order.assignedAt = w.order.assignedAt ∨
    w.order.riderId = none ∧ w'.order.riderId.isSome

/-- What a row claims is so. -/
structure Dispatching.Supports (s : Dispatching) (row : DispatchEvent) : Prop where
  attempt : 1 ≤ row.attempt ∧ row.attempt ≤ MAX_RETRIES
  assigned : row.outcome = .assigned → row.riderId.isSome ∧ row.riderId = s.world.order.riderId
  raceLost : row.outcome = .raceLost → s.world.order.riderId.isSome

structure AuditAgrees (s : Dispatching) : Prop where
  rows : ∀ row ∈ s.events, s.Supports row
  one : (s.events.filter fun row => row.outcome == .assigned).length ≤ 1

/-- The round an attempt is in, from 0. -/
def TryDispatch.round : TryDispatch → Option ℕ
  | .called _ attempt | .dispatchOrder attempt | .searching attempt | .chosen attempt .. | .noRider attempt => some attempt
  | _ => none

/-- The thread is about to log its assignment. -/
def DispatchThread.reports : DispatchThread → Bool
  | .logDispatchEvent row _ => row.outcome == .assigned
  | _ => false

def AuditLocal (s : Dispatching) : DispatchThread → Prop
  | .run t => ∀ attempt ∈ t.round, attempt < MAX_RETRIES
  | .logDispatchEvent row next =>
    (∀ attempt ∈ next.round, attempt < MAX_RETRIES) ∧ s.Supports row ∧
      (row.outcome = .assigned → ∀ r ∈ s.events, r.outcome ≠ .assigned)
  | .cancelPreOrder _ => True

structure AuditInv (s : Dispatching) : Prop where
  agrees : AuditAgrees s
  queue : ∀ job ∈ s.retryQueue, job.attempt < MAX_RETRIES

section

variable {s s' : Dispatching} {us ts : List DispatchThread} {t u : DispatchThread} {a : Answer} {w w' : World}

theorem RiderWritten.refl (w : World) : RiderWritten w w := .inl ⟨rfl, rfl⟩

theorem RiderWritten.trans {w₁ w₂ w₃ : World} (h : RiderWritten w₁ w₂) (h' : RiderWritten w₂ w₃) :
    RiderWritten w₁ w₃ := by
  rcases h with ⟨hr, ha⟩ | ⟨hnone, hsome⟩
  · rcases h' with ⟨hr', ha'⟩ | ⟨hnone', hsome'⟩
    · exact .inl ⟨hr'.trans hr, ha'.trans ha⟩
    · exact .inr ⟨hr ▸ hnone', hsome'⟩
  · rcases h' with ⟨hr', -⟩ | ⟨-, hsome'⟩
    · exact .inr ⟨hnone, hr' ▸ hsome⟩
    · exact .inr ⟨hnone, hsome'⟩

/-- A rider stays. -/
theorem RiderWritten.fixed (h : RiderWritten w w') (hsome : w.order.riderId.isSome) :
    w'.order.riderId = w.order.riderId ∧ w'.order.assignedAt = w.order.assignedAt := by
  rcases h with h | ⟨hnone, -⟩
  · exact h
  · rw [hnone] at hsome
    cases hsome

theorem move_written (h : DispatchMove s t a s' ts) : RiderWritten s.world s'.world := by
  cases h with
  | assigned free => exact .inr ⟨free, rfl⟩
  | cancelPreOrder ho => cases ho <;> exact .refl _
  | _ => exact .refl _

theorem arrival_written {n : DispatchCall} (h : DispatchArrival s n s' ts) : RiderWritten s.world s'.world := by
  cases h <;> exact .refl _

/-- Nothing else writes the two columns. -/
theorem written_reach {ok : Guard Dispatching DispatchThread DispatchCall Answer} {p q : Pool Dispatching DispatchThread}
    (h : dispatchMachine.Reach ok p q) : RiderWritten p.shared.world q.shared.world := by
  refine h.invariant (J := fun s _ => RiderWritten p.shared.world s.world) (.refl _) ?_ ?_
  · intro s us n s' ts _ hI _ hev
    exact hI.trans (arrival_written (dispatchEvent_cases hev))
  · intro s us vs t a s' ts _ hI _ hst
    exact hI.trans (move_written (dispatchStep_cases hst))

theorem Dispatching.Supports.keep {row : DispatchEvent} (h : s.Supports row) (hw : RiderWritten s.world s'.world) :
    s'.Supports row := by
  refine ⟨h.attempt, fun ha => ?_, fun hl => ?_⟩
  · obtain ⟨hsome, heq⟩ := h.assigned ha
    refine ⟨hsome, heq.trans ?_⟩
    rw [heq] at hsome
    exact (hw.fixed hsome).1.symm
  · rw [(hw.fixed (h.raceLost hl)).1]
    exact h.raceLost hl

theorem AuditLocal.keep (h : AuditLocal s u) (hw : RiderWritten s.world s'.world) (hev : s'.events = s.events) :
    AuditLocal s' u := by
  cases u with
  | run t => exact h
  | logDispatchEvent row next =>
    obtain ⟨hround, hrow, hfirst⟩ := h
    refine ⟨hround, hrow.keep hw, ?_⟩
    rw [hev]
    exact hfirst
  | cancelPreOrder t => trivial

theorem AuditInv.keep (h : AuditInv s) (hw : RiderWritten s.world s'.world) (hev : s'.events = s.events)
    (hqueue : ∀ job ∈ s'.retryQueue, job.attempt < MAX_RETRIES) : AuditInv s' := by
  refine ⟨⟨?_, ?_⟩, hqueue⟩
  · rw [hev]
    exact fun row hrow => (h.agrees.rows row hrow).keep hw
  · rw [hev]
    exact h.agrees.one

/-- A row of its own kind can be added once. -/
theorem AuditInv.log {row : DispatchEvent} (h : AuditInv s) (hrow : s.Supports row)
    (hfirst : row.outcome = .assigned → ∀ r ∈ s.events, r.outcome ≠ .assigned) :
    AuditInv { s with events := s.events ++ [row] } := by
  refine ⟨⟨fun r hr => ?_, ?_⟩, h.queue⟩
  · rcases List.mem_append.1 hr with hr | hr
    · exact (h.agrees.rows r hr).keep (.refl _)
    · obtain rfl := List.mem_singleton.1 hr
      exact hrow.keep (.refl _)
  · rw [List.filter_append, List.length_append]
    by_cases ha : row.outcome = .assigned
    · have hnil : s.events.filter (fun row => row.outcome == .assigned) = [] := by
        simpa [List.filter_eq_nil_iff] using hfirst ha
      simp [hnil, ha]
    · simpa [ha] using h.agrees.one

theorem AuditLocal.apart_log {row : DispatchEvent} {next : TryDispatch} (h : AuditLocal s u)
    (hx : Exclusive DispatchThread.reports (.logDispatchEvent row next) u) :
    AuditLocal { s with events := s.events ++ [row] } u := by
  cases u with
  | run t => exact h
  | cancelPreOrder t => trivial
  | logDispatchEvent row' next' =>
    obtain ⟨hround, hrow, hfirst⟩ := h
    refine ⟨hround, hrow.keep (.refl _), fun ha r hr => ?_⟩
    rcases List.mem_append.1 hr with hr | hr
    · exact hfirst ha r hr
    · obtain rfl := List.mem_singleton.1 hr
      exact fun hr => hx (by simp [DispatchThread.reports, hr, ha])

/-- A step that logs nothing and leaves a thread that reports no assignment. -/
theorem moved_quiet {t' : DispatchThread} (hI : AuditInv s)
    (hus : ∀ u ∈ us, AuditLocal s u ∧ Exclusive DispatchThread.reports t u) (hw : RiderWritten s.world s'.world)
    (hev : s'.events = s.events) (hqueue : ∀ job ∈ s'.retryQueue, job.attempt < MAX_RETRIES)
    (hL : AuditLocal s' t') (hidle : t'.reports = false) :
    Moved AuditInv AuditLocal (Exclusive DispatchThread.reports) us s' [t'] :=
  .one (hI.keep hw hev hqueue) hL fun u hu => ⟨(hus u hu).1.keep hw hev, .idle _ hidle⟩

theorem audit_moved (hI : AuditInv s) (hL : AuditLocal s t)
    (hus : ∀ u ∈ us, AuditLocal s u ∧ Exclusive DispatchThread.reports t u) (h : DispatchMove s t a s' ts) :
    Moved AuditInv AuditLocal (Exclusive DispatchThread.reports) us s' ts := by
  have hw := move_written h
  cases h with
  | left => exact moved_quiet hI hus hw rfl hI.queue (by simp [AuditLocal, TryDispatch.round]) rfl
  | checked | taken | searching | chosen => exact moved_quiet hI hus hw rfl hI.queue hL rfl
  | giveUp | expiring | expired =>
    exact moved_quiet hI hus hw rfl hI.queue (by simp [AuditLocal, TryDispatch.round]) rfl
  | @noCandidate attempt =>
    have hround : attempt < MAX_RETRIES := hL _ rfl
    refine moved_quiet hI hus hw rfl hI.queue ⟨hL, ⟨⟨Nat.succ_pos _, hround⟩, ?_, ?_⟩, ?_⟩ rfl <;>
      exact fun hrow => by cases hrow
  | @raceLost attempt rider now held =>
    have hround : attempt < MAX_RETRIES := hL _ rfl
    refine moved_quiet hI hus hw rfl hI.queue ⟨hL, ⟨⟨Nat.succ_pos _, hround⟩, ?_, ?_⟩, ?_⟩ rfl
    · exact fun hrow => by cases hrow
    · exact fun _ => Option.isSome_iff_ne_none.2 held
    · exact fun hrow => by cases hrow
  | @assigned attempt rider now free =>
    have hround : attempt < MAX_RETRIES := hL _ rfl
    -- nobody has logged an assignment, or is about to
    have hfirst : ∀ r ∈ s.events, r.outcome ≠ .assigned := fun r hr ha => by
      obtain ⟨hsome, heq⟩ := (hI.agrees.rows r hr).assigned ha
      rw [heq, free] at hsome
      cases hsome
    have hothers : ∀ u ∈ us, u.reports = false := fun u hu => by
      cases u with
      | logDispatchEvent row next =>
        by_contra hrep
        have ha : row.outcome = .assigned := by simpa [DispatchThread.reports] using hrep
        obtain ⟨hsome, heq⟩ := (hus _ hu).1.2.1.assigned ha
        rw [heq, free] at hsome
        cases hsome
      | _ => rfl
    refine .one (hI.keep hw rfl hI.queue) ⟨by simp [TryDispatch.round], ⟨⟨Nat.succ_pos _, hround⟩, ?_, ?_⟩, ?_⟩
      fun u hu => ⟨(hus u hu).1.keep hw rfl, (Exclusive.idle _ (hothers u hu)).symm⟩
    · exact fun _ => ⟨rfl, rfl⟩
    · exact fun hrow => by cases hrow
    · exact fun _ => hfirst
  | @retry attempt more =>
    refine moved_quiet hI hus hw rfl (fun job hjob => ?_) (by simp [AuditLocal, TryDispatch.round]) rfl
    rcases mem_addJob hjob with hjob | rfl
    · exact hI.queue job hjob
    · have hlast : attempt < MAX_RETRIES - 1 := more
      exact Nat.add_lt_of_lt_sub hlast
  | logged =>
    obtain ⟨hround, hrow, hfirst⟩ := hL
    exact .one (hI.log hrow hfirst) hround fun u hu =>
      ⟨(hus u hu).1.apart_log (hus u hu).2, .idle _ rfl⟩
  | unlogged => exact moved_quiet hI hus hw rfl hI.queue hL.1 rfl
  | cancelPreOrder ho => exact moved_quiet hI hus hw rfl hI.queue trivial rfl

theorem audit_arrival {n : DispatchCall} (hI : AuditInv s) (hus : ∀ u ∈ us, AuditLocal s u)
    (h : DispatchArrival s n s' ts) :
    Moved AuditInv AuditLocal (Exclusive DispatchThread.reports) us s' ts := by
  have hw := arrival_written h
  cases h with
  | tick => exact .zero (hI.keep hw rfl hI.queue) fun u hu => (hus u hu).keep hw rfl
  | orderAccepted =>
    refine .one hI (fun attempt hround => ?_) fun u hu => ⟨hus u hu, .idle _ rfl⟩
    obtain rfl := Option.some.inj hround
    decide
  | @runRetry attempt job waits =>
    refine .one (hI.keep hw rfl fun job hjob => hI.queue job (List.mem_of_mem_filter hjob)) ?_
      fun u hu => ⟨(hus u hu).keep hw rfl, .idle _ rfl⟩
    intro attempt hround
    obtain rfl := Option.some.inj hround
    exact hI.queue job waits
  | vendorCancelPreOrder => exact .one hI trivial fun u hu => ⟨hus u hu, .idle _ rfl⟩

theorem audit_reach {ok : Guard Dispatching DispatchThread DispatchCall Answer} {w : World}
    {q : Pool Dispatching DispatchThread} (h : dispatchMachine.Reach ok ⟨.start w, []⟩ q) :
    Sat AuditInv AuditLocal (Exclusive DispatchThread.reports) q.shared q.threads := by
  refine h.sat (fun _ _ => Exclusive.symm _) ⟨?_, by simp, .nil⟩ ?_ ?_
  · exact ⟨⟨by simp [Dispatching.start], by simp [Dispatching.start]⟩, by simp [Dispatching.start]⟩
  · intro s us n s' ts _ hI hus _ hev
    exact audit_arrival hI hus (dispatchEvent_cases hev)
  · intro s us vs t a s' ts _ hI hL hus _ hst
    exact audit_moved hI hL hus (dispatchStep_cases hst)

end

/-- From any point of a run to any later one, the rider is written once at most and
stays, and what the rows say at the later point is so. -/
theorem one_rider_audited {ok : Guard Dispatching DispatchThread DispatchCall Answer} {w : World}
    {p q : Pool Dispatching DispatchThread} (hp : dispatchMachine.Reach ok ⟨.start w, []⟩ p)
    (hq : dispatchMachine.Reach ok p q) : RiderWritten p.shared.world q.shared.world ∧ AuditAgrees q.shared :=
  ⟨written_reach hq, (audit_reach (hp.trans hq)).shared.agrees⟩

/-- The example order in the kitchen. -/
def exampleAcceptedOrder : Order := { exampleOrder with status := .accepted, acceptedAt := some 0 }

/-- ORDER_ACCEPTED arrives twice, and both attempts pick a rider before either is assigned. -/
def exampleTwoChosen : List (Act DispatchCall Answer) :=
  [.event .orderAccepted, .step 0 (.reply .ok), .step 0 (.reply .ok), .step 0 (.candidate (some 5)),
    .event .orderAccepted, .step 0 (.reply .ok), .step 0 (.reply .ok), .step 0 (.candidate (some 6))]

/-- The second of them is assigned, and both say so in the log. -/
theorem lost_race_audited :
    ∃ p q, dispatchMachine.Reach anyMove ⟨.start (.start exampleAcceptedOrder), []⟩ p ∧
      dispatchMachine.Reach anyMove p q ∧ p.shared.world.order.riderId = none ∧
      q.shared.events = [⟨1, .assigned, some 6⟩, ⟨1, .raceLost, some 5⟩] ∧
      RiderWritten p.shared.world q.shared.world ∧ AuditAgrees q.shared := by
  obtain ⟨p, q, hp, hq, ht⟩ := Machine.reach_of_stop dispatchMachine anyMove (fun _ _ _ => true)
    (fun _ _ _ _ => trivial) ⟨.start (.start exampleAcceptedOrder), []⟩ exampleTwoChosen
    [.step 0 (.reply .ok), .step 1 (.reply .ok), .step 1 (.reply .ok), .step 1 (.reply .ok)]
    (fun p q => p.shared.world.order.riderId == none &&
      q.shared.events == [⟨1, .assigned, some 6⟩, ⟨1, .raceLost, some 5⟩])
    (by decide +kernel)
  simp only [Bool.and_eq_true, beq_iff_eq] at ht
  exact ⟨p, q, hp, hq, ht.1, ht.2, one_rider_audited hp hq⟩

end ChopNow
