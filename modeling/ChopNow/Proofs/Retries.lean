import ChopNow.Spec.RetryChain

/-! The chain of attempts ends. The loop runs through the retry queue: the job that waits carries
the number of the attempt after the one that has just failed. -/

namespace ChopNow

/-! What a chain has done. -/

/-- How a chain ends. -/
inductive Ending
  | assigned (rider : RiderId)
  | notDispatchable
  | gaveUp (wrote : Bool)
  deriving DecidableEq, Repr

def ChainAction.run? : ChainAction → Option DispatchRun
  | .dispatchOrder run => some run
  | _ => none

def ChainAction.job? : ChainAction → Option DispatchRetryJob
  | .add job => some job
  | _ => none

def ChainAction.ending? : ChainAction → Option Ending
  | .notDispatchable => some .notDispatchable
  | .dispatchOrder run => run.result.map .assigned
  | .add _ => none
  | .expireForNoRider _ wrote => some (.gaveUp wrote)

/-- The calls of dispatchOrder. -/
def Chain.calls (c : Chain) : List DispatchRun := c.log.filterMap ChainAction.run?

def Chain.added (c : Chain) : List DispatchRetryJob := c.log.filterMap ChainAction.job?

def Chain.endings (c : Chain) : List Ending := c.log.filterMap ChainAction.ending?

/-- It returned null, and attempts remain. -/
def DispatchRun.leavesRetry (run : DispatchRun) : Bool := run.result.isNone && run.attempt < MAX_RETRIES

structure Chain.Complete (orderId : OrderId) (vendorId : VendorId) (c : Chain) : Prop where
  bounded : c.calls.length ≤ MAX_RETRIES
  numbered : c.calls.map (·.attempt) = List.range' 1 c.calls.length
  same : ∀ run ∈ c.calls, run.orderId = orderId ∧ run.vendorId = vendorId
  retries : c.added = (c.calls.filter DispatchRun.leavesRetry).map fun run => retryJob orderId vendorId run.attempt
  waits : c.queue = [] ∨ c.queue = [retryJob orderId vendorId c.calls.length]
  goesOn : c.queue ≠ [] → c.endings = []
  ends : c.queue = [] → ∃ e, c.endings = [e] ∧ c.log.getLast?.bind ChainAction.ending? = some e ∧
    ∀ wrote, e = .gaveUp wrote → c.calls.length = MAX_RETRIES ∧ ∀ run ∈ c.calls, run.result = none

section

variable {orderId : OrderId} {vendorId : VendorId} {n : ℕ} {c : Chain} {past actions : List ChainAction}

/-- What one attempt does. -/
inductive Attempted (orderId : OrderId) (vendorId : VendorId) (attempt : ℕ) : List ChainAction → Prop
  | notDispatchable : Attempted orderId vendorId attempt [.notDispatchable]
  | assigned {event rider} :
    Attempted orderId vendorId attempt [.dispatchOrder ⟨orderId, vendorId, attempt + 1, event, some rider⟩]
  | retried {event} (more : attempt < MAX_RETRIES - 1) :
    Attempted orderId vendorId attempt
      [.dispatchOrder ⟨orderId, vendorId, attempt + 1, event, none⟩, .add (retryJob orderId vendorId (attempt + 1))]
  | gaveUp {event wrote} (last : ¬attempt < MAX_RETRIES - 1) :
    Attempted orderId vendorId attempt
      [.dispatchOrder ⟨orderId, vendorId, attempt + 1, event, none⟩, .expireForNoRider orderId wrote]

theorem tryDispatch_cases (reads : AttemptReads) (orderId : OrderId) (vendorId : VendorId) (attempt : ℕ) :
    Attempted orderId vendorId attempt (tryDispatch reads orderId vendorId attempt) := by
  unfold tryDispatch
  split
  · exact .notDispatchable
  · split
    · exact .notDispatchable
    · split
      · exact .notDispatchable
      · dsimp only
        rcases dispatchOrder reads (attempt + 1) with ⟨event, rider | rider⟩
        · split
          · next h => cases h
          · split
            · exact .retried ‹_›
            · exact .gaveUp ‹_›
        · exact .assigned

/-- As many attempts found nobody, and each left a job. -/
inductive Failed (orderId : OrderId) (vendorId : VendorId) : ℕ → List ChainAction → Prop
  | nil : Failed orderId vendorId 0 []
  | round {n : ℕ} {past : List ChainAction} (event : Option DispatchEvent) (before : Failed orderId vendorId n past)
    (more : n < MAX_RETRIES - 1) :
    Failed orderId vendorId (n + 1) (past ++ [.dispatchOrder ⟨orderId, vendorId, n + 1, event, none⟩,
      .add (retryJob orderId vendorId (n + 1))])

/-- After `n` jobs: `n` attempts that failed, and one more; what it added waits. -/
structure Chain.After (orderId : OrderId) (vendorId : VendorId) (n : ℕ) (c : Chain) : Prop where
  rounds : ∃ past actions, Failed orderId vendorId n past ∧ Attempted orderId vendorId n actions ∧
    c.log = past ++ actions ∧ c.queue = actions.filterMap ChainAction.job?

theorem Attempted.perform (h : Attempted orderId vendorId n actions) (past : List ChainAction) :
    Chain.perform ⟨[], past⟩ actions = ⟨actions.filterMap ChainAction.job?, past ++ actions⟩ := by
  cases h <;> simp [Chain.perform, Chain.act, ChainAction.job?, List.filterMap_cons]

/-- The worker hands the job on as it is. -/
theorem process_retryJob (h : c.queue = [retryJob orderId vendorId n]) (reads : AttemptReads) :
    c.process reads (retryJob orderId vendorId n) =
      Chain.perform ⟨[], c.log⟩ (tryDispatch reads orderId vendorId n) := by
  have htaken : c.queue.erase (retryJob orderId vendorId n) = [] := by rw [h, List.erase_cons_head]
  unfold Chain.process
  rw [if_neg (show ¬(retryJob orderId vendorId n).name ≠ DISPATCH_RETRY_JOB from not_not.2 rfl), htaken]
  rfl

theorem run_after (h : Chain.Run orderId vendorId n c) : c.After orderId vendorId n := by
  induction h with
  | accepted reads =>
    have hfirst := tryDispatch_cases reads orderId vendorId 0
    refine ⟨[], _, .nil, hfirst, ?_⟩
    rw [onOrderAccepted, hfirst.perform]
    exact ⟨rfl, rfl⟩
  | @job n c job reads _ hjob ih =>
    obtain ⟨past, actions, hfailed, hactions, hlog, hqueue⟩ := ih
    rw [hqueue] at hjob
    cases hactions with
    | notDispatchable | assigned | gaveUp => cases hjob
    | @retried event more =>
      obtain rfl := List.mem_singleton.1 hjob
      have hnext := tryDispatch_cases reads orderId vendorId (n + 1)
      rw [process_retryJob hqueue, hnext.perform, hlog]
      exact ⟨_, _, .round event hfailed more, hnext, rfl, rfl⟩

/-! The log, read from the front. -/

theorem Failed.lt (h : Failed orderId vendorId n past) : n < MAX_RETRIES := by
  cases h with
  | nil => decide
  | round event before more => exact Nat.add_lt_of_lt_sub more

theorem Failed.numbered (h : Failed orderId vendorId n past) :
    (past.filterMap ChainAction.run?).map (·.attempt) = List.range' 1 n := by
  induction h with
  | nil => rfl
  | round event before more ih =>
    rw [List.filterMap_append, List.map_append, ih, List.range'_concat, Nat.one_mul, Nat.add_comm 1]
    rfl

theorem Failed.runs (h : Failed orderId vendorId n past) : ∀ run ∈ past.filterMap ChainAction.run?,
    run.orderId = orderId ∧ run.vendorId = vendorId ∧ run.result = none ∧ run.attempt < MAX_RETRIES := by
  induction h with
  | nil => simp
  | round event before more ih =>
    rw [List.filterMap_append, List.forall_mem_append]
    refine ⟨ih, fun run hrun => ?_⟩
    obtain rfl := List.mem_singleton.1 hrun
    exact ⟨rfl, rfl, rfl, Nat.add_lt_of_lt_sub more⟩

theorem Failed.jobs (h : Failed orderId vendorId n past) : past.filterMap ChainAction.job? =
    (past.filterMap ChainAction.run?).map fun run => retryJob orderId vendorId run.attempt := by
  induction h with
  | nil => rfl
  | round event before more ih =>
    rw [List.filterMap_append, List.filterMap_append, List.map_append, ih]
    rfl

theorem Failed.noEnding (h : Failed orderId vendorId n past) : past.filterMap ChainAction.ending? = [] := by
  induction h with
  | nil => rfl
  | round event before more ih =>
    rw [List.filterMap_append, ih]
    rfl

theorem Attempted.call (h : Attempted orderId vendorId n actions) : actions.filterMap ChainAction.run? = [] ∨
    ∃ event result, actions.filterMap ChainAction.run? = [⟨orderId, vendorId, n + 1, event, result⟩] := by
  cases h with
  | notDispatchable => exact .inl rfl
  | assigned | retried | gaveUp => exact .inr ⟨_, _, rfl⟩

theorem Attempted.length_le (h : Attempted orderId vendorId n actions) :
    (actions.filterMap ChainAction.run?).length ≤ 1 := by
  rcases h.call with hnone | ⟨event, result, hone⟩
  · rw [hnone]
    exact Nat.zero_le 1
  · rw [hone]
    exact le_rfl

theorem Attempted.numbered (h : Attempted orderId vendorId n actions) :
    (actions.filterMap ChainAction.run?).map (·.attempt) = List.range' (1 + n) (actions.filterMap ChainAction.run?).length := by
  rw [Nat.add_comm]
  rcases h.call with hnone | ⟨event, result, hone⟩
  · rw [hnone]
    rfl
  · rw [hone]
    rfl

theorem Attempted.same (h : Attempted orderId vendorId n actions) :
    ∀ run ∈ actions.filterMap ChainAction.run?, run.orderId = orderId ∧ run.vendorId = vendorId := by
  intro run hrun
  rcases h.call with hnone | ⟨event, result, hone⟩
  · rw [hnone] at hrun
    cases hrun
  · rw [hone] at hrun
    obtain rfl := List.mem_singleton.1 hrun
    exact ⟨rfl, rfl⟩

theorem Attempted.jobs (h : Attempted orderId vendorId n actions) : actions.filterMap ChainAction.job? =
    ((actions.filterMap ChainAction.run?).filter DispatchRun.leavesRetry).map fun run =>
      retryJob orderId vendorId run.attempt := by
  cases h with
  | notDispatchable | assigned => rfl
  | @retried event more =>
    have hleaves : DispatchRun.leavesRetry ⟨orderId, vendorId, n + 1, event, none⟩ = true :=
      decide_eq_true (Nat.add_lt_of_lt_sub more)
    change [retryJob orderId vendorId (n + 1)] = List.map _ (List.filter _ [_])
    rw [List.filter_cons_of_pos hleaves]
    rfl
  | @gaveUp event wrote last =>
    have hlast : DispatchRun.leavesRetry ⟨orderId, vendorId, n + 1, event, none⟩ ≠ true :=
      fun h => last (Nat.lt_sub_of_add_lt (of_decide_eq_true h))
    change [] = List.map _ (List.filter _ [_])
    rw [List.filter_cons_of_neg hlast]
    rfl

theorem Attempted.waits (h : Attempted orderId vendorId n actions) : actions.filterMap ChainAction.job? = [] ∨
    actions.filterMap ChainAction.job? =
      [retryJob orderId vendorId (n + (actions.filterMap ChainAction.run?).length)] := by
  cases h with
  | notDispatchable | assigned | gaveUp => exact .inl rfl
  | retried => exact .inr rfl

/-- An attempt that leaves no job ends the chain. -/
theorem Attempted.ends (h : Attempted orderId vendorId n actions) :
    (actions.filterMap ChainAction.job? ≠ [] → actions.filterMap ChainAction.ending? = []) ∧
    (actions.filterMap ChainAction.job? = [] → ∃ e, actions.filterMap ChainAction.ending? = [e] ∧
      actions.getLast?.bind ChainAction.ending? = some e ∧
      ∀ wrote, e = .gaveUp wrote → MAX_RETRIES ≤ n + 1 ∧
        ∃ event, actions.filterMap ChainAction.run? = [⟨orderId, vendorId, n + 1, event, none⟩]) := by
  cases h with
  | notDispatchable => exact ⟨fun h => absurd rfl h, fun _ => ⟨_, rfl, rfl, by simp⟩⟩
  | assigned => exact ⟨fun h => absurd rfl h, fun _ => ⟨_, rfl, rfl, by simp⟩⟩
  | retried more => exact ⟨fun _ => rfl, fun h => by cases h⟩
  | gaveUp last =>
    refine ⟨fun h => absurd rfl h, fun _ => ⟨_, rfl, rfl, fun _ _ => ⟨?_, _, rfl⟩⟩⟩
    exact not_lt.1 fun hlt => last (Nat.lt_sub_of_add_lt hlt)

theorem getLast?_after {e : Ending} (h : actions.getLast?.bind ChainAction.ending? = some e) :
    (past ++ actions).getLast? = actions.getLast? := by
  rw [List.getLast?_append]
  cases hend : actions.getLast? with
  | none =>
    rw [hend] at h
    cases h
  | some action => rfl

theorem Chain.After.complete (h : c.After orderId vendorId n) : c.Complete orderId vendorId := by
  obtain ⟨past, actions, hfailed, hactions, hlog, hqueue⟩ := h
  have hpast : (past.filterMap ChainAction.run?).length = n := by
    have hlength := congrArg List.length hfailed.numbered
    rwa [List.length_map, List.length_range'] at hlength
  have hcalls : c.calls = past.filterMap ChainAction.run? ++ actions.filterMap ChainAction.run? := by
    rw [Chain.calls, hlog, List.filterMap_append]
  have hendings : c.endings = actions.filterMap ChainAction.ending? := by
    rw [Chain.endings, hlog, List.filterMap_append, hfailed.noEnding, List.nil_append]
  have hkept : (past.filterMap ChainAction.run?).filter DispatchRun.leavesRetry = past.filterMap ChainAction.run? :=
    List.filter_eq_self.2 fun run hrun => by
      obtain ⟨-, -, hnull, hlt⟩ := hfailed.runs run hrun
      simp [DispatchRun.leavesRetry, hnull, hlt]
  have hlt := hfailed.lt
  refine ⟨?_, ?_, fun run hrun => ?_, ?_, ?_, fun hne => ?_, fun hnil => ?_⟩
  · rw [hcalls, List.length_append, hpast]
    exact (Nat.add_le_add_left hactions.length_le n).trans hlt
  · rw [hcalls, List.map_append, hfailed.numbered, hactions.numbered, List.range'_append_1, List.length_append, hpast]
  · rw [hcalls] at hrun
    rcases List.mem_append.1 hrun with hrun | hrun
    · obtain ⟨ho, hv, -⟩ := hfailed.runs run hrun
      exact ⟨ho, hv⟩
    · exact hactions.same run hrun
  · rw [Chain.added, hlog, List.filterMap_append, hfailed.jobs, hactions.jobs, hcalls, List.filter_append, hkept,
      List.map_append]
  · rw [hqueue, hcalls, List.length_append, hpast]
    exact hactions.waits
  · rw [hendings]
    exact hactions.ends.1 (hqueue ▸ hne)
  · obtain ⟨e, he, hlast, hgave⟩ := hactions.ends.2 (hqueue ▸ hnil)
    refine ⟨e, hendings.trans he, ?_, fun wrote hwrote => ?_⟩
    · rw [hlog, getLast?_after hlast]
      exact hlast
    · obtain ⟨hmax, event, hone⟩ := hgave wrote hwrote
      rw [hcalls, hone]
      refine ⟨?_, fun run hrun => ?_⟩
      · rw [List.length_append, hpast]
        exact le_antisymm hlt hmax
      · rcases List.mem_append.1 hrun with hrun | hrun
        · exact (hfailed.runs run hrun).2.2.1
        · rw [List.mem_singleton.1 hrun]

/-- However its attempts turn out, the chain runs at most `MAX_RETRIES` of them, from 1 on and in
order, adds the next one after each that found nobody, and ends in one way only. -/
theorem retry_chain_complete (h : Chain.Run orderId vendorId n c) : n < MAX_RETRIES ∧ c.Complete orderId vendorId := by
  have hafter := run_after h
  obtain ⟨past, actions, hfailed, -⟩ := hafter.rounds
  exact ⟨hfailed.lt, hafter.complete⟩

end

def nobodyNear : AttemptReads :=
  { current := some ⟨.accepted, none⟩, order := some none, vendor := some 1, candidates := [], count := 0,
    toExpire := some .accepted }

def riderNear : AttemptReads := { nobodyNear with candidates := [7], count := 1 }

theorem secondAttempt : Chain.Run 5 1 1 ((onOrderAccepted nobodyNear 5 1).process riderNear (retryJob 5 1 1)) :=
  .job (retryJob 5 1 1) riderNear (.accepted nobodyNear) (by decide)

/-- Nobody is near at first, and rider 7 half a minute later. -/
theorem second_attempt_assigns : ∃ c, Chain.Run 5 1 1 c ∧ c.calls.map (·.attempt) = [1, 2] ∧
    c.endings = [.assigned 7] ∧ 1 < MAX_RETRIES ∧ c.Complete 5 1 :=
  ⟨_, secondAttempt, by decide, by decide, retry_chain_complete secondAttempt⟩

end ChopNow
