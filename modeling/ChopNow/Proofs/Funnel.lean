import ChopNow.Lib.Table
import ChopNow.Proofs.Retries
import ChopNow.Spec.Funnel

/-! The funnel of a time window counts the chains that ended in it. The query sees rows of attempts
only; a chain that found a rider has left one row that says so, and its number is the chain's length. -/

namespace ChopNow

/-- How an order got its rider. -/
structure Assignment where
  orderId : OrderId
  attempts : ℕ
  riderId : RiderId
  deriving DecidableEq, Repr

def Ending.riderId? : Ending → Option RiderId
  | .assigned rider => some rider
  | _ => none

def Ending.isGaveUp : Ending → Bool
  | .gaveUp _ => true
  | _ => false

def StartedChain.assignment? (s : StartedChain) : Option Assignment :=
  (s.chain.endings.head?.bind Ending.riderId?).map fun rider => ⟨s.orderId, s.chain.calls.length, rider⟩

def DispatchRun.foundNobody (run : DispatchRun) : Bool := run.event.any fun event => event.outcome = .noCandidate

/-- The order of a chain that gave up, with nobody in range at its last attempt. -/
def StartedChain.noRider? (s : StartedChain) : Option OrderId :=
  if s.chain.endings.any Ending.isGaveUp && s.chain.calls.getLast?.any DispatchRun.foundNobody then some s.orderId
  else none

def DispatchLog.assignments (log : DispatchLog) : List Assignment := log.chains.filterMap StartedChain.assignment?

def DispatchLog.noRider (log : DispatchLog) : List OrderId := log.chains.filterMap StartedChain.noRider?

def LoggedEvent.assignment? (row : LoggedEvent) : Option Assignment :=
  if row.isAssigned then row.event.riderId.map fun rider => ⟨row.orderId, row.event.attempt, rider⟩ else none

def LoggedEvent.noRider? (row : LoggedEvent) : Option OrderId := if row.gaveUp then some row.orderId else none

section

variable {orderId : OrderId} {vendorId : VendorId} {n : ℕ} {c : Chain} {past actions : List ChainAction} {reads : AttemptReads}
  {now : Time} {log log' log'' : DispatchLog} {rows rows' : List LoggedEvent}

/-! One attempt: its row says what its chain came to. -/

/-- The row agrees with what dispatchOrder returned. -/
structure DispatchRun.Logged (run : DispatchRun) : Prop where
  attempt : ∀ event ∈ run.event, event.attempt = run.attempt
  found : ∀ rider ∈ run.result, run.event = some ⟨run.attempt, .assigned, some rider⟩
  nobody : run.result = none → ∀ event ∈ run.event, event.outcome ≠ .assigned

theorem dispatchOrder_logged (reads : AttemptReads) (orderId : OrderId) (vendorId : VendorId) (attempt : ℕ) :
    DispatchRun.Logged ⟨orderId, vendorId, attempt, (dispatchOrder reads attempt).1, (dispatchOrder reads attempt).2⟩ := by
  unfold dispatchOrder
  split
  · exact ⟨by simp, by simp, by simp⟩
  · exact ⟨by simp, by simp, by simp⟩
  · split
    · exact ⟨by simp, by simp, by simp⟩
    · split
      · exact ⟨by simp, by simp, by simp⟩
      · split
        · exact ⟨by simp, by simp, by simp⟩
        · exact ⟨by simp, by simp, by simp⟩

theorem tryDispatch_logged {run : DispatchRun}
    (h : run ∈ (tryDispatch reads orderId vendorId n).filterMap ChainAction.run?) : run.Logged := by
  unfold tryDispatch at h
  split at h
  · cases h
  · split at h
    · cases h
    · split at h
      · cases h
      · dsimp only at h
        rw [List.filterMap_cons_some (show ChainAction.run? (.dispatchOrder _) = some _ from rfl)] at h
        rcases List.mem_cons.1 h with rfl | htail
        · exact dispatchOrder_logged reads orderId vendorId (n + 1)
        · split at htail
          · cases htail
          · split at htail <;> cases htail

/-- What one more attempt adds to the rows, and what its chain adds to the answer. -/
structure Tallied (s : StartedChain) (rows : List LoggedEvent) : Prop where
  assigned : s.assignment?.toList = rows.filterMap LoggedEvent.assignment?
  noRider : s.noRider?.toList = rows.filterMap LoggedEvent.noRider?
  order : ∀ row ∈ rows, row.orderId = s.orderId
  rider : ∀ row ∈ rows, row.isAssigned → row.event.riderId.isSome

theorem Failed.calls_length (h : Failed orderId vendorId n past) : (past.filterMap ChainAction.run?).length = n := by
  have hlength := congrArg List.length h.numbered
  rwa [List.length_map, List.length_range'] at hlength

/-- A chain, read at its last attempt. -/
theorem Failed.then (h : Failed orderId vendorId n past) (hlog : c.log = past ++ actions) :
    c.endings = actions.filterMap ChainAction.ending? ∧
      c.calls.length = n + (actions.filterMap ChainAction.run?).length ∧
      c.calls = past.filterMap ChainAction.run? ++ actions.filterMap ChainAction.run? := by
  have hcalls : c.calls = past.filterMap ChainAction.run? ++ actions.filterMap ChainAction.run? := by
    rw [Chain.calls, hlog, List.filterMap_append]
  refine ⟨?_, ?_, hcalls⟩
  · rw [Chain.endings, hlog, List.filterMap_append, h.noEnding, List.nil_append]
  · rw [hcalls, List.length_append, h.calls_length]

/-- An attempt that found nobody counts where the chain gives up after it. -/
theorem DispatchRun.Logged.nobody_tallied {run : DispatchRun} {s : StartedChain} (h : run.Logged) (hnone : run.result = none)
    (horder : run.orderId = s.orderId) (hassigned : s.assignment? = none)
    (hnoRider : s.noRider? = if run.foundNobody && 10 ≤ run.attempt then some s.orderId else none)
    (hrows : rows = (ChainAction.row? now (.dispatchOrder run)).toList) : Tallied s rows := by
  have hnobody := h.nobody hnone
  have hattempt := h.attempt
  rw [ChainAction.row?] at hrows
  cases hevent : run.event with
  | none =>
    rw [hevent] at hrows
    subst hrows
    refine ⟨by rw [hassigned]; rfl, ?_, by simp, by simp⟩
    rw [hnoRider, DispatchRun.foundNobody, hevent]
    rfl
  | some event =>
    rw [hevent] at hrows hnobody hattempt
    have hnot : event.outcome ≠ .assigned := hnobody event rfl
    subst hrows
    refine ⟨?_, ?_, by simp [horder], by simp [LoggedEvent.isAssigned, hnot]⟩
    · simp [hassigned, LoggedEvent.assignment?, LoggedEvent.isAssigned, hnot]
    · rw [hnoRider, DispatchRun.foundNobody, hevent, ← hattempt event rfl, ← horder]
      by_cases hlast : event.outcome = .noCandidate ∧ 10 ≤ event.attempt
      · simp [LoggedEvent.noRider?, LoggedEvent.gaveUp, hlast]
      · simp [LoggedEvent.noRider?, LoggedEvent.gaveUp, hlast]

theorem Attempted.tallied (h : Attempted orderId vendorId n actions) (hfailed : Failed orderId vendorId n past)
    (hlog : c.log = past ++ actions) (hlogged : ∀ run ∈ actions.filterMap ChainAction.run?, run.Logged) :
    Tallied ⟨orderId, vendorId, c⟩ (actions.filterMap (ChainAction.row? now)) := by
  obtain ⟨hendings, hlength, hcalls⟩ := hfailed.then hlog
  have hlt := hfailed.lt
  cases h with
  | notDispatchable =>
    exact ⟨by simp [StartedChain.assignment?, hendings, ChainAction.ending?, Ending.riderId?, ChainAction.row?],
      by simp [StartedChain.noRider?, hendings, ChainAction.ending?, Ending.isGaveUp, ChainAction.row?],
      by simp [ChainAction.row?],
      by simp [ChainAction.row?]⟩
  | @assigned event rider =>
    obtain rfl : event = some ⟨n + 1, .assigned, some rider⟩ := (hlogged _ (.head _)).found rider rfl
    refine ⟨?_, ?_, ?_, ?_⟩
    · simp [StartedChain.assignment?, hendings, ChainAction.ending?, Ending.riderId?, hlength, ChainAction.run?,
        ChainAction.row?, LoggedEvent.assignment?, LoggedEvent.isAssigned]
    · simp [StartedChain.noRider?, hendings, ChainAction.ending?, Ending.isGaveUp, ChainAction.row?,
        LoggedEvent.noRider?, LoggedEvent.gaveUp]
    · simp [ChainAction.row?]
    · simp [ChainAction.row?]
  | @retried event more =>
    have hrun : DispatchRun.Logged ⟨orderId, vendorId, n + 1, event, none⟩ := hlogged _ (.head _)
    have hlast : ¬10 ≤ n + 1 := not_le.2 (Nat.add_lt_of_lt_sub more)
    have hnil : c.endings = [] := hendings
    refine hrun.nobody_tallied rfl rfl ?_ ?_ (by cases event <;> rfl)
    · simp [StartedChain.assignment?, hnil]
    · simp [StartedChain.noRider?, hnil, hlast]
  | @gaveUp event wrote last =>
    have hrun : DispatchRun.Logged ⟨orderId, vendorId, n + 1, event, none⟩ := hlogged _ (.head _)
    have hlast : 10 ≤ n + 1 := not_lt.1 fun hlt => last (Nat.lt_sub_of_add_lt hlt)
    have hgave : c.endings = [.gaveUp wrote] := hendings
    have hfinal : c.calls.getLast? = some ⟨orderId, vendorId, n + 1, event, none⟩ := by
      rw [hcalls]
      exact List.getLast?_concat
    refine hrun.nobody_tallied rfl rfl ?_ ?_ (by cases event <;> rfl)
    · simp [StartedChain.assignment?, hgave, Ending.riderId?]
    · simp [StartedChain.noRider?, hgave, hfinal, Ending.isGaveUp, hlast]

/-- The job that waits is for the attempt after those that failed. -/
theorem Chain.After.next (h : c.After orderId vendorId n) {job : DispatchRetryJob} (hjob : job ∈ c.queue)
    (reads : AttemptReads) : c.endings = [] ∧ Failed orderId vendorId (n + 1) c.log ∧
      (c.process reads job).log = c.log ++ tryDispatch reads orderId vendorId (n + 1) := by
  obtain ⟨past, actions, hfailed, hactions, hlog, hqueue⟩ := h
  rw [hqueue] at hjob
  cases hactions with
  | notDispatchable | assigned | gaveUp => cases hjob
  | @retried event more =>
    obtain rfl := List.mem_singleton.1 hjob
    have hround := Failed.round event hfailed more
    rw [← hlog] at hround
    refine ⟨hround.noEnding, hround, ?_⟩
    rw [process_retryJob hqueue, (tryDispatch_cases reads orderId vendorId (n + 1)).perform]

theorem unended (h : c.endings = []) : StartedChain.assignment? ⟨orderId, vendorId, c⟩ = none ∧
    StartedChain.noRider? ⟨orderId, vendorId, c⟩ = none := by
  simp [StartedChain.assignment?, StartedChain.noRider?, h]

/-! All the chains. -/

/-- Every row has its chain, and those that end one have one that ended so. -/
structure DispatchLog.Recorded (log : DispatchLog) : Prop where
  nodup : (log.chains.map (·.orderId)).Nodup
  runs : ∀ s ∈ log.chains, ∃ n, Chain.Run s.orderId s.vendorId n s.chain
  past : ∀ row ∈ log.dispatchEvents, row.createdAt ≤ log.clock
  told : ∀ row ∈ log.dispatchEvents, ∃ s ∈ log.chains, s.orderId = row.orderId ∧
    (row.isAssigned → s.assignment?.isSome) ∧ (row.gaveUp → s.noRider?.isSome)

/-- `s` is new, or an attempt further than the chain it replaces, which had not ended. -/
structure Replaces (chains chains' : List StartedChain) (s : StartedChain) : Prop where
  nodup : (chains'.map (·.orderId)).Nodup
  runs : ∀ s ∈ chains', ∃ n, Chain.Run s.orderId s.vendorId n s.chain
  mem : s ∈ chains'
  kept : ∀ old ∈ chains, ∃ s ∈ chains', s.orderId = old.orderId ∧
    (old.assignment?.isSome → s.assignment?.isSome) ∧ (old.noRider?.isSome → s.noRider?.isSome)
  assigned : (chains'.filterMap StartedChain.assignment?).Perm
    (chains.filterMap StartedChain.assignment? ++ s.assignment?.toList)
  noRider : (chains'.filterMap StartedChain.noRider?).Perm (chains.filterMap StartedChain.noRider? ++ s.noRider?.toList)

/-- `rows` are what was written on the way from `log` to `log'`. -/
structure Advanced (log log' : DispatchLog) (rows : List LoggedEvent) : Prop where
  wrote : log'.dispatchEvents = log.dispatchEvents ++ rows
  clock : log.clock ≤ log'.clock
  failed : log.failed ≤ log'.failed
  since : ∀ row ∈ rows, log.clock ≤ row.createdAt
  rider : ∀ row ∈ rows, row.isAssigned → row.event.riderId.isSome
  assigned : log'.failed = log.failed →
    log'.assignments.Perm (log.assignments ++ rows.filterMap LoggedEvent.assignment?)
  noRider : log'.failed = log.failed → log'.noRider.Perm (log.noRider ++ rows.filterMap LoggedEvent.noRider?)

theorem Advanced.refl (log : DispatchLog) : Advanced log log [] := by
  refine ⟨by simp, le_rfl, le_rfl, by simp, by simp, fun _ => by simp, fun _ => by simp⟩

theorem Advanced.trans (h : Advanced log log' rows) (h' : Advanced log' log'' rows') : Advanced log log'' (rows ++ rows') := by
  refine ⟨?_, h.clock.trans h'.clock, h.failed.trans h'.failed, fun row hrow => ?_, fun row hrow => ?_, fun hsame => ?_,
    fun hsame => ?_⟩
  · rw [h'.wrote, h.wrote, List.append_assoc]
  · rcases List.mem_append.1 hrow with hrow | hrow
    · exact h.since row hrow
    · exact h.clock.trans (h'.since row hrow)
  · rcases List.mem_append.1 hrow with hrow | hrow
    · exact h.rider row hrow
    · exact h'.rider row hrow
  · obtain ⟨hfirst, hsecond⟩ : log'.failed = log.failed ∧ log''.failed = log'.failed := by
      have := h.failed
      have := h'.failed
      omega
    rw [List.filterMap_append, ← List.append_assoc]
    exact (h'.assigned hsecond).trans ((h.assigned hfirst).append_right _)
  · obtain ⟨hfirst, hsecond⟩ : log'.failed = log.failed ∧ log''.failed = log'.failed := by
      have := h.failed
      have := h'.failed
      omega
    rw [List.filterMap_append, ← List.append_assoc]
    exact (h'.noRider hsecond).trans ((h.noRider hfirst).append_right _)

theorem Tallied.told {s : StartedChain} (h : Tallied s rows) {row : LoggedEvent} (hrow : row ∈ rows) :
    (row.isAssigned → s.assignment?.isSome) ∧ (row.gaveUp → s.noRider?.isSome) := by
  constructor
  · intro hassigned
    obtain ⟨rider, hrider⟩ := Option.isSome_iff_exists.1 (h.rider row hrow hassigned)
    have hmem : (⟨row.orderId, row.event.attempt, rider⟩ : Assignment) ∈ s.assignment?.toList := by
      rw [h.assigned]
      exact List.mem_filterMap.2 ⟨row, hrow, by simp [LoggedEvent.assignment?, hassigned, hrider]⟩
    exact Option.isSome_of_mem (Option.mem_toList.1 hmem)
  · intro hgave
    have hmem : row.orderId ∈ s.noRider?.toList := by
      rw [h.noRider]
      exact List.mem_filterMap.2 ⟨row, hrow, by simp [LoggedEvent.noRider?, hgave]⟩
    exact Option.isSome_of_mem (Option.mem_toList.1 hmem)

/-- An attempt of one chain, and its row, if that could be written. -/
theorem DispatchLog.Recorded.attempt (h : log.Recorded) {chains : List StartedChain} {s : StartedChain}
    (hs : Replaces log.chains chains s) {actions : List ChainAction}
    (ht : Tallied s (actions.filterMap (ChainAction.row? log.clock))) (inserted : Bool) :
    let log' := { log with chains }.logDispatchEvent inserted actions
    log'.Recorded ∧ ∃ rows, Advanced log log' rows := by
  have hrow : ∀ row ∈ actions.filterMap (ChainAction.row? log.clock), row.createdAt = log.clock := by
    intro row hrow
    obtain ⟨action, -, haction⟩ := List.mem_filterMap.1 hrow
    cases action with
    | notDispatchable | add | expireForNoRider => cases haction
    | dispatchOrder run =>
      obtain ⟨event, -, rfl⟩ := Option.map_eq_some_iff.1 haction
      rfl
  have hold : ∀ row ∈ log.dispatchEvents, ∃ s ∈ chains, s.orderId = row.orderId ∧
      (row.isAssigned → s.assignment?.isSome) ∧ (row.gaveUp → s.noRider?.isSome) := by
    intro row hrow
    obtain ⟨old, hold, horder, hassigned, hgave⟩ := h.told row hrow
    obtain ⟨s, hs, hsame, hkept⟩ := hs.kept old hold
    exact ⟨s, hs, hsame.trans horder, fun hrow => hkept.1 (hassigned hrow), fun hrow => hkept.2 (hgave hrow)⟩
  cases inserted with
  | true =>
    refine ⟨⟨hs.nodup, hs.runs, ?_, ?_⟩, _, ⟨rfl, le_rfl, le_rfl, fun row hmem => (hrow row hmem).ge, ht.rider, fun _ => ?_,
      fun _ => ?_⟩⟩
    · exact List.forall_mem_append.2 ⟨h.past, fun row hmem => (hrow row hmem).le⟩
    · exact List.forall_mem_append.2 ⟨hold, fun row hmem => ⟨s, hs.mem, (ht.order row hmem).symm, ht.told hmem⟩⟩
    · exact ht.assigned ▸ hs.assigned
    · exact ht.noRider ▸ hs.noRider
  | false =>
    refine ⟨⟨hs.nodup, hs.runs, h.past, hold⟩, [], ⟨(List.append_nil _).symm, le_rfl, Nat.le_add_right _ _, by simp, by simp,
      fun hsame => ?_, fun hsame => ?_⟩⟩
    · have hnone : actions.filterMap (ChainAction.row? log.clock) = [] := List.eq_nil_of_length_eq_zero (Nat.add_eq_left.1 hsame)
      have hassigned := hs.assigned
      rw [ht.assigned, hnone] at hassigned
      exact hassigned
    · have hnone : actions.filterMap (ChainAction.row? log.clock) = [] := List.eq_nil_of_length_eq_zero (Nat.add_eq_left.1 hsame)
      have hnoRider := hs.noRider
      rw [ht.noRider, hnone] at hnoRider
      exact hnoRider

theorem findChain_mem {s : StartedChain} (h : log.findChain orderId = some s) : s ∈ log.chains ∧ s.orderId = orderId :=
  ⟨List.mem_of_find?_eq_some h, by simpa using List.find?_some h⟩

theorem DispatchLog.Recorded.start (h : log.Recorded) (hfree : log.findChain orderId = none)
    (hrun : Chain.Run orderId vendorId n c) :
    Replaces log.chains (log.start orderId vendorId c).chains ⟨orderId, vendorId, c⟩ := by
  have hnew : ∀ s ∈ log.chains, s.orderId ≠ orderId := by simpa [DispatchLog.findChain] using hfree
  refine ⟨Table.nodup_append h.nodup hnew, ?_, List.mem_append_right _ (.head _), fun old hold => ?_, ?_, ?_⟩
  · exact List.forall_mem_append.2 ⟨h.runs, fun s hs => by
      obtain rfl := List.mem_singleton.1 hs
      exact ⟨n, hrun⟩⟩
  · exact ⟨old, List.mem_append_left _ hold, rfl, fun hsome => hsome, fun hsome => hsome⟩
  · rw [DispatchLog.start, List.filterMap_append]
    exact .of_eq (congrArg _ (by cases hs : StartedChain.assignment? ⟨orderId, vendorId, c⟩ <;> simp [hs]))
  · rw [DispatchLog.start, List.filterMap_append]
    exact .of_eq (congrArg _ (by cases hs : StartedChain.noRider? ⟨orderId, vendorId, c⟩ <;> simp [hs]))

theorem DispatchLog.Recorded.setChain (h : log.Recorded) {old : StartedChain} (hold : old ∈ log.chains)
    (hended : old.chain.endings = []) (hrun : Chain.Run old.orderId old.vendorId n c) :
    Replaces log.chains (log.setChain old.orderId c).chains { old with chain := c } := by
  obtain ⟨hassigned, hnoRider⟩ : old.assignment? = none ∧ old.noRider? = none := unended hended
  have hmem : { old with chain := c } ∈ (log.setChain old.orderId c).chains :=
    List.mem_map.2 ⟨old, hold, if_pos rfl⟩
  have hids : (log.setChain old.orderId c).chains.map (·.orderId) = log.chains.map (·.orderId) :=
    Table.column_update fun _ => rfl
  refine ⟨by rw [hids]; exact h.nodup, fun s hs => ?_, hmem, fun s hs => ?_, ?_, ?_⟩
  · rcases Table.mem_update StartedChain.orderId hs with ⟨hs, -⟩ | ⟨s', hs', hid, rfl⟩
    · exact h.runs s hs
    · obtain rfl := List.inj_on_of_nodup_map h.nodup hs' hold hid
      exact ⟨n, hrun⟩
  · by_cases hid : s.orderId = old.orderId
    · obtain rfl := List.inj_on_of_nodup_map h.nodup hs hold hid
      refine ⟨_, hmem, rfl, fun hsome => ?_, fun hsome => ?_⟩
      · rw [hassigned] at hsome
        cases hsome
      · rw [hnoRider] at hsome
        cases hsome
    · exact ⟨s, List.mem_map.2 ⟨s, hs, if_neg hid⟩, rfl, fun hsome => hsome, fun hsome => hsome⟩
  · exact Table.filterMap_update h.nodup hold hassigned fun s => { s with chain := c }
  · exact Table.filterMap_update h.nodup hold hnoRider fun s => { s with chain := c }

theorem DispatchLog.Recorded.step (h : log.Recorded) {event : DispatchLogEvent} (hs : log.step event = some log') :
    log'.Recorded ∧ ∃ rows, Advanced log log' rows := by
  cases event with
  | tick elapsed =>
    obtain rfl := Option.some.inj hs
    refine ⟨⟨h.nodup, h.runs, fun row hrow => (h.past row hrow).trans (Nat.le_add_right _ _), h.told⟩, [], ?_⟩
    exact { Advanced.refl log with clock := Nat.le_add_right _ _ }
  | onOrderAccepted orderId vendorId reads inserted =>
    rw [DispatchLog.step] at hs
    split at hs
    · cases hs
    next hfree =>
    obtain rfl := Option.some.inj hs
    have hrun : Chain.Run orderId vendorId 0 (onOrderAccepted reads orderId vendorId) := .accepted reads
    have hlog : (onOrderAccepted reads orderId vendorId).log = [] ++ tryDispatch reads orderId vendorId 0 := by
      rw [onOrderAccepted, (tryDispatch_cases reads orderId vendorId 0).perform]
    refine h.attempt (h.start hfree hrun) ?_ inserted
    rw [hlog]
    exact (tryDispatch_cases reads orderId vendorId 0).tallied .nil hlog fun _ => tryDispatch_logged
  | process orderId job reads inserted =>
    rw [DispatchLog.step] at hs
    split at hs
    · cases hs
    next old hold =>
    obtain ⟨hmem, rfl⟩ := findChain_mem hold
    split at hs
    next hjob =>
      obtain rfl := Option.some.inj hs
      obtain ⟨n, hrun⟩ := h.runs old hmem
      obtain ⟨hended, hfailed, hlog⟩ := (run_after hrun).next hjob reads
      refine h.attempt (h.setChain hmem hended (.job job reads hrun hjob)) ?_ inserted
      rw [hlog, List.drop_left]
      exact (tryDispatch_cases reads old.orderId old.vendorId (n + 1)).tallied hfailed hlog fun _ => tryDispatch_logged
    · cases hs

/-- Rows and chains go on together. -/
theorem run_recorded {events : List DispatchLogEvent} (h : log.Recorded) (hr : log.run events = some log') :
    log'.Recorded ∧ ∃ rows, Advanced log log' rows := by
  induction events generalizing log with
  | nil =>
    obtain rfl := Option.some.inj hr
    exact ⟨h, [], .refl log⟩
  | cons event events ih =>
    rw [DispatchLog.run, List.foldlM_cons] at hr
    obtain ⟨next, hstep, hrest⟩ := Option.bind_eq_some_iff.1 hr
    obtain ⟨hnext, rows, hrows⟩ := h.step hstep
    obtain ⟨hlast, rows', hrows'⟩ := ih hnext hrest
    exact ⟨hlast, _, hrows.trans hrows'⟩

theorem recorded_start : ({} : DispatchLog).Recorded := ⟨.nil, by simp, by simp, by simp⟩

/-! The query. -/

theorem noRider_not_assigned {s : StartedChain} (hrun : Chain.Run s.orderId s.vendorId n s.chain)
    (hnobody : s.noRider?.isSome) : s.assignment? = none := by
  have hcomplete := (retry_chain_complete hrun).2
  have hgave : s.chain.endings.any Ending.isGaveUp = true := by
    by_contra hnot
    simp [StartedChain.noRider?, hnot] at hnobody
  cases hqueue : s.chain.queue with
  | cons job queue =>
    rw [hcomplete.goesOn (by rw [hqueue]; exact List.cons_ne_nil _ _)] at hgave
    cases hgave
  | nil =>
    obtain ⟨ending, hone, -⟩ := hcomplete.ends hqueue
    rw [hone] at hgave
    cases ending with
    | gaveUp wrote => simp [StartedChain.assignment?, hone, Ending.riderId?]
    | assigned | notDispatchable => cases hgave

theorem DispatchLog.Recorded.assignments_nodup (h : log.Recorded) : (log.assignments.map (·.orderId)).Nodup := by
  refine Table.nodup_filterMap (fun s a ha => ?_) h.nodup
  obtain ⟨rider, -, rfl⟩ := Option.map_eq_some_iff.1 ha
  rfl

theorem DispatchLog.Recorded.noRider_nodup (h : log.Recorded) : log.noRider.Nodup := by
  have hids : (log.noRider.map id).Nodup := Table.nodup_filterMap (fun s o ho => by
    unfold StartedChain.noRider? at ho
    split at ho
    · exact (Option.some.inj ho).symm
    · cases ho) h.nodup
  rwa [List.map_id] at hids

/-- An order that got a rider is not among those that gave up. -/
theorem hasExpired_of_gaveUp (h : log.Recorded) {row : LoggedEvent} (hrow : row ∈ log.dispatchEvents)
    (hgave : row.gaveUp) {start stop : Time} (hwithin : row.within start stop) :
    hasExpired log.dispatchEvents start stop row := by
  have hnone : (log.dispatchEvents.any fun e2 => e2.orderId = row.orderId && e2.isAssigned) = false := by
    refine Bool.eq_false_iff.2 fun hany => ?_
    obtain ⟨e2, he2, hsame⟩ := List.any_eq_true.1 hany
    obtain ⟨horder, hassigned⟩ : e2.orderId = row.orderId ∧ e2.isAssigned := by simpa using hsame
    obtain ⟨s, hs, hid, -, hnobody⟩ := h.told row hrow
    obtain ⟨s', hs', hid', hfound, -⟩ := h.told e2 he2
    obtain rfl := List.inj_on_of_nodup_map h.nodup hs' hs (hid'.trans (horder.trans hid.symm))
    obtain ⟨n, hrun⟩ := h.runs s' hs'
    have hsome := hfound hassigned
    rw [noRider_not_assigned hrun (hnobody hgave)] at hsome
    cases hsome
  rw [hasExpired, hgave, hwithin, hnone]
  rfl

theorem assignment_columns {β : Type*} {column : Assignment → β} {column' : LoggedEvent → β}
    (hrider : ∀ row ∈ rows, row.isAssigned → row.event.riderId.isSome)
    (hcolumn : ∀ row, ∀ a ∈ row.assignment?, column a = column' row) :
    (rows.filterMap LoggedEvent.assignment?).map column = (rows.filter LoggedEvent.isAssigned).map column' := by
  induction rows with
  | nil => rfl
  | cons row rows ih =>
    have hrest := ih fun row hrow => hrider row (.tail _ hrow)
    by_cases hassigned : row.isAssigned = true
    · obtain ⟨rider, hsome⟩ := Option.isSome_iff_exists.1 (hrider row (.head _) hassigned)
      have hrow : row.assignment? = some ⟨row.orderId, row.event.attempt, rider⟩ := by
        simp [LoggedEvent.assignment?, hassigned, hsome]
      rw [List.filterMap_cons_some hrow, List.filter_cons_of_pos hassigned, List.map_cons, List.map_cons, hrest,
        hcolumn row _ hrow]
    · have hrow : row.assignment? = none := by simp [LoggedEvent.assignment?, hassigned]
      rw [List.filterMap_cons_none hrow, List.filter_cons_of_neg hassigned, hrest]

/-- What the tile shows, of the riders found and the orders nobody was found for. -/
structure DispatchFunnel.Tells (F : DispatchFunnel) (found : List Assignment) (nobody : List OrderId) : Prop where
  ordersAssigned : F.ordersAssigned = found.length
  first : F.assignedOnFirstAttempt = found.countP (·.attempts = 1)
  average : F.avgAttemptsToAssign =
    if found.length = 0 then none else some (((found.map (·.attempts)).sum : ℕ) / (found.length : ℚ))
  expired : F.expiredNoRider = nobody.length
  offers : ∀ top ∈ F.topRiders, top.offers = found.countP (·.riderId = top.riderId)
  once : (F.topRiders.map (·.riderId)).Nodup
  others : ∀ a ∈ found, a.riderId ∈ F.topRiders.map (·.riderId) ∨
    F.topRiders.length = 5 ∧ ∀ top ∈ F.topRiders, found.countP (·.riderId = a.riderId) ≤ top.offers

theorem window_filter {before during later : List LoggedEvent} {start stop : Time} (p : LoggedEvent → Bool)
    (hbefore : ∀ row ∈ before, row.createdAt < start) (hduring : ∀ row ∈ during, row.within start stop)
    (hlater : ∀ row ∈ later, stop ≤ row.createdAt) :
    (before ++ during ++ later).filter (fun row => p row && row.within start stop) = during.filter p := by
  have hout : ∀ l : List LoggedEvent, (∀ row ∈ l, row.within start stop = false) →
      l.filter (fun row => p row && row.within start stop) = [] := fun l hl =>
    List.filter_eq_nil_iff.2 fun row hrow => by simp [hl row hrow]
  rw [List.filter_append, List.filter_append, hout before, hout later, List.nil_append, List.append_nil]
  · exact List.filter_congr fun row hrow => by simp [hduring row hrow]
  · exact fun row hrow => by simp [LoggedEvent.within, hlater row hrow]
  · exact fun row hrow => by simp [LoggedEvent.within, hbefore row hrow]

def RiderOffers.toRow (top : RiderOffers) : Option RiderId × ℕ := (some top.riderId, top.offers)

/-- No group is without a rider. -/
theorem toRow_filterMap {groups : List (Option RiderId × ℕ)} (h : ∀ group ∈ groups, group.1.isSome) :
    (groups.filterMap RiderOffers.ofRow?).map RiderOffers.toRow = groups := by
  induction groups with
  | nil => rfl
  | cons group groups ih =>
    obtain ⟨riderId, count⟩ := group
    obtain ⟨rider, rfl⟩ := Option.isSome_iff_exists.1 (h _ (.head _))
    rw [List.filterMap_cons_some (show RiderOffers.ofRow? (some rider, count) = some ⟨rider, count⟩ from rfl), List.map_cons,
      ih fun group hgroup => h group (.tail _ hgroup)]
    rfl

/-- The riders with the most offers. -/
theorem topRiders_tell {found : List Assignment} {assigned : List LoggedEvent} {top : List RiderOffers}
    (hriders : found.map (fun a => some a.riderId) = assigned.map (·.event.riderId))
    (htop : top.map RiderOffers.toRow = Grouping.topCounts (·.event.riderId) 5 assigned) :
    (∀ t ∈ top, t.offers = found.countP (·.riderId = t.riderId)) ∧ (top.map (·.riderId)).Nodup ∧
      ∀ a ∈ found, a.riderId ∈ top.map (·.riderId) ∨
        top.length = 5 ∧ ∀ t ∈ top, found.countP (·.riderId = a.riderId) ≤ t.offers := by
  have hcount : ∀ rider, (assigned.countP fun row => row.event.riderId = some rider) = found.countP (·.riderId = rider) := by
    intro rider
    have hcolumn := congrArg (List.countP fun r => r = some rider) hriders
    rw [List.countP_map, List.countP_map] at hcolumn
    refine hcolumn.symm.trans (List.countP_congr fun a _ => by simp)
  have hrow : ∀ t ∈ top, t.toRow ∈ Grouping.topCounts (·.event.riderId) 5 assigned := fun t ht =>
    htop ▸ List.mem_map_of_mem ht
  refine ⟨fun t ht => ?_, ?_, fun a ha => ?_⟩
  · rw [← hcount]
    exact (Grouping.mem_topCounts (hrow t ht)).2
  · have hkeys := Grouping.topCounts_nodup (·.event.riderId) 5 assigned
    rw [← htop, List.map_map] at hkeys
    refine List.Nodup.of_map some ?_
    rw [List.map_map]
    exact hkeys
  · have hkey : some a.riderId ∈ assigned.map (·.event.riderId) := hriders ▸ List.mem_map_of_mem ha
    rcases Grouping.topCounts_or 5 hkey with hlisted | ⟨hfull, hless⟩
    · rw [← htop] at hlisted
      obtain ⟨t, ht, heq⟩ := List.mem_map.1 hlisted
      refine .inl (List.mem_map.2 ⟨t, ht, ?_⟩)
      exact Option.some.inj (congrArg Prod.fst heq)
    · rw [← htop, List.length_map] at hfull
      refine .inr ⟨hfull, fun t ht => ?_⟩
      rw [← hcount]
      exact hless t.toRow (hrow t ht)

theorem noRider_column : (rows.filterMap LoggedEvent.noRider?) = (rows.filter LoggedEvent.gaveUp).map (·.orderId) := by
  induction rows with
  | nil => rfl
  | cons row rows ih =>
    by_cases hgave : row.gaveUp = true
    · have hrow : row.noRider? = some row.orderId := if_pos hgave
      rw [List.filterMap_cons_some hrow, List.filter_cons_of_pos hgave, List.map_cons, ih]
    · have hrow : row.noRider? = none := if_neg hgave
      rw [List.filterMap_cons_none hrow, List.filter_cons_of_neg hgave, ih]

/-- The query, where `during` are the rows of the window. -/
theorem computeDispatchFunnel_tells {during : List LoggedEvent} {start stop : Time}
    (hassigned : rows.filter (fun row => row.isAssigned && row.within start stop) = during.filter LoggedEvent.isAssigned)
    (hexpired : rows.filter (hasExpired rows start stop) = during.filter LoggedEvent.gaveUp)
    (hrider : ∀ row ∈ during, row.isAssigned → row.event.riderId.isSome)
    (hfound : ((during.filterMap LoggedEvent.assignment?).map (·.orderId)).Nodup)
    (hnobody : (during.filterMap LoggedEvent.noRider?).Nodup) :
    (computeDispatchFunnel rows start stop).Tells (during.filterMap LoggedEvent.assignment?)
      (during.filterMap LoggedEvent.noRider?) := by
  have hcolumns : ∀ row, ∀ a ∈ LoggedEvent.assignment? row,
      a.orderId = row.orderId ∧ a.attempts = row.event.attempt ∧ some a.riderId = row.event.riderId := by
    intro row a ha
    unfold LoggedEvent.assignment? at ha
    split at ha
    · obtain ⟨rider, hrider, rfl⟩ := Option.map_eq_some_iff.1 ha
      exact ⟨rfl, rfl, hrider.symm⟩
    · cases ha
  have horders := assignment_columns hrider fun row a ha => (hcolumns row a ha).1
  have hattempts := assignment_columns hrider fun row a ha => (hcolumns row a ha).2.1
  have hriders := assignment_columns hrider fun row a ha => (hcolumns row a ha).2.2
  have hlength := congrArg List.length horders
  rw [List.length_map, List.length_map] at hlength
  rw [horders] at hfound
  rw [noRider_column] at hnobody ⊢
  have hall : (during.filter LoggedEvent.isAssigned).filter (·.event.riderId.isSome) =
      during.filter LoggedEvent.isAssigned := List.filter_eq_self.2 fun row hrow => by
    obtain ⟨hmem, hrow⟩ := List.mem_filter.1 hrow
    exact hrider row hmem hrow
  have hgroups : ∀ group ∈ Grouping.topCounts (·.event.riderId) 5 (during.filter LoggedEvent.isAssigned),
      group.1.isSome := fun group hgroup => by
    obtain ⟨row, hrow, hkey⟩ := List.mem_map.1 (Grouping.mem_topCounts hgroup).1
    obtain ⟨hmem, hrow⟩ := List.mem_filter.1 hrow
    rw [← hkey]
    exact hrider row hmem hrow
  obtain ⟨hoffers, honce, hothers⟩ := topRiders_tell hriders (toRow_filterMap hgroups)
  unfold computeDispatchFunnel
  dsimp only
  rw [hassigned, hexpired, hall, Grouping.groupMin_of_nodup hfound, Grouping.countDistinct_of_nodup hnobody]
  refine ⟨?_, ?_, ?_, ?_, hoffers, honce, hothers⟩
  · rw [List.length_map, hlength]
  · rw [List.countP_map]
    have hcount := congrArg (List.countP fun attempts => attempts = 1) hattempts
    rw [List.countP_map, List.countP_map] at hcount
    exact hcount.symm
  · rw [List.length_map, List.map_map, ← hlength, hattempts]
    rfl
  · exact (List.length_map _).symm

/-- However attempts of many orders interleave, and whenever the page is asked for, the funnel of a window
over which no row was lost counts the chains that ended in it. -/
theorem funnel_tells {log₁ log₂ log₃ : DispatchLog} {before during later : List DispatchLogEvent} {gap gap' start stop : Time}
    (h₁ : ({} : DispatchLog).run before = some log₁) (h₂ : log₁.run (.tick gap :: during) = some log₂)
    (h₃ : log₂.run (.tick gap' :: later) = some log₃) (hstart : log₁.clock < start ∧ start ≤ log₁.clock + gap)
    (hstop : log₂.clock < stop ∧ stop ≤ log₂.clock + gap') (hlogged : log₂.failed = log₁.failed) :
    ∃ found nobody, log₂.assignments.Perm (log₁.assignments ++ found) ∧ log₂.noRider.Perm (log₁.noRider ++ nobody) ∧
      (computeDispatchFunnel log₃.dispatchEvents start stop).Tells found nobody := by
  obtain ⟨hrec₁, -, -⟩ := run_recorded recorded_start h₁
  have htick₁ : log₁.step (.tick gap) = some { log₁ with clock := log₁.clock + gap } := rfl
  have htick₂ : log₂.step (.tick gap') = some { log₂ with clock := log₂.clock + gap' } := rfl
  obtain ⟨hrec₂, rows₂, hadv₂⟩ := run_recorded (hrec₁.step htick₁).1 h₂
  obtain ⟨hrec₃, rows₃, hadv₃⟩ := run_recorded (hrec₂.step htick₂).1 h₃
  have hrows : log₃.dispatchEvents = log₁.dispatchEvents ++ rows₂ ++ rows₃ := by rw [hadv₃.wrote, ← hadv₂.wrote]
  have hbefore : ∀ row ∈ log₁.dispatchEvents, row.createdAt < start := fun row hrow =>
    (hrec₁.past row hrow).trans_lt hstart.1
  have hduring : ∀ row ∈ rows₂, row.within start stop := fun row hrow => by
    have hpast := hrec₂.past row (hadv₂.wrote ▸ List.mem_append_right _ hrow)
    simp [LoggedEvent.within, hstart.2.trans (hadv₂.since row hrow), hpast.trans_lt hstop.1]
  have hlater : ∀ row ∈ rows₃, stop ≤ row.createdAt := fun row hrow => hstop.2.trans (hadv₃.since row hrow)
  have hassigned := hadv₂.assigned hlogged
  have hnoRider := hadv₂.noRider hlogged
  refine ⟨_, _, hassigned, hnoRider, computeDispatchFunnel_tells ?_ ?_ hadv₂.rider ?_ ?_⟩
  · rw [hrows]
    exact window_filter _ hbefore hduring hlater
  · rw [← window_filter _ hbefore hduring hlater, ← hrows]
    refine List.filter_congr fun row hrow => Bool.eq_iff_iff.2 ⟨fun hexpired => ?_, fun hgave => ?_⟩
    · exact (Bool.and_eq_true_iff.1 hexpired).1
    · obtain ⟨hgave, hwithin⟩ := Bool.and_eq_true_iff.1 hgave
      exact hasExpired_of_gaveUp hrec₃ hrow hgave hwithin
  · have hnodup := (hassigned.map (·.orderId)).nodup_iff.1 hrec₂.assignments_nodup
    rw [List.map_append] at hnodup
    exact hnodup.of_append_right
  · exact (hnoRider.nodup_iff.1 hrec₂.noRider_nodup).of_append_right

end

def halfAMinute : List DispatchLogEvent :=
  [.onOrderAccepted 5 1 nobodyNear true, .tick 30000, .process 5 (retryJob 5 1 1) riderNear true]

def afterHalfAMinute : DispatchLog where
  clock := 31000
  chains := [⟨5, 1, (onOrderAccepted nobodyNear 5 1).process riderNear (retryJob 5 1 1)⟩]
  dispatchEvents := [⟨5, 1, { attempt := 1, outcome := .noCandidate }, 1000⟩, ⟨5, 1, ⟨2, .assigned, some 7⟩, 31000⟩]

/-- Rider 7 comes near half a minute after order 5 was accepted. -/
theorem second_attempt_counted : afterHalfAMinute.assignments = [⟨5, 2, 7⟩] ∧
    computeDispatchFunnel afterHalfAMinute.dispatchEvents 1000 31005 = ⟨1, 0, 0, some 2, [⟨7, 1⟩]⟩ ∧
    ∃ found nobody, afterHalfAMinute.assignments.Perm ([] ++ found) ∧ afterHalfAMinute.noRider.Perm ([] ++ nobody) ∧
      (computeDispatchFunnel afterHalfAMinute.dispatchEvents 1000 31005).Tells found nobody := by
  refine ⟨by decide +kernel, by decide +kernel, ?_⟩
  have hbefore : ({} : DispatchLog).run [] = some {} := rfl
  have hduring : ({} : DispatchLog).run (.tick 1000 :: halfAMinute) = some afterHalfAMinute := by decide +kernel
  have hlater : afterHalfAMinute.run [.tick 5] = some { afterHalfAMinute with clock := 31005 } := by decide +kernel
  have htells := funnel_tells hbefore hduring hlater (⟨by decide, by decide⟩ : 0 < 1000 ∧ 1000 ≤ 0 + 1000)
    (⟨by decide, by decide⟩ : 31000 < 31005 ∧ 31005 ≤ 31000 + 5) rfl
  exact htells

end ChopNow
