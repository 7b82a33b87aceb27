import ChopNow.Proofs.Overcommit

/-! A sweep behind the circuit breaker: which rows it fails without a call to Campay. -/

namespace ChopNow

variable {balance : FnAnswer (Option ℤ)} {transfer : Payout → FnAnswer TransferReply}
  {refund : Order → FnAnswer TransferReply} {out : PayoutOutside} {table : PayoutTable}
  {s : TransferRun GuardedCampay} {p q : Payout} {id : PayoutId}

/-! The rows that a visit rewrites. -/

/-- The row of `id` is on its way or failed. -/
def PayoutTable.Moved (table : PayoutTable) (id : PayoutId) : Prop :=
  ∀ row ∈ table.rows, row.id = id → row.status ≠ .pending

theorem PayoutTable.moved_update (id : PayoutId) {patch : PayoutPatch}
    (h : ∀ row ∈ table.rows, row.id = id → (patch.apply row).status ≠ .pending) : (table.update id patch).Moved id := by
  intro row hrow hid
  rcases Table.mem_update (fun row : Payout => row.id) hrow with ⟨-, hne⟩ | ⟨old, hold, holdId, rfl⟩
  · exact absurd hid hne
  · exact h old hold holdId

theorem PayoutTable.moved_lock (now : Time) : (table.update id (lockPatch now)).Moved id :=
  moved_update id fun _ _ _ => by simp [lockPatch]

theorem PayoutTable.Moved.onFail {reason : String} (h : table.Moved p.id) : (table.onFail out p reason).Moved p.id := by
  unfold PayoutTable.onFail
  split
  · exact h
  · exact moved_update p.id fun _ _ _ => by simp [failPatch]

theorem PayoutTable.Moved.answered (reply : TransferReply) (h : table.Moved p.id) :
    (table.answered out p reply).Moved p.id := by
  cases reply with
  | returned reference =>
    simp only [PayoutTable.answered]
    split
    · exact moved_update p.id h
    · exact h.onFail
  | threw accepted reason => exact h.onFail

theorem PayoutTable.mem_of_mem_update {patch : PayoutPatch} (hq : q ∈ (table.update id patch).rows) (hne : q.id ≠ id) :
    q ∈ table.rows := by
  rcases Table.mem_update (fun row : Payout => row.id) hq with ⟨hmem, -⟩ | ⟨row, -, hrow, rfl⟩
  · exact hmem
  · exact absurd ((patch.id_eq row).trans hrow) hne

theorem PayoutTable.mem_of_mem_onFail {reason : String} (hq : q ∈ (table.onFail out p reason).rows)
    (hne : q.id ≠ p.id) : q ∈ table.rows := by
  unfold PayoutTable.onFail at hq
  split at hq
  · exact hq
  · exact mem_of_mem_update hq hne

theorem PayoutTable.mem_of_mem_answered {reply : TransferReply} (hq : q ∈ (table.answered out p reply).rows)
    (hne : q.id ≠ p.id) : q ∈ table.rows := by
  cases reply with
  | returned reference =>
    simp only [PayoutTable.answered] at hq
    split at hq
    · exact mem_of_mem_update hq hne
    · exact mem_of_mem_onFail hq hne
  | threw accepted reason => exact mem_of_mem_onFail hq hne

/-! A visit behind the breaker. -/

/-- The worker goes as far as the call. -/
def TransferRun.reaches {κ : Type} (out : PayoutOutside) (s : TransferRun κ) (p : Payout) : Prop :=
  s.remainingBalanceXAF.any (· < p.netXAF) = false ∧ out.raceLost p = false

/-- Passed over or lost; called; or cut off by the breaker with its lock taken. -/
inductive Visited (transfer : Payout → FnAnswer TransferReply) (out : PayoutOutside) (s s' : TransferRun GuardedCampay)
    (p : Payout) : Prop
  | spared (hnot : ¬s.reaches out p) (htable : s'.table = s.table) (hinvoked : s'.campay.invoked = s.campay.invoked)
  | called (henter : s.campay.breaker.enter (transfer p).startedAt ≠ none)
      (hinvoked : s'.campay.invoked = s.campay.invoked ++ [p.id])
  | cutOff (hreaches : s.reaches out p) (henter : s.campay.breaker.enter (transfer p).startedAt = none)
      (hmoved : s'.table.Moved p.id) (hinvoked : s'.campay.invoked = s.campay.invoked)

theorem guarded_cutOff (c : GuardedCampay) (h : c.breaker.enter (transfer p).startedAt = none) :
    (guardedClient balance transfer refund).initiateTransfer c p = (c, circuitOpenReply) := by
  simp [guardedClient, CircuitBreaker.wrap, FnAnswer.call, h]

theorem guarded_invoked (c : GuardedCampay) (h : c.breaker.enter (transfer p).startedAt ≠ none) :
    ((guardedClient balance transfer refund).initiateTransfer c p).1.invoked = c.invoked ++ [p.id] := by
  obtain ⟨b, hb⟩ := Option.ne_none_iff_exists'.1 h
  cases hsucceeds : (transfer p).reply.succeeds with
  | true => simp [guardedClient, CircuitBreaker.wrap, FnAnswer.call, hb, hsucceeds]
  | false => simp [guardedClient, CircuitBreaker.wrap, FnAnswer.call, hb, hsucceeds]

theorem sweepPayout_visited (balance : FnAnswer (Option ℤ)) (transfer : Payout → FnAnswer TransferReply)
    (refund : Order → FnAnswer TransferReply) (out : PayoutOutside) (hp : p ∈ s.table.rows)
    (hpending : p.status = .pending) :
    Visited transfer out s (sweepPayout (guardedClient balance transfer refund) out true s p) p := by
  rcases sweepPayout_cases (guardedClient balance transfer refund) out s hp hpending with
    ⟨hany, heq⟩ | ⟨-, hlost, heq⟩ | ⟨hany, hlost, heq⟩
  · rw [heq]
    exact .spared (fun h => absurd h.1 (by simp [hany])) rfl rfl
  · rw [heq]
    exact .spared (fun h => absurd h.2 (by simp [hlost])) rfl rfl
  · rw [heq]
    by_cases henter : s.campay.breaker.enter (transfer p).startedAt = none
    · refine .cutOff ⟨hany, hlost⟩ henter ((PayoutTable.moved_lock _).answered _) ?_
      simp only [TransferRun.sent]
      rw [guarded_cutOff _ henter]
    · exact .called henter (guarded_invoked _ henter)

/-- What a visit leaves of the other rows. -/
theorem sweepPayout_other (balance : FnAnswer (Option ℤ)) (transfer : Payout → FnAnswer TransferReply)
    (refund : Order → FnAnswer TransferReply) (out : PayoutOutside) (hp : p ∈ s.table.rows)
    (hpending : p.status = .pending) (hne : q.id ≠ p.id) :
    let s' := sweepPayout (guardedClient balance transfer refund) out true s p
    (q ∈ s'.table.rows ↔ q ∈ s.table.rows) ∧ (q.id ∈ s'.campay.invoked ↔ q.id ∈ s.campay.invoked) := by
  refine ⟨⟨fun hq => ?_, fun hq => sweepPayout_frame hp hpending hq hne⟩, ?_⟩
  · rcases sweepPayout_cases (guardedClient balance transfer refund) out s hp hpending with
      ⟨-, heq⟩ | ⟨-, -, heq⟩ | ⟨-, -, heq⟩
    · rwa [heq] at hq
    · rwa [heq] at hq
    · rw [heq] at hq
      exact PayoutTable.mem_of_mem_update (PayoutTable.mem_of_mem_answered hq hne) hne
  · cases sweepPayout_visited balance transfer refund out hp hpending with
    | spared _ _ hinvoked => rw [hinvoked]
    | called _ hinvoked => simp [hinvoked, hne]
    | cutOff _ _ _ hinvoked => rw [hinvoked]

/-! A batch behind the breaker. -/

/-- The breaker is never OPEN, with less than its cool-down gone, when the turn comes to a
payout that the worker reaches. -/
def BreakerSpares (balance : FnAnswer (Option ℤ)) (transfer : Payout → FnAnswer TransferReply)
    (refund : Order → FnAnswer TransferReply) (out : PayoutOutside) (s : TransferRun GuardedCampay) :
    List Payout → Prop
  | [] => True
  | p :: batch =>
    (s.reaches out p → s.campay.breaker.enter (transfer p).startedAt ≠ none) ∧
      BreakerSpares balance transfer refund out (sweepPayout (guardedClient balance transfer refund) out true s p) batch

theorem batch_other (balance : FnAnswer (Option ℤ)) (transfer : Payout → FnAnswer TransferReply)
    (refund : Order → FnAnswer TransferReply) (out : PayoutOutside) {batch : List Payout} (h : Batch s.table batch)
    (hnot : ∀ p ∈ batch, q.id ≠ p.id) :
    let s' := batch.foldl (sweepPayout (guardedClient balance transfer refund) out true) s
    (q ∈ s'.table.rows ↔ q ∈ s.table.rows) ∧ (q.id ∈ s'.campay.invoked ↔ q.id ∈ s.campay.invoked) := by
  induction batch generalizing s with
  | nil => exact ⟨Iff.rfl, Iff.rfl⟩
  | cons p batch ih =>
    obtain ⟨hrows, hinvoked⟩ := sweepPayout_other balance transfer refund out
      (h.mem p List.mem_cons_self) (h.pending p List.mem_cons_self) (hnot p List.mem_cons_self)
    obtain ⟨hrows', hinvoked'⟩ := ih h.next fun p' hp' => hnot p' (.tail _ hp')
    exact ⟨hrows'.trans hrows, hinvoked'.trans hinvoked⟩

theorem batch_spared_iff (balance : FnAnswer (Option ℤ)) (transfer : Payout → FnAnswer TransferReply)
    (refund : Order → FnAnswer TransferReply) (out : PayoutOutside) {batch : List Payout} (h : Batch s.table batch)
    (hnew : ∀ p ∈ batch, p.id ∉ s.campay.invoked) :
    let s' := batch.foldl (sweepPayout (guardedClient balance transfer refund) out true) s
    (∀ p ∈ batch, p.id ∉ s'.campay.invoked → p ∈ s'.table.rows) ↔ BreakerSpares balance transfer refund out s batch := by
  induction batch generalizing s with
  | nil => simp [BreakerSpares]
  | cons p batch ih =>
    have hp := h.mem p List.mem_cons_self
    have hpending := h.pending p List.mem_cons_self
    have hkeys := List.nodup_cons.1 h.keys
    have hapart : ∀ q ∈ batch, p.id ≠ q.id := fun q hq heq => hkeys.1 (List.mem_map.2 ⟨q, hq, heq.symm⟩)
    have hnew' : ∀ q ∈ batch,
        q.id ∉ (sweepPayout (guardedClient balance transfer refund) out true s p).campay.invoked := by
      intro q hq
      rw [(sweepPayout_other balance transfer refund out hp hpending (hapart q hq).symm).2]
      exact hnew q (.tail _ hq)
    obtain ⟨hrows, hinvoked⟩ := batch_other balance transfer refund out h.next hapart
    simp only [List.forall_mem_cons, List.foldl_cons, BreakerSpares]
    refine and_congr ?_ (ih h.next hnew')
    rw [hrows, hinvoked]
    cases sweepPayout_visited balance transfer refund out hp hpending with
    | spared hnot htable _ =>
      rw [htable]
      exact iff_of_true (fun _ => hp) fun hreaches => absurd hreaches hnot
    | called henter hinvoked =>
      exact iff_of_true (fun hnone => absurd (by simp [hinvoked]) hnone) fun _ => henter
    | cutOff hreaches henter hmoved hinvoked =>
      have hnone : p.id ∉ s.campay.invoked := hnew p List.mem_cons_self
      refine iff_of_false (fun hkept => ?_) fun hspared => hspared hreaches henter
      exact hmoved p (hkept (by rwa [hinvoked])) rfl hpending

/-! The whole sweep. -/

/-- With the transfers switched off the sweep changes nothing. -/
theorem sweepPendingTransfers_disabled {κ : Type} (client : CampayClient κ) (startedAt : Time) (campay : κ) :
    sweepPendingTransfers client out false startedAt table campay = { table, campay } := by
  have hvisit : ∀ (s : TransferRun κ) (p : Payout), sweepPayout client out false s p = s := by
    intro s p
    simp [sweepPayout, tryTransfer]
  have hfold : ∀ (batch : List Payout) (s : TransferRun κ), batch.foldl (sweepPayout client out false) s = s := by
    intro batch
    induction batch with
    | nil => exact fun s => rfl
    | cons p batch ih =>
      intro s
      rw [List.foldl_cons, hvisit, ih]
  simp [sweepPendingTransfers, sweepTables, hfold]

/-- The balance came, and then the breaker spared the whole batch. -/
def SweepSpared (balance : FnAnswer (Option ℤ)) (transfer : Payout → FnAnswer TransferReply)
    (refund : Order → FnAnswer TransferReply) (out : PayoutOutside) (transfersEnabled : Bool) (startedAt : Time)
    (table : PayoutTable) (breaker : CircuitBreaker) : Prop :=
  transfersEnabled = true → ∀ campay balanceXAF,
    (guardedClient balance transfer refund).getBalance { breaker } = (campay, some balanceXAF) →
    BreakerSpares balance transfer refund out { table, campay, remainingBalanceXAF := some balanceXAF }
      (table.batch startedAt)

theorem guarded_balance_invoked (balance : FnAnswer (Option ℤ)) (transfer : Payout → FnAnswer TransferReply)
    (refund : Order → FnAnswer TransferReply) (c : GuardedCampay) :
    ((guardedClient balance transfer refund).getBalance c).1.invoked = c.invoked := by
  simp only [guardedClient]
  split
  · rfl
  · rfl

/-- A row that fails was sent to Campay, and a row that was not sent stays as it is. -/
structure OnlyCalledRowsMove (table : PayoutTable) (s : TransferRun GuardedCampay) : Prop where
  failed : ∀ row ∈ s.table.rows, row.status = .failed → row ∈ table.rows ∨ row.id ∈ s.campay.invoked
  kept : ∀ p ∈ table.rows, p.id ∉ s.campay.invoked → p ∈ s.table.rows

theorem onlyCalledRowsMove_iff {t : TransferRun GuardedCampay} (hids : t.table.ids = table.ids) :
    OnlyCalledRowsMove table t ↔ ∀ p ∈ table.rows, p.id ∉ t.campay.invoked → p ∈ t.table.rows := by
  refine ⟨fun h => h.kept, fun hkept => ⟨fun row hrow _ => ?_, hkept⟩⟩
  by_cases hcalled : row.id ∈ t.campay.invoked
  · exact .inr hcalled
  · have hmem : row.id ∈ table.ids := hids ▸ List.mem_map_of_mem hrow
    obtain ⟨p, hp, hid⟩ := List.mem_map.1 hmem
    have hsame := hkept p hp (by rwa [hid])
    rw [t.table.inj hrow hsame hid.symm]
    exact .inl hp

theorem onlyCalledRowsMove_unmoved (campay : GuardedCampay) : OnlyCalledRowsMove table { table, campay } :=
  ⟨fun _ hrow _ => .inl hrow, fun _ hp _ => hp⟩

/-- The sweep moves only rows that Campay was called for exactly when the breaker spares it. -/
theorem outage_spares_iff (balance : FnAnswer (Option ℤ)) (transfer : Payout → FnAnswer TransferReply)
    (refund : Order → FnAnswer TransferReply) (out : PayoutOutside) (transfersEnabled : Bool) (startedAt : Time)
    (table : PayoutTable) (breaker : CircuitBreaker) :
    OnlyCalledRowsMove table
      (sweepPendingTransfers (guardedClient balance transfer refund) out transfersEnabled startedAt table { breaker }) ↔
      SweepSpared balance transfer refund out transfersEnabled startedAt table breaker := by
  cases transfersEnabled with
  | false =>
    rw [sweepPendingTransfers_disabled]
    exact iff_of_true (onlyCalledRowsMove_unmoved _) fun h => by cases h
  | true =>
    cases hbalance : (guardedClient balance transfer refund).getBalance { breaker } with
    | mk campay fetched =>
      cases fetched with
      | none =>
        have hsame : sweepPendingTransfers (guardedClient balance transfer refund) out true startedAt table
            { breaker } = { table, campay } := by simp [sweepPendingTransfers, hbalance]
        rw [hsame]
        refine iff_of_true (onlyCalledRowsMove_unmoved _) fun _ campay' balanceXAF h => ?_
        rw [hbalance] at h
        cases h
      | some balanceXAF =>
        have hinvoked : campay.invoked = [] := by
          have h := guarded_balance_invoked balance transfer refund { breaker }
          rwa [hbalance] at h
        rw [sweepPendingTransfers_eq _ out table startedAt hbalance]
        generalize hs : ({ table, campay, remainingBalanceXAF := some balanceXAF } : TransferRun GuardedCampay) = s
        have htable : s.table = table := by rw [← hs]
        have hnew : s.campay.invoked = [] := by rw [← hs, hinvoked]
        have hbatch : Batch s.table (table.batch startedAt) := by
          rw [htable]
          exact batch_batch table startedAt
        rw [onlyCalledRowsMove_iff ((sweep_ids hbatch).trans (congrArg _ htable))]
        have hspared := batch_spared_iff balance transfer refund out hbatch fun p _ => by simp [hnew]
        constructor
        · intro hkept _ campay' balanceXAF' h
          rw [hbalance] at h
          obtain ⟨rfl, hsome⟩ := Prod.mk.inj h
          obtain rfl := Option.some.inj hsome
          rw [hs]
          exact hspared.1 fun p hp => hkept p (mem_due_of_batch hp).1
        · intro hspares p hp hnone
          have hall := hspared.2 (hs ▸ hspares rfl campay balanceXAF hbalance)
          by_cases hmem : ∃ q ∈ table.batch startedAt, p.id = q.id
          · obtain ⟨q, hq, hid⟩ := hmem
            obtain rfl := table.inj hp (mem_due_of_batch hq).1 hid
            exact hall p hq hnone
          · push Not at hmem
            rw [(batch_other balance transfer refund out hbatch hmem).1, htable]
            exact hp

def sixDuePayouts : PayoutTable where
  rows := (List.range 6).map duePayout
  keys := by decide
  net_pos := by decide

/-- Campay reports its float and then stops answering: the sixth payout fails without a call. -/
theorem sixth_payout_fails_uncalled :
    ¬ ∀ (balance : FnAnswer (Option ℤ)) (transfer : Payout → FnAnswer TransferReply)
      (refund : Order → FnAnswer TransferReply) (out : PayoutOutside) (startedAt : Time) (table : PayoutTable)
      (breaker : CircuitBreaker),
      OnlyCalledRowsMove table
        (sweepPendingTransfers (guardedClient balance transfer refund) out true startedAt table { breaker }) := by
  intro h
  have honly := h ⟨0, 1, some 1000000⟩ (fun _ => ⟨2, 3, .threw false "campay_http_503"⟩)
    (fun _ => ⟨0, 0, .returned 7⟩) .calm 0 sixDuePayouts {}
  generalize hs : sweepPendingTransfers (guardedClient ⟨0, 1, some 1000000⟩
      (fun _ => ⟨2, 3, .threw false "campay_http_503"⟩) (fun _ => ⟨0, 0, .returned 7⟩)) PayoutOutside.calm true 0
      sixDuePayouts { breaker := {} } = s at honly
  have hfailed : ∃ row ∈ s.table.rows, row.status = .failed ∧ row.id ∉ s.campay.invoked := by
    rw [← hs]
    decide +kernel
  obtain ⟨row, hrow, hstatus, hnone⟩ := hfailed
  rcases honly.failed row hrow hstatus with hold | hcalled
  · obtain ⟨id, -, rfl⟩ := List.mem_map.1 hold
    cases hstatus
  · exact hnone hcalled

end ChopNow
