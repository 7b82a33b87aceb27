import ChopNow.Lib.Table
import ChopNow.Spec.Sweep

/-! One visit of sweepPendingTransfers: what it does to the payout's row, and that it leaves
the other rows as they are. -/

namespace ChopNow

variable {κ : Type} {client : CampayClient κ} {out : PayoutOutside} {table locked : PayoutTable}
  {s : TransferRun κ} {p q : Payout}

/-! The rows. -/

theorem PayoutTable.inj (hp : p ∈ table.rows) (hq : q ∈ table.rows) (h : p.id = q.id) : p = q :=
  List.inj_on_of_nodup_map table.keys hp hq h

theorem PayoutTable.mem_update_of_ne {id : PayoutId} {patch : PayoutPatch} (hq : q ∈ table.rows) (h : q.id ≠ id) :
    q ∈ (table.update id patch).rows := by
  have hmem := Table.update_mem (f := patch.apply) (k := id) (·.id) hq
  rwa [if_neg h] at hmem

theorem PayoutTable.mem_onFail_of_ne {reason : String} (hq : q ∈ table.rows) (h : q.id ≠ p.id) :
    q ∈ (table.onFail out p reason).rows := by
  unfold onFail
  split
  · exact hq
  · exact mem_update_of_ne hq h

theorem PayoutTable.lockRow_eq (out : PayoutOutside) (hp : p ∈ table.rows) (hpending : p.status = .pending) :
    table.lockRow out p =
      if out.raceLost p then none else some (table.update p.id (lockPatch (out.lockedAt p))) := by
  have hany : (table.rows.any fun row => row.id == p.id && row.status == .pending) = true :=
    List.any_eq_true.2 ⟨p, hp, by simp [hpending]⟩
  simp only [lockRow, hany]
  cases out.raceLost p
  · rfl
  · rfl

/-- What the worker writes once the call has answered. -/
def PayoutTable.answered (out : PayoutOutside) (table : PayoutTable) (p : Payout) : TransferReply → PayoutTable
  | .returned reference =>
    match out.referenceError p with
    | none => table.update p.id (referencePatch reference)
    | some reason => table.onFail out p reason
  | .threw _ reason => table.onFail out p reason

theorem PayoutTable.mem_answered_of_ne {reply : TransferReply} (hq : q ∈ table.rows) (h : q.id ≠ p.id) :
    q ∈ (table.answered out p reply).rows := by
  cases reply with
  | returned reference =>
    simp only [answered]
    split
    · exact mem_update_of_ne hq h
    · exact mem_onFail_of_ne hq h
  | threw accepted reason => exact mem_onFail_of_ne hq h

/-- The worker deducts the payout. -/
def isCounted (out : PayoutOutside) (p : Payout) (reply : TransferReply) : Bool :=
  reply.succeeds && (out.referenceError p).isNone

/-- The run once Campay has answered for `p`. -/
def TransferRun.sent (client : CampayClient κ) (out : PayoutOutside) (s : TransferRun κ) (locked : PayoutTable)
    (p : Payout) : TransferRun κ :=
  let r := client.initiateTransfer s.campay p
  { table := locked.answered out p r.2
    campay := r.1
    remainingBalanceXAF :=
      if isCounted out p r.2 then s.remainingBalanceXAF.map (· - p.netXAF) else s.remainingBalanceXAF
    attempted := s.attempted ++ [p]
    accepted := if r.2.accepted then s.accepted ++ [p] else s.accepted }

theorem sweepPayout_unaffordable (h : s.remainingBalanceXAF.any (· < p.netXAF) = true) :
    sweepPayout client out true s p = s := by simp [sweepPayout, h]

theorem sweepPayout_raceLost (h : s.remainingBalanceXAF.any (· < p.netXAF) = false)
    (hlock : s.table.lockRow out p = none) :
    sweepPayout client out true s p = { s with attempted := s.attempted ++ [p] } := by
  simp [sweepPayout, h, tryTransfer, hlock]

theorem sweepPayout_locked (h : s.remainingBalanceXAF.any (· < p.netXAF) = false)
    (hlock : s.table.lockRow out p = some locked) :
    sweepPayout client out true s p = s.sent client out locked p := by
  simp only [sweepPayout, Bool.true_and, h, Bool.false_eq_true, if_false, tryTransfer, Bool.not_true, hlock]
  cases hreply : (client.initiateTransfer s.campay p).2 with
  | threw accepted reason =>
    simp [TransferRun.sent, hreply, isCounted, TransferReply.succeeds, PayoutTable.answered]
  | returned reference =>
    cases herror : out.referenceError p with
    | none => simp [TransferRun.sent, hreply, isCounted, TransferReply.succeeds, PayoutTable.answered, herror]
    | some reason => simp [TransferRun.sent, hreply, isCounted, TransferReply.succeeds, PayoutTable.answered, herror]

/-- The visits of a batch: the payout is passed over, lost, or sent. -/
theorem sweepPayout_cases (client : CampayClient κ) (out : PayoutOutside) (s : TransferRun κ)
    (hp : p ∈ s.table.rows) (hpending : p.status = .pending) :
    (s.remainingBalanceXAF.any (· < p.netXAF) = true ∧ sweepPayout client out true s p = s) ∨
    (s.remainingBalanceXAF.any (· < p.netXAF) = false ∧ out.raceLost p = true ∧
      sweepPayout client out true s p = { s with attempted := s.attempted ++ [p] }) ∨
    (s.remainingBalanceXAF.any (· < p.netXAF) = false ∧ out.raceLost p = false ∧
      sweepPayout client out true s p =
        s.sent client out (s.table.update p.id (lockPatch (out.lockedAt p))) p) := by
  have hlock := PayoutTable.lockRow_eq out hp hpending
  cases hany : s.remainingBalanceXAF.any (· < p.netXAF) with
  | true => exact .inl ⟨rfl, sweepPayout_unaffordable hany⟩
  | false =>
    cases hlost : out.raceLost p with
    | true =>
      rw [hlost, if_pos rfl] at hlock
      exact .inr (.inl ⟨rfl, rfl, sweepPayout_raceLost hany hlock⟩)
    | false =>
      rw [hlost, if_neg Bool.false_ne_true] at hlock
      exact .inr (.inr ⟨rfl, rfl, sweepPayout_locked hany hlock⟩)

/-- A visit leaves the other rows as they are. -/
theorem sweepPayout_frame (hp : p ∈ s.table.rows) (hpending : p.status = .pending) (hq : q ∈ s.table.rows)
    (hne : q.id ≠ p.id) : q ∈ (sweepPayout client out true s p).table.rows := by
  rcases sweepPayout_cases client out s hp hpending with ⟨-, heq⟩ | ⟨-, -, heq⟩ | ⟨-, -, heq⟩
  · rw [heq]
    exact hq
  · rw [heq]
    exact hq
  · rw [heq]
    exact PayoutTable.mem_answered_of_ne (PayoutTable.mem_update_of_ne hq hne) hne

/-! The keys. -/

def PayoutTable.ids (table : PayoutTable) : List PayoutId := table.rows.map (·.id)

@[simp] theorem PayoutTable.ids_update (id : PayoutId) (patch : PayoutPatch) : (table.update id patch).ids = table.ids :=
  patch.map_ids id table.rows

@[simp] theorem PayoutTable.ids_onFail (reason : String) : (table.onFail out p reason).ids = table.ids := by
  unfold onFail
  split
  · rfl
  · exact ids_update _ _

@[simp] theorem PayoutTable.ids_answered (reply : TransferReply) : (table.answered out p reply).ids = table.ids := by
  cases reply with
  | returned reference =>
    simp only [answered]
    split
    · exact ids_update _ _
    · exact ids_onFail _
  | threw accepted reason => exact ids_onFail _

theorem sweepPayout_ids (hp : p ∈ s.table.rows) (hpending : p.status = .pending) :
    (sweepPayout client out true s p).table.ids = s.table.ids := by
  rcases sweepPayout_cases client out s hp hpending with ⟨-, heq⟩ | ⟨-, -, heq⟩ | ⟨-, -, heq⟩
  · rw [heq]
  · rw [heq]
  · rw [heq, TransferRun.sent, PayoutTable.ids_answered, PayoutTable.ids_update]

/-! The other table. -/

/-- The row of `id` is in the other table. -/
def PayoutTable.Foreign (table : PayoutTable) (id : PayoutId) (vendor : Bool) : Prop :=
  ∀ q ∈ table.rows, q.id = id → q.party.isVendor ≠ vendor

theorem PayoutTable.foreign (hp : p ∈ table.rows) {vendor : Bool} (hvendor : p.party.isVendor ≠ vendor) :
    table.Foreign p.id vendor := by
  intro q hq hid
  rw [table.inj hq hp hid]
  exact hvendor

theorem PayoutTable.Foreign.update {id : PayoutId} {vendor : Bool} (h : table.Foreign id vendor)
    (patch : PayoutPatch) : (table.update id patch).Foreign id vendor := by
  intro q hq hid
  rcases Table.mem_update (fun row : Payout => row.id) hq with ⟨-, hne⟩ | ⟨row, hrow, hrowId, rfl⟩
  · exact absurd hid hne
  · rw [patch.party_eq]
    exact h row hrow hrowId

/-- An update of a row of one table leaves the rows of the other as they are, in their order. -/
theorem PayoutTable.Foreign.filter_eq {id : PayoutId} {vendor : Bool} (h : table.Foreign id vendor)
    (patch : PayoutPatch) (due : Payout → Bool) :
    ((table.update id patch).rows.filter fun q => q.party.isVendor == vendor && due q) =
      table.rows.filter fun q => q.party.isVendor == vendor && due q := by
  simp only [PayoutTable.update, List.filter_map]
  have hfilter : table.rows.filter ((fun q => q.party.isVendor == vendor && due q) ∘
      fun q => if q.id = id then patch.apply q else q) =
      table.rows.filter fun q => q.party.isVendor == vendor && due q := by
    refine List.filter_congr fun q hq => ?_
    by_cases hid : q.id = id
    · have hne : (q.party.isVendor == vendor) = false := beq_eq_false_iff_ne.2 (h q hq hid)
      simp [Function.comp, hid, patch.party_eq, hne]
    · simp [Function.comp, hid]
  rw [hfilter]
  conv_rhs => rw [← List.map_id (table.rows.filter fun q => q.party.isVendor == vendor && due q)]
  refine List.map_congr_left fun q hq => ?_
  obtain ⟨hrow, hparty⟩ := List.mem_filter.1 hq
  simp only [Bool.and_eq_true, beq_iff_eq] at hparty
  exact if_neg fun hid => h q hrow hid hparty.1

/-! The candidates. -/

variable {vendor : Bool} {startedAt : Time}

theorem mem_due_of_candidate (h : p ∈ table.candidates vendor startedAt) :
    p ∈ table.rows ∧ p.party.isVendor = vendor ∧ p.transferDue startedAt = true := by
  have hmem := (List.perm_insertionSort _ _).mem_iff.1 (List.mem_of_mem_take h)
  simpa [and_assoc] using hmem

theorem pending_of_candidate (h : p ∈ table.candidates vendor startedAt) : p.status = .pending := by
  have hdue := (mem_due_of_candidate h).2.2
  simp only [Payout.transferDue, Bool.and_eq_true, beq_iff_eq] at hdue
  exact hdue.1

/-- What a batch may rely on: each payout has its own row, still PENDING. -/
structure Batch (table : PayoutTable) (batch : List Payout) : Prop where
  mem : ∀ p ∈ batch, p ∈ table.rows
  pending : ∀ p ∈ batch, p.status = .pending
  keys : (batch.map (·.id)).Nodup

theorem batch_candidates : Batch table (table.candidates vendor startedAt) where
  mem := fun _ hp => (mem_due_of_candidate hp).1
  pending := fun _ hp => pending_of_candidate hp
  keys := by
    have hperm := (List.perm_insertionSort (fun p q : Payout => p.scheduledFor ≤ q.scheduledFor)
      (table.rows.filter fun p => p.party.isVendor == vendor && p.transferDue startedAt)).map (·.id)
    have hsub := (List.filter_sublist (l := table.rows)
      (p := fun p => p.party.isVendor == vendor && p.transferDue startedAt)).map (·.id)
    exact ((hperm.nodup_iff.2 (table.keys.sublist hsub)).sublist ((List.take_sublist _ _).map _))

/-- The rest of a batch is still a batch after one visit. -/
theorem Batch.next {batch : List Payout} (h : Batch s.table (p :: batch)) :
    Batch (sweepPayout client out true s p).table batch := by
  have hkeys := List.nodup_cons.1 h.keys
  refine ⟨fun q hq => ?_, fun q hq => h.pending q (.tail _ hq), hkeys.2⟩
  have hne : q.id ≠ p.id := fun heq => hkeys.1 (List.mem_map.2 ⟨q, hq, heq⟩)
  exact sweepPayout_frame (h.mem p List.mem_cons_self) (h.pending p List.mem_cons_self) (h.mem q (.tail _ hq)) hne

theorem PayoutTable.Foreign.candidates_eq {id : PayoutId} (h : table.Foreign id vendor) (patch : PayoutPatch) :
    (table.update id patch).candidates vendor startedAt = table.candidates vendor startedAt := by
  unfold candidates
  rw [h.filter_eq]

theorem PayoutTable.Foreign.candidates_onFail {reason : String} (h : table.Foreign p.id vendor) :
    (table.onFail out p reason).candidates vendor startedAt = table.candidates vendor startedAt := by
  unfold onFail
  split
  · rfl
  · exact h.candidates_eq _

theorem PayoutTable.Foreign.candidates_answered {reply : TransferReply} (h : table.Foreign p.id vendor) :
    (table.answered out p reply).candidates vendor startedAt = table.candidates vendor startedAt := by
  cases reply with
  | returned reference =>
    simp only [answered]
    split
    · exact h.candidates_eq _
    · exact h.candidates_onFail
  | threw accepted reason => exact h.candidates_onFail

/-- A visit to a payout of one table leaves the candidates of the other. -/
theorem sweepPayout_candidates (client : CampayClient κ) (out : PayoutOutside) (startedAt : Time)
    (hp : p ∈ s.table.rows) (hpending : p.status = .pending)
    (hvendor : p.party.isVendor ≠ vendor) :
    (sweepPayout client out true s p).table.candidates vendor startedAt = s.table.candidates vendor startedAt := by
  have hforeign := PayoutTable.foreign hp hvendor
  rcases sweepPayout_cases client out s hp hpending with ⟨-, heq⟩ | ⟨-, -, heq⟩ | ⟨-, -, heq⟩
  · rw [heq]
  · rw [heq]
  · rw [heq]
    exact ((hforeign.update _).candidates_answered).trans (hforeign.candidates_eq _)

theorem sweep_ids {batch : List Payout} (h : Batch s.table batch) :
    (batch.foldl (sweepPayout client out true) s).table.ids = s.table.ids := by
  induction batch generalizing s with
  | nil => rfl
  | cons p batch ih =>
    exact (ih h.next).trans (sweepPayout_ids (h.mem p List.mem_cons_self) (h.pending p List.mem_cons_self))

/-- The loop over the vendors leaves the riders' candidates. -/
theorem sweep_candidates {batch : List Payout} (h : Batch s.table batch)
    (hvendor : ∀ p ∈ batch, p.party.isVendor ≠ vendor) :
    (batch.foldl (sweepPayout client out true) s).table.candidates vendor startedAt =
      s.table.candidates vendor startedAt := by
  induction batch generalizing s with
  | nil => rfl
  | cons p batch ih =>
    have hone := sweepPayout_candidates client out startedAt (h.mem p List.mem_cons_self)
      (h.pending p List.mem_cons_self) (hvendor p List.mem_cons_self)
    exact (ih h.next fun q hq => hvendor q (.tail _ hq)).trans hone

/-- The payouts that the sweep looks at, in its order. -/
def PayoutTable.batch (table : PayoutTable) (startedAt : Time) : List Payout :=
  table.candidates true startedAt ++ table.candidates false startedAt

theorem mem_due_of_batch (h : p ∈ table.batch startedAt) : p ∈ table.rows ∧ p.transferDue startedAt = true := by
  rcases List.mem_append.1 h with h | h
  · exact ⟨(mem_due_of_candidate h).1, (mem_due_of_candidate h).2.2⟩
  · exact ⟨(mem_due_of_candidate h).1, (mem_due_of_candidate h).2.2⟩

theorem batch_batch (table : PayoutTable) (startedAt : Time) : Batch table (table.batch startedAt) where
  mem := fun _ hp => (mem_due_of_batch hp).1
  pending := by
    intro p hp
    rcases List.mem_append.1 hp with hp | hp
    · exact pending_of_candidate hp
    · exact pending_of_candidate hp
  keys := by
    rw [PayoutTable.batch, List.map_append, List.nodup_append]
    refine ⟨batch_candidates.keys, batch_candidates.keys, fun a ha b hb heq => ?_⟩
    obtain ⟨p, hp, rfl⟩ := List.mem_map.1 ha
    obtain ⟨q, hq, rfl⟩ := List.mem_map.1 hb
    obtain ⟨hprow, hpvendor, -⟩ := mem_due_of_candidate hp
    obtain ⟨hqrow, hqrider, -⟩ := mem_due_of_candidate hq
    rw [table.inj hprow hqrow heq, hqrider] at hpvendor
    cases hpvendor

/-- With a balance at hand the sweep is one loop over both tables. -/
theorem sweepPendingTransfers_eq (client : CampayClient κ) (out : PayoutOutside) (table : PayoutTable)
    (startedAt : Time) {campay campay' : κ} {balanceXAF : ℤ}
    (h : client.getBalance campay = (campay', some balanceXAF)) :
    sweepPendingTransfers client out true startedAt table campay =
      (table.batch startedAt).foldl (sweepPayout client out true)
        { table, campay := campay', remainingBalanceXAF := some balanceXAF } := by
  simp only [sweepPendingTransfers, if_true, h, sweepTables]
  rw [sweep_candidates batch_candidates fun p hp => by simp [(mem_due_of_candidate hp).2.1],
    PayoutTable.batch, List.foldl_append]

end ChopNow
