import Mathlib.Data.List.Sort
import ChopNow.Spec.Breaker
import ChopNow.Spec.Payout
import ChopNow.Spec.Refund

/-! The two cron workers over their whole batch: PayoutTransferWorker.sweepPendingTransfers
and RefundProcessorService.sweepPendingRefunds, with the CampayService they call and the
circuit breaker around it. -/

namespace ChopNow

def MAX_PAYOUTS_PER_RUN : ℕ := 25

def MAX_REFUNDS_PER_RUN : ℕ := 25

/-! CampayService, as its callers see it. -/

/-- `accepted` says whether Campay had taken the money when the call threw. -/
inductive TransferReply
  | returned (reference : Reference)
  | threw (accepted : Bool) (reason : String)
  deriving DecidableEq, Repr

def TransferReply.accepted : TransferReply → Bool
  | .returned _ => true
  | .threw accepted _ => accepted

def TransferReply.succeeds : TransferReply → Bool
  | .returned _ => true
  | .threw .. => false

structure CampayClient (κ : Type) where
  getBalance : κ → κ × Option ℤ
  initiateTransfer : κ → Payout → κ × TransferReply
  initiateRefund : κ → Order → κ × TransferReply

/-! The client with its breaker. -/

/-- When the wrapped `fn` starts and ends, and how. -/
structure FnAnswer (α : Type) where
  startedAt : Time
  endedAt : Time
  reply : α

/-- `invoked` lists the payouts whose `fn` ran; the code does not keep it. -/
structure GuardedCampay where
  breaker : CircuitBreaker
  invoked : List PayoutId := []

def FnAnswer.call {α : Type} (a : FnAnswer α) (succeeds : Bool) : WrapCall := ⟨a.startedAt, a.endedAt, succeeds⟩

def circuitOpenReply : TransferReply := .threw false "Campay circuit is OPEN — too many consecutive failures"

/-- Every method goes through `breaker.wrap`. -/
def guardedClient (balance : FnAnswer (Option ℤ)) (transfer : Payout → FnAnswer TransferReply)
    (refund : Order → FnAnswer TransferReply) : CampayClient GuardedCampay where
  getBalance c :=
    match c.breaker.wrap (balance.call balance.reply.isSome) with
    | (breaker, .circuitOpen) => ({ c with breaker }, none)
    | (breaker, _) => ({ c with breaker }, balance.reply)
  initiateTransfer c p :=
    match c.breaker.wrap ((transfer p).call (transfer p).reply.succeeds) with
    | (breaker, .circuitOpen) => ({ c with breaker }, circuitOpenReply)
    | (breaker, _) => ({ c with breaker, invoked := c.invoked ++ [p.id] }, (transfer p).reply)
  initiateRefund c o :=
    match c.breaker.wrap ((refund o).call (refund o).reply.succeeds) with
    | (breaker, .circuitOpen) => ({ c with breaker }, circuitOpenReply)
    | (breaker, _) => ({ c with breaker }, (refund o).reply)

/-! sweepPendingTransfers. -/

/-- The rows of both payout tables. Each has its own key, and only a balance above zero is
ever scheduled. -/
structure PayoutTable where
  rows : List Payout
  keys : (rows.map (·.id)).Nodup
  net_pos : ∀ p ∈ rows, 0 < p.netXAF

/-- What one UPDATE may write: not the key, the party or the amount. -/
structure PayoutPatch where
  apply : Payout → Payout
  id_eq : ∀ p, (apply p).id = p.id
  party_eq : ∀ p, (apply p).party = p.party
  netXAF_eq : ∀ p, (apply p).netXAF = p.netXAF

theorem PayoutPatch.map_ids (patch : PayoutPatch) (id : PayoutId) (rows : List Payout) :
    (rows.map fun p => if p.id = id then patch.apply p else p).map (·.id) = rows.map (·.id) := by
  rw [List.map_map]
  refine List.map_congr_left fun p _ => ?_
  show (if p.id = id then patch.apply p else p).id = p.id
  split
  · exact patch.id_eq p
  · rfl

def PayoutTable.update (table : PayoutTable) (id : PayoutId) (patch : PayoutPatch) : PayoutTable where
  rows := table.rows.map fun p => if p.id = id then patch.apply p else p
  keys := by
    rw [patch.map_ids]
    exact table.keys
  net_pos := by
    intro p hp
    obtain ⟨a, ha, rfl⟩ := List.mem_map.1 hp
    split
    · rw [patch.netXAF_eq]
      exact table.net_pos a ha
    · exact table.net_pos a ha

/-- The writes of `lockRow`, `onReference` and `onFail`. -/
def lockPatch (now : Time) : PayoutPatch where
  apply p := { p with status := .inFlight, sentAt := some now }
  id_eq _ := rfl
  party_eq _ := rfl
  netXAF_eq _ := rfl

def referencePatch (reference : Reference) : PayoutPatch where
  apply p := { p with campayRef := some reference }
  id_eq _ := rfl
  party_eq _ := rfl
  netXAF_eq _ := rfl

def failPatch (reason : String) : PayoutPatch where
  apply p := { p with status := .failed, failureReason := some reason }
  id_eq _ := rfl
  party_eq _ := rfl
  netXAF_eq _ := rfl

/-- What befalls the statements about one payout: another path flips the row before the
lock, or the write after Campay's answer throws. -/
structure PayoutOutside where
  lockedAt : Payout → Time
  raceLost : Payout → Bool
  referenceError : Payout → Option String
  failError : Payout → Bool

/-- `attempted` and `accepted` list the payouts that the worker tried to send and that
Campay took; the code keeps neither. -/
structure TransferRun (κ : Type) where
  table : PayoutTable
  campay : κ
  remainingBalanceXAF : Option ℤ := none
  attempted : List Payout := []
  accepted : List Payout := []

section

variable {κ : Type} (client : CampayClient κ) (out : PayoutOutside) (transfersEnabled : Bool)

/-- The `updateMany` on `id` and PENDING; `none` is a count of zero. -/
def PayoutTable.lockRow (table : PayoutTable) (p : Payout) : Option PayoutTable :=
  if !out.raceLost p && table.rows.any fun row => row.id == p.id && row.status == .pending then
    some (table.update p.id (lockPatch (out.lockedAt p)))
  else none

/-- The catch block; a failure of its own write is swallowed. -/
def PayoutTable.onFail (table : PayoutTable) (p : Payout) (reason : String) : PayoutTable :=
  if out.failError p then table else table.update p.id (failPatch reason)

def tryTransfer (s : TransferRun κ) (p : Payout) : TransferRun κ × TransferOutcome :=
  if !transfersEnabled then (s, .skippedManual)
  else
    match s.table.lockRow out p with
    | none => ({ s with attempted := s.attempted ++ [p] }, .raceLost)
    | some table =>
      let r := client.initiateTransfer s.campay p
      let s := { s with
        campay := r.1
        attempted := s.attempted ++ [p]
        accepted := if r.2.accepted then s.accepted ++ [p] else s.accepted }
      match r.2 with
      | .returned reference =>
        match out.referenceError p with
        | none => ({ s with table := table.update p.id (referencePatch reference) }, .initiated)
        | some reason => ({ s with table := table.onFail out p reason }, .failed)
      | .threw _ reason => ({ s with table := table.onFail out p reason }, .failed)

/-- The body of both loops. -/
def sweepPayout (s : TransferRun κ) (p : Payout) : TransferRun κ :=
  if transfersEnabled && s.remainingBalanceXAF.any (· < p.netXAF) then s
  else
    let r := tryTransfer client out transfersEnabled s p
    if r.2 = .initiated then { r.1 with remainingBalanceXAF := r.1.remainingBalanceXAF.map (· - p.netXAF) } else r.1

def Party.isVendor : Party → Bool
  | .vendor _ => true
  | .rider _ => false

/-- The `findMany` over one of the two tables: PENDING and due, the longest due first. -/
def PayoutTable.candidates (table : PayoutTable) (vendor : Bool) (startedAt : Time) : List Payout :=
  ((table.rows.filter fun p => p.party.isVendor == vendor && p.transferDue startedAt).insertionSort
    fun p q => p.scheduledFor ≤ q.scheduledFor).take MAX_PAYOUTS_PER_RUN

/-- The vendors' payouts, then the riders'. -/
def sweepTables (startedAt : Time) (s : TransferRun κ) : TransferRun κ :=
  let s := (s.table.candidates true startedAt).foldl (sweepPayout client out transfersEnabled) s
  (s.table.candidates false startedAt).foldl (sweepPayout client out transfersEnabled) s

/-- Without the balance there is no sweep. -/
def sweepPendingTransfers (startedAt : Time) (table : PayoutTable) (campay : κ) : TransferRun κ :=
  if transfersEnabled then
    match client.getBalance campay with
    | (campay, none) => { table, campay }
    | (campay, some balanceXAF) =>
      sweepTables client out transfersEnabled startedAt { table, campay, remainingBalanceXAF := some balanceXAF }
  else sweepTables client out transfersEnabled startedAt { table, campay }

end

/-! sweepPendingRefunds. -/

structure RefundOutside where
  lockedAt : Order → Time
  raceLost : Order → Bool
  commitError : Order → Option String
  failError : Order → Bool

structure RefundRun (κ : Type) where
  orders : List Order
  ledger : Ledger
  campay : κ
  attempted : List OrderId := []

section

variable {κ : Type} (client : CampayClient κ) (out : RefundOutside) (refundsEnabled : Bool)

def RefundRun.write (s : RefundRun κ) (id : OrderId) (f : Order → Order) : RefundRun κ :=
  { s with orders := s.orders.map fun o => if o.id = id then f o else o }

/-- The catch block gives the lock back. -/
def RefundRun.onFail (s : RefundRun κ) (o : Order) (reason : String) : RefundRun κ :=
  if out.failError o then s
  else s.write o.id fun row => { row with refundInitiatedAt := none, refundFailureReason := some reason }

def tryRefund (s : RefundRun κ) (o : Order) : RefundRun κ × RefundOutcome :=
  if !refundsEnabled then (s, .skippedManual)
  else
    let s := { s with attempted := s.attempted ++ [o.id] }
    if !out.raceLost o && s.orders.any fun row => row.id == o.id && row.refundDue then
      let s := s.write o.id fun row =>
        { row with refundInitiatedAt := some (out.lockedAt o), refundFailureReason := none }
      let r := client.initiateRefund s.campay o
      let s := { s with campay := r.1 }
      match r.2 with
      | .threw _ reason => (s.onFail out o reason, .failed)
      | .returned reference =>
        match out.commitError o, recordTransaction s.ledger (out.lockedAt o) (refundInitiatedInput o o.totalXAF) with
        | some reason, _ => (s.onFail out o reason, .failed)
        | none, .error err => (s.onFail out o err.message, .failed)
        | none, .ok ledger =>
          ({ s.write o.id fun row => { row with refundCampayRef := some reference } with ledger }, .initiated)
    else (s, .raceLost)

def Order.hasPayerPhone (o : Order) : Bool := o.payerPhone.any (· != "")

/-- The body of the loop. -/
def sweepRefund (s : RefundRun κ) (o : Order) : RefundRun κ :=
  if o.hasPayerPhone then (tryRefund client out refundsEnabled s o).1
  else if out.failError o then s
  else s.write o.id fun row => { row with refundFailureReason := some "missing_payer_phone" }

/-- `orderBy: { cancelledAt: 'asc' }`, where a missing value comes last. -/
def Order.cancelledBefore (o o' : Order) : Bool :=
  match o.cancelledAt, o'.cancelledAt with
  | some t, some t' => t.ble t'
  | none, some _ => false
  | _, none => true

def refundCandidates (orders : List Order) : List Order :=
  ((orders.filter Order.refundDue).insertionSort fun o o' => o.cancelledBefore o' = true).take MAX_REFUNDS_PER_RUN

def sweepPendingRefunds (orders : List Order) (ledger : Ledger) (campay : κ) : RefundRun κ :=
  (refundCandidates orders).foldl (sweepRefund client out refundsEnabled) { orders, ledger, campay }

end

end ChopNow
