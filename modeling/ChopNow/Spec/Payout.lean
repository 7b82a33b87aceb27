import ChopNow.Lib.Interleave
import ChopNow.Spec.World

/-! One payout row: PayoutTransferWorker sends it, FinanceService receives the
outcome, and the admin endpoints retry it or mark it paid. -/

namespace ChopNow

open Interleave

/-- `transfers` are those that Campay accepted for this row. -/
structure PayoutWorld where
  payout : Payout
  dedup : List CampayWebhookEvent
  transfers : List CampayTxn
  clock : Time
  transfersEnabled : Bool

/-! sweepPendingTransfers and tryTransfer. -/

inductive TransferOutcome
  | notACandidate
  | skippedBalance
  | skippedManual
  | initiated
  | failed
  | raceLost
  deriving DecidableEq, Repr

/-- The `where` of the candidate query. -/
def Payout.transferDue (p : Payout) (now : Time) : Bool := p.status == .pending && decide (p.scheduledFor ≤ now)

/-- `caught` remembers the reference when Campay had taken the transfer before the throw. -/
inductive PayoutTransfer
  | called
  | candidate (netXAF : ℤ) (momoPhone : Phone)
  | locked (netXAF : ℤ) (momoPhone : Phone)
  | accepted (ref : Reference)
  | caught (issued : Option Reference) (reason : String)
  | done (outcome : TransferOutcome)
  deriving Repr

/-- Campay's float is the outside's: a candidate that it does not cover is refused. -/
def PayoutTransfer.step (w : PayoutWorld) : PayoutTransfer → Reply → Option (PayoutWorld × PayoutTransfer)
  | .called, .ok =>
    if w.payout.transferDue w.clock then some (w, .candidate w.payout.netXAF w.payout.momoPhone)
    else some (w, .done .notACandidate)
  | .candidate .., .refused _ => some (w, .done .skippedBalance)
  | .candidate netXAF momoPhone, .ok =>
    if !w.transfersEnabled then some (w, .done .skippedManual)
    else if w.payout.status = .pending then
      some ({ w with payout := { w.payout with status := .inFlight, sentAt := some w.clock } },
        .locked netXAF momoPhone)
    else some (w, .done .raceLost)
  | .called, .fail _ | .candidate .., .fail _ => some (w, .done .failed)
  | .locked netXAF _, .accepted ref =>
    if issued ref w.transfers then none
    else some ({ w with transfers := w.transfers ++ [{ reference := ref, amountXAF := netXAF }] }, .accepted ref)
  | .locked .., .refused reason => some (w, .caught none reason)
  | .locked netXAF _, .lost ref reason =>
    if issued ref w.transfers then none
    else some ({ w with transfers := w.transfers ++ [{ reference := ref, amountXAF := netXAF }] }, .caught (some ref) reason)
  -- onReference, without a guard on the status
  | .accepted ref, .ok =>
    some ({ w with payout := { w.payout with campayRef := some ref }, transfers := store ref w.transfers },
      .done .initiated)
  | .accepted ref, .fail reason => some (w, .caught (some ref) reason)
  -- onFail, without a guard either; its own failure is swallowed
  | .caught _ reason, .ok =>
    some ({ w with payout := { w.payout with status := .failed, failureReason := some reason } }, .done .failed)
  | .caught .., .fail _ => some (w, .done .failed)
  | _, _ => none

/-! handleTransferWebhook. -/

def PayoutStatus.text : PayoutStatus → String
  | .pending => "pending"
  | .inFlight => "in_flight"
  | .paid => "paid"
  | .failed => "failed"
  | .cancelled => "cancelled"

def Party.text : Party → String
  | .vendor _ => "vendor"
  | .rider _ => "rider"

inductive TransferWebhook
  | received (payload : CampayWebhookPayload)
  | first (payload : CampayWebhookPayload) (ref : Reference) (now : Time)
  | found (payload : CampayWebhookPayload) (ref : Reference) (now : Time)
  | settled (ref : Reference) (result : String)
  | done
  deriving Repr

/-- What the `updateMany` writes. -/
def Payout.settle (p : Payout) (payload : CampayWebhookPayload) (now : Time) : Payout :=
  if payload.status.isSuccess then { p with status := .paid, paidAt := some now }
  else { p with
    status := .failed, failureReason := some (payload.failure_reason.getD "campay_reported_failure") }

/-- The row is in one of the two tables, so the lookup in the other finds nothing. -/
def TransferWebhook.step (w : PayoutWorld) : TransferWebhook → Reply → Option (PayoutWorld × TransferWebhook)
  | .received payload, .ok =>
    match payload.key with
    | none => some (w, .done)
    | some ref =>
      if payload.status.isSuccess || payload.status.isFailure then
        match markProcessed w.dedup .transfer ref payload with
        | (_, false) => some (w, .done)
        | (dedup, true) => some ({ w with dedup }, .first payload ref w.clock)
      else some (w, .done)
  | .first payload ref now, .ok =>
    if w.payout.campayRef = some ref then
      if w.payout.status = .inFlight then some (w, .found payload ref now)
      else some (w, .settled ref s!"{w.payout.party.text}_status_mismatch_{w.payout.status.text}")
    else some (w, .settled ref "no_match")
  | .found payload ref now, .ok =>
    let outcome := if payload.status.isSuccess then "paid" else "failed"
    let result := s!"{w.payout.party.text}_{outcome}"
    if w.payout.status = .inFlight then some ({ w with payout := w.payout.settle payload now }, .settled ref result)
    else some (w, .settled ref result)
  | .settled ref result, .ok =>
    some ({ w with dedup := recordResult w.dedup .transfer ref result }, .done)
  | .received _, .fail _ | .first .., .fail _ | .found .., .fail _ => some (w, .done)
  -- recordResult is best effort
  | .settled .., .fail _ => some (w, .done)
  | _, _ => none

/-! The admin endpoints: one guarded `updateMany` each. -/

def Payout.retry (p : Payout) : Option Payout :=
  if p.status = .failed then
    some { p with status := .pending, failureReason := none, sentAt := none, campayRef := none }
  else none

def Payout.manualMarkPaid (p : Payout) (campayRef : Reference) (note : Option String) (now : Time) : Option Payout :=
  if p.status = .pending ∨ p.status = .inFlight ∨ p.status = .failed then
    some { p with
      status := .paid
      paidAt := some now
      campayRef := some campayRef
      failureReason := match note with
        | none | some "" => none
        | some note => some s!"MANUAL_PAID: {note}" }
  else none

/-! The machine of one payout. -/

inductive PayoutThread
  | transfer (t : PayoutTransfer)
  | webhook (t : TransferWebhook)

inductive PayoutEvent
  | tick (elapsed : Time)
  | sweepPendingTransfers
  | retryPayout
  | manualMarkPaid (campayRef : Reference) (note : Option String)
  | callback (payload : CampayWebhookPayload)
  deriving Repr

/-- A callback names a transfer that Campay accepted. -/
def payoutEvent (w : PayoutWorld) : PayoutEvent → Option (PayoutWorld × List PayoutThread)
  | .tick elapsed => some ({ w with clock := w.clock + elapsed }, [])
  | .sweepPendingTransfers => some (w, [.transfer .called])
  | .retryPayout => w.payout.retry.map fun payout => ({ w with payout }, [])
  | .manualMarkPaid campayRef note =>
    (w.payout.manualMarkPaid campayRef note w.clock).map fun payout => ({ w with payout }, [])
  | .callback payload =>
    match payload.reference with
    | none => none
    | some ref =>
      if issued ref w.transfers then
        some ({ w with transfers := report ref payload.status w.transfers }, [.webhook (.received payload)])
      else none

def payoutStep (w : PayoutWorld) (t : PayoutThread) (e : Reply) : Option (PayoutWorld × List PayoutThread) :=
  match t with
  | .transfer t => (t.step w e).map fun r => (r.1, [.transfer r.2])
  | .webhook t => (t.step w e).map fun r => (r.1, [.webhook r.2])

def payoutMachine : Machine PayoutWorld PayoutThread PayoutEvent Reply where
  event := payoutEvent
  step := payoutStep

def PayoutThread.isDone : PayoutThread → Bool
  | .transfer (.done _) | .webhook .done => true
  | _ => false

end ChopNow
