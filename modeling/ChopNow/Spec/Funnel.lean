import ChopNow.Lib.Grouping
import ChopNow.Spec.RetryChain

/-! The dispatch tile of the admin page: computeDispatchFunnel of AdminMetricsService, over the rows
that logDispatchEvent writes while the chains of attempts run. -/

namespace ChopNow

/-- What the funnel reads of a row of `DispatchEvent`. -/
structure LoggedEvent where
  orderId : OrderId
  vendorId : VendorId
  event : DispatchEvent
  createdAt : Time
  deriving DecidableEq, Repr

/-- `createdAt: { gte, lt }`. -/
def LoggedEvent.within (start stop : Time) (row : LoggedEvent) : Bool :=
  start ≤ row.createdAt && row.createdAt < stop

def LoggedEvent.isAssigned (row : LoggedEvent) : Bool := row.event.outcome = .assigned

structure RiderOffers where
  riderId : RiderId
  offers : ℕ
  deriving DecidableEq, Repr

def RiderOffers.ofRow? : Option RiderId × ℕ → Option RiderOffers
  | (none, _) => none
  | (some riderId, offers) => some { riderId, offers }

structure DispatchFunnel where
  ordersAssigned : ℕ
  assignedOnFirstAttempt : ℕ
  expiredNoRider : ℕ
  avgAttemptsToAssign : Option ℚ
  topRiders : List RiderOffers
  deriving DecidableEq, Repr

/-- `"outcome" = 'NO_CANDIDATE' AND "attempt" >= 10`. -/
def LoggedEvent.gaveUp (row : LoggedEvent) : Bool :=
  row.event.outcome = .noCandidate && 10 ≤ row.event.attempt

/-- `NOT EXISTS` asks for the order's rows of any time. -/
def hasExpired (rows : List LoggedEvent) (start stop : Time) (e : LoggedEvent) : Bool :=
  e.gaveUp && e.within start stop && !rows.any fun e2 => e2.orderId = e.orderId && e2.isAssigned

/-- The average is the exact quotient, which the source rounds to a double. -/
def computeDispatchFunnel (rows : List LoggedEvent) (start stop : Time) : DispatchFunnel :=
  let assigned := rows.filter fun row => row.isAssigned && row.within start stop
  let assignedRows := Grouping.groupMin (·.orderId) (·.event.attempt) assigned
  let topRiderRows := Grouping.topCounts (·.event.riderId) 5 (assigned.filter (·.event.riderId.isSome))
  let ordersAssigned := assignedRows.length
  let totalAttempts := (assignedRows.map Prod.snd).sum
  { ordersAssigned
    assignedOnFirstAttempt := assignedRows.countP (·.2 = 1)
    expiredNoRider := Grouping.countDistinct (·.orderId) (rows.filter (hasExpired rows start stop))
    avgAttemptsToAssign := if ordersAssigned = 0 then none else some (totalAttempts / ordersAssigned)
    topRiders := topRiderRows.filterMap RiderOffers.ofRow? }

structure StartedChain where
  orderId : OrderId
  vendorId : VendorId
  chain : Chain
  deriving DecidableEq, Repr

/-- The chains of all the orders, and dispatch_events. `failed` counts the warnings
`dispatch_event_log_failed`. -/
structure DispatchLog where
  clock : Time := 0
  chains : List StartedChain := []
  dispatchEvents : List LoggedEvent := []
  failed : ℕ := 0
  deriving DecidableEq, Repr

def ChainAction.row? (now : Time) : ChainAction → Option LoggedEvent
  | .dispatchOrder run => run.event.map fun event => ⟨run.orderId, run.vendorId, event, now⟩
  | _ => none

/-- An insert that fails is swallowed. -/
def DispatchLog.logDispatchEvent (log : DispatchLog) (inserted : Bool) (actions : List ChainAction) : DispatchLog :=
  let rows := actions.filterMap (ChainAction.row? log.clock)
  if inserted then { log with dispatchEvents := log.dispatchEvents ++ rows }
  else { log with failed := log.failed + rows.length }

def DispatchLog.findChain (log : DispatchLog) (orderId : OrderId) : Option StartedChain :=
  log.chains.find? fun started => started.orderId == orderId

def DispatchLog.start (log : DispatchLog) (orderId : OrderId) (vendorId : VendorId) (chain : Chain) : DispatchLog :=
  { log with chains := log.chains ++ [⟨orderId, vendorId, chain⟩] }

def DispatchLog.setChain (log : DispatchLog) (orderId : OrderId) (chain : Chain) : DispatchLog :=
  { log with chains := log.chains.map fun started => if started.orderId = orderId then { started with chain } else started }

inductive DispatchLogEvent
  | tick (elapsed : Time)
  | onOrderAccepted (orderId : OrderId) (vendorId : VendorId) (reads : AttemptReads) (inserted : Bool)
  | process (orderId : OrderId) (job : DispatchRetryJob) (reads : AttemptReads) (inserted : Bool)
  deriving Repr

/-- An order is accepted once, so it has one chain. An attempt logs what the chain has done in it. -/
def DispatchLog.step (log : DispatchLog) : DispatchLogEvent → Option DispatchLog
  | .tick elapsed => some { log with clock := log.clock + elapsed }
  | .onOrderAccepted orderId vendorId reads inserted =>
    match log.findChain orderId with
    | some _ => none
    | none =>
      let chain := onOrderAccepted reads orderId vendorId
      some ((log.start orderId vendorId chain).logDispatchEvent inserted chain.log)
  | .process orderId job reads inserted =>
    match log.findChain orderId with
    | none => none
    | some started =>
      if job ∈ started.chain.queue then
        let chain := started.chain.process reads job
        some ((log.setChain orderId chain).logDispatchEvent inserted (chain.log.drop started.chain.log.length))
      else none

def DispatchLog.run (log : DispatchLog) (events : List DispatchLogEvent) : Option DispatchLog :=
  events.foldlM DispatchLog.step log

end ChopNow
