import ChopNow.Spec.Dispatch

/-! The chain of attempts that ORDER_ACCEPTED starts: onOrderAccepted, runRetry, tryDispatch and
dispatchOrder of DispatchService, and DispatchRetryProcessor between them. Others may write
between any two statements, so whatever a statement reads comes from outside. -/

namespace ChopNow

def DISPATCH_RETRY_JOB : String := "tryDispatch"

structure DispatchRetryJobData where
  orderId : OrderId
  vendorId : VendorId
  attempt : ℕ
  deriving DecidableEq, Repr

/-- `jobId` are the two parts of `${orderId}:${nextAttempt}`. -/
structure DispatchRetryJob where
  name : String
  data : DispatchRetryJobData
  delay : Time
  jobId : OrderId × ℕ
  deriving DecidableEq, Repr

structure CurrentOrder where
  status : OrderStatus
  riderId : Option RiderId
  deriving DecidableEq, Repr

/-- What the statements of one attempt give, in their order: `current` to tryDispatch, then
the row and the vendor to dispatchOrder, the riders near by, the `count` of its updateMany, and the
status to expireForNoRider. -/
structure AttemptReads where
  current : Option CurrentOrder
  order : Option (Option RiderId)
  vendor : Option VendorId
  candidates : List RiderId
  count : ℕ
  toExpire : Option OrderStatus
  deriving DecidableEq, Repr

/-- The row it logs, and what it returns. -/
def dispatchOrder (reads : AttemptReads) (attempt : ℕ) : Option DispatchEvent × Option RiderId :=
  match reads.order with
  | none => (none, none)
  | some (some _) => (none, none)
  | some none =>
    match reads.vendor with
    | none => (none, none)
    | some _ =>
      match reads.candidates with
      | [] => (some { attempt, outcome := .noCandidate }, none)
      | chosen :: _ =>
        if reads.count = 0 then (some ⟨attempt, .raceLost, some chosen⟩, none)
        else (some ⟨attempt, .assigned, some chosen⟩, some chosen)

/-- Whether it sets the order to EXPIRED. -/
def expireForNoRider (order : Option OrderStatus) : Bool :=
  match order with
  | none => false
  | some status => TERMINABLE.contains status

structure DispatchRun where
  orderId : OrderId
  vendorId : VendorId
  attempt : ℕ
  event : Option DispatchEvent
  result : Option RiderId
  deriving DecidableEq, Repr

/-- What an attempt does, as far as it can be seen from outside. -/
inductive ChainAction
  | notDispatchable
  | dispatchOrder (run : DispatchRun)
  | add (job : DispatchRetryJob)
  | expireForNoRider (orderId : OrderId) (wrote : Bool)
  deriving DecidableEq, Repr

def retryJob (orderId : OrderId) (vendorId : VendorId) (nextAttempt : ℕ) : DispatchRetryJob :=
  ⟨DISPATCH_RETRY_JOB, ⟨orderId, vendorId, nextAttempt⟩, RETRY_INTERVAL_MS, (orderId, nextAttempt)⟩

/-- `attempt` counts from 0, dispatchOrder's from 1. -/
def tryDispatch (reads : AttemptReads) (orderId : OrderId) (vendorId : VendorId) (attempt : ℕ) : List ChainAction :=
  match reads.current with
  | none => [.notDispatchable]
  | some current =>
    if current.riderId.isSome then [.notDispatchable]
    else if current.status = .cancelled ∨ current.status = .expired then [.notDispatchable]
    else
      let (event, result) := dispatchOrder reads (attempt + 1)
      .dispatchOrder ⟨orderId, vendorId, attempt + 1, event, result⟩ ::
        if result.isSome then []
        else if attempt < MAX_RETRIES - 1 then [.add (retryJob orderId vendorId (attempt + 1))]
        else [.expireForNoRider orderId (expireForNoRider reads.toExpire)]

/-- The retry queue, and all that the chain has done. -/
structure Chain where
  queue : List DispatchRetryJob := []
  log : List ChainAction := []
  deriving DecidableEq, Repr

/-- `retryQueue.add` refuses an id that waits already. -/
def Chain.act (c : Chain) (action : ChainAction) : Chain where
  queue :=
    match action with
    | .add job => if c.queue.any fun waiting => waiting.jobId == job.jobId then c.queue else c.queue ++ [job]
    | _ => c.queue
  log := c.log ++ [action]

def Chain.perform (c : Chain) (actions : List ChainAction) : Chain := actions.foldl Chain.act c

def onOrderAccepted (reads : AttemptReads) (orderId : OrderId) (vendorId : VendorId) : Chain :=
  ({} : Chain).perform (tryDispatch reads orderId vendorId 0)

def Chain.runRetry (c : Chain) (reads : AttemptReads) (orderId : OrderId) (vendorId : VendorId) (attempt : ℕ) : Chain :=
  c.perform (tryDispatch reads orderId vendorId attempt)

/-- The worker takes the job from the queue. -/
def Chain.process (c : Chain) (reads : AttemptReads) (job : DispatchRetryJob) : Chain :=
  let taken := { c with queue := c.queue.erase job }
  if job.name ≠ DISPATCH_RETRY_JOB then taken
  else taken.runRetry reads job.data.orderId job.data.vendorId job.data.attempt

/-- The chain after `n` retry jobs, each run once, in any order and with any answers. -/
inductive Chain.Run (orderId : OrderId) (vendorId : VendorId) : ℕ → Chain → Prop
  | accepted (reads : AttemptReads) : Run orderId vendorId 0 (onOrderAccepted reads orderId vendorId)
  | job {n : ℕ} {c : Chain} (job : DispatchRetryJob) (reads : AttemptReads) :
    Run orderId vendorId n c → job ∈ c.queue → Run orderId vendorId (n + 1) (c.process reads job)

end ChopNow
