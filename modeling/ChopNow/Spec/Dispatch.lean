import ChopNow.Spec.Lifecycle

/-! DispatchService around its attempts: ORDER_ACCEPTED may be delivered more than
once, retries wait in BullMQ, and each dispatchOrder leaves a row of its outcome. -/

namespace ChopNow

open Interleave

inductive DispatchOutcome
  | assigned | noCandidate | raceLost
  deriving DecidableEq, Repr

/-- `model DispatchEvent`: who was picked, in which attempt, counted from 1. -/
structure DispatchEvent where
  attempt : ℕ
  outcome : DispatchOutcome
  riderId : Option RiderId := none
  deriving DecidableEq, Repr

/-- A delayed job; the attempt is its jobId. -/
structure RetryJob where
  attempt : ℕ
  fireAt : Time
  deriving DecidableEq, Repr

structure Dispatching where
  world : World
  retryQueue : List RetryJob
  events : List DispatchEvent

/-- `retryQueue.add`: an id that waits already is refused. -/
def addJob (queue : List RetryJob) (job : RetryJob) : List RetryJob :=
  if queue.any fun j => j.attempt == job.attempt then queue else queue ++ [job]

/-- What dispatchOrder logs before it returns. -/
def TryDispatch.logged (w : World) : TryDispatch → Answer → Option DispatchEvent
  | .searching attempt, .candidate none => some { attempt := attempt + 1, outcome := .noCandidate }
  | .chosen attempt rider _, .reply .ok =>
    some ⟨attempt + 1, if w.order.riderId.isNone then .assigned else .raceLost, some rider⟩
  | _, _ => none

/-- An attempt, its audit row on the way, or the vendor's cancellation. -/
inductive DispatchThread
  | run (t : TryDispatch)
  | logDispatchEvent (row : DispatchEvent) (next : TryDispatch)
  | cancelPreOrder (t : VendorCancelPreOrder)

inductive DispatchCall
  | tick (elapsed : Time)
  | orderAccepted
  | runRetry (attempt : ℕ)
  | vendorCancelPreOrder (vendor : VendorId) (note : Option String)
  deriving Repr

/-- A job leaves the queue when it starts. -/
def dispatchEvent (s : Dispatching) : DispatchCall → Option (Dispatching × List DispatchThread)
  | .tick elapsed => some ({ s with world := { s.world with clock := s.world.clock + elapsed } }, [])
  | .orderAccepted => some (s, [.run (.called 0 0)])
  | .runRetry attempt =>
    match s.retryQueue.find? fun job => job.attempt == attempt with
    | none => none
    | some job =>
      if s.world.clock < job.fireAt then none
      else some ({ s with retryQueue := s.retryQueue.filter fun job => job.attempt != attempt },
        [.run (.called job.fireAt job.attempt)])
  | .vendorCancelPreOrder vendor note => some (s, [.cancelPreOrder (.called vendor note)])

/-- Where the attempt goes on: a next attempt goes to the queue. -/
def Dispatching.follow (s : Dispatching) : TryDispatch → Dispatching × List DispatchThread
  | .called fireAt attempt => ({ s with retryQueue := addJob s.retryQueue ⟨attempt, fireAt⟩ }, [.run .done])
  | t => (s, [.run t])

/-- An audit row that cannot be written is dropped. -/
def dispatchStep (s : Dispatching) : DispatchThread → Answer → Option (Dispatching × List DispatchThread)
  | .run t, a =>
    (t.step s.world a).map fun r =>
      match t.logged s.world a with
      | some row => ({ s with world := r.1 }, [.logDispatchEvent row r.2])
      | none => { s with world := r.1 }.follow r.2
  | .logDispatchEvent row next, .reply .ok => some ({ s with events := s.events ++ [row] }, [.run next])
  | .logDispatchEvent _ next, .reply (.fail _) => some (s, [.run next])
  | .cancelPreOrder t, .reply e =>
    (t.step s.world e).map fun r => ({ s with world := r.1 }, [.cancelPreOrder r.2])
  | _, _ => none

def dispatchMachine : Machine Dispatching DispatchThread DispatchCall Answer where
  event := dispatchEvent
  step := dispatchStep

/-- Nobody has looked for a rider yet. -/
def Dispatching.start (w : World) : Dispatching := ⟨w, [], []⟩

end ChopNow
