import ChopNow.Lib.Interleave
import ChopNow.Spec.Schema

/-! CampayCircuitBreakerService: the three states around every call to Campay, once for
calls one after the other and once for calls that overlap. -/

namespace ChopNow

open Interleave

def THRESHOLD_FAILURES : ℕ := 5

def OPEN_DURATION_MS : ℕ := 60000

inductive CircuitState
  | closed
  | opened
  | halfOpen
  deriving DecidableEq, Repr

structure CircuitBreaker where
  state : CircuitState := .closed
  consecutiveFailures : ℕ := 0
  openedAt : Time := 0
  deriving DecidableEq, Repr

/-- How the wrapped `fn` ended, or that it never ran. -/
inductive WrapResult
  | succeeded
  | failed
  | circuitOpen
  deriving DecidableEq, Repr

/-- What wrap does before it runs `fn`; `none` is CampayCircuitOpenError. -/
def CircuitBreaker.enter (b : CircuitBreaker) (now : Time) : Option CircuitBreaker :=
  if b.state = .opened then
    if now - b.openedAt < OPEN_DURATION_MS then none else some { b with state := .halfOpen }
  else some b

def CircuitBreaker.onSuccess (b : CircuitBreaker) : CircuitBreaker :=
  { b with state := .closed, consecutiveFailures := 0, openedAt := 0 }

def CircuitBreaker.onFailure (b : CircuitBreaker) (now : Time) : CircuitBreaker :=
  if b.state = .halfOpen then { b with state := .opened, openedAt := now }
  else if THRESHOLD_FAILURES ≤ b.consecutiveFailures + 1 then
    { b with state := .opened, consecutiveFailures := b.consecutiveFailures + 1, openedAt := now }
  else { b with consecutiveFailures := b.consecutiveFailures + 1 }

/-! Calls one after the other. -/

/-- A call of wrap: when it comes in, and whether and when its `fn` would succeed. -/
structure WrapCall where
  startedAt : Time
  endedAt : Time
  succeeds : Bool
  deriving DecidableEq, Repr

def CircuitBreaker.wrap (b : CircuitBreaker) (call : WrapCall) : CircuitBreaker × WrapResult :=
  match b.enter call.startedAt with
  | none => (b, .circuitOpen)
  | some b => if call.succeeds then (b.onSuccess, .succeeded) else (b.onFailure call.endedAt, .failed)

def CircuitBreaker.wrapAll (b : CircuitBreaker) (calls : List WrapCall) : CircuitBreaker :=
  calls.foldl (fun b call => (b.wrap call).1) b

/-- The calls whose `fn` was invoked. -/
def CircuitBreaker.invoked (b : CircuitBreaker) : List WrapCall → List WrapCall
  | [] => []
  | call :: calls =>
    if (b.wrap call).2 = .circuitOpen then (b.wrap call).1.invoked calls
    else call :: (b.wrap call).1.invoked calls

/-! Calls that overlap. -/

/-- `openings` counts how often the breaker has left CLOSED and `trippedAt` is when it last
did; the code keeps neither. -/
structure Circuit where
  breaker : CircuitBreaker
  clock : Time
  openings : ℕ
  trippedAt : Time
  deriving DecidableEq, Repr

/-- A call whose `fn` runs, with the `openings` and the clock at its start. -/
structure RunningCall where
  openings : ℕ
  startedAt : Time
  deriving DecidableEq, Repr

inductive CircuitEvent
  | tick (elapsed : Time)
  | wrap
  deriving DecidableEq, Repr

/-- The breaker's next state, and the count of the times it has left CLOSED. -/
def Circuit.set (s : Circuit) (b : CircuitBreaker) : Circuit :=
  if s.breaker.state = .closed ∧ b.state ≠ .closed then
    { s with breaker := b, openings := s.openings + 1, trippedAt := s.clock }
  else { s with breaker := b }

def circuitEvent (s : Circuit) : CircuitEvent → Circuit × List RunningCall
  | .tick elapsed => ({ s with clock := s.clock + elapsed }, [])
  | .wrap =>
    match s.breaker.enter s.clock with
    | none => (s, [])
    | some b => (s.set b, [⟨s.openings, s.clock⟩])

def circuitStep (s : Circuit) (succeeds : Bool) : Circuit :=
  s.set (if succeeds then s.breaker.onSuccess else s.breaker.onFailure s.clock)

def circuitMachine : Machine Circuit RunningCall CircuitEvent Bool where
  event s n := some (circuitEvent s n)
  step s _ succeeds := some (circuitStep s succeeds, [])

def Circuit.start (now : Time) : Circuit where
  breaker := {}
  clock := now
  openings := 0
  trippedAt := 0

end ChopNow
