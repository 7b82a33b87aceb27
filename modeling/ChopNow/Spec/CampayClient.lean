import ChopNow.Lib.Rounding
import ChopNow.Spec.Breaker

/-! CampayService: the token and the balance that the process keeps, behind the breaker, with
calls that overlap. -/

namespace ChopNow

open Interleave

def BALANCE_TTL_MS : Time := 60000

structure PaymentRequest where
  amountXAF : ℤ
  phone : Phone
  description : String
  externalReference : String
  webhookUrl : Option String
  deriving Repr

inductive CampayOp
  | initiateCollect (req : PaymentRequest)
  | initiateTransfer (req : PaymentRequest)
  | initiateRefund (req : PaymentRequest)
  | getBalance (forceRefresh : Bool)
  deriving Repr

inductive CampayResult
  | payment (reference status : String)
  | balance (xaf : ℤ)
  deriving DecidableEq, Repr

/-- A request with a token, and when the call was made that it is sent for. -/
structure SentRequest where
  path : String
  token : String
  body : List (String × String)
  calledAt : Time
  sentAt : Time
  deriving DecidableEq, Repr

/-- A token and the request that brought it. -/
structure IssuedToken where
  token : String
  requestedAt : Time
  lifetimeSec : ℚ
  deriving DecidableEq, Repr

/-- The code keeps the token and the balance with their times; `issued`, `sent` and `heard` say
what went over the wire, `heard` with the time its request was sent. -/
structure CampayProcess where
  configured : Bool
  circuit : Circuit
  token : Option String := none
  tokenExpiresAt : ℚ := 0
  balanceXAF : Option ℤ := none
  balanceFetchedAt : Time := 0
  issued : List IssuedToken := []
  sent : List SentRequest := []
  heard : List (Time × CampayResult) := []
  deriving DecidableEq, Repr

/-! What Campay answers. -/

/-- A number, or what `Number` makes of a text; `none` is not finite. -/
abbrev Figure := Option ℚ

structure TokenBody where
  token : Option String := none
  expires_in : Option ℚ := none

structure PaymentBody where
  status : Option String := none
  reference : Option String := none
  message : Option String := none

structure BalanceBody where
  total_balance : Option Figure := none
  balance : Option Figure := none
  amount : Option Figure := none
  message : Option String := none

/-- `go` is for a step that waits for nobody. A body that is no JSON is the empty one. -/
inductive CampayAnswer
  | go
  | threw (err : String)
  | token (status : ℕ) (text : String) (body : TokenBody)
  | payment (status : ℕ) (body : PaymentBody)
  | balance (status : ℕ) (body : BalanceBody)

/-- `res.ok`. -/
def resOk (status : ℕ) : Bool := 200 ≤ status && status < 300

def failureMessage (message : Option String) (status : ℕ) : String := message.getD s!"campay_http_{status}"

def PaymentBody.result (status : ℕ) (data : PaymentBody) : Except String CampayResult :=
  if !resOk status || data.status == some "FAILED" then .error (failureMessage data.message status)
  else
    match data.reference with
    | none | some "" => .error "campay_missing_reference"
    | some reference => .ok (.payment reference (data.status.getD "PENDING"))

def BalanceBody.raw (data : BalanceBody) : Figure :=
  ((data.total_balance.or data.balance).or data.amount).getD (some 0)

def BalanceBody.result (status : ℕ) (data : BalanceBody) : Except String ℤ :=
  if !resOk status then .error (failureMessage data.message status)
  else
    match data.raw with
    | none => .error "campay_balance_invalid"
    | some xaf => .ok (Rounding.halfUp xaf)

def TokenBody.result (status : ℕ) (text : String) (data : TokenBody) : Except String String :=
  if !resOk status then .error s!"Campay auth failed ({status}): {text}"
  else
    match data.token with
    | none | some "" => .error "Campay returned no token"
    | some token => .ok token

/-! The calls. -/

/-- `entry` is the wrapped `fn`; what comes next is the answer of `/token/`, the request itself,
its answer, and wrap once more. -/
inductive CampayCall
  | authenticating (op : CampayOp) (entry : RunningCall)
  | authorized (op : CampayOp) (entry : RunningCall) (token : String)
  | requested (op : CampayOp) (entry : RunningCall) (sentAt : Time)
  | settled (op : CampayOp) (entry : RunningCall) (outcome : Except String CampayResult)
  | done (op : CampayOp) (calledAt : Time) (outcome : Except String CampayResult)

def CampayCall.entry : CampayCall → Option RunningCall
  | .authenticating _ entry | .authorized _ entry _ | .requested _ entry _ | .settled _ entry _ => some entry
  | .done .. => none

def PaymentRequest.body (phoneKey : String) (req : PaymentRequest) : List (String × String) :=
  [("amount", toString req.amountXAF), (phoneKey, req.phone), ("description", req.description),
    ("external_reference", req.externalReference)] ++
  match req.webhookUrl with
  | none | some "" => []
  | some url => [("webhook", url)]

def CampayOp.path : CampayOp → String
  | .initiateCollect _ => "/collect/"
  | .initiateTransfer _ | .initiateRefund _ => "/withdraw/"
  | .getBalance _ => "/balance/"

def CampayOp.body : CampayOp → List (String × String)
  | .initiateCollect req => req.body "from"
  | .initiateTransfer req | .initiateRefund req => req.body "to"
  | .getBalance _ => []

/-- requireCampay and getToken, up to the first thing they wait for. -/
def CampayProcess.getToken (s : CampayProcess) (op : CampayOp) (entry : RunningCall) : CampayCall :=
  if !s.configured then .settled op entry (.error "Campay is not configured — set CAMPAY_* env vars")
  else
    match s.token with
    | none => .authenticating op entry
    | some token => if entry.startedAt < s.tokenExpiresAt then .authorized op entry token else .authenticating op entry

/-- The balance, if it may still be given out. -/
def CampayProcess.cachedBalance (s : CampayProcess) (forceRefresh : Bool) (now : Time) : Option ℤ :=
  if !forceRefresh && now - s.balanceFetchedAt < BALANCE_TTL_MS then s.balanceXAF else none

def CampayProcess.begin (s : CampayProcess) (op : CampayOp) (entry : RunningCall) : CampayCall :=
  match op with
  | .getBalance forceRefresh =>
    match s.cachedBalance forceRefresh entry.startedAt with
    | some xaf => .settled op entry (.ok (.balance xaf))
    | none => s.getToken op entry
  | _ => s.getToken op entry

/-- The token is kept for five minutes less than it lasts, but for a minute at least. -/
def CampayProcess.keepToken (s : CampayProcess) (requestedAt : Time) (token : String) (expires_in : Option ℚ) :
    CampayProcess :=
  let lifetimeSec := expires_in.getD 3600
  { s with
    token := some token
    tokenExpiresAt := requestedAt + max 60 (lifetimeSec - 300) * 1000
    issued := s.issued ++ [⟨token, requestedAt, lifetimeSec⟩] }

def CampayProcess.send (s : CampayProcess) (op : CampayOp) (calledAt : Time) (token : String) : CampayProcess :=
  { s with sent := s.sent ++ [⟨op.path, token, op.body, calledAt, s.circuit.clock⟩] }

def CampayProcess.hear (s : CampayProcess) (sentAt : Time) (result : CampayResult) : CampayProcess :=
  { s with heard := s.heard ++ [(sentAt, result)] }

def CampayProcess.keepBalance (s : CampayProcess) (xaf : ℤ) (fetchedAt : Time) : CampayProcess :=
  { s with balanceXAF := some xaf, balanceFetchedAt := fetchedAt }

/-- The answer to the request of `op`. -/
def CampayProcess.receive (s : CampayProcess) (op : CampayOp) (calledAt sentAt : Time) :
    CampayAnswer → Option (CampayProcess × Except String CampayResult)
  | .threw err => some (s, .error err)
  | .payment status body =>
    match op with
    | .getBalance _ => none
    | _ =>
      match body.result status with
      | .error err => some (s, .error err)
      | .ok result => some (s.hear sentAt result, .ok result)
  | .balance status body =>
    match op with
    | .getBalance _ =>
      match body.result status with
      | .error err => some (s, .error err)
      | .ok xaf => some ((s.hear sentAt (.balance xaf)).keepBalance xaf calledAt, .ok (.balance xaf))
    | _ => none
  | _ => none

def CampayCall.step (s : CampayProcess) : CampayCall → CampayAnswer → Option (CampayProcess × CampayCall)
  | .authenticating op entry, .token status text body =>
    match body.result status text with
    | .error err => some (s, .settled op entry (.error err))
    | .ok token => some (s.keepToken entry.startedAt token body.expires_in, .authorized op entry token)
  | .authenticating op entry, .threw err => some (s, .settled op entry (.error err))
  | .authorized op entry token, .go =>
    some (s.send op entry.startedAt token, .requested op entry s.circuit.clock)
  | .requested op entry sentAt, answer =>
    (s.receive op entry.startedAt sentAt answer).map fun r => (r.1, .settled op entry r.2)
  | .settled op entry outcome, .go =>
    some ({ s with circuit := circuitStep s.circuit outcome.isOk }, .done op entry.startedAt outcome)
  | _, _ => none

inductive CampayEvent
  | tick (elapsed : Time)
  | call (op : CampayOp)

def campayEvent (s : CampayProcess) : CampayEvent → CampayProcess × List CampayCall
  | .tick elapsed => ({ s with circuit := { s.circuit with clock := s.circuit.clock + elapsed } }, [])
  | .call op =>
    match s.circuit.breaker.enter s.circuit.clock with
    | none => (s, [.done op s.circuit.clock (.error "Campay circuit is OPEN — too many consecutive failures")])
    | some b => ({ s with circuit := s.circuit.set b }, [s.begin op ⟨s.circuit.openings, s.circuit.clock⟩])

def campayMachine : Machine CampayProcess CampayCall CampayEvent CampayAnswer where
  event s n := some (campayEvent s n)
  step s t e := (t.step s e).map fun r => (r.1, [r.2])

def CampayProcess.start (configured : Bool) (now : Time) : CampayProcess where
  configured := configured
  circuit := .start now

end ChopNow
