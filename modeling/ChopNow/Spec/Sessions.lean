import ChopNow.Lib.Interleave
import ChopNow.Spec.World

/-! The refresh tokens of one user: AuthService rotates them in `refresh`, issues them at a
sign-in, and revokes them one by one or all at once. -/

namespace ChopNow

open Interleave

abbrev Token := ℕ
abbrev TokenId := ℕ
abbrev DeviceId := ℕ

def REFRESH_INFLIGHT_LOCK_SECONDS : ℕ := 5

/-- `tokenHash` stands for the one raw token that it verifies. `replaces` is the row that a
rotation started from; the code keeps only `replacedBy` on that row. -/
structure RefreshToken where
  id : TokenId
  tokenHash : Token
  deviceId : Option DeviceId
  expiresAt : Time
  revokedAt : Option Time := none
  replacedBy : Option TokenId := none
  replaces : Option TokenId := none
  deriving DecidableEq, Repr

/-- `locks` is the expiry of `refresh:inflight:<fingerprint>`; `userActive` says that the
user's row exists, is active and is not deleted. -/
structure Sessions where
  userActive : Bool
  tokens : List RefreshToken
  devices : List DeviceId
  locks : Token → Option Time
  refreshTtl : Time
  clock : Time

/-! The statements. -/

/-- `updateMany({ where: { userId, revokedAt: null } })`. -/
def RefreshToken.revoke (now : Time) (row : RefreshToken) : RefreshToken :=
  if row.revokedAt.isNone then { row with revokedAt := some now } else row

def Sessions.revokeFamily (s : Sessions) : Sessions := { s with tokens := s.tokens.map (RefreshToken.revoke s.clock) }

/-- The candidates that have not expired, the latest first. -/
def Sessions.matched (s : Sessions) (raw : Token) : Option RefreshToken :=
  (s.tokens.reverse.filter fun row => decide (s.clock < row.expiresAt)).find? fun row => row.tokenHash == raw

/-- Both ids are there and differ. -/
def RefreshToken.deviceMismatch (row : RefreshToken) (deviceCookie : Option DeviceId) : Bool :=
  row.deviceId.any fun expected => deviceCookie.any fun presented => expected != presented

/-- The rows that signTokens leaves: the new one, and the one it replaces stamped by id. -/
def signedRows (tokens : List RefreshToken) (replaces : Option TokenId) (device : DeviceId) (token : Token)
    (expiresAt now : Time) : List RefreshToken :=
  (tokens.map fun row =>
    if some row.id = replaces then { row with revokedAt := some now, replacedBy := some tokens.length } else row) ++
  [{ id := tokens.length, tokenHash := token, deviceId := some device, expiresAt := expiresAt, replaces := replaces }]

def Sessions.signTokens (s : Sessions) (replaces : Option TokenId) (device : DeviceId) (token : Token) : Sessions :=
  { s with tokens := signedRows s.tokens replaces device token (s.clock + s.refreshTtl) s.clock }

/-- No row has this token; a `jti` makes each one new. -/
def Sessions.isNew (s : Sessions) (token : Token) : Bool := s.tokens.all fun row => row.tokenHash != token

def Sessions.lock (s : Sessions) (raw : Token) (expiry : Option Time) : Sessions :=
  { s with locks := Function.update s.locks raw expiry }

/-! refresh. -/

inductive RefreshError
  | userSuspended
  | inFlight
  | invalidOrExpired
  | reuseDetected
  | deviceMismatch
  | thrown (reason : String)
  deriving DecidableEq, Repr

structure IssuedTokens where
  refreshToken : Token
  deviceId : DeviceId
  deriving DecidableEq, Repr

/-- What the outside answers: a statement lands or throws, or draws a random id. -/
inductive SessionReply
  | ok
  | fail (reason : String)
  | drawn (random : ℕ)
  deriving Repr

/-- `reused` and `mismatched` are about to revoke the family, `releasing` the lock. -/
inductive Refresh
  | received (raw : Token) (deviceCookie : Option DeviceId)
  | suspended
  | locking (raw : Token) (deviceCookie : Option DeviceId)
  | locked (raw : Token) (deviceCookie : Option DeviceId)
  | reused (raw : Token)
  | mismatched (raw : Token)
  | resolving (raw : Token) (row : TokenId) (deviceCookie : Option DeviceId)
  | minting (raw : Token) (row : TokenId)
  | rotating (raw : Token) (row : TokenId) (device : DeviceId)
  | releasing (raw : Token) (result : Except RefreshError IssuedTokens)
  | done (result : Except RefreshError IssuedTokens)

/-- Everything after the lock stands in the `try` whose `finally` releases it. -/
def Refresh.step (s : Sessions) : Refresh → SessionReply → Option (Sessions × Refresh)
  | .received raw deviceCookie, .ok =>
    if s.userActive then some (s, .locking raw deviceCookie) else some (s, .suspended)
  | .suspended, .ok => some (s.revokeFamily, .done (.error .userSuspended))
  | .locking raw deviceCookie, .ok =>
    match setNX (s.locks raw) s.clock (REFRESH_INFLIGHT_LOCK_SECONDS * 1000) with
    | none => some (s, .done (.error .inFlight))
    | some expiry => some (s.lock raw (some expiry), .locked raw deviceCookie)
  | .received .., .fail reason | .suspended, .fail reason | .locking .., .fail reason =>
    some (s, .done (.error (.thrown reason)))
  | .locked raw deviceCookie, .ok =>
    match s.matched raw with
    | none => some (s, .releasing raw (.error .invalidOrExpired))
    | some row =>
      if row.revokedAt.isSome then some (s, .reused raw)
      else if row.deviceMismatch deviceCookie then some (s, .mismatched raw)
      else some (s, .resolving raw row.id deviceCookie)
  | .reused raw, .ok => some (s.revokeFamily, .releasing raw (.error .reuseDetected))
  | .mismatched raw, .ok => some (s.revokeFamily, .releasing raw (.error .deviceMismatch))
  -- resolveDevice
  | .resolving raw row deviceCookie, .ok =>
    match deviceCookie with
    | some device => if device ∈ s.devices then some (s, .rotating raw row device) else some (s, .minting raw row)
    | none => some (s, .minting raw row)
  | .minting raw row, .drawn device =>
    if device ∈ s.devices then none
    else some ({ s with devices := s.devices ++ [device] }, .rotating raw row device)
  -- signTokens: insert and stamp in one transaction
  | .rotating raw row device, .drawn token =>
    if s.isNew token then some (s.signTokens (some row) device token, .releasing raw (.ok ⟨token, device⟩)) else none
  | .locked raw _, .fail reason | .reused raw, .fail reason | .mismatched raw, .fail reason
  | .resolving raw .., .fail reason | .minting raw _, .fail reason | .rotating raw .., .fail reason =>
    some (s, .releasing raw (.error (.thrown reason)))
  | .releasing raw result, .ok => some (s.lock raw none, .done result)
  | .releasing .., .fail reason => some (s, .done (.error (.thrown reason)))
  | _, _ => none

/-! logout: one row, found by its token. -/

inductive Logout
  | called (raw : Token)
  | found (row : TokenId)
  | done

def Logout.step (s : Sessions) : Logout → SessionReply → Option (Sessions × Logout)
  | .called raw, .ok =>
    match s.tokens.find? fun row => row.revokedAt.isNone && row.tokenHash == raw with
    | none => some (s, .done)
    | some row => some (s, .found row.id)
  | .found id, .ok =>
    some ({ s with tokens := s.tokens.map fun row =>
      if row.id = id then { row with revokedAt := some s.clock } else row }, .done)
  | .called _, .fail _ | .found _, .fail _ => some (s, .done)
  | _, _ => none

/-! The machine. -/

inductive SessionThread
  | refresh (t : Refresh)
  | logout (t : Logout)

/-- `signIn` is the transaction that ends verifyOtp and issueAdminSession. -/
inductive SessionEvent
  | tick (elapsed : Time)
  | signIn (device : DeviceId) (token : Token)
  | refresh (raw : Token) (deviceCookie : Option DeviceId)
  | logout (raw : Token)
  | revokeAllSessions
  deriving Repr

def sessionEvent (s : Sessions) : SessionEvent → Option (Sessions × List SessionThread)
  | .tick elapsed => some ({ s with clock := s.clock + elapsed }, [])
  | .signIn device token => if s.isNew token then some (s.signTokens none device token, []) else none
  | .refresh raw deviceCookie => some (s, [.refresh (.received raw deviceCookie)])
  | .logout raw => some (s, [.logout (.called raw)])
  | .revokeAllSessions => some (s.revokeFamily, [])

def sessionStep (s : Sessions) : SessionThread → SessionReply → Option (Sessions × SessionThread)
  | .refresh t, e => (t.step s e).map fun r => (r.1, .refresh r.2)
  | .logout t, e => (t.step s e).map fun r => (r.1, .logout r.2)

def sessionMachine : Machine Sessions SessionThread SessionEvent SessionReply where
  event := sessionEvent
  step s t e := (sessionStep s t e).map fun r => (r.1, [r.2])

def SessionThread.isDone : SessionThread → Bool
  | .refresh (.done _) | .logout .done => true
  | _ => false

end ChopNow
