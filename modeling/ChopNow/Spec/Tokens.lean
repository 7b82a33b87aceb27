import ChopNow.Spec.Menu
import ChopNow.Spec.Sessions

/-! What the tokens of one user say: the claims that signTokens puts into each pair, the
sign-ins that start a chain of rotations, and RefreshJwtStrategy in front of `refresh`. -/

namespace ChopNow

open Interleave

/-- `exp` in seconds. -/
structure Claims where
  role : UserRole
  exp : ℕ
  deriving DecidableEq, Repr

inductive Origin
  | verifyOtp
  | issueAdminSession
  | refresh (replaces : TokenId)
  deriving DecidableEq, Repr

/-- One call of signTokens. `userRole` is the user's role at that moment, and `fromAdmin` says
that the chain started at issueAdminSession; the code keeps neither. -/
structure SignedPair where
  row : TokenId
  refreshToken : Token
  access : Claims
  refresh : Claims
  issuedAt : Time
  origin : Origin
  userRole : UserRole
  fromAdmin : Bool
  deriving DecidableEq, Repr

/-- `role` is the column of the user's row, `revoked` the user's key in Redis. -/
structure Tokens where
  sessions : Sessions
  role : UserRole
  revoked : Bool
  signed : List SignedPair
  jwtAccessTtl : Time
  jwtAdminRefreshTtl : Time

/-- The row belongs to a chain that issueAdminSession started. -/
def Tokens.ofAdmin (s : Tokens) (row : TokenId) : Bool := s.signed.any fun p => p.row == row && p.fromAdmin

def Tokens.chainOf (s : Tokens) : Origin → Bool
  | .verifyOtp => false
  | .issueAdminSession => true
  | .refresh row => s.ofAdmin row

/-- `signAsync(…, { expiresIn })`. -/
def signClaims (role : UserRole) (now ttl : Time) : Claims := ⟨role, now / 1000 + ttl / 1000⟩

/-- The pair that goes with the next row. -/
def Tokens.sign (s : Tokens) (role : UserRole) (origin : Origin) (token : Token) (refreshTtl : Time) : SignedPair where
  row := s.sessions.tokens.length
  refreshToken := token
  access := signClaims role s.sessions.clock s.jwtAccessTtl
  refresh := signClaims role s.sessions.clock refreshTtl
  issuedAt := s.sessions.clock
  origin := origin
  userRole := s.role
  fromAdmin := s.chainOf origin

/-! RefreshJwtStrategy. -/

/-- A signature verifies if signTokens made it. -/
def Tokens.verify (s : Tokens) (raw : Token) : Option Claims :=
  ((s.signed.find? fun p => p.refreshToken == raw).map (·.refresh)).filter fun claims =>
    decide (s.sessions.clock / 1000 < claims.exp)

def Tokens.validate (s : Tokens) (raw : Token) : Option UserRole :=
  if s.revoked then none else (s.verify raw).map (·.role)

/-! The machine. -/

/-- `refresh` is called with the role of the presented token. -/
inductive TokenThread
  | refresh (role : UserRole) (t : Refresh)
  | logout (t : Logout)

/-- `setRole` stands for the services that write the column. -/
inductive TokenEvent
  | tick (elapsed : Time)
  | setRole (role : UserRole)
  | setRevoked (revoked : Bool)
  | setActive (active : Bool)
  | verifyOtp (device : DeviceId) (token : Token)
  | issueAdminSession (role : UserRole) (device : DeviceId) (token : Token)
  | refresh (raw : Token) (deviceCookie : Option DeviceId)
  | logout (raw : Token)
  | revokeAllSessions

/-- A sign-in, from the two lifetimes that it can have. -/
def Tokens.signIn (s : Tokens) (role : UserRole) (origin : Origin) (device : DeviceId) (token : Token)
    (refreshTtl : Time) : Option (Tokens × List TokenThread) :=
  if s.sessions.isNew token then
    some ({ s with
        sessions := { s.sessions with
          tokens := signedRows s.sessions.tokens none device token (s.sessions.clock + refreshTtl) s.sessions.clock }
        signed := s.signed ++ [s.sign role origin token refreshTtl] },
      [])
  else none

def tokenEvent (s : Tokens) : TokenEvent → Option (Tokens × List TokenThread)
  | .tick elapsed => some ({ s with sessions := { s.sessions with clock := s.sessions.clock + elapsed } }, [])
  | .setRole role => some ({ s with role }, [])
  | .setRevoked revoked => some ({ s with revoked }, [])
  | .setActive active => some ({ s with sessions := { s.sessions with userActive := active } }, [])
  | .verifyOtp device token => s.signIn s.role .verifyOtp device token s.sessions.refreshTtl
  | .issueAdminSession role device token => s.signIn role .issueAdminSession device token s.jwtAdminRefreshTtl
  | .refresh raw deviceCookie =>
    match s.validate raw with
    | none => some (s, [])
    | some role => some (s, [.refresh role (.received raw deviceCookie)])
  | .logout raw => some (s, [.logout (.called raw)])
  | .revokeAllSessions => some ({ s with sessions := s.sessions.revokeFamily }, [])

/-- What a step of `refresh` signs: with the role it was called with, for the default lifetime. -/
def Tokens.signs (s : Tokens) (role : UserRole) : Refresh → SessionReply → Option SignedPair
  | .rotating _ row _, .drawn token => some (s.sign role (.refresh row) token s.sessions.refreshTtl)
  | _, _ => none

def tokenStep (s : Tokens) : TokenThread → SessionReply → Option (Tokens × TokenThread)
  | .refresh role t, e => (t.step s.sessions e).map fun r =>
      ({ s with sessions := r.1, signed := s.signed ++ (s.signs role t e).toList }, .refresh role r.2)
  | .logout t, e => (t.step s.sessions e).map fun r => ({ s with sessions := r.1 }, .logout r.2)

def tokenMachine : Machine Tokens TokenThread TokenEvent SessionReply where
  event := tokenEvent
  step s t e := (tokenStep s t e).map fun r => (r.1, [r.2])

end ChopNow
