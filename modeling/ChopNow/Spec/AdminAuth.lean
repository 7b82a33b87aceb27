import ChopNow.Lib.Interleave
import ChopNow.Spec.Menu
import ChopNow.Spec.RateLimit

/-! The sign-in of one admin: `login` and `verifyTotpChallenge` of AdminAuthService, and the
second factor behind them, AdminTotpService. -/

namespace ChopNow

open Interleave

abbrev Password := ℕ
abbrev TotpSecret := ℕ
abbrev AdminCode := ℕ
abbrev Challenge := ℕ
abbrev RecoveryCodeId := ℕ

def ADMIN_ROLES : List UserRole := [.superAdmin, .admin, .operator, .viewer]

def LOCKOUT_WINDOW_SECONDS : Time := 15 * 60

def LOCKOUT_THRESHOLD : ℕ := 5

def TOTP_CHALLENGE_TTL_SECONDS : Time := 5 * 60

def RECOVERY_CODE_COUNT : ℕ := 10

/-- `passwordHash` stands for the one password that it verifies. -/
structure AdminUser where
  role : UserRole
  passwordHash : Option Password
  deriving DecidableEq, Repr

/-- A code, the secret that it was checked against, and when. -/
structure CheckedCode where
  code : AdminCode
  secret : TotpSecret
  time : Time
  deriving DecidableEq, Repr

/-- `checkedWith` is the check of the confirming code; the row does not keep it. -/
structure AdminTotpSecret where
  secret : TotpSecret
  confirmedAt : Option Time := none
  checkedWith : Option CheckedCode := none
  deriving DecidableEq, Repr

/-- `codeHash` stands for the one code that it verifies. -/
structure AdminRecoveryCode where
  id : RecoveryCodeId
  codeHash : AdminCode
  consumedAt : Option Time := none
  deriving DecidableEq, Repr

/-- `attempts` and `locked` are the admin's two keys in Redis, `challenges` the expiry of each
`admin:2fa-challenge:<token>` that names the admin. `nextCode` is the id that no recovery code has
had. `verified` counts the passwords that were compared with the hash; the code does not keep it. -/
structure AdminDb where
  user : Option AdminUser
  totp : Option AdminTotpSecret
  recoveryCodes : List AdminRecoveryCode
  nextCode : RecoveryCodeId
  attempts : Option (ℕ × Time)
  locked : Bool
  challenges : Challenge → Option Time
  clock : Time
  verified : ℕ

/-- otplib's `authenticator.check`: a code, a secret and the time. -/
abbrev TotpCheck := AdminCode → TotpSecret → Time → Bool

inductive AdminAuthError
  | invalidCredentials
  | accountLocked
  | challengeExpired
  | invalidCode
  | alreadyEnrolled
  | enrollmentNotStarted
  | thrown
  deriving DecidableEq, Repr

/-- What the outside answers: a statement lands or throws, or a random value is drawn. -/
inductive AdminReply
  | ok
  | fail
  | drawn (random : ℕ)
  | minted (codes : Vector AdminCode RECOVERY_CODE_COUNT)
  deriving Repr

/-! The statements. -/

def AdminTotpSecret.confirmed (row : AdminTotpSecret) : Bool := row.confirmedAt.isSome

/-- `isEnrolled`. -/
def AdminDb.isEnrolled (db : AdminDb) : Bool := db.totp.any AdminTotpSecret.confirmed

def AdminDb.challenge (db : AdminDb) (challenge : Challenge) (expiry : Option Time) : AdminDb :=
  { db with challenges := Function.update db.challenges challenge expiry }

/-- The key is there. -/
def AdminDb.pending (db : AdminDb) (challenge : Challenge) : Bool :=
  (db.challenges challenge).any fun expiry => decide (db.clock < expiry)

/-- `verifyCode`. -/
def AdminDb.verifyCode (check : TotpCheck) (db : AdminDb) (code : AdminCode) : Bool :=
  db.totp.any fun row => row.confirmed && check code row.secret db.clock

def AdminRecoveryCode.unconsumed (row : AdminRecoveryCode) : Bool := row.consumedAt.isNone

def AdminRecoveryCode.consume (now : Time) (row : AdminRecoveryCode) : AdminRecoveryCode :=
  { row with consumedAt := some now }

/-- `where: { id, consumedAt: null }`. -/
def AdminDb.holds (db : AdminDb) (id : RecoveryCodeId) : Bool :=
  db.recoveryCodes.any fun row => row.id == id && row.unconsumed

/-- `updateMany` of that row. -/
def AdminDb.consume (db : AdminDb) (id : RecoveryCodeId) : AdminDb :=
  { db with recoveryCodes := db.recoveryCodes.map fun row =>
      if row.id = id ∧ row.unconsumed = true then row.consume db.clock else row }

/-- `createMany` of one enrollment. -/
def mintedCodes (first : RecoveryCodeId) (codes : List AdminCode) : List AdminRecoveryCode :=
  codes.mapIdx fun i code => { id := first + i, codeHash := code }

/-! startEnrollment. -/

/-- `existing` is what was read. -/
inductive StartEnrollment
  | called
  | minting (existing : Option AdminTotpSecret)
  | done (result : Except AdminAuthError TotpSecret)
  deriving Repr

/-- A row needs its user. -/
def StartEnrollment.step (db : AdminDb) : StartEnrollment → AdminReply → Option (AdminDb × StartEnrollment)
  | .called, .ok => if db.isEnrolled then some (db, .done (.error .alreadyEnrolled)) else some (db, .minting db.totp)
  | .minting _, .drawn secret =>
    if db.user.isSome then some ({ db with totp := some { secret } }, .done (.ok secret))
    else some (db, .done (.error .thrown))
  | .called, .fail | .minting _, .fail => some (db, .done (.error .thrown))
  | _, _ => none

/-! confirmEnrollment. -/

/-- `row` is what was read. -/
inductive ConfirmEnrollment
  | called (code : AdminCode)
  | checked (row : AdminTotpSecret) (accepted : CheckedCode)
  | done (result : Except AdminAuthError (List AdminCode))
  deriving Repr

/-- The transaction: the row is found by its user, and whatever secret it has is confirmed. -/
def AdminDb.confirm (db : AdminDb) (row : AdminTotpSecret) (accepted : CheckedCode) (codes : List AdminCode) : AdminDb :=
  { db with
    totp := some { row with confirmedAt := some db.clock, checkedWith := some accepted }
    recoveryCodes := mintedCodes db.nextCode codes
    nextCode := db.nextCode + codes.length }

def ConfirmEnrollment.step (check : TotpCheck) (db : AdminDb) :
    ConfirmEnrollment → AdminReply → Option (AdminDb × ConfirmEnrollment)
  | .called code, .ok =>
    match db.totp with
    | none => some (db, .done (.error .enrollmentNotStarted))
    | some row =>
      if row.confirmed then some (db, .done (.error .alreadyEnrolled))
      else if check code row.secret db.clock then some (db, .checked row ⟨code, row.secret, db.clock⟩)
      else some (db, .done (.error .invalidCode))
  | .checked _ accepted, .minted codes =>
    match db.totp with
    | none => some (db, .done (.error .thrown))
    | some row => some (db.confirm row accepted codes.toList, .done (.ok codes.toList))
  | .called _, .fail | .checked .., .fail => some (db, .done (.error .thrown))
  | _, _ => none

/-! consumeRecoveryCode. -/

/-- `done (.ok (some id))` is `true`, of the row `id`. -/
inductive ConsumeRecoveryCode
  | called (rawCode : AdminCode)
  | scanning (candidates : List AdminRecoveryCode) (rawCode : AdminCode)
  | matched (id : RecoveryCodeId)
  | done (result : Except AdminAuthError (Option RecoveryCodeId))
  deriving Repr

def ConsumeRecoveryCode.step (db : AdminDb) : ConsumeRecoveryCode → AdminReply → Option (AdminDb × ConsumeRecoveryCode)
  | .called rawCode, .ok => some (db, .scanning (db.recoveryCodes.filter AdminRecoveryCode.unconsumed) rawCode)
  | .scanning [] _, .ok => some (db, .done (.ok none))
  | .scanning (row :: rest) rawCode, .ok =>
    some (db, if row.codeHash = rawCode then .matched row.id else .scanning rest rawCode)
  | .matched id, .ok => if db.holds id then some (db.consume id, .done (.ok (some id))) else some (db, .done (.ok none))
  | .called _, .fail | .scanning .., .fail | .matched _, .fail => some (db, .done (.error .thrown))
  | _, _ => none

/-! verifyTotpChallenge. -/

/-- `consumed` is the recovery code that the call has used. `signing` is issueSession. -/
inductive VerifyTotpChallenge
  | called (challenge : Challenge) (code : AdminCode) (isRecoveryCode : Bool)
  | checking (challenge : Challenge) (code : AdminCode)
  | consuming (challenge : Challenge) (t : ConsumeRecoveryCode)
  | passed (challenge : Challenge) (consumed : Option RecoveryCodeId)
  | redeemed (challenge : Challenge) (consumed : Option RecoveryCodeId)
  | signing (challenge : Challenge) (consumed : Option RecoveryCodeId) (role : UserRole)
  | done (challenge : Challenge) (consumed : Option RecoveryCodeId) (result : Except AdminAuthError UserRole)
  deriving Repr

/-- What the call makes of consumeRecoveryCode's answer. -/
def ConsumeRecoveryCode.next (challenge : Challenge) : ConsumeRecoveryCode → VerifyTotpChallenge
  | .done (.ok (some id)) => .passed challenge (some id)
  | .done (.ok none) => .done challenge none (.error .invalidCode)
  | .done (.error err) => .done challenge none (.error err)
  | t => .consuming challenge t

def VerifyTotpChallenge.step (check : TotpCheck) (db : AdminDb) :
    VerifyTotpChallenge → AdminReply → Option (AdminDb × VerifyTotpChallenge)
  | .called challenge code isRecoveryCode, .ok =>
    if db.pending challenge then
      some (db, if isRecoveryCode then .consuming challenge (.called code) else .checking challenge code)
    else some (db, .done challenge none (.error .challengeExpired))
  | .consuming challenge t, e => (t.step db e).map fun r => (r.1, r.2.next challenge)
  | .checking challenge code, .ok =>
    some (db, if db.verifyCode check code then .passed challenge none else .done challenge none (.error .invalidCode))
  | .passed challenge consumed, .ok => some (db.challenge challenge none, .redeemed challenge consumed)
  | .redeemed challenge consumed, .ok =>
    match db.user with
    | none => some (db, .done challenge consumed (.error .invalidCredentials))
    | some user => some (db, .signing challenge consumed user.role)
  | .signing challenge consumed role, .ok => some (db, .done challenge consumed (.ok role))
  | .called challenge _ _, .fail | .checking challenge _, .fail => some (db, .done challenge none (.error .thrown))
  | .passed challenge consumed, .fail | .redeemed challenge consumed, .fail | .signing challenge consumed _, .fail =>
    some (db, .done challenge consumed (.error .thrown))
  | _, _ => none

/-! login. -/

inductive LoginResult
  | totpRequired (challenge : Challenge) (challengeExpiresIn : Time)
  | success (role : UserRole)
  deriving DecidableEq, Repr

/-- `found` is before the lock is read, `verifying` and `wrong` after it. -/
inductive Login
  | called (password : Password)
  | found (hash password : Password) (role : UserRole)
  | verifying (hash password : Password) (role : UserRole)
  | wrong
  | locking
  | matched (role : UserRole)
  | branching (role : UserRole)
  | challenging
  | signing (role : UserRole)
  | done (result : Except AdminAuthError LoginResult)
  deriving Repr

/-- The one password that signs in, and the role. -/
def AdminUser.credentials (user : AdminUser) : Option (Password × UserRole) :=
  if user.role ∈ ADMIN_ROLES then user.passwordHash.map (·, user.role) else none

def Login.step (db : AdminDb) : Login → AdminReply → Option (AdminDb × Login)
  | .called password, .ok =>
    match db.user.bind AdminUser.credentials with
    | none => some (db, .done (.error .invalidCredentials))
    | some (hash, role) => some (db, .found hash password role)
  | .found hash password role, .ok =>
    if db.locked then some (db, .done (.error .accountLocked)) else some (db, .verifying hash password role)
  | .verifying hash password role, .ok =>
    some ({ db with verified := db.verified + 1 }, if hash = password then .matched role else .wrong)
  | .wrong, .ok =>
    let attempts := incrWithTTL db.attempts db.clock LOCKOUT_WINDOW_SECONDS
    some ({ db with attempts := some attempts },
      if LOCKOUT_THRESHOLD ≤ attempts.1 then .locking else .done (.error .invalidCredentials))
  | .locking, .ok => some ({ db with locked := true }, .done (.error .accountLocked))
  | .matched role, .ok => some ({ db with attempts := none }, .branching role)
  | .branching role, .ok => some (db, if db.isEnrolled then .challenging else .signing role)
  | .challenging, .drawn challenge =>
    some (db.challenge challenge (some (db.clock + TOTP_CHALLENGE_TTL_SECONDS * 1000)),
      .done (.ok (.totpRequired challenge TOTP_CHALLENGE_TTL_SECONDS)))
  | .signing role, .ok => some (db, .done (.ok (.success role)))
  | .called _, .fail | .found .., .fail | .verifying .., .fail | .wrong, .fail | .locking, .fail | .matched _, .fail
  | .branching _, .fail | .challenging, .fail | .signing _, .fail => some (db, .done (.error .thrown))
  | _, _ => none

/-! The machine. -/

inductive AdminThread
  | start (t : StartEnrollment)
  | confirm (t : ConfirmEnrollment)
  | verify (t : VerifyTotpChallenge)
  | login (t : Login)
  deriving Repr

/-- `writeUser` stands for the services that write the row. -/
inductive AdminEvent
  | tick (elapsed : Time)
  | writeUser (user : AdminUser)
  | startEnrollment
  | confirmEnrollment (code : AdminCode)
  | verifyTotpChallenge (challenge : Challenge) (code : AdminCode) (isRecoveryCode : Bool)
  | login (password : Password)
  | unlock
  deriving Repr

def adminEvent (db : AdminDb) : AdminEvent → AdminDb × List AdminThread
  | .tick elapsed => ({ db with clock := db.clock + elapsed }, [])
  | .writeUser user => ({ db with user := some user }, [])
  | .startEnrollment => (db, [.start .called])
  | .confirmEnrollment code => (db, [.confirm (.called code)])
  | .verifyTotpChallenge challenge code isRecoveryCode => (db, [.verify (.called challenge code isRecoveryCode)])
  | .login password => (db, [.login (.called password)])
  | .unlock => ({ db with locked := false, attempts := none }, [])

def adminStep (check : TotpCheck) (db : AdminDb) : AdminThread → AdminReply → Option (AdminDb × AdminThread)
  | .start t, e => (t.step db e).map fun r => (r.1, .start r.2)
  | .confirm t, e => (t.step check db e).map fun r => (r.1, .confirm r.2)
  | .verify t, e => (t.step check db e).map fun r => (r.1, .verify r.2)
  | .login t, e => (t.step db e).map fun r => (r.1, .login r.2)

def adminMachine (check : TotpCheck) : Machine AdminDb AdminThread AdminEvent AdminReply where
  event db n := some (adminEvent db n)
  step db t e := (adminStep check db t e).map fun r => (r.1, [r.2])

end ChopNow
