import ChopNow.Lib.Interleave
import ChopNow.Spec.Payment

/-! One-time codes: requestOtp and verifyOtp of AuthService, and handleTwilioStatus of
OtpDeliveryService, on the rows of `model OtpLog`. -/

namespace ChopNow

open Interleave

abbrev OtpId := ℕ
abbrev OtpCode := ℕ
abbrev MessageSid := ℕ

def OTP_TTL_MINUTES : Time := 5

def OTP_MAX_ATTEMPTS : ℕ := 3

def OTP_INFLIGHT_LOCK_SECONDS : Time := 30

inductive OtpStatus
  | pending | sent | delivered | verified | expired | failed
  deriving DecidableEq, Repr

inductive OtpChannel
  | whatsapp | sms
  deriving DecidableEq, Repr

/-- `codeHash` stands for the one code that it verifies. -/
structure OtpLog where
  id : OtpId
  phone : Phone
  channel : OtpChannel
  status : OtpStatus := .pending
  codeHash : OtpCode
  attempts : ℕ := 0
  expiresAt : Time
  deliveredAt : Option Time := none
  verifiedAt : Option Time := none
  failedReason : Option String := none
  providerMessageId : Option MessageSid := none
  deriving DecidableEq, Repr

/-- The rows stand in the order of `createdAt`; `locks` is the expiry of `otp:inflight:<phone>`. -/
structure OtpDb where
  logs : List OtpLog
  locks : Phone → Option Time
  clock : Time

/-! The statements. -/

/-- `status: { in: [PENDING, SENT, DELIVERED] }`. -/
def OtpStatus.isVerifiable (status : OtpStatus) : Bool := status == .pending || status == .sent || status == .delivered

def OtpLog.eligible (log : OtpLog) (phone : Phone) (now : Time) : Bool :=
  log.phone == phone && log.status.isVerifiable && decide (now < log.expiresAt)

/-- `findFirst … orderBy: { createdAt: 'desc' }`. -/
def activeLog (logs : List OtpLog) (phone : Phone) (now : Time) : Option OtpLog :=
  logs.reverse.find? fun log => log.eligible phone now

/-- `update({ where: { id } })`. -/
def OtpDb.write (db : OtpDb) (id : OtpId) (f : OtpLog → OtpLog) : OtpDb :=
  { db with logs := db.logs.map fun log => if log.id = id then f log else log }

def OtpDb.lock (db : OtpDb) (phone : Phone) (expiry : Option Time) : OtpDb :=
  { db with locks := Function.update db.locks phone expiry }

def OtpDb.create (db : OtpDb) (phone : Phone) (code : OtpCode) : OtpDb :=
  { db with logs := db.logs ++ [{
      id := db.logs.length
      phone := phone
      channel := .whatsapp
      codeHash := code
      expiresAt := db.clock + OTP_TTL_MINUTES * 60 * 1000 }] }

def OtpLog.markSent (channel : OtpChannel) (sid : MessageSid) (log : OtpLog) : OtpLog :=
  { log with channel := channel, status := .sent, providerMessageId := some sid }

def OtpLog.markFailed (reason : String) (log : OtpLog) : OtpLog :=
  { log with status := .failed, failedReason := some reason }

def OtpLog.markDelivered (now : Time) (log : OtpLog) : OtpLog := { log with status := .delivered, deliveredAt := some now }

def OtpLog.markVerified (now : Time) (log : OtpLog) : OtpLog := { log with status := .verified, verifiedAt := some now }

def OtpLog.countAttempt (log : OtpLog) : OtpLog := { log with attempts := log.attempts + 1 }

inductive OtpError
  | deliveryFailed
  | invalidOrExpired
  | tooManyAttempts
  | thrown (reason : String)
  deriving DecidableEq, Repr

/-- What the outside answers: a statement lands or throws, the random source draws a code,
Twilio takes the message or both of its channels refuse it. -/
inductive OtpReply
  | ok
  | fail (reason : String)
  | drawn (code : OtpCode)
  | sent (channel : OtpChannel) (sid : MessageSid)
  | refused (reason : String)
  deriving Repr

/-! requestOtp. -/

inductive RequestOtp
  | called (phone : Phone)
  | acquired (phone : Phone)
  | created (phone : Phone) (id : OtpId)
  | accepted (phone : Phone) (id : OtpId) (channel : OtpChannel) (sid : MessageSid)
  | caught (phone : Phone) (id : OtpId) (reason : String)
  | releasing (phone : Phone)
  | done (result : Except OtpError Unit)
  deriving Repr

/-- The update to SENT stands in the `try` as well. -/
def RequestOtp.step (db : OtpDb) : RequestOtp → OtpReply → Option (OtpDb × RequestOtp)
  | .called phone, .ok =>
    match setNX (db.locks (normalizePhone phone)) db.clock (OTP_INFLIGHT_LOCK_SECONDS * 1000) with
    | none => some (db, .done (.ok ()))
    | some expiry => some (db.lock (normalizePhone phone) (some expiry), .acquired (normalizePhone phone))
  | .acquired phone, .drawn code => some (db.create phone code, .created phone db.logs.length)
  | .created phone id, .sent channel sid => some (db, .accepted phone id channel sid)
  | .created phone id, .refused reason => some (db, .caught phone id reason)
  | .accepted _ id channel sid, .ok => some (db.write id (.markSent channel sid), .done (.ok ()))
  | .accepted phone id _ _, .fail reason => some (db, .caught phone id reason)
  | .caught phone id reason, .ok => some (db.write id (.markFailed reason), .releasing phone)
  | .releasing phone, .ok => some (db.lock phone none, .done (.error .deliveryFailed))
  | .called _, .fail reason | .acquired _, .fail reason | .caught .., .fail reason | .releasing _, .fail reason =>
    some (db, .done (.error (.thrown reason)))
  | _, _ => none

/-! verifyOtp. -/

/-- `compared` of a finished call is the row that its code was compared with, and whether it
matched; the code does not keep it. -/
inductive VerifyOtp
  | called (phone : Phone) (code : OtpCode)
  | comparing (log : OtpLog) (code : OtpCode)
  | wrong (id : OtpId)
  | matched (id : OtpId) (phone : Phone)
  | consumed (id : OtpId) (phone : Phone)
  | signing (id : OtpId)
  | done (compared : Option (OtpId × Bool)) (result : Except OtpError Unit)
  deriving Repr

/-- `signing` is the rest: the user's row, resolveDevice and signTokens. -/
def VerifyOtp.step (db : OtpDb) : VerifyOtp → OtpReply → Option (OtpDb × VerifyOtp)
  | .called phone code, .ok =>
    match activeLog db.logs (normalizePhone phone) db.clock with
    | none => some (db, .done none (.error .invalidOrExpired))
    | some log =>
      if OTP_MAX_ATTEMPTS ≤ log.attempts then some (db, .done none (.error .tooManyAttempts))
      else some (db, .comparing log code)
  | .comparing log code, .ok =>
    some (db, if log.codeHash = code then .matched log.id log.phone else .wrong log.id)
  | .wrong id, .ok => some (db.write id .countAttempt, .done (some (id, false)) (.error .invalidOrExpired))
  | .matched id phone, .ok => some (db.write id (.markVerified db.clock), .consumed id phone)
  | .consumed id phone, .ok => some (db.lock phone none, .signing id)
  | .signing id, .ok => some (db, .done (some (id, true)) (.ok ()))
  | .called .., .fail reason | .comparing .., .fail reason => some (db, .done none (.error (.thrown reason)))
  | .wrong id, .fail reason => some (db, .done (some (id, false)) (.error (.thrown reason)))
  | .matched id _, .fail reason | .consumed id _, .fail reason | .signing id, .fail reason =>
    some (db, .done (some (id, true)) (.error (.thrown reason)))
  | _, _ => none

/-! handleTwilioStatus. -/

/-- `queued`, `sending` and `sent` are `underway`. -/
inductive TwilioStatus
  | delivered | read | failed | undelivered | underway
  deriving DecidableEq, Repr

def failureReason (errorMessage errorCode : Option String) : String :=
  match errorMessage with
  | none | some "" => "twilio_error_" ++ errorCode.getD "unknown"
  | some message => message

inductive TwilioCallback
  | received (sid : MessageSid) (status : TwilioStatus) (errorMessage errorCode : Option String)
  | found (id : OtpId) (status : TwilioStatus) (errorMessage errorCode : Option String)
  | done
  deriving Repr

/-- The row's status is looked at when it is read. -/
def TwilioCallback.step (db : OtpDb) : TwilioCallback → OtpReply → Option (OtpDb × TwilioCallback)
  | .received sid status errorMessage errorCode, .ok =>
    match db.logs.find? fun log => log.providerMessageId == some sid with
    | none => some (db, .done)
    | some log =>
      if log.status = .verified ∨ log.status = .failed then some (db, .done)
      else some (db, .found log.id status errorMessage errorCode)
  | .found id status errorMessage errorCode, .ok =>
    match status with
    | .delivered | .read => some (db.write id (.markDelivered db.clock), .done)
    | .failed | .undelivered => some (db.write id (.markFailed (failureReason errorMessage errorCode)), .done)
    | .underway => some (db, .done)
  | .received .., .fail _ | .found .., .fail _ => some (db, .done)
  | _, _ => none

/-! The machine. -/

inductive OtpThread
  | request (t : RequestOtp)
  | verify (t : VerifyOtp)
  | twilio (t : TwilioCallback)
  deriving Repr

inductive OtpEvent
  | tick (elapsed : Time)
  | requestOtp (phone : Phone)
  | verifyOtp (phone : Phone) (code : OtpCode)
  | twilioStatus (sid : MessageSid) (status : TwilioStatus) (errorMessage errorCode : Option String)
  deriving Repr

def otpEvent (db : OtpDb) : OtpEvent → OtpDb × List OtpThread
  | .tick elapsed => ({ db with clock := db.clock + elapsed }, [])
  | .requestOtp phone => (db, [.request (.called phone)])
  | .verifyOtp phone code => (db, [.verify (.called phone code)])
  | .twilioStatus sid status errorMessage errorCode => (db, [.twilio (.received sid status errorMessage errorCode)])

def otpStep (db : OtpDb) : OtpThread → OtpReply → Option (OtpDb × OtpThread)
  | .request t, e => (t.step db e).map fun r => (r.1, .request r.2)
  | .verify t, e => (t.step db e).map fun r => (r.1, .verify r.2)
  | .twilio t, e => (t.step db e).map fun r => (r.1, .twilio r.2)

def otpMachine : Machine OtpDb OtpThread OtpEvent OtpReply where
  event db n := some (otpEvent db n)
  step db t e := (otpStep db t e).map fun r => (r.1, [r.2])

/-- No code has been asked for. -/
def OtpDb.start : OtpDb where
  logs := []
  locks := fun _ => none
  clock := 0

end ChopNow
