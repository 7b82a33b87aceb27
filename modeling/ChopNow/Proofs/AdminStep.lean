import ChopNow.Lib.Table
import ChopNow.Spec.AdminAuth

/-! What one step of a call on an admin's sign-in can do. -/

namespace ChopNow

open Interleave Table

inductive StartMove (db : AdminDb) : StartEnrollment → AdminReply → AdminDb → StartEnrollment → Prop
  | stopped {t e err} : StartMove db t e db (.done (.error err))
  | free (unconfirmed : db.isEnrolled = false) : StartMove db .called .ok db (.minting db.totp)
  | minted {existing secret} (owner : db.user.isSome = true) :
      StartMove db (.minting existing) (.drawn secret) { db with totp := some { secret } } (.done (.ok secret))

inductive ConfirmMove (check : TotpCheck) (db : AdminDb) :
    ConfirmEnrollment → AdminReply → AdminDb → ConfirmEnrollment → Prop
  | stopped {t e err} : ConfirmMove check db t e db (.done (.error err))
  | checked {code row} (found : db.totp = some row) (right : check code row.secret db.clock = true) :
      ConfirmMove check db (.called code) .ok db (.checked row ⟨code, row.secret, db.clock⟩)
  | confirmed {read checked codes row} (found : db.totp = some row) :
      ConfirmMove check db (.checked read checked) (.minted codes) (db.confirm row checked codes.toList)
        (.done (.ok codes.toList))

inductive ConsumeMove (db : AdminDb) : ConsumeRecoveryCode → AdminReply → AdminDb → ConsumeRecoveryCode → Prop
  | thrown {t} : ConsumeMove db t .fail db (.done (.error .thrown))
  | refused {t} : ConsumeMove db t .ok db (.done (.ok none))
  | read {rawCode} :
      ConsumeMove db (.called rawCode) .ok db (.scanning (db.recoveryCodes.filter AdminRecoveryCode.unconsumed) rawCode)
  | tried {row rest rawCode} : ConsumeMove db (.scanning (row :: rest) rawCode) .ok db (.scanning rest rawCode)
  | matched {row rest rawCode} : ConsumeMove db (.scanning (row :: rest) rawCode) .ok db (.matched row.id)
  | consumed {id} (held : db.holds id = true) :
      ConsumeMove db (.matched id) .ok (db.consume id) (.done (.ok (some id)))

def VerifyTotpChallenge.challenge : VerifyTotpChallenge → Challenge
  | .called challenge _ _ | .checking challenge _ | .consuming challenge _ | .passed challenge _
  | .redeemed challenge _ | .signing challenge _ _ | .done challenge _ _ => challenge

/-- The recovery code that the call has used. -/
def VerifyTotpChallenge.consumed : VerifyTotpChallenge → Option RecoveryCodeId
  | .called .. | .checking .. | .consuming .. => none
  | .passed _ consumed | .redeemed _ consumed | .signing _ consumed _ | .done _ consumed _ => consumed

/-- Its code was right, and nothing has failed since. -/
def VerifyTotpChallenge.accepted : VerifyTotpChallenge → Bool
  | .passed .. | .redeemed .. | .signing .. | .done _ _ (.ok _) => true
  | _ => false

/-- `refused` is before the code is found to be right. -/
inductive ChallengeMove (check : TotpCheck) (db : AdminDb) :
    VerifyTotpChallenge → AdminReply → AdminDb → VerifyTotpChallenge → Prop
  | refused {t e err} (before : t.accepted = false) (unused : t.consumed = none) :
      ChallengeMove check db t e db (.done t.challenge none (.error err))
  | readTotp {challenge code} (pending : db.pending challenge = true) :
      ChallengeMove check db (.called challenge code false) .ok db (.checking challenge code)
  | readRecovery {challenge code} (pending : db.pending challenge = true) :
      ChallengeMove check db (.called challenge code true) .ok db (.consuming challenge (.called code))
  | tried {challenge t t'} : ChallengeMove check db (.consuming challenge t) .ok db (.consuming challenge t')
  | passed {challenge code} (right : db.verifyCode check code = true) :
      ChallengeMove check db (.checking challenge code) .ok db (.passed challenge none)
  | consumed {challenge id} (held : db.holds id = true) :
      ChallengeMove check db (.consuming challenge (.matched id)) .ok (db.consume id) (.passed challenge (some id))
  | redeemed {challenge consumed} :
      ChallengeMove check db (.passed challenge consumed) .ok (db.challenge challenge none) (.redeemed challenge consumed)
  | resolved {challenge consumed user} (found : db.user = some user) :
      ChallengeMove check db (.redeemed challenge consumed) .ok db (.signing challenge consumed user.role)
  | orphaned {challenge consumed} (missing : db.user = none) :
      ChallengeMove check db (.redeemed challenge consumed) .ok db (.done challenge consumed (.error .invalidCredentials))
  | signed {challenge consumed role} :
      ChallengeMove check db (.signing challenge consumed role) .ok db (.done challenge consumed (.ok role))
  | thrown {t} (after : t.accepted = true) :
      ChallengeMove check db t .fail db (.done t.challenge t.consumed (.error .thrown))

inductive LoginMove (db : AdminDb) : Login → AdminReply → AdminDb → Login → Prop
  | thrown {t} : LoginMove db t .fail db (.done (.error .thrown))
  | unknown {password} : LoginMove db (.called password) .ok db (.done (.error .invalidCredentials))
  | found {password hash role} : LoginMove db (.called password) .ok db (.found hash password role)
  | refused {hash password role} (locked : db.locked = true) :
      LoginMove db (.found hash password role) .ok db (.done (.error .accountLocked))
  | unlocked {hash password role} (unlocked : db.locked = false) :
      LoginMove db (.found hash password role) .ok db (.verifying hash password role)
  | right {password role} : LoginMove db (.verifying password password role) .ok
      { db with verified := db.verified + 1 } (.matched role)
  | wrong {hash password role} (differs : hash ≠ password) : LoginMove db (.verifying hash password role) .ok
      { db with verified := db.verified + 1 } .wrong
  | counted {attempts} (raised : attempts = incrWithTTL db.attempts db.clock LOCKOUT_WINDOW_SECONDS)
      (left : attempts.1 < LOCKOUT_THRESHOLD) :
      LoginMove db .wrong .ok { db with attempts := some attempts } (.done (.error .invalidCredentials))
  | exhausted {attempts} (raised : attempts = incrWithTTL db.attempts db.clock LOCKOUT_WINDOW_SECONDS)
      (reached : LOCKOUT_THRESHOLD ≤ attempts.1) :
      LoginMove db .wrong .ok { db with attempts := some attempts } .locking
  | locked : LoginMove db .locking .ok { db with locked := true } (.done (.error .accountLocked))
  | reset {role} : LoginMove db (.matched role) .ok { db with attempts := none } (.branching role)
  | enrolled {role} : LoginMove db (.branching role) .ok db .challenging
  | unenrolled {role} : LoginMove db (.branching role) .ok db (.signing role)
  | challenged {challenge expiry} : LoginMove db .challenging (.drawn challenge) (db.challenge challenge (some expiry))
      (.done (.ok (.totpRequired challenge TOTP_CHALLENGE_TTL_SECONDS)))
  | signed {role} : LoginMove db (.signing role) .ok db (.done (.ok (.success role)))

section

variable {check : TotpCheck} {db db' : AdminDb} {e : AdminReply}

theorem start_cases {t t' : StartEnrollment} (h : t.step db e = some (db', t')) : StartMove db t e db' t' := by
  cases t <;> cases e <;> simp only [StartEnrollment.step, reduceCtorEq] at h
  · split at h <;> obtain ⟨rfl, rfl⟩ := Prod.mk.inj (Option.some.inj h)
    · exact .stopped
    · exact .free (Bool.not_eq_true _ ▸ ‹¬_›)
  · cases h
    exact .stopped
  · cases h
    exact .stopped
  · split at h <;> obtain ⟨rfl, rfl⟩ := Prod.mk.inj (Option.some.inj h)
    · exact .minted ‹_›
    · exact .stopped

theorem confirm_cases {t t' : ConfirmEnrollment} (h : t.step check db e = some (db', t')) :
    ConfirmMove check db t e db' t' := by
  cases t <;> cases e <;> simp only [ConfirmEnrollment.step, reduceCtorEq] at h
  · split at h
    · cases h
      exact .stopped
    · next row hrow =>
      split at h
      · cases h
        exact .stopped
      · split at h <;> obtain ⟨rfl, rfl⟩ := Prod.mk.inj (Option.some.inj h)
        · exact .checked hrow ‹_›
        · exact .stopped
  · cases h
    exact .stopped
  · cases h
    exact .stopped
  · split at h
    · cases h
      exact .stopped
    · next row hrow =>
      cases h
      exact .confirmed hrow

theorem consumeCode_cases {t t' : ConsumeRecoveryCode} (h : t.step db e = some (db', t')) : ConsumeMove db t e db' t' := by
  rcases t with rawCode | ⟨_ | ⟨row, rest⟩, rawCode⟩ | id | result <;> cases e <;>
    simp only [ConsumeRecoveryCode.step, reduceCtorEq] at h
  · cases h
    exact .read
  · cases h
    exact .thrown
  · cases h
    exact .refused
  · cases h
    exact .thrown
  · split at h <;> obtain ⟨rfl, rfl⟩ := Prod.mk.inj (Option.some.inj h)
    · exact .matched
    · exact .tried
  · cases h
    exact .thrown
  · split at h <;> obtain ⟨rfl, rfl⟩ := Prod.mk.inj (Option.some.inj h)
    · exact .consumed ‹_›
    · exact .refused
  · cases h
    exact .thrown

theorem challenge_cases {t t' : VerifyTotpChallenge} (h : t.step check db e = some (db', t')) :
    ChallengeMove check db t e db' t' := by
  cases t with
  | consuming challenge t =>
    obtain ⟨⟨db₁, t₁⟩, ht, hr⟩ := Option.map_eq_some_iff.1 h
    obtain ⟨rfl, rfl⟩ := Prod.mk.inj hr
    cases consumeCode_cases ht with
    | thrown => exact .refused rfl rfl
    | refused => exact .refused rfl rfl
    | consumed held => exact .consumed held
    | read | tried | matched => exact .tried
  | called challenge code isRecoveryCode =>
    cases e <;> simp only [VerifyTotpChallenge.step, reduceCtorEq] at h
    · split at h <;> obtain ⟨rfl, rfl⟩ := Prod.mk.inj (Option.some.inj h)
      · next pending =>
        cases isRecoveryCode
        · exact .readTotp pending
        · exact .readRecovery pending
      · exact .refused rfl rfl
    · cases h
      exact .refused rfl rfl
  | checking challenge code =>
    cases e <;> simp only [VerifyTotpChallenge.step, reduceCtorEq] at h
    · obtain ⟨rfl, rfl⟩ := Prod.mk.inj (Option.some.inj h)
      split
      · exact .passed ‹_›
      · exact .refused rfl rfl
    · cases h
      exact .refused rfl rfl
  | redeemed challenge consumed =>
    cases e <;> simp only [VerifyTotpChallenge.step, reduceCtorEq] at h
    · split at h <;> obtain ⟨rfl, rfl⟩ := Prod.mk.inj (Option.some.inj h)
      · exact .orphaned ‹_›
      · exact .resolved ‹_›
    · cases h
      exact .thrown rfl
  | passed challenge consumed | signing challenge consumed role =>
    cases e <;> simp only [VerifyTotpChallenge.step, reduceCtorEq] at h <;> cases h
    · first | exact .redeemed | exact .signed
    · exact .thrown rfl
  | done => cases e <;> simp only [VerifyTotpChallenge.step, reduceCtorEq] at h

theorem login_cases {t t' : Login} (h : t.step db e = some (db', t')) : LoginMove db t e db' t' := by
  cases e with
  | fail =>
    cases t <;> simp only [Login.step, reduceCtorEq] at h <;> cases h <;> exact .thrown
  | minted codes => cases t <;> simp only [Login.step, reduceCtorEq] at h
  | drawn random =>
    cases t <;> simp only [Login.step, reduceCtorEq] at h
    cases h
    exact .challenged
  | ok =>
    cases t <;> simp only [Login.step, reduceCtorEq] at h
    case called =>
      split at h <;> obtain ⟨rfl, rfl⟩ := Prod.mk.inj (Option.some.inj h)
      · exact .unknown
      · exact .found
    case found =>
      split at h <;> obtain ⟨rfl, rfl⟩ := Prod.mk.inj (Option.some.inj h)
      · exact .refused ‹_›
      · exact .unlocked (Bool.not_eq_true _ ▸ ‹¬_›)
    case verifying =>
      obtain ⟨rfl, rfl⟩ := Prod.mk.inj (Option.some.inj h)
      split
      · next hsame => exact hsame ▸ .right
      · exact .wrong ‹_›
    case wrong =>
      obtain ⟨rfl, rfl⟩ := Prod.mk.inj (Option.some.inj h)
      split
      · exact .exhausted rfl ‹_›
      · exact .counted rfl (not_le.1 ‹_›)
    case branching =>
      obtain ⟨rfl, rfl⟩ := Prod.mk.inj (Option.some.inj h)
      split
      · exact .enrolled
      · exact .unenrolled
    all_goals cases h
    · exact .locked
    · exact .reset
    · exact .signed

/-- A step of one of the four calls. -/
inductive AdminMove (check : TotpCheck) (db : AdminDb) : AdminThread → AdminReply → AdminDb → AdminThread → Prop
  | start {t e db' t'} (h : StartMove db t e db' t') : AdminMove check db (.start t) e db' (.start t')
  | confirm {t e db' t'} (h : ConfirmMove check db t e db' t') : AdminMove check db (.confirm t) e db' (.confirm t')
  | verify {t e db' t'} (h : ChallengeMove check db t e db' t') : AdminMove check db (.verify t) e db' (.verify t')
  | login {t e db' t'} (h : LoginMove db t e db' t') : AdminMove check db (.login t) e db' (.login t')

theorem admin_event {n : AdminEvent} {ts : List AdminThread} (h : (adminMachine check).event db n = some (db', ts)) :
    db' = (adminEvent db n).1 ∧ ts = (adminEvent db n).2 := by
  have heq : adminEvent db n = (db', ts) := Option.some.inj h
  rw [heq]
  exact ⟨rfl, rfl⟩

theorem admin_cases {t : AdminThread} {ts : List AdminThread} (h : (adminMachine check).step db t e = some (db', ts)) :
    ∃ t', ts = [t'] ∧ AdminMove check db t e db' t' := by
  obtain ⟨⟨db₁, t₁⟩, hst, hr⟩ := Option.map_eq_some_iff.1 h
  obtain ⟨rfl, rfl⟩ := Prod.mk.inj hr
  refine ⟨t₁, rfl, ?_⟩
  cases t with
  | start t =>
    obtain ⟨⟨db', t'⟩, ht, hr⟩ := Option.map_eq_some_iff.1 hst
    obtain ⟨rfl, rfl⟩ := Prod.mk.inj hr
    exact .start (start_cases ht)
  | confirm t =>
    obtain ⟨⟨db', t'⟩, ht, hr⟩ := Option.map_eq_some_iff.1 hst
    obtain ⟨rfl, rfl⟩ := Prod.mk.inj hr
    exact .confirm (confirm_cases ht)
  | verify t =>
    obtain ⟨⟨db', t'⟩, ht, hr⟩ := Option.map_eq_some_iff.1 hst
    obtain ⟨rfl, rfl⟩ := Prod.mk.inj hr
    exact .verify (challenge_cases ht)
  | login t =>
    obtain ⟨⟨db', t'⟩, ht, hr⟩ := Option.map_eq_some_iff.1 hst
    obtain ⟨rfl, rfl⟩ := Prod.mk.inj hr
    exact .login (login_cases ht)

end

end ChopNow
