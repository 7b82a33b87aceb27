import ChopNow.Lib.Table
import ChopNow.Spec.Otp

/-! What one step of a call on the one-time codes can do. -/

namespace ChopNow

open Interleave Table

/-- The row that the call has compared its code with, and whether it matched. -/
def VerifyOtp.compared : VerifyOtp → Option (OtpId × Bool)
  | .called .. | .comparing .. => none
  | .wrong id => some (id, false)
  | .matched id _ | .consumed id _ | .signing id => some (id, true)
  | .done compared _ => compared

inductive VerifyMove (db : OtpDb) : VerifyOtp → OtpReply → OtpDb → VerifyOtp → Prop
  | thrown {t reason} (running : ∀ compared result, t ≠ .done compared result) :
      VerifyMove db t (.fail reason) db (.done t.compared (.error (.thrown reason)))
  | unmatched {phone code} (none : activeLog db.logs (normalizePhone phone) db.clock = none) :
      VerifyMove db (.called phone code) .ok db (.done .none (.error .invalidOrExpired))
  | exhausted {phone code log} (found : activeLog db.logs (normalizePhone phone) db.clock = some log)
      (limit : OTP_MAX_ATTEMPTS ≤ log.attempts) :
      VerifyMove db (.called phone code) .ok db (.done .none (.error .tooManyAttempts))
  | read {phone code log} (found : activeLog db.logs (normalizePhone phone) db.clock = some log)
      (limit : log.attempts < OTP_MAX_ATTEMPTS) : VerifyMove db (.called phone code) .ok db (.comparing log code)
  | right {log code} (same : log.codeHash = code) :
      VerifyMove db (.comparing log code) .ok db (.matched log.id log.phone)
  | wrong {log code} (differs : log.codeHash ≠ code) : VerifyMove db (.comparing log code) .ok db (.wrong log.id)
  | counted {id} : VerifyMove db (.wrong id) .ok (db.write id .countAttempt)
      (.done (some (id, false)) (.error .invalidOrExpired))
  | verified {id phone} :
      VerifyMove db (.matched id phone) .ok (db.write id (.markVerified db.clock)) (.consumed id phone)
  | released {id phone} : VerifyMove db (.consumed id phone) .ok (db.lock phone none) (.signing id)
  | signed {id} : VerifyMove db (.signing id) .ok db (.done (some (id, true)) (.ok ()))

inductive RequestMove (db : OtpDb) : RequestOtp → OtpReply → OtpDb → RequestOtp → Prop
  | thrown {t reason} : RequestMove db t (.fail reason) db (.done (.error (.thrown reason)))
  | held {phone} : RequestMove db (.called phone) .ok db (.done (.ok ()))
  | acquired {phone expiry} : RequestMove db (.called phone) .ok (db.lock (normalizePhone phone) (some expiry))
      (.acquired (normalizePhone phone))
  | created {phone code} : RequestMove db (.acquired phone) (.drawn code) (db.create phone code)
      (.created phone db.logs.length)
  | accepted {phone id channel sid} :
      RequestMove db (.created phone id) (.sent channel sid) db (.accepted phone id channel sid)
  | refused {phone id reason} : RequestMove db (.created phone id) (.refused reason) db (.caught phone id reason)
  | sent {phone id channel sid} :
      RequestMove db (.accepted phone id channel sid) .ok (db.write id (.markSent channel sid)) (.done (.ok ()))
  | unsent {phone id channel sid reason} :
      RequestMove db (.accepted phone id channel sid) (.fail reason) db (.caught phone id reason)
  | failed {phone id reason} :
      RequestMove db (.caught phone id reason) .ok (db.write id (.markFailed reason)) (.releasing phone)
  | released {phone} :
      RequestMove db (.releasing phone) .ok (db.lock phone none) (.done (.error .deliveryFailed))

/-- `dropped` stands for every callback that writes nothing. -/
inductive TwilioMove (db : OtpDb) : TwilioCallback → OtpReply → OtpDb → TwilioCallback → Prop
  | dropped {t e} : TwilioMove db t e db .done
  | found {sid status errorMessage errorCode log} (row : log ∈ db.logs)
      (open_ : log.status ≠ .verified ∧ log.status ≠ .failed) :
      TwilioMove db (.received sid status errorMessage errorCode) .ok db (.found log.id status errorMessage errorCode)
  | delivered {id status errorMessage errorCode} (h : status = .delivered ∨ status = .read) :
      TwilioMove db (.found id status errorMessage errorCode) .ok (db.write id (.markDelivered db.clock)) .done
  | failed {id status errorMessage errorCode reason} :
      TwilioMove db (.found id status errorMessage errorCode) .ok (db.write id (.markFailed reason)) .done

section

variable {db db' : OtpDb} {e : OtpReply}

theorem verify_cases {t t' : VerifyOtp} (h : t.step db e = some (db', t')) : VerifyMove db t e db' t' := by
  cases e with
  | fail reason => cases t <;> cases h <;> exact .thrown fun _ _ heq => (by cases heq)
  | ok =>
    cases t with
    | called phone code =>
      simp only [VerifyOtp.step] at h
      split at h
      · next hnone =>
        obtain ⟨rfl, rfl⟩ := Prod.mk.inj (Option.some.inj h)
        exact .unmatched hnone
      · next log hfound =>
        split at h <;> obtain ⟨rfl, rfl⟩ := Prod.mk.inj (Option.some.inj h)
        · next hlimit => exact .exhausted hfound hlimit
        · next hlimit => exact .read hfound (not_le.1 hlimit)
    | comparing log code =>
      obtain ⟨rfl, rfl⟩ := Prod.mk.inj (Option.some.inj h)
      split
      · next hsame => exact .right hsame
      · next hdiffers => exact .wrong hdiffers
    | wrong id =>
      obtain ⟨rfl, rfl⟩ := Prod.mk.inj (Option.some.inj h)
      exact .counted
    | matched id phone =>
      obtain ⟨rfl, rfl⟩ := Prod.mk.inj (Option.some.inj h)
      exact .verified
    | consumed id phone =>
      obtain ⟨rfl, rfl⟩ := Prod.mk.inj (Option.some.inj h)
      exact .released
    | signing id =>
      obtain ⟨rfl, rfl⟩ := Prod.mk.inj (Option.some.inj h)
      exact .signed
    | done compared result => cases h
  | drawn code => cases t <;> cases h
  | sent channel sid => cases t <;> cases h
  | refused reason => cases t <;> cases h

theorem request_cases {t t' : RequestOtp} (h : t.step db e = some (db', t')) : RequestMove db t e db' t' := by
  cases t with
  | called phone =>
    cases e with
    | ok =>
      simp only [RequestOtp.step] at h
      split at h <;> obtain ⟨rfl, rfl⟩ := Prod.mk.inj (Option.some.inj h)
      · exact .held
      · exact .acquired
    | fail reason => cases h; exact .thrown
    | _ => cases h
  | acquired phone =>
    cases e with
    | drawn code => cases h; exact .created
    | fail reason => cases h; exact .thrown
    | _ => cases h
  | created phone id =>
    cases e with
    | sent channel sid => cases h; exact .accepted
    | refused reason => cases h; exact .refused
    | _ => cases h
  | accepted phone id channel sid =>
    cases e with
    | ok => cases h; exact .sent
    | fail reason => cases h; exact .unsent
    | _ => cases h
  | caught phone id reason =>
    cases e with
    | ok => cases h; exact .failed
    | fail reason => cases h; exact .thrown
    | _ => cases h
  | releasing phone =>
    cases e with
    | ok => cases h; exact .released
    | fail reason => cases h; exact .thrown
    | _ => cases h
  | done result => cases e <;> cases h

theorem twilio_cases {t t' : TwilioCallback} (h : t.step db e = some (db', t')) : TwilioMove db t e db' t' := by
  cases t with
  | received sid status errorMessage errorCode =>
    cases e with
    | ok =>
      simp only [TwilioCallback.step] at h
      split at h
      · cases h; exact .dropped
      · next log hfound =>
        split at h <;> cases h
        · exact .dropped
        · next hopen => exact .found (List.mem_of_find?_eq_some hfound) (not_or.1 hopen)
    | fail reason => cases h; exact .dropped
    | _ => cases h
  | found id status errorMessage errorCode =>
    cases e with
    | ok =>
      cases status with
      | delivered => cases h; exact .delivered (.inl rfl)
      | read => cases h; exact .delivered (.inr rfl)
      | failed | undelivered => cases h; exact .failed
      | underway => cases h; exact .dropped
    | fail reason => cases h; exact .dropped
    | _ => cases h
  | done => cases e <;> cases h

theorem otp_step {t : OtpThread} {ts : List OtpThread} (h : otpMachine.step db t e = some (db', ts)) :
    (∃ v v', t = .verify v ∧ ts = [.verify v'] ∧ VerifyMove db v e db' v') ∨
    (∃ r r', t = .request r ∧ ts = [.request r'] ∧ RequestMove db r e db' r') ∨
    (∃ c c', t = .twilio c ∧ ts = [.twilio c'] ∧ TwilioMove db c e db' c') := by
  obtain ⟨⟨db₁, t₁⟩, hst, hr⟩ := Option.map_eq_some_iff.1 h
  obtain ⟨rfl, rfl⟩ := Prod.mk.inj hr
  cases t with
  | verify v =>
    obtain ⟨⟨db₂, v'⟩, hv, hr⟩ := Option.map_eq_some_iff.1 hst
    obtain ⟨rfl, rfl⟩ := Prod.mk.inj hr
    exact .inl ⟨v, v', rfl, rfl, verify_cases hv⟩
  | request r =>
    obtain ⟨⟨db₂, r'⟩, hr', hr⟩ := Option.map_eq_some_iff.1 hst
    obtain ⟨rfl, rfl⟩ := Prod.mk.inj hr
    exact .inr (.inl ⟨_, r', rfl, rfl, request_cases hr'⟩)
  | twilio c =>
    obtain ⟨⟨db₂, c'⟩, hc, hr⟩ := Option.map_eq_some_iff.1 hst
    obtain ⟨rfl, rfl⟩ := Prod.mk.inj hr
    exact .inr (.inr ⟨c, c', rfl, rfl, twilio_cases hc⟩)

/-! What a step writes to the rows. -/

/-- An update keeps the code and its deadline, and no VERIFIED mark is taken back. -/
structure KeepsLog (f : OtpLog → OtpLog) : Prop where
  id : ∀ log, (f log).id = log.id
  phone : ∀ log, (f log).phone = log.phone
  codeHash : ∀ log, (f log).codeHash = log.codeHash
  expiresAt : ∀ log, (f log).expiresAt = log.expiresAt
  verifiedAt : ∀ log, log.verifiedAt.isSome → (f log).verifiedAt.isSome

inductive LogsWritten (db : OtpDb) : OtpDb → Prop
  | kept {db' : OtpDb} {f : OtpLog → OtpLog} (hf : KeepsLog f) (hlogs : db'.logs = db.logs.map f) : LogsWritten db db'
  | created (phone : Phone) (code : OtpCode) : LogsWritten db (db.create phone code)

theorem KeepsLog.byId {f : OtpLog → OtpLog} (hf : KeepsLog f) (id : OtpId) :
    KeepsLog fun log => if log.id = id then f log else log where
  id := fun log => by split <;> simp [hf.id]
  phone := fun log => by split <;> simp [hf.phone]
  codeHash := fun log => by split <;> simp [hf.codeHash]
  expiresAt := fun log => by split <;> simp [hf.expiresAt]
  verifiedAt := fun log h => by
    split
    · exact hf.verifiedAt log h
    · exact h

/-- An update of the other columns. -/
theorem KeepsLog.unmarked {f : OtpLog → OtpLog} (hf : ∀ log, (f log).id = log.id ∧ (f log).phone = log.phone ∧
    (f log).codeHash = log.codeHash ∧ (f log).expiresAt = log.expiresAt ∧ (f log).verifiedAt = log.verifiedAt) :
    KeepsLog f where
  id := fun log => (hf log).1
  phone := fun log => (hf log).2.1
  codeHash := fun log => (hf log).2.2.1
  expiresAt := fun log => (hf log).2.2.2.1
  verifiedAt := fun log h => by rwa [(hf log).2.2.2.2]

theorem keepsLog_markVerified (now : Time) : KeepsLog (.markVerified now) :=
  ⟨fun _ => rfl, fun _ => rfl, fun _ => rfl, fun _ => rfl, fun _ _ => rfl⟩

theorem LogsWritten.same (h : db'.logs = db.logs) : LogsWritten db db' :=
  .kept (f := id) ⟨fun _ => rfl, fun _ => rfl, fun _ => rfl, fun _ => rfl, fun _ h => h⟩ (by rw [h, List.map_id])

theorem LogsWritten.write {f : OtpLog → OtpLog} (hf : KeepsLog f) (id : OtpId) : LogsWritten db (db.write id f) :=
  .kept (hf.byId id) rfl

theorem otp_written {t : OtpThread} {ts : List OtpThread} (h : otpMachine.step db t e = some (db', ts)) :
    LogsWritten db db' := by
  rcases otp_step h with ⟨v, v', rfl, rfl, hmove⟩ | ⟨r, r', rfl, rfl, hmove⟩ | ⟨c, c', rfl, rfl, hmove⟩
  · cases hmove with
    | counted =>
      refine .write ?_ _
      exact .unmarked fun _ => ⟨rfl, rfl, rfl, rfl, rfl⟩
    | verified => exact .write (keepsLog_markVerified db.clock) _
    | _ => exact .same rfl
  · cases hmove with
    | created => exact .created _ _
    | sent | failed =>
      refine .write ?_ _
      exact .unmarked fun _ => ⟨rfl, rfl, rfl, rfl, rfl⟩
    | _ => exact .same rfl
  · cases hmove with
    | delivered | failed =>
      refine .write ?_ _
      exact .unmarked fun _ => ⟨rfl, rfl, rfl, rfl, rfl⟩
    | _ => exact .same rfl

theorem activeLog_some {logs : List OtpLog} {phone : Phone} {now : Time} {log : OtpLog}
    (h : activeLog logs phone now = some log) : log ∈ logs ∧ log.eligible phone now = true := by
  unfold activeLog at h
  have heligible := List.find?_some h
  exact ⟨List.mem_reverse.1 (List.mem_of_find?_eq_some h), heligible⟩

end

end ChopNow
