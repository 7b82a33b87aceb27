import ChopNow.Lib.Alone
import ChopNow.Proofs.OtpStep

/-! One phone's codes, used one call at a time. verifyOtp takes the newest row that is still
open; when that row is used up, the next one stands where it stood. -/

namespace ChopNow

open Alone Relation Table

/-! A call that runs alone, every statement of it landing. -/

def OtpReply.lands : OtpReply → Bool
  | .fail _ => false
  | _ => true

def RequestOtp.Runs (db : OtpDb) (t : RequestOtp) (db' : OtpDb) (result : Except OtpError Unit) : Prop :=
  Alone.Runs RequestOtp.step OtpReply.lands db t db' (.done result)

def VerifyOtp.Runs (db : OtpDb) (t : VerifyOtp) (db' : OtpDb) (compared : Option (OtpId × Bool))
    (result : Except OtpError Unit) : Prop :=
  Alone.Runs VerifyOtp.step OtpReply.lands db t db' (.done compared result)

/-- A sign-in with the code of row `id`. -/
def SignsIn (db : OtpDb) (phone : Phone) (code : OtpCode) (id : OtpId) (db' : OtpDb) : Prop :=
  VerifyOtp.Runs db (.called phone code) db' (some (id, true)) (.ok ())

/-- Where the newest row gets used up, by a sign-in or by a delivery that fails, `rest` is
what holds of the phone's other rows. -/
inductive OtpCall (rest : List OtpLog → Phone → Time → Prop) (db : OtpDb) : OtpDb → Prop
  | requestOtp {phone db' result} (h : RequestOtp.Runs db (.called phone) db' result)
      (hrest : result = .error .deliveryFailed → rest db.logs (normalizePhone phone) db.clock) : OtpCall rest db db'
  | verifyOtp {phone code db' compared result} (h : VerifyOtp.Runs db (.called phone code) db' compared result)
      (hrest : ∀ id, compared = some (id, true) →
        rest (db.logs.filter fun log => log.id ≠ id) (normalizePhone phone) db.clock) : OtpCall rest db db'
  | tick {elapsed} : OtpCall rest db { db with clock := db.clock + elapsed }

/-- One call after the other. -/
def OtpRun (rest : List OtpLog → Phone → Time → Prop) : OtpDb → OtpDb → Prop := ReflTransGen (OtpCall rest)

/-- None of these rows has a code that verifyOtp would accept. -/
def spent (logs : List OtpLog) (phone : Phone) (now : Time) : Prop :=
  ∀ log, activeLog logs phone now = some log → OTP_MAX_ATTEMPTS ≤ log.attempts

def anyRest (_ : List OtpLog) (_ : Phone) (_ : Time) : Prop := True

/-! What the two calls do. -/

inductive RequestEffect (db : OtpDb) (phone : Phone) : OtpDb → Except OtpError Unit → Prop
  | held : RequestEffect db phone db (.ok ())
  | sent {expiry code channel sid} : RequestEffect db phone
      (((db.lock phone expiry).create phone code).write db.logs.length (.markSent channel sid)) (.ok ())
  | refused {expiry code reason} : RequestEffect db phone
      ((((db.lock phone expiry).create phone code).write db.logs.length (.markFailed reason)).lock phone none)
      (.error .deliveryFailed)

inductive VerifyEffect (db : OtpDb) (phone : Phone) : OtpDb → Option (OtpId × Bool) → Except OtpError Unit → Prop
  | refused {err} : VerifyEffect db phone db none (.error err)
  | wrong {log} (found : activeLog db.logs phone db.clock = some log) (limit : log.attempts < OTP_MAX_ATTEMPTS) :
      VerifyEffect db phone (db.write log.id .countAttempt) (some (log.id, false)) (.error .invalidOrExpired)
  | signedIn {log} (found : activeLog db.logs phone db.clock = some log) (limit : log.attempts < OTP_MAX_ATTEMPTS) :
      VerifyEffect db phone ((db.write log.id (.markVerified db.clock)).lock log.phone none) (some (log.id, true)) (.ok ())

section

variable {db db' : OtpDb} {phone : Phone} {code : OtpCode} {compared : Option (OtpId × Bool)} {result : Except OtpError Unit}

theorem request_done {answer : Except OtpError Unit} (h : RequestOtp.Runs db (.done answer) db' result) :
    db' = db ∧ result = answer := by
  obtain ⟨rfl, hdone⟩ := Runs.stopped h fun e => by cases e <;> rfl
  exact ⟨rfl, RequestOtp.done.inj hdone⟩

theorem request_created {id : OtpId} (h : RequestOtp.Runs db (.created phone id) db' result) :
    (∃ channel sid, db' = db.write id (.markSent channel sid) ∧ result = .ok ()) ∨
    ∃ reason, db' = (db.write id (.markFailed reason)).lock phone none ∧ result = .error .deliveryFailed := by
  obtain ⟨e, db₁, t₁, he, hst, h₁⟩ := Runs.next h (fun heq => by cases heq)
  cases request_cases hst with
  | thrown => cases he
  | accepted =>
    obtain ⟨e, db₂, t₂, he, hst, h₂⟩ := Runs.next h₁ (fun heq => by cases heq)
    cases request_cases hst with
    | thrown | unsent => cases he
    | sent => exact .inl ⟨_, _, request_done h₂⟩
  | refused =>
    obtain ⟨e, db₂, t₂, he, hst, h₂⟩ := Runs.next h₁ (fun heq => by cases heq)
    cases request_cases hst with
    | thrown => cases he
    | failed =>
      obtain ⟨e, db₃, t₃, he, hst, h₃⟩ := Runs.next h₂ (fun heq => by cases heq)
      cases request_cases hst with
      | thrown => cases he
      | released => exact .inr ⟨_, request_done h₃⟩

theorem request_leaves (h : RequestOtp.Runs db (.called phone) db' result) :
    RequestEffect db (normalizePhone phone) db' result := by
  obtain ⟨e, db₁, t₁, he, hst, h₁⟩ := Runs.next h (fun heq => by cases heq)
  cases request_cases hst with
  | thrown => cases he
  | held =>
    obtain ⟨rfl, rfl⟩ := request_done h₁
    exact .held
  | acquired =>
    obtain ⟨e, db₂, t₂, he, hst, h₂⟩ := Runs.next h₁ (fun heq => by cases heq)
    cases request_cases hst with
    | thrown => cases he
    | created =>
      rcases request_created h₂ with ⟨channel, sid, rfl, rfl⟩ | ⟨reason, rfl, rfl⟩
      · exact .sent
      · exact .refused

theorem verify_done {compared' : Option (OtpId × Bool)} {answer : Except OtpError Unit}
    (h : VerifyOtp.Runs db (.done compared' answer) db' compared result) :
    db' = db ∧ compared = compared' ∧ result = answer := by
  obtain ⟨rfl, hdone⟩ := Runs.stopped h fun e => by cases e <;> rfl
  exact ⟨rfl, VerifyOtp.done.inj hdone⟩

theorem verify_matched {id : OtpId} (h : VerifyOtp.Runs db (.matched id phone) db' compared result) :
    db' = (db.write id (.markVerified db.clock)).lock phone none ∧ compared = some (id, true) ∧ result = .ok () := by
  obtain ⟨e, db₁, t₁, he, hst, h₁⟩ := Runs.next h (fun heq => by cases heq)
  cases verify_cases hst with
  | thrown => cases he
  | verified =>
    obtain ⟨e, db₂, t₂, he, hst, h₂⟩ := Runs.next h₁ (fun heq => by cases heq)
    cases verify_cases hst with
    | thrown => cases he
    | released =>
      obtain ⟨e, db₃, t₃, he, hst, h₃⟩ := Runs.next h₂ (fun heq => by cases heq)
      cases verify_cases hst with
      | thrown => cases he
      | signed => exact verify_done h₃

theorem verify_effect (h : VerifyOtp.Runs db (.called phone code) db' compared result) :
    VerifyEffect db (normalizePhone phone) db' compared result := by
  obtain ⟨e, db₁, t₁, he, hst, h₁⟩ := Runs.next h (fun heq => by cases heq)
  cases verify_cases hst with
  | thrown => cases he
  | unmatched | exhausted =>
    obtain ⟨rfl, rfl, rfl⟩ := verify_done h₁
    exact .refused
  | read hfound hlimit =>
    obtain ⟨e, db₂, t₂, he, hst, h₂⟩ := Runs.next h₁ (fun heq => by cases heq)
    cases verify_cases hst with
    | thrown => cases he
    | right =>
      obtain ⟨rfl, rfl, rfl⟩ := verify_matched h₂
      exact .signedIn hfound hlimit
    | wrong =>
      obtain ⟨e, db₃, t₃, he, hst, h₃⟩ := Runs.next h₂ (fun heq => by cases heq)
      cases verify_cases hst with
      | thrown => cases he
      | counted =>
        obtain ⟨rfl, rfl, rfl⟩ := verify_done h₃
        exact .wrong hfound hlimit

end

/-! The row that verifyOtp takes. -/

section

variable {logs : List OtpLog} {log : OtpLog} {phone : Phone} {now : Time} {id : OtpId} {f : OtpLog → OtpLog}

theorem activeLog_append : activeLog (logs ++ [log]) phone now =
    if log.eligible phone now then some log else activeLog logs phone now := by
  unfold activeLog
  rw [List.reverse_append, List.reverse_singleton, List.singleton_append, List.find?_cons]
  cases log.eligible phone now <;> rfl

/-- An update that leaves a row as open as it was. -/
theorem activeLog_map {g : OtpLog → OtpLog} (hg : ∀ log ∈ logs, (g log).eligible phone now = log.eligible phone now) :
    activeLog (logs.map g) phone now = (activeLog logs phone now).map g := by
  unfold activeLog
  rw [← List.map_reverse, List.find?_map]
  congr 1
  refine List.find?_congr fun log hlog => ?_
  exact hg log (List.mem_reverse.1 hlog)

/-- An update that closes a row. -/
theorem activeLog_closed (hf : ∀ log, (f log).eligible phone now = false) :
    activeLog (logs.map fun log => if log.id = id then f log else log) phone now =
      activeLog (logs.filter fun log => log.id ≠ id) phone now := by
  have hsame : ∀ log : OtpLog, (if log.id = id then f log else log).eligible phone now =
      (decide (log.id ≠ id) && log.eligible phone now) := fun log => by
    by_cases hid : log.id = id <;> simp [hid, hf]
  unfold activeLog
  rw [← List.map_reverse, List.find?_map, ← List.filter_reverse, List.find?_filter]
  have hpred : ((fun log : OtpLog => log.eligible phone now) ∘ fun log => if log.id = id then f log else log) =
      fun log => decide (log.id ≠ id) && log.eligible phone now := funext hsame
  rw [hpred]
  simp only [Bool.decide_and, Bool.decide_eq_true]
  cases hfound : logs.reverse.find? fun log => decide (log.id ≠ id) && log.eligible phone now with
  | none => rfl
  | some log =>
    have hlog := List.find?_some hfound
    simp only [Bool.and_eq_true, decide_eq_true_eq] at hlog
    simp [hlog.1]

end

/-! The row whose code would be accepted. -/

def Accepts (db : OtpDb) (phone : Phone) (log : OtpLog) : Prop :=
  activeLog db.logs phone db.clock = some log ∧ log.attempts < OTP_MAX_ATTEMPTS

/-- The later a row was made, the later it expires. -/
structure SoundOtp (db : OtpDb) : Prop where
  numbered : Numbered OtpLog.id db.logs
  sorted : ∀ log ∈ db.logs, ∀ later ∈ db.logs, log.id ≤ later.id → log.expiresAt ≤ later.expiresAt
  bounded : ∀ log ∈ db.logs, log.expiresAt ≤ db.clock + OTP_TTL_MINUTES * 60 * 1000

section

variable {db db' : OtpDb} {phone : Phone} {log : OtpLog} {id : OtpId} {f : OtpLog → OtpLog}
  {rest : List OtpLog → Phone → Time → Prop}

/-- The row that a request has just made, rewritten before anyone else looks. -/
theorem write_created (h : Numbered OtpLog.id db.logs) (f : OtpLog → OtpLog) (phone : Phone) (code : OtpCode)
    (expiry : Option Time) :
    (((db.lock phone expiry).create phone code).write db.logs.length f).logs =
      db.logs ++ [f {
        id := db.logs.length
        phone := phone
        channel := .whatsapp
        codeHash := code
        expiresAt := db.clock + OTP_TTL_MINUTES * 60 * 1000 }] := by
  simp only [OtpDb.write, OtpDb.create, OtpDb.lock, List.map_append, List.map_singleton, if_true]
  congr 1
  conv_rhs => rw [← List.map_id db.logs]
  exact List.map_congr_left fun log hlog => if_neg (Nat.ne_of_lt (h.lt hlog))

theorem SoundOtp.written (h : SoundOtp db) (hf : KeepsLog f) : SoundOtp (db.write id f) where
  numbered := h.numbered.map (hf.byId id).id
  sorted := fun log hlog later hlater hle => by
    obtain ⟨l, hl, rfl⟩ := List.mem_map.1 hlog
    obtain ⟨l', hl', rfl⟩ := List.mem_map.1 hlater
    have hkeeps := hf.byId id
    rw [hkeeps.expiresAt l, hkeeps.expiresAt l']
    rw [hkeeps.id l, hkeeps.id l'] at hle
    exact h.sorted l hl l' hl' hle
  bounded := fun log hlog => by
    obtain ⟨l, hl, rfl⟩ := List.mem_map.1 hlog
    rw [(hf.byId id).expiresAt l]
    exact h.bounded l hl

theorem SoundOtp.created (h : SoundOtp db) (phone : Phone) (code : OtpCode) : SoundOtp (db.create phone code) where
  numbered := h.numbered.append rfl
  sorted := fun log hlog later hlater hle => by
    rcases List.mem_append.1 hlog with hlog | hlog <;> rcases List.mem_append.1 hlater with hlater | hlater
    · exact h.sorted log hlog later hlater hle
    · obtain rfl := List.mem_singleton.1 hlater
      exact h.bounded log hlog
    · obtain rfl := List.mem_singleton.1 hlog
      exact absurd (h.numbered.lt hlater) (not_lt_of_ge hle)
    · obtain rfl := List.mem_singleton.1 hlog
      obtain rfl := List.mem_singleton.1 hlater
      exact le_rfl
  bounded := fun log hlog => by
    rcases List.mem_append.1 hlog with hlog | hlog
    · exact h.bounded log hlog
    · obtain rfl := List.mem_singleton.1 hlog
      exact le_rfl

theorem SoundOtp.call (h : SoundOtp db) (hcall : OtpCall rest db db') : SoundOtp db' := by
  have hunlocked : ∀ {db : OtpDb} {phone : Phone} {expiry : Option Time}, SoundOtp db → SoundOtp (db.lock phone expiry) :=
    fun h => ⟨h.numbered, h.sorted, h.bounded⟩
  cases hcall with
  | requestOtp hrun =>
    cases request_leaves hrun with
    | held => exact h
    | sent =>
      refine ((hunlocked h).created _ _).written ?_
      exact .unmarked fun _ => ⟨rfl, rfl, rfl, rfl, rfl⟩
    | refused =>
      refine hunlocked (((hunlocked h).created _ _).written ?_)
      exact .unmarked fun _ => ⟨rfl, rfl, rfl, rfl, rfl⟩
  | verifyOtp hrun =>
    cases verify_effect hrun with
    | refused => exact h
    | wrong =>
      refine h.written ?_
      exact .unmarked fun _ => ⟨rfl, rfl, rfl, rfl, rfl⟩
    | signedIn => exact hunlocked (h.written (keepsLog_markVerified db.clock))
  | tick =>
    exact { h with bounded := fun log hlog => (h.bounded log hlog).trans (Nat.add_le_add_right (Nat.le_add_right _ _) _) }

/-- While time passes no older row comes forward: it expires first. -/
theorem SoundOtp.activeLog_tick (h : SoundOtp db) {elapsed : Time}
    (hlater : activeLog db.logs phone (db.clock + elapsed) = some log) : activeLog db.logs phone db.clock = some log := by
  have hids : (db.logs.map OtpLog.id).Pairwise (· < ·) := by
    rw [h.numbered]
    exact List.pairwise_lt_range
  have hnewest : db.logs.reverse.Pairwise fun a b => b.id < a.id :=
    List.pairwise_reverse.2 (List.pairwise_map.1 hids)
  obtain ⟨hlog, heligible⟩ := activeLog_some hlater
  unfold activeLog at hlater ⊢
  obtain ⟨-, before, after, hsplit, hnone⟩ := List.find?_eq_some_iff_append.1 hlater
  refine List.find?_eq_some_iff_append.2 ⟨?_, before, after, hsplit, fun other hother => ?_⟩
  · simp only [OtpLog.eligible, Bool.and_eq_true, decide_eq_true_eq] at heligible ⊢
    exact ⟨heligible.1, (Nat.le_add_right _ _).trans_lt heligible.2⟩
  · have hmem : other ∈ db.logs := by
      rw [← List.mem_reverse, hsplit]
      exact List.mem_append_left _ hother
    have hlt : log.id < other.id := by
      rw [hsplit] at hnewest
      exact (List.pairwise_append.1 hnewest).2.2 other hother log (.head _)
    have hexpires := h.sorted log hlog other hmem hlt.le
    have hclosed := hnone other hother
    simp only [OtpLog.eligible, Bool.and_eq_true, decide_eq_true_eq, Bool.not_eq_true', Bool.and_eq_false_iff,
      decide_eq_false_iff_not] at heligible hclosed ⊢
    exact hclosed.imp_right fun hexpired => absurd (heligible.2.trans_le hexpires) hexpired

/-- What a call leaves acceptable: the row that it made, or what was acceptable before it,
with no new row of that phone. -/
def AcceptsAfter (db db' : OtpDb) (phone : Phone) (log : OtpLog) : Prop :=
  (log.id = db.logs.length ∧ ∀ other ∈ db'.logs, other.id ≤ log.id) ∨
  ∃ old, Accepts db phone old ∧ old.id = log.id ∧
    ∀ other ∈ db'.logs, other.phone = phone → ∃ o ∈ db.logs, o.phone = phone ∧ o.id = other.id

theorem AcceptsAfter.unwritten (hlog : Accepts db phone log) (hlogs : db'.logs = db.logs) : AcceptsAfter db db' phone log :=
  .inr ⟨log, hlog, rfl, fun other hother hphone => ⟨other, hlogs ▸ hother, hphone, rfl⟩⟩

/-- An update of rows that leaves them as open as they were. -/
theorem AcceptsAfter.updated (hf : KeepsLog f) (hattempts : ∀ log, log.attempts ≤ (f log).attempts)
    (hsame : ∀ log ∈ db.logs, log.id = id → (f log).eligible phone db.clock = log.eligible phone db.clock)
    (hclock : db'.clock = db.clock) (hlogs : db'.logs = (db.write id f).logs) (hlog : Accepts db' phone log) :
    AcceptsAfter db db' phone log := by
  have hkeeps := hf.byId id
  obtain ⟨hactive, hlimit⟩ := hlog
  rw [hlogs, hclock] at hactive
  unfold OtpDb.write at hactive hlogs
  rw [activeLog_map fun log hlog => by
    split
    · next hid => exact hsame log hlog hid
    · rfl] at hactive
  obtain ⟨old, hold, rfl⟩ := Option.map_eq_some_iff.1 hactive
  refine .inr ⟨old, ⟨hold, lt_of_le_of_lt ?_ hlimit⟩, (hkeeps.id old).symm, fun other hother hphone => ?_⟩
  · split
    · exact hattempts old
    · exact le_rfl
  · rw [hlogs] at hother
    obtain ⟨o, ho, rfl⟩ := List.mem_map.1 hother
    exact ⟨o, ho, (hkeeps.phone o).symm.trans hphone, (hkeeps.id o).symm⟩

/-- A row that a request has made, and that is not the one acceptable now. -/
theorem AcceptsAfter.appended {new : OtpLog} (hlogs : db'.logs = db.logs ++ [new]) (hphone : new.phone ≠ phone)
    (hlog : Accepts db phone log) : AcceptsAfter db db' phone log := by
  refine .inr ⟨log, hlog, rfl, fun other hother hother' => ?_⟩
  rw [hlogs] at hother
  rcases List.mem_append.1 hother with hother | hother
  · exact ⟨other, hother, hother', rfl⟩
  · obtain rfl := List.mem_singleton.1 hother
    exact absurd hother' hphone

theorem accepts_call (h : SoundOtp db) (hcall : OtpCall spent db db') (hlog : Accepts db' phone log) :
    AcceptsAfter db db' phone log := by
  cases hcall with
  | @requestOtp caller _ _ hrun hrest =>
    cases request_leaves hrun with
    | held => exact .unwritten hlog rfl
    | @sent expiry code channel sid =>
      have hlogs := write_created h.numbered (.markSent channel sid) (normalizePhone caller) code expiry
      obtain ⟨hactive, hlimit⟩ := hlog
      rw [hlogs, activeLog_append] at hactive
      split at hactive
      · obtain rfl := Option.some.inj hactive
        refine .inl ⟨rfl, fun other hother => ?_⟩
        rw [hlogs] at hother
        rcases List.mem_append.1 hother with hother | hother
        · exact (h.numbered.lt hother).le
        · rw [List.mem_singleton.1 hother]
      · next hclosed =>
        refine .appended hlogs (fun hphone => hclosed ?_) ⟨hactive, hlimit⟩
        have hlives : db.clock < db.clock + OTP_TTL_MINUTES * 60 * 1000 := Nat.lt_add_of_pos_right (by decide)
        have hsame : normalizePhone caller = phone := hphone
        simp [OtpLog.eligible, OtpLog.markSent, OtpStatus.isVerifiable, OtpDb.write, OtpDb.create, OtpDb.lock, hsame, hlives]
    | @refused expiry code reason =>
      have hlogs := write_created h.numbered (.markFailed reason) (normalizePhone caller) code expiry
      obtain ⟨hactive, hlimit⟩ := hlog
      have hactive' : activeLog db.logs phone db.clock = some log := by
        rw [← hactive]
        change _ = activeLog (((db.lock (normalizePhone caller) expiry).create (normalizePhone caller) code).write
          db.logs.length (.markFailed reason)).logs phone db.clock
        rw [hlogs, activeLog_append]
        simp [OtpLog.eligible, OtpLog.markFailed, OtpStatus.isVerifiable]
      refine .appended (show OtpDb.logs (OtpDb.lock _ _ _) = _ from hlogs) (fun hphone => ?_) ⟨hactive', hlimit⟩
      have hsame : normalizePhone caller = phone := hphone
      exact absurd (hrest rfl log (hsame ▸ hactive')) (not_le_of_gt hlimit)
  | @verifyOtp caller _ _ _ _ hrun hrest =>
    cases verify_effect hrun with
    | refused => exact .unwritten hlog rfl
    | wrong =>
      refine .updated (f := OtpLog.countAttempt) ?_ (fun _ => Nat.le_succ _) (fun _ _ _ => rfl) rfl rfl hlog
      exact .unmarked fun _ => ⟨rfl, rfl, rfl, rfl, rfl⟩
    | @signedIn row hfound =>
      obtain ⟨hrow, hopen⟩ := activeLog_some hfound
      by_cases hphone : normalizePhone caller = phone
      · obtain ⟨hactive, hlimit⟩ := hlog
        have hclosed : activeLog ((db.write row.id (.markVerified db.clock)).lock row.phone none).logs phone db.clock =
            activeLog (db.logs.filter fun log => log.id ≠ row.id) phone db.clock :=
          activeLog_closed fun log => by simp [OtpLog.eligible, OtpLog.markVerified, OtpStatus.isVerifiable]
        refine absurd (hrest row.id rfl log ?_) (not_le_of_gt hlimit)
        rw [hphone, ← hclosed]
        exact hactive
      · refine .updated (keepsLog_markVerified db.clock) (fun _ => le_rfl) (fun l hl hid => ?_) rfl rfl hlog
        obtain rfl := h.numbered.inj hl hrow hid
        simp only [OtpLog.eligible, Bool.and_eq_true, beq_iff_eq] at hopen
        have hother : (l.phone == phone) = false := beq_false_of_ne fun heq => hphone (hopen.1.1.symm.trans heq)
        simp only [OtpLog.eligible, OtpLog.markVerified, hother, Bool.false_and]
  | tick => exact .unwritten ⟨h.activeLog_tick hlog.1, hlog.2⟩ rfl

end

section

variable {db db₁ db₂ db₃ : OtpDb} {phone phone' : Phone} {code code' : OtpCode} {id id' : OtpId}

theorem soundOtp_start : SoundOtp .start := ⟨rfl, by simp [OtpDb.start], by simp [OtpDb.start]⟩

theorem SoundOtp.run {rest : List OtpLog → Phone → Time → Prop} (h : SoundOtp db) (hrun : OtpRun rest db db₁) :
    SoundOtp db₁ := by
  induction hrun with
  | refl => exact h
  | tail _ hcall ih => exact ih.call hcall

theorem SignsIn.accepts (h : SignsIn db phone code id db₁) :
    ∃ log, Accepts db (normalizePhone phone) log ∧ log.id = id := by
  cases verify_effect h with
  | signedIn hfound hlimit => exact ⟨_, ⟨hfound, hlimit⟩, rfl⟩

/-- After a sign-in whose other rows are spent, nothing is acceptable. -/
theorem SignsIn.exhausts (h : SignsIn db phone code id db₁)
    (hrest : spent (db.logs.filter fun log => log.id ≠ id) (normalizePhone phone) db.clock) (log : OtpLog) :
    ¬Accepts db₁ (normalizePhone phone) log := by
  cases verify_effect h with
  | @signedIn row hfound hlimit =>
    rintro ⟨hactive, hleft⟩
    have hclosed : activeLog ((db.write row.id (.markVerified db.clock)).lock row.phone none).logs (normalizePhone phone)
        db.clock = activeLog (db.logs.filter fun log => log.id ≠ row.id) (normalizePhone phone) db.clock :=
      activeLog_closed fun log => by simp [OtpLog.eligible, OtpLog.markVerified, OtpStatus.isVerifiable]
    exact absurd (hrest log (hclosed.symm.trans hactive)) (not_le_of_gt hleft)

theorem logs_grow {rest : List OtpLog → Phone → Time → Prop} (hcall : OtpCall rest db db₁) :
    db.logs.length ≤ db₁.logs.length := by
  cases hcall with
  | requestOtp hrun => cases request_leaves hrun <;> simp [OtpDb.write, OtpDb.create, OtpDb.lock]
  | verifyOtp hrun => cases verify_effect hrun <;> simp [OtpDb.write, OtpDb.lock]
  | tick => exact le_rfl

/-- The newest row of its phone alone can be accepted. -/
def OnlyNewest (db : OtpDb) : Prop :=
  ∀ phone log, Accepts db phone log → ∀ other ∈ db.logs, other.phone = phone → other.id ≤ log.id

theorem onlyNewest_run (hrun : OtpRun spent .start db) : OnlyNewest db := by
  induction hrun with
  | refl => exact fun phone log _ other hother => (by cases hother)
  | @tail db db' hprev hcall ih =>
    intro phone log hlog other hother hphone
    rcases accepts_call (soundOtp_start.run hprev) hcall hlog with ⟨-, hnewest⟩ | ⟨old, hold, hid, hothers⟩
    · exact hnewest other hother
    · obtain ⟨o, ho, hophone, hoid⟩ := hothers other hother hphone
      rw [← hid, ← hoid]
      exact ih phone old hold o ho hophone

/-- Of the rows before the `n`th, none of this phone can be accepted. -/
def SpentBefore (n : ℕ) (phone : Phone) (db : OtpDb) : Prop :=
  n ≤ db.logs.length ∧ ∀ log, Accepts db phone log → n ≤ log.id

theorem SpentBefore.run {n : ℕ} (hdb : SoundOtp db) (h : SpentBefore n phone db) (hrun : OtpRun spent db db₁) :
    SpentBefore n phone db₁ := by
  induction hrun with
  | refl => exact h
  | @tail db₁ db₂ hprev hcall ih =>
    refine ⟨ih.1.trans ?_, fun log hlog => ?_⟩
    · exact logs_grow hcall
    · rcases accepts_call (hdb.run hprev) hcall hlog with ⟨hid, -⟩ | ⟨old, hold, hid, -⟩
      · rw [hid]
        exact ih.1
      · rw [← hid]
        exact ih.2 old hold

end

/-- As long as the newest row is used up only where the phone's other rows are spent, a
sign-in leaves no earlier code, and at any time the newest row alone can be accepted. -/
theorem latest_code_only {db : OtpDb} (hrun : OtpRun spent .start db) :
    (∀ phone code id db₁, SignsIn db phone code id db₁ → ∀ log ∈ db.logs, log.phone = normalizePhone phone →
      log.id ≤ id) ∧
    ∀ phone code id db₁, SignsIn db phone code id db₁ →
      spent (db.logs.filter fun log => log.id ≠ id) (normalizePhone phone) db.clock → ∀ db₂, OtpRun spent db₁ db₂ →
      ∀ phone' code' id' db₃, normalizePhone phone' = normalizePhone phone → SignsIn db₂ phone' code' id' db₃ →
      db.logs.length ≤ id' := by
  refine ⟨fun phone code id db₁ hsigns log hlog hphone => ?_, ?_⟩
  · obtain ⟨row, hrow, rfl⟩ := hsigns.accepts
    exact onlyNewest_run hrun _ row hrow log hlog hphone
  · intro phone code id db₁ hsigns hrest db₂ hlater phone' code' id' db₃ hsame hsigns'
    have hcall : OtpCall spent db db₁ := .verifyOtp hsigns fun k hk => by
      obtain rfl := (Prod.mk.inj (Option.some.inj hk)).1
      exact hrest
    have hspent : SpentBefore db.logs.length (normalizePhone phone) db₁ :=
      ⟨logs_grow hcall, fun log hlog => absurd hlog (hsigns.exhausts hrest log)⟩
    obtain ⟨row, hrow, rfl⟩ := hsigns'.accepts
    rw [hsame] at hrow
    exact (hspent.run ((soundOtp_start.run hrun).call hcall) hlater).2 row hrow

/-! Replayed calls. -/

inductive OtpAct
  | requestOtp (phone : Phone) (replies : List OtpReply)
  | verifyOtp (phone : Phone) (code : OtpCode) (replies : List OtpReply)
  | tick (elapsed : Time)

def spentB (logs : List OtpLog) (phone : Phone) (now : Time) : Bool :=
  (activeLog logs phone now).all fun log => decide (OTP_MAX_ATTEMPTS ≤ log.attempts)

def OtpDb.act (restB : List OtpLog → Phone → Time → Bool) (db : OtpDb) : OtpAct → Option OtpDb
  | .requestOtp phone replies =>
    match replay RequestOtp.step OtpReply.lands db (.called phone) replies with
    | some (db', .done _) => if restB db.logs (normalizePhone phone) db.clock then some db' else none
    | _ => none
  | .verifyOtp phone code replies =>
    match replay VerifyOtp.step OtpReply.lands db (.called phone code) replies with
    | some (db', .done (some (id, _)) _) =>
      if restB (db.logs.filter fun log => log.id ≠ id) (normalizePhone phone) db.clock then some db' else none
    | some (db', .done none _) => some db'
    | _ => none
  | .tick elapsed => some { db with clock := db.clock + elapsed }

def OtpDb.play (restB : List OtpLog → Phone → Time → Bool) : OtpDb → List OtpAct → Option OtpDb
  | db, [] => some db
  | db, a :: as => (db.act restB a).bind fun db' => db'.play restB as

/-- A code that is accepted at once, with the row that it came from. -/
def OtpDb.signIn (db : OtpDb) (phone : Phone) (code : OtpCode) : Option (OtpId × OtpDb) :=
  match replay VerifyOtp.step OtpReply.lands db (.called phone code) [.ok, .ok, .ok, .ok, .ok] with
  | some (db', .done (some (id, true)) (.ok ())) => some (id, db')
  | _ => none

section

variable {db db' : OtpDb} {phone : Phone} {code : OtpCode} {id : OtpId} {rest : List OtpLog → Phone → Time → Prop}
  {restB : List OtpLog → Phone → Time → Bool}

theorem signsIn_of_signIn (h : db.signIn phone code = some (id, db')) : SignsIn db phone code id db' := by
  unfold OtpDb.signIn at h
  split at h
  · next hreplay =>
    obtain ⟨rfl, rfl⟩ := Prod.mk.inj (Option.some.inj h)
    exact runs_of_replay hreplay
  · cases h

theorem call_of_act (hrest : ∀ logs phone now, restB logs phone now = true → rest logs phone now) {a : OtpAct}
    (h : db.act restB a = some db') : OtpCall rest db db' := by
  cases a with
  | requestOtp phone replies =>
    simp only [OtpDb.act] at h
    split at h
    · next hreplay =>
      split at h
      · next hspent =>
        obtain rfl := Option.some.inj h
        exact .requestOtp (runs_of_replay hreplay) fun _ => hrest _ _ _ hspent
      · cases h
    · cases h
  | verifyOtp phone code replies =>
    simp only [OtpDb.act] at h
    split at h
    · next hreplay =>
      split at h
      · next hspent =>
        obtain rfl := Option.some.inj h
        refine .verifyOtp (runs_of_replay hreplay) fun k hk => ?_
        obtain rfl := (Prod.mk.inj (Option.some.inj hk)).1
        exact hrest _ _ _ hspent
      · cases h
    · next hreplay =>
      obtain rfl := Option.some.inj h
      exact .verifyOtp (runs_of_replay hreplay) fun _ hk => (by cases hk)
    · cases h
  | tick elapsed =>
    obtain rfl := Option.some.inj h
    exact .tick

theorem run_of_play (hrest : ∀ logs phone now, restB logs phone now = true → rest logs phone now) {as : List OtpAct}
    (h : db.play restB as = some db') : OtpRun rest db db' := by
  induction as generalizing db with
  | nil =>
    obtain rfl := Option.some.inj h
    exact .refl
  | cons a as ih =>
    obtain ⟨db₁, hact, hplay⟩ := Option.bind_eq_some_iff.1 h
    exact .head (call_of_act hrest hact) (ih hplay)

theorem spent_of_bool {logs : List OtpLog} {now : Time} (h : spentB logs phone now = true) : spent logs phone now :=
  fun log hlog => by
    unfold spentB at h
    rw [hlog] at h
    exact of_decide_eq_true h

end

/-- The code reaches the phone. -/
def deliveredOtp (sid : MessageSid) (code : OtpCode) : OtpAct :=
  .requestOtp "+237670000001" [.ok, .drawn code, .sent .whatsapp sid, .ok]

/-- A user asks twice, signs in with the second code, and the first still works. -/
theorem earlier_code_accepted :
    ¬ ∀ db, OtpRun anyRest .start db →
      (∀ phone code id db₁, SignsIn db phone code id db₁ → ∀ log ∈ db.logs, log.phone = normalizePhone phone →
        log.id ≤ id) ∧
      ∀ phone code id db₁, SignsIn db phone code id db₁ → ∀ db₂, OtpRun anyRest db₁ db₂ →
        ∀ phone' code' id' db₃, normalizePhone phone' = normalizePhone phone → SignsIn db₂ phone' code' id' db₃ →
        db.logs.length ≤ id' := by
  intro h
  have hplay : ((OtpDb.start.play (fun _ _ _ => true) [deliveredOtp 1 111111, .tick 31000, deliveredOtp 2 222222]).bind
      fun db => (db.signIn "+237670000001" 222222).bind fun r => (r.2.signIn "+237670000001" 111111).map
        fun r' => (db.logs.length, r'.1)) = some (2, 0) := by decide +kernel
  obtain ⟨db, hdb, hplay⟩ := Option.bind_eq_some_iff.1 hplay
  obtain ⟨⟨id, db₁⟩, hfirst, hplay⟩ := Option.bind_eq_some_iff.1 hplay
  obtain ⟨⟨id', db₂⟩, hsecond, hids⟩ := Option.map_eq_some_iff.1 hplay
  obtain ⟨hlength, hid⟩ := Prod.mk.inj hids
  have hle := (h db (run_of_play (fun _ _ _ _ => trivial) hdb)).2 _ _ _ _ (signsIn_of_signIn hfirst) _ .refl _ _ _ _ rfl
    (signsIn_of_signIn hsecond)
  rw [hlength] at hle
  exact absurd (hle.trans hid.le) (by decide)

/-- The code is used, a new one is asked for, and only the new one signs in. -/
theorem latest_code_signs_in :
    ∃ db db₁ db₂ db₃, OtpRun spent .start db ∧ SignsIn db "+237670000001" 111111 0 db₁ ∧ OtpRun spent db₁ db₂ ∧
      SignsIn db₂ "+237670000001" 222222 1 db₃ ∧ db.logs.length ≤ 1 := by
  have hplay : ((OtpDb.start.play spentB [deliveredOtp 1 111111]).bind fun db =>
      (db.signIn "+237670000001" 111111).bind fun r => (r.2.play spentB [.tick 31000, deliveredOtp 2 222222]).bind
        fun db₂ => (db₂.signIn "+237670000001" 222222).map fun r' =>
          (r.1, r'.1, spentB (db.logs.filter fun log => log.id ≠ r.1) (normalizePhone "+237670000001") db.clock)) =
      some (0, 1, true) := by decide +kernel
  obtain ⟨db, hdb, hplay⟩ := Option.bind_eq_some_iff.1 hplay
  obtain ⟨⟨id, db₁⟩, hfirst, hplay⟩ := Option.bind_eq_some_iff.1 hplay
  obtain ⟨db₂, hdb₂, hplay⟩ := Option.bind_eq_some_iff.1 hplay
  obtain ⟨⟨id', db₃⟩, hsecond, hids⟩ := Option.map_eq_some_iff.1 hplay
  obtain ⟨rfl, hids⟩ := Prod.mk.inj hids
  obtain ⟨rfl, hspent⟩ := Prod.mk.inj hids
  have hrun : OtpRun spent .start db := run_of_play (fun _ _ _ => spent_of_bool) hdb
  have hlater : OtpRun spent db₁ db₂ := run_of_play (fun _ _ _ => spent_of_bool) hdb₂
  exact ⟨db, db₁, db₂, db₃, hrun, signsIn_of_signIn hfirst, hlater, signsIn_of_signIn hsecond,
    (latest_code_only hrun).2 _ _ _ _ (signsIn_of_signIn hfirst) (spent_of_bool hspent) _ hlater _ _ _ _ rfl
      (signsIn_of_signIn hsecond)⟩

end ChopNow
