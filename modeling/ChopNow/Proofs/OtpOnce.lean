import ChopNow.Proofs.OtpStep

/-! One code under concurrent use. verifyOtp looks at a row, takes its time to compare, and
then writes by id; what the row has become in between it does not look at again. -/

namespace ChopNow

open Interleave Table

def OtpThread.succeeded (id : OtpId) : OtpThread → Bool
  | .verify (.done (some (row, true)) (.ok ())) => decide (row = id)
  | _ => false

/-- The code was compared with the row's and was another one. -/
def OtpThread.foundWrong (id : OtpId) : OtpThread → Bool
  | .verify v => v.compared == some (id, false)
  | _ => false

/-- A wrong code whose increment is still to come. -/
def OtpThread.uncounted (id : OtpId) : OtpThread → Bool
  | .verify (.wrong row) => decide (row = id)
  | _ => false

/-- The call has marked the row VERIFIED, and goes on to sign the user in. -/
def OtpThread.consumes (id : OtpId) : OtpThread → Bool
  | .verify (.consumed row _) | .verify (.signing row) => decide (row = id)
  | t => t.succeeded id

/-- The row that the thread has read or made. -/
def OtpThread.row : OtpThread → Option OtpId
  | .verify (.comparing log _) => some log.id
  | .verify v => v.compared.map Prod.fst
  | .request (.created _ id) | .request (.accepted _ id _ _) | .request (.caught _ id _) => some id
  | .twilio (.found id _ _ _) => some id
  | _ => none

def OtpLog.isOpen (log : OtpLog) (now : Time) : Bool := log.status.isVerifiable && decide (now < log.expiresAt)

/-- Nobody has signed in with this code, or nobody can any more. -/
def OtpLog.mayBeReset (now : Time) (log : OtpLog) : Prop := log.verifiedAt = none ∨ log.expiresAt ≤ now

/-- The row that a verifyOtp call has read, and not updated yet. -/
def OtpThread.reads : OtpThread → Option OtpId
  | .verify (.comparing log _) => some log.id
  | .verify (.wrong id) | .verify (.matched id _) => some id
  | _ => none

/-- The row that the thread made or read, and may still mark SENT or DELIVERED. -/
def OtpThread.resets : OtpThread → Option OtpId
  | .request (.created _ id) | .request (.accepted _ id _ _) => some id
  | .twilio (.found id .delivered _ _) | .twilio (.found id .read _ _) => some id
  | _ => none

/-- Calls do not overlap on a row: it is read to compare a code while no other call is between
such a read and its update, and marked VERIFIED while nobody is about to mark it SENT or
DELIVERED. And no increment is lost. -/
def updatesAlone : Guard OtpDb OtpThread OtpEvent OtpReply := fun db us m =>
  match m with
  | .step (.verify (.called phone _)) .ok =>
    ∀ log ∈ activeLog db.logs (normalizePhone phone) db.clock, ∀ u ∈ us, u.reads ≠ some log.id
  | .step (.verify (.wrong _)) (.fail _) => False
  | .step (.verify (.matched id _)) .ok => ∀ u ∈ us, u.resets ≠ some id
  | _ => True

/-! One row, by the numbers of threads that found it wrong, have not counted it, and consume it. -/

structure RowOnce (now : Time) (wrong uncounted consumers : ℕ) (log : OtpLog) : Prop where
  counted : wrong = log.attempts + uncounted
  limit : wrong ≤ OTP_MAX_ATTEMPTS
  single : consumers ≤ if log.verifiedAt.isSome then 1 else 0
  stamped : log.status = .verified → log.verifiedAt.isSome
  closed : log.verifiedAt.isSome → log.status = .verified ∨ log.status = .failed ∨ log.expiresAt ≤ now

namespace RowOnce

variable {now : Time} {wrong uncounted consumers : ℕ} {log : OtpLog}

theorem created {id : OtpId} {phone : Phone} {code : OtpCode} {expiresAt : Time} :
    RowOnce now 0 0 0 { id := id, phone := phone, channel := .whatsapp, codeHash := code, expiresAt := expiresAt } :=
  ⟨rfl, Nat.zero_le _, Nat.zero_le _, fun h => (by cases h), fun h => (by cases h)⟩

theorem later (h : RowOnce now wrong uncounted consumers log) (elapsed : Time) :
    RowOnce (now + elapsed) wrong uncounted consumers log := by
  refine { h with closed := fun hverified => (h.closed hverified).imp_right ?_ }
  exact Or.imp_right fun hexpired => hexpired.trans (Nat.le_add_right _ _)

/-- A verified row is not open. -/
theorem not_open (h : RowOnce now wrong uncounted consumers log) (hverified : log.verifiedAt.isSome) :
    log.isOpen now = false := by
  rcases h.closed hverified with hstatus | hstatus | hexpired
  · simp [OtpLog.isOpen, hstatus, OtpStatus.isVerifiable]
  · simp [OtpLog.isOpen, hstatus, OtpStatus.isVerifiable]
  · simp [OtpLog.isOpen, hexpired]

/-- A row that is neither VERIFIED nor FAILED may be reset. -/
theorem mayBeReset (h : RowOnce now wrong uncounted consumers log)
    (hopen : log.status ≠ .verified ∧ log.status ≠ .failed) : log.mayBeReset now := by
  by_cases hverified : log.verifiedAt.isSome
  · rcases h.closed hverified with hstatus | hstatus | hexpired
    · exact absurd hstatus hopen.1
    · exact absurd hstatus hopen.2
    · exact .inr hexpired
  · exact .inl (Option.not_isSome_iff_eq_none.1 hverified)

/-- What can be read to compare a code has not been verified. -/
theorem unverified (h : RowOnce now wrong uncounted consumers log) {phone : Phone}
    (heligible : log.eligible phone now = true) : log.verifiedAt = none := by
  simp only [OtpLog.eligible, Bool.and_eq_true, decide_eq_true_eq] at heligible
  refine Option.not_isSome_iff_eq_none.1 fun hverified => ?_
  have hclosed := h.not_open hverified
  simp [OtpLog.isOpen, heligible.1.2, heligible.2] at hclosed

theorem found_wrong (h : RowOnce now wrong uncounted consumers log)
    (hleft : log.attempts + uncounted < OTP_MAX_ATTEMPTS) : RowOnce now (wrong + 1) (uncounted + 1) consumers log :=
  { h with
    counted := by have := h.counted; omega
    limit := by have := h.counted; omega }

theorem attempt (h : RowOnce now wrong (uncounted + 1) consumers log) :
    RowOnce now wrong uncounted consumers log.countAttempt :=
  { h with counted := by have := h.counted; simp only [OtpLog.countAttempt]; omega }

theorem verified (h : RowOnce now wrong uncounted consumers log) (hunused : log.verifiedAt = none) (at_ : Time) :
    RowOnce now wrong uncounted (consumers + 1) (log.markVerified at_) where
  counted := h.counted
  limit := h.limit
  single := by
    have hsingle := h.single
    simp only [hunused, Option.isSome_none, Bool.false_eq_true, if_false] at hsingle
    simp only [OtpLog.markVerified, Option.isSome_some, if_true]
    omega
  stamped := fun _ => rfl
  closed := fun _ => .inl rfl

theorem fewer {fewer : ℕ} (h : RowOnce now wrong uncounted consumers log) (hle : fewer ≤ consumers) :
    RowOnce now wrong uncounted fewer log := { h with single := hle.trans h.single }

theorem failed (h : RowOnce now wrong uncounted consumers log) (reason : String) :
    RowOnce now wrong uncounted consumers (log.markFailed reason) :=
  { h with
    stamped := fun hstatus => by cases hstatus
    closed := fun _ => .inr (.inl rfl) }

theorem reset_closed (h : log.mayBeReset now) (hverified : log.verifiedAt.isSome) : log.expiresAt ≤ now := by
  rcases h with hunused | hexpired
  · rw [hunused] at hverified
    cases hverified
  · exact hexpired

theorem sent (h : RowOnce now wrong uncounted consumers log) (hreset : log.mayBeReset now) (channel : OtpChannel)
    (sid : MessageSid) : RowOnce now wrong uncounted consumers (log.markSent channel sid) :=
  { h with
    stamped := fun hstatus => by cases hstatus
    closed := fun hverified => .inr (.inr (reset_closed hreset hverified)) }

theorem delivered (h : RowOnce now wrong uncounted consumers log) (hreset : log.mayBeReset now) :
    RowOnce now wrong uncounted consumers (log.markDelivered now) :=
  { h with
    stamped := fun hstatus => by cases hstatus
    closed := fun hverified => .inr (.inr (reset_closed hreset hverified)) }

end RowOnce

/-! The table. -/

structure OtpOnce (db : OtpDb) (us : List OtpThread) : Prop where
  numbered : Numbered OtpLog.id db.logs
  known : ∀ t ∈ us, ∀ id ∈ t.row, id < db.logs.length
  rows : ∀ log ∈ db.logs, RowOnce db.clock (us.countP (OtpThread.foundWrong log.id))
    (us.countP (OtpThread.uncounted log.id)) (us.countP (OtpThread.consumes log.id)) log

/-! A thread that counts has the row. -/

theorem OtpThread.row_of_foundWrong {t : OtpThread} {id : OtpId} (h : t.foundWrong id = true) : t.row = some id := by
  cases t with
  | verify v =>
    have hcompared : v.compared = some (id, false) := beq_iff_eq.1 h
    cases v with
    | comparing log code => cases hcompared
    | _ => exact congrArg (Option.map Prod.fst) hcompared
  | _ => cases h

theorem OtpThread.foundWrong_of_uncounted {t : OtpThread} {id : OtpId} (h : t.uncounted id = true) :
    t.foundWrong id = true := by
  unfold OtpThread.uncounted at h
  split at h
  · rw [of_decide_eq_true h]
    exact beq_self_eq_true _
  · cases h

theorem OtpThread.row_of_consumes {t : OtpThread} {id : OtpId} (h : t.consumes id = true) : t.row = some id := by
  unfold OtpThread.consumes at h
  split at h
  · exact congrArg some (of_decide_eq_true h)
  · exact congrArg some (of_decide_eq_true h)
  · unfold OtpThread.succeeded at h
    split at h
    · exact congrArg some (of_decide_eq_true h)
    · cases h

theorem OtpThread.reads_of_uncounted {t : OtpThread} {id : OtpId} (h : t.uncounted id = true) : t.reads = some id := by
  unfold OtpThread.uncounted at h
  split at h
  · exact congrArg some (of_decide_eq_true h)
  · cases h

/-- What the row still is for a thread that has it in hand: attempts are left, and nobody has
verified it. -/
def OtpThread.Admitted (db : OtpDb) : OtpThread → Prop
  | .verify (.comparing log _) =>
    ∀ row ∈ db.logs, row.id = log.id → row.attempts < OTP_MAX_ATTEMPTS ∧ row.verifiedAt = none
  | .verify (.matched id _) => ∀ row ∈ db.logs, row.id = id → row.verifiedAt = none
  | .request (.created _ id) | .request (.accepted _ id _ _) => ∀ row ∈ db.logs, row.id = id → row.mayBeReset db.clock
  | .twilio (.found id status _ _) =>
    status = .delivered ∨ status = .read → ∀ row ∈ db.logs, row.id = id → row.mayBeReset db.clock
  | _ => True

namespace OtpOnce

variable {db db' : OtpDb} {us vs : List OtpThread} {t t' : OtpThread} {v v' : VerifyOtp} {r r' : RequestOtp}
  {c c' : TwilioCallback} {e : OtpReply}

theorem tick (h : OtpOnce db us) (elapsed : Time) : OtpOnce { db with clock := db.clock + elapsed } us :=
  { h with rows := fun log hlog => (h.rows log hlog).later elapsed }

/-- A thread takes a step that rewrites rows in place. -/
theorem moved (h : OtpOnce db (us ++ t :: vs)) {g : OtpLog → OtpLog} (hlogs : db'.logs = db.logs.map g)
    (hclock : db'.clock = db.clock) (hid : ∀ log, (g log).id = log.id) (hknown : ∀ id ∈ t'.row, id < db.logs.length)
    (hrows : ∀ log ∈ db.logs, ∀ wrong uncounted consumers,
      RowOnce db.clock (wrong + if t.foundWrong log.id then 1 else 0) (uncounted + if t.uncounted log.id then 1 else 0)
        (consumers + if t.consumes log.id then 1 else 0) log →
      uncounted = (us ++ vs).countP (OtpThread.uncounted log.id) →
      RowOnce db.clock (wrong + if t'.foundWrong log.id then 1 else 0) (uncounted + if t'.uncounted log.id then 1 else 0)
        (consumers + if t'.consumes log.id then 1 else 0) (g log)) :
    OtpOnce db' ([t'] ++ (us ++ vs)) where
  numbered := by
    rw [hlogs]
    exact h.numbered.map hid
  known := fun u hu id hrow => by
    rw [hlogs, List.length_map]
    rcases List.mem_append.1 hu with hu | hu
    · obtain rfl := List.mem_singleton.1 hu
      exact hknown id hrow
    · exact h.known u (mem_middle.2 (.inr hu)) id hrow
  rows := fun log' hlog' => by
    rw [hlogs] at hlog'
    obtain ⟨log, hlog, rfl⟩ := List.mem_map.1 hlog'
    have hrow := h.rows log hlog
    simp only [countP_middle] at hrow
    rw [hid, hclock]
    simp only [List.singleton_append, List.countP_cons]
    exact hrows log hlog _ _ _ hrow rfl

/-- Nobody has heard of a row that is not there. -/
theorem unheard (h : OtpOnce db us) : us.countP (OtpThread.foundWrong db.logs.length) = 0 ∧
    us.countP (OtpThread.uncounted db.logs.length) = 0 ∧ us.countP (OtpThread.consumes db.logs.length) = 0 := by
  have hnone : ∀ u ∈ us, u.row ≠ some db.logs.length := fun u hu hrow => lt_irrefl _ (h.known u hu _ hrow)
  simp only [List.countP_eq_zero]
  exact ⟨fun u hu hw => hnone u hu (OtpThread.row_of_foundWrong hw),
    fun u hu hw => hnone u hu (OtpThread.row_of_foundWrong (OtpThread.foundWrong_of_uncounted hw)),
    fun u hu hw => hnone u hu (OtpThread.row_of_consumes hw)⟩

theorem created (h : OtpOnce db us) (phone : Phone) (code : OtpCode) : OtpOnce (db.create phone code) us where
  numbered := h.numbered.append rfl
  known := fun t ht id hrow => by
    simp only [OtpDb.create, List.length_append, List.length_singleton]
    exact Nat.lt_succ_of_lt (h.known t ht id hrow)
  rows := fun log hlog => by
    rcases List.mem_append.1 hlog with hlog | hlog
    · exact h.rows log hlog
    · obtain rfl := List.mem_singleton.1 hlog
      obtain ⟨hwrong, huncounted, hconsumes⟩ := h.unheard
      rw [hwrong, huncounted, hconsumes]
      exact .created

/-- A call comes in. -/
theorem spawned (h : OtpOnce db us) (hrow : t.row = none) (hwrong : ∀ id, t.foundWrong id = false)
    (huncounted : ∀ id, t.uncounted id = false) (hconsumes : ∀ id, t.consumes id = false) :
    OtpOnce db ([t] ++ us) where
  numbered := h.numbered
  known := fun u hu id hid => by
    rcases List.mem_append.1 hu with hu | hu
    · obtain rfl := List.mem_singleton.1 hu
      rw [hrow] at hid
      cases hid
    · exact h.known u hu id hid
  rows := fun log hlog => by
    simp only [List.singleton_append, List.countP_cons, hwrong, huncounted, hconsumes, Bool.false_eq_true, if_false,
      Nat.add_zero]
    exact h.rows log hlog

/-- A step that writes nothing to the rows and finds nothing out about them. -/
theorem quiet (h : OtpOnce db (us ++ t :: vs)) (hlogs : db'.logs = db.logs) (hclock : db'.clock = db.clock)
    (hknown : ∀ id ∈ t'.row, id < db.logs.length) (hwrong : ∀ id, t'.foundWrong id = t.foundWrong id)
    (huncounted : ∀ id, t'.uncounted id = t.uncounted id) (hconsumes : ∀ id, t'.consumes id = true → t.consumes id = true) :
    OtpOnce db' ([t'] ++ (us ++ vs)) := by
  refine h.moved (g := id) (by rw [hlogs, List.map_id]) hclock (fun _ => rfl) hknown ?_
  intro log _ wrong uncounted consumers hrow _
  rw [hwrong, huncounted]
  refine hrow.fewer (Nat.add_le_add_left ?_ _)
  cases hc : t'.consumes log.id with
  | false => exact Nat.zero_le _
  | true => rw [hconsumes _ hc]

/-- An update by id, by a thread that the counts do not see. -/
theorem wrote (h : OtpOnce db (us ++ t :: vs)) {id : OtpId} {f : OtpLog → OtpLog} (hf : ∀ log, (f log).id = log.id)
    (hknown : ∀ id ∈ t'.row, id < db.logs.length)
    (hmarks : ∀ id, t.foundWrong id = false ∧ t.uncounted id = false ∧ t.consumes id = false)
    (hmarks' : ∀ id, t'.foundWrong id = false ∧ t'.uncounted id = false ∧ t'.consumes id = false)
    (hrow : ∀ log ∈ db.logs, log.id = id → ∀ wrong uncounted consumers,
      RowOnce db.clock wrong uncounted consumers log → RowOnce db.clock wrong uncounted consumers (f log)) :
    OtpOnce (db.write id f) ([t'] ++ (us ++ vs)) := by
  refine h.moved (show (db.write id f).logs = _ from rfl) rfl (fun log => ?_) hknown ?_
  · split
    · exact hf log
    · rfl
  · intro log hlog wrong uncounted consumers hold _
    obtain ⟨h₁, h₂, h₃⟩ := hmarks log.id
    obtain ⟨h₁', h₂', h₃'⟩ := hmarks' log.id
    simp only [h₁, h₂, h₃, Bool.false_eq_true, if_false, Nat.add_zero] at hold
    simp only [h₁', h₂', h₃', Bool.false_eq_true, if_false, Nat.add_zero]
    split
    · next hid => exact hrow log hlog hid _ _ _ hold
    · exact hold

theorem verify (h : OtpOnce db (us ++ .verify v :: vs)) (hmine : (OtpThread.verify v).Admitted db)
    (hus : ∀ u ∈ us ++ vs, Distinct OtpThread.reads (.verify v) u)
    (hok : updatesAlone db (us ++ vs) (.step (.verify v) e)) (hmove : VerifyMove db v e db' v') :
    OtpOnce db' ([.verify v'] ++ (us ++ vs)) := by
  have hknown := h.known _ (mem_middle.2 (.inl rfl))
  cases hmove with
  | thrown hrunning =>
    refine h.quiet rfl rfl ?_ (fun id => ?_) (fun id => ?_) fun id hc => ?_
    · cases v <;> first | exact hknown | exact fun _ hrow => (by cases hrow)
    · cases v <;> rfl
    · cases v with
      | done compared result => exact absurd rfl (hrunning compared result)
      | wrong => exact hok.elim
      | _ => rfl
    · cases v with
      | done compared result => exact absurd rfl (hrunning compared result)
      | _ => cases hc
  | unmatched | exhausted =>
    exact h.quiet rfl rfl (fun _ hrow => (by cases hrow)) (fun _ => rfl) (fun _ => rfl) fun _ hc => hc
  | read hfound =>
    refine h.quiet rfl rfl (fun id hrow => ?_) (fun _ => rfl) (fun _ => rfl) fun _ hc => hc
    obtain rfl := Option.some.inj hrow
    exact h.numbered.lt (activeLog_some hfound).1
  | right => exact h.quiet rfl rfl hknown (fun _ => by simp [OtpThread.foundWrong, VerifyOtp.compared]) (fun _ => rfl) fun _ hc => hc
  | @wrong log code hdiffers =>
    refine h.moved (g := id) (by simp) rfl (fun _ => rfl) hknown ?_
    intro row hrow wrong uncounted consumers hold hcount
    by_cases hid : log.id = row.id
    · simp only [OtpThread.foundWrong, OtpThread.uncounted, OtpThread.consumes, OtpThread.succeeded, VerifyOtp.compared,
        hid, beq_self_eq_true, decide_true, if_true] at hold ⊢
      -- nobody else has read the row, so no other increment is to come
      have hnone : (us ++ vs).countP (OtpThread.uncounted row.id) = 0 := by
        refine List.countP_eq_zero.2 fun u hu huncounted => hus u hu rfl ?_
        exact (congrArg some hid).trans (OtpThread.reads_of_uncounted huncounted).symm
      have hleft := (hmine row hrow hid.symm).1
      rw [hcount, hnone] at hold ⊢
      exact hold.found_wrong hleft
    · simpa [OtpThread.foundWrong, OtpThread.uncounted, OtpThread.consumes, OtpThread.succeeded, VerifyOtp.compared, hid]
        using hold
  | @counted id =>
    refine h.moved (g := fun log => if log.id = id then log.countAttempt else log) rfl rfl
      (fun log => by split <;> rfl) hknown ?_
    intro row hrow wrong uncounted consumers hold _
    by_cases hid : row.id = id
    · simp only [OtpThread.foundWrong, OtpThread.uncounted, OtpThread.consumes, OtpThread.succeeded, VerifyOtp.compared,
        hid, beq_self_eq_true, decide_true, if_true] at hold ⊢
      exact hold.attempt
    · simpa [OtpThread.foundWrong, OtpThread.uncounted, OtpThread.consumes, OtpThread.succeeded, VerifyOtp.compared, hid,
        Ne.symm hid] using hold
  | @verified id phone =>
    refine h.moved (g := fun log => if log.id = id then log.markVerified db.clock else log) rfl rfl
      (fun log => by split <;> rfl) hknown ?_
    intro row hrow wrong uncounted consumers hold _
    by_cases hid : row.id = id
    · simp only [OtpThread.foundWrong, OtpThread.uncounted, OtpThread.consumes, OtpThread.succeeded, VerifyOtp.compared,
        hid, decide_true, if_true] at hold ⊢
      exact hold.verified (hmine row hrow hid) db.clock
    · simpa [OtpThread.foundWrong, OtpThread.uncounted, OtpThread.consumes, OtpThread.succeeded, VerifyOtp.compared, hid,
        Ne.symm hid] using hold
  | released => exact h.quiet rfl rfl hknown (fun _ => rfl) (fun _ => rfl) fun _ hc => hc
  | signed => exact h.quiet rfl rfl hknown (fun _ => rfl) (fun _ => rfl) fun _ hc => hc

theorem request (h : OtpOnce db (us ++ .request r :: vs)) (hmine : (OtpThread.request r).Admitted db)
    (hmove : RequestMove db r e db' r') : OtpOnce db' ([.request r'] ++ (us ++ vs)) := by
  have hknown := h.known _ (mem_middle.2 (.inl rfl))
  cases hmove with
  | thrown | held | acquired | released =>
    exact h.quiet rfl rfl (fun _ hrow => (by cases hrow)) (fun _ => rfl) (fun _ => rfl) fun _ hc => hc
  | accepted | refused | unsent => exact h.quiet rfl rfl hknown (fun _ => rfl) (fun _ => rfl) fun _ hc => hc
  | @created phone code =>
    refine (h.created phone code).quiet rfl rfl (fun id hid => ?_) (fun _ => rfl) (fun _ => rfl) fun _ hc => hc
    obtain rfl := Option.some.inj hid
    simp [OtpDb.create]
  | @sent phone id channel sid =>
    exact h.wrote (fun _ => rfl) (fun _ hrow => (by cases hrow)) (fun _ => ⟨rfl, rfl, rfl⟩) (fun _ => ⟨rfl, rfl, rfl⟩)
      fun log hlog hid _ _ _ hrow => hrow.sent (hmine log hlog hid) channel sid
  | @failed phone id reason =>
    exact h.wrote (fun _ => rfl) (fun _ hrow => (by cases hrow)) (fun _ => ⟨rfl, rfl, rfl⟩) (fun _ => ⟨rfl, rfl, rfl⟩)
      fun _ _ _ _ _ _ hrow => hrow.failed reason

theorem twilio (h : OtpOnce db (us ++ .twilio c :: vs)) (hmine : (OtpThread.twilio c).Admitted db)
    (hmove : TwilioMove db c e db' c') : OtpOnce db' ([.twilio c'] ++ (us ++ vs)) := by
  cases hmove with
  | dropped => exact h.quiet rfl rfl (fun _ hrow => (by cases hrow)) (fun _ => rfl) (fun _ => rfl) fun _ hc => hc
  | found hrow =>
    refine h.quiet rfl rfl (fun id hid => ?_) (fun _ => rfl) (fun _ => rfl) fun _ hc => hc
    obtain rfl := Option.some.inj hid
    exact h.numbered.lt hrow
  | delivered hstatus =>
    exact h.wrote (fun _ => rfl) (fun _ hrow => (by cases hrow)) (fun _ => ⟨rfl, rfl, rfl⟩) (fun _ => ⟨rfl, rfl, rfl⟩)
      fun log hlog hid _ _ _ hrow => hrow.delivered (hmine hstatus log hlog hid)
  | @failed id status errorMessage errorCode reason =>
    exact h.wrote (fun _ => rfl) (fun _ hrow => (by cases hrow)) (fun _ => ⟨rfl, rfl, rfl⟩) (fun _ => ⟨rfl, rfl, rfl⟩)
      fun _ _ _ _ _ _ hrow => hrow.failed reason

end OtpOnce

/-! What a step leaves of the rows that others have in hand. -/

/-- A row after a step is new, or as it was but for the attempt or the mark of the thread that had
read it. -/
inductive RowStep (db db' : OtpDb) (t : OtpThread) (row' : OtpLog) : Prop
  | created (fresh : row'.id = db.logs.length) (attempts : row'.attempts = 0) (verifiedAt : row'.verifiedAt = none)
  | kept (row : OtpLog) (hrow : row ∈ db.logs) (id : row'.id = row.id) (expiresAt : row'.expiresAt = row.expiresAt)
      (attempts : row'.attempts = row.attempts ∨ t.reads = some row.id)
      (verifiedAt : row'.verifiedAt = row.verifiedAt ∨ ∃ phone, t = .verify (.matched row.id phone))

section

variable {db db' : OtpDb} {us : List OtpThread} {t t' u : OtpThread} {e : OtpReply}

theorem RowStep.write {id : OtpId} {f : OtpLog → OtpLog} {row' : OtpLog} (h : row' ∈ (db.write id f).logs)
    (hf : ∀ row, (f row).id = row.id ∧ (f row).expiresAt = row.expiresAt)
    (hattempts : ∀ row, (f row).attempts = row.attempts ∨ t.reads = some id)
    (hverified : ∀ row, (f row).verifiedAt = row.verifiedAt ∨ ∃ phone, t = .verify (.matched id phone)) :
    RowStep db db' t row' := by
  obtain ⟨row, hrow, rfl⟩ := List.mem_map.1 h
  split
  · next hid =>
    subst hid
    exact .kept row hrow (hf row).1 (hf row).2 (hattempts row) (hverified row)
  · exact .kept row hrow rfl rfl (.inl rfl) (.inl rfl)

theorem row_step {ts : List OtpThread} (h : otpMachine.step db t e = some (db', ts)) {row' : OtpLog}
    (hrow' : row' ∈ db'.logs) : RowStep db db' t row' := by
  rcases otp_step h with ⟨v, v', rfl, rfl, hmove⟩ | ⟨r, r', rfl, rfl, hmove⟩ | ⟨c, c', rfl, rfl, hmove⟩
  · cases hmove with
    | counted => exact .write hrow' (fun _ => ⟨rfl, rfl⟩) (fun _ => .inr rfl) fun _ => .inl rfl
    | verified => exact .write hrow' (fun _ => ⟨rfl, rfl⟩) (fun _ => .inl rfl) fun _ => .inr ⟨_, rfl⟩
    | _ => exact .kept row' hrow' rfl rfl (.inl rfl) (.inl rfl)
  · cases hmove with
    | created =>
      rcases List.mem_append.1 hrow' with hrow | hrow
      · exact .kept row' hrow rfl rfl (.inl rfl) (.inl rfl)
      · obtain rfl := List.mem_singleton.1 hrow
        exact .created rfl rfl rfl
    | sent | failed => exact .write hrow' (fun _ => ⟨rfl, rfl⟩) (fun _ => .inl rfl) fun _ => .inl rfl
    | _ => exact .kept row' hrow' rfl rfl (.inl rfl) (.inl rfl)
  · cases hmove with
    | delivered | failed => exact .write hrow' (fun _ => ⟨rfl, rfl⟩) (fun _ => .inl rfl) fun _ => .inl rfl
    | _ => exact .kept row' hrow' rfl rfl (.inl rfl) (.inl rfl)

theorem otp_clock {ts : List OtpThread} (h : otpMachine.step db t e = some (db', ts)) : db'.clock = db.clock := by
  rcases otp_step h with ⟨v, v', rfl, rfl, hmove⟩ | ⟨r, r', rfl, rfl, hmove⟩ | ⟨c, c', rfl, rfl, hmove⟩ <;>
    cases hmove <;> rfl

/-- Nobody else verifies a row that may be reset. -/
theorem reset_frame {ts : List OtpThread} (h : otpMachine.step db t e = some (db', ts)) {id : OtpId}
    (hu : ∀ row ∈ db.logs, row.id = id → row.mayBeReset db.clock) (hother : ∀ phone, t ≠ .verify (.matched id phone)) :
    ∀ row ∈ db'.logs, row.id = id → row.mayBeReset db'.clock := by
  intro row' hrow' hid
  cases row_step h hrow' with
  | created _ _ verifiedAt => exact .inl verifiedAt
  | kept row hrow hsame expiresAt _ verifiedAt =>
    obtain rfl := hsame.symm.trans hid
    rw [OtpLog.mayBeReset, expiresAt, otp_clock h]
    rcases verifiedAt with hverified | ⟨phone, hmarks⟩
    · rw [hverified]
      exact hu row hrow rfl
    · exact absurd hmarks (hother phone)

theorem unverified_frame {ts : List OtpThread} (h : otpMachine.step db t e = some (db', ts)) {id : OtpId}
    (hother : t.reads ≠ some id) {row' : OtpLog} (hrow' : row' ∈ db'.logs) (hid : row'.id = id) :
    (row'.attempts = 0 ∧ row'.verifiedAt = none) ∨
      ∃ row ∈ db.logs, row.id = id ∧ row'.attempts = row.attempts ∧ row'.verifiedAt = row.verifiedAt := by
  cases row_step h hrow' with
  | created _ attempts verifiedAt => exact .inl ⟨attempts, verifiedAt⟩
  | kept row hrow hsame _ attempts verifiedAt =>
    obtain rfl := hsame.symm.trans hid
    refine .inr ⟨row, hrow, rfl, attempts.resolve_right hother, verifiedAt.resolve_right ?_⟩
    rintro ⟨phone, rfl⟩
    exact hother rfl

theorem OtpThread.Admitted.frame {ts : List OtpThread} (h : u.Admitted db)
    (hst : otpMachine.step db t e = some (db', ts)) (hapart : Distinct OtpThread.reads t u)
    (hok : updatesAlone db us (.step t e)) (hu : u ∈ us) : u.Admitted db' := by
  have hreads : ∀ id, u.reads = some id → t.reads ≠ some id := fun id hid ht =>
    hapart (by rw [ht]; rfl) (ht.trans hid.symm)
  have hresets : ∀ id, u.resets = some id → (∀ row ∈ db.logs, row.id = id → row.mayBeReset db.clock) →
      ∀ row ∈ db'.logs, row.id = id → row.mayBeReset db'.clock := by
    intro id hid hrows
    by_cases hmarks : ∃ phone, t = .verify (.matched id phone) ∧ e = .ok
    · obtain ⟨phone, rfl, rfl⟩ := hmarks
      exact absurd hid (hok u hu)
    · by_cases hverify : ∃ phone, t = .verify (.matched id phone)
      · -- its mark has failed
        obtain ⟨phone, rfl⟩ := hverify
        cases e <;> simp only [otpMachine, otpStep, VerifyOtp.step, Option.map_some, Option.map_none, Option.some.injEq,
          reduceCtorEq, Prod.mk.injEq] at hst
        · exact absurd ⟨phone, rfl, rfl⟩ hmarks
        · obtain ⟨rfl, -⟩ := hst
          exact hrows
      · exact reset_frame hst hrows fun phone heq => hverify ⟨phone, heq⟩
  cases u with
  | verify v =>
    cases v with
    | comparing log code =>
      intro row' hrow' hid
      rcases unverified_frame hst (hreads log.id rfl) hrow' hid with ⟨hattempts, hverified⟩ | ⟨row, hrow, hsame, hattempts, hverified⟩
      · exact ⟨hattempts ▸ (by decide), hverified⟩
      · rw [hattempts, hverified]
        exact h row hrow hsame
    | matched id phone =>
      intro row' hrow' hid
      rcases unverified_frame hst (hreads id rfl) hrow' hid with ⟨-, hverified⟩ | ⟨row, hrow, hsame, -, hverified⟩
      · exact hverified
      · exact hverified.trans (h row hrow hsame)
    | _ => trivial
  | request r =>
    cases r with
    | created phone id | accepted phone id => exact hresets id rfl h
    | _ => trivial
  | twilio c =>
    cases c with
    | found id status errorMessage errorCode =>
      rintro (rfl | rfl)
      · exact hresets id rfl (h (.inl rfl))
      · exact hresets id rfl (h (.inr rfl))
    | _ => trivial

/-- What a thread has in hand after its step: what it has read was open, and what it made is new. -/
theorem OtpThread.Admitted.step {pool ts : List OtpThread} (hdb : OtpOnce db pool) (h : t.Admitted db)
    (hus : ∀ u ∈ us, Distinct OtpThread.reads t u) (hok : updatesAlone db us (.step t e))
    (hst : otpMachine.step db t e = some (db', ts)) :
    ∀ t' ∈ ts, t'.Admitted db' ∧ ∀ u ∈ us, Distinct OtpThread.reads t' u := by
  rcases otp_step hst with ⟨v, v', rfl, rfl, hmove⟩ | ⟨r, r', rfl, rfl, hmove⟩ | ⟨c, c', rfl, rfl, hmove⟩ <;>
    simp only [List.mem_singleton, forall_eq]
  · cases hmove with
    | @read phone code log found limit =>
      refine ⟨fun row hrow hid => ?_, fun u hu _ heq => hok log found u hu heq.symm⟩
      obtain ⟨hlog, heligible⟩ := activeLog_some found
      obtain rfl := hdb.numbered.inj hrow hlog hid
      exact ⟨limit, (hdb.rows row hlog).unverified heligible⟩
    | right => exact ⟨fun row hrow hid => (h row hrow hid).2, fun u hu => (hus u hu).of _ (.inr rfl)⟩
    | wrong => exact ⟨trivial, fun u hu => (hus u hu).of _ (.inr rfl)⟩
    | _ => exact ⟨trivial, fun u _ => .idle _ rfl⟩
  · cases hmove with
    | created =>
      refine ⟨fun row hrow hid => ?_, fun u _ => .idle _ rfl⟩
      rcases List.mem_append.1 hrow with hrow | hrow
      · exact absurd hid (hdb.numbered.lt hrow).ne
      · obtain rfl := List.mem_singleton.1 hrow
        exact .inl rfl
    | accepted => exact ⟨h, fun u _ => .idle _ rfl⟩
    | _ => exact ⟨trivial, fun u _ => .idle _ rfl⟩
  · cases hmove with
    | @found sid status errorMessage errorCode log hlog hopen =>
      refine ⟨fun _ row hrow hid => ?_, fun u _ => .idle _ rfl⟩
      obtain rfl := hdb.numbered.inj hrow hlog hid
      exact (hdb.rows row hlog).mayBeReset hopen
    | _ => exact ⟨trivial, fun u _ => .idle _ rfl⟩

theorem OtpThread.Admitted.tick (h : u.Admitted db) (elapsed : Time) :
    u.Admitted { db with clock := db.clock + elapsed } := by
  have hlater : ∀ {row : OtpLog}, row.mayBeReset db.clock → row.mayBeReset (db.clock + elapsed) :=
    Or.imp_right fun hexpired => hexpired.trans (Nat.le_add_right _ _)
  cases u with
  | verify v => cases v <;> exact h
  | request r =>
    cases r with
    | created phone id | accepted phone id => exact fun row hrow hid => hlater (h row hrow hid)
    | _ => trivial
  | twilio c =>
    cases c with
    | found id status errorMessage errorCode => exact fun hresets row hrow hid => hlater (h hresets row hrow hid)
    | _ => trivial

end

/-- What holds of a pool whose calls have not overlapped. -/
structure OtpAlone (db : OtpDb) (us : List OtpThread) : Prop where
  once : OtpOnce db us
  admitted : ∀ t ∈ us, t.Admitted db
  apart : us.Pairwise (Distinct OtpThread.reads)

theorem otpAlone_reach {p q : Pool OtpDb OtpThread} (hp : OtpAlone p.shared p.threads)
    (h : otpMachine.Reach updatesAlone p q) : OtpAlone q.shared q.threads := by
  refine h.invariant (J := OtpAlone) hp ?_ ?_
  · intro db us n db' ts _ hdb _ hev
    obtain ⟨rfl, rfl⟩ := Prod.mk.inj (Option.some.inj hev)
    cases n with
    | tick elapsed => exact ⟨hdb.once.tick elapsed, fun t ht => (hdb.admitted t ht).tick elapsed, hdb.apart⟩
    | _ =>
      refine ⟨hdb.once.spawned rfl (fun _ => rfl) (fun _ => rfl) fun _ => rfl, ?_, ?_⟩
      · exact List.forall_mem_cons.2 ⟨trivial, hdb.admitted⟩
      · exact List.pairwise_cons.2 ⟨fun u _ => .idle _ rfl, hdb.apart⟩
  · intro db us vs t e db' ts _ hdb hok hst
    obtain ⟨hapart, hus⟩ := pairwise_middle (fun _ _ => Distinct.symm _) hdb.apart
    obtain ⟨hmine, hothers⟩ := forall_middle.1 hdb.admitted
    have hleft := hmine.step hdb.once hus hok hst
    have honce : OtpOnce db' (ts ++ (us ++ vs)) := by
      rcases otp_step hst with ⟨v, v', rfl, rfl, hmove⟩ | ⟨r, r', rfl, rfl, hmove⟩ | ⟨c, c', rfl, rfl, hmove⟩
      · exact hdb.once.verify hmine hus hok hmove
      · exact hdb.once.request hmine hmove
      · exact hdb.once.twilio hmine hmove
    refine ⟨honce, fun u hu => ?_, ?_⟩
    · rcases List.mem_append.1 hu with hu | hu
      · exact (hleft u hu).1
      · exact (hothers u hu).frame hst (hus u hu) hok hu
    · have hone : ts.Pairwise (Distinct OtpThread.reads) := by
        rcases otp_step hst with ⟨v, v', -, rfl, -⟩ | ⟨r, r', -, rfl, -⟩ | ⟨c, c', -, rfl, -⟩ <;>
          exact List.pairwise_singleton _ _
      exact List.pairwise_append.2 ⟨hone, hapart, fun u hu => (hleft u hu).2⟩

/-- A VERIFIED row stays marked, whatever its status becomes. -/
theorem verifiedAt_reach {p q : Pool OtpDb OtpThread} {id : OtpId} (hid : id < p.shared.logs.length)
    (hp : ∀ row ∈ p.shared.logs, row.id = id → row.verifiedAt.isSome) (h : otpMachine.Reach updatesAlone p q) :
    ∀ row ∈ q.shared.logs, row.id = id → row.verifiedAt.isSome := by
  have hstays : id < q.shared.logs.length ∧ ∀ row ∈ q.shared.logs, row.id = id → row.verifiedAt.isSome := by
    refine h.invariant (J := fun db _ => id < db.logs.length ∧ ∀ row ∈ db.logs, row.id = id → row.verifiedAt.isSome)
      ⟨hid, hp⟩ ?_ ?_
    · intro db us n db' ts _ hdb _ hev
      obtain ⟨rfl, rfl⟩ := Prod.mk.inj (Option.some.inj hev)
      cases n <;> exact hdb
    · intro db us vs t e db' ts _ hdb _ hst
      cases otp_written hst with
      | kept hf hlogs =>
        rw [hlogs, List.length_map]
        refine ⟨hdb.1, fun row hrow hrowid => ?_⟩
        obtain ⟨log, hlog, rfl⟩ := List.mem_map.1 hrow
        exact hf.verifiedAt log (hdb.2 log hlog ((hf.id log).symm.trans hrowid))
      | created phone code =>
        refine ⟨by simpa [OtpDb.create] using Nat.lt_succ_of_lt hdb.1, fun row hrow hrowid => ?_⟩
        rcases List.mem_append.1 hrow with hrow | hrow
        · exact hdb.2 row hrow hrowid
        · obtain rfl := List.mem_singleton.1 hrow
          exact absurd hdb.1 (not_lt_of_ge hrowid.le)
  exact hstays.2

theorem otpAlone_start : OtpAlone .start [] := ⟨⟨rfl, by simp, by simp [OtpDb.start]⟩, by simp, .nil⟩

/-- As long as calls do not overlap on a row, a code signs in once, bears three wrong guesses,
and is worth nothing after it was verified. -/
theorem otp_once {p q : Pool OtpDb OtpThread} (hp : otpMachine.Reach updatesAlone ⟨.start, []⟩ p)
    (hq : otpMachine.Reach updatesAlone p q) :
    (∀ id, q.threads.countP (OtpThread.succeeded id) ≤ 1) ∧
    (∀ id, q.threads.countP (OtpThread.foundWrong id) ≤ OTP_MAX_ATTEMPTS) ∧
    ∀ row ∈ p.shared.logs, row.status = .verified → ∀ row' ∈ q.shared.logs, row'.id = row.id →
      row'.isOpen q.shared.clock = false := by
  have halone := otpAlone_reach otpAlone_start hp
  have hatp := halone.once
  have hatq := (otpAlone_reach halone hq).once
  have hexists : ∀ id, (∃ t ∈ q.threads, t.row = some id) → ∃ log ∈ q.shared.logs, log.id = id := by
    rintro id ⟨t, ht, hrow⟩
    have hmem : id ∈ q.shared.logs.map OtpLog.id := by
      rw [hatq.numbered]
      exact List.mem_range.2 (hatq.known t ht id hrow)
    exact List.mem_map.1 hmem
  refine ⟨fun id => ?_, fun id => ?_, fun row hrow hverified row' hrow' hid => ?_⟩
  · rcases Nat.eq_zero_or_pos (q.threads.countP (OtpThread.succeeded id)) with hzero | hpos
    · rw [hzero]
      exact Nat.zero_le _
    · have hconsumes : ∀ t : OtpThread, t.succeeded id = true → t.consumes id = true := fun t ht => by
        unfold OtpThread.consumes
        split <;> first | cases ht | exact ht
      obtain ⟨t, ht, hsucceeded⟩ := List.countP_pos_iff.1 hpos
      obtain ⟨log, hlog, rfl⟩ := hexists id ⟨t, ht, OtpThread.row_of_consumes (hconsumes t hsucceeded)⟩
      refine (List.countP_mono_left fun t _ => hconsumes t).trans ((hatq.rows log hlog).single.trans ?_)
      split <;> decide
  · rcases Nat.eq_zero_or_pos (q.threads.countP (OtpThread.foundWrong id)) with hzero | hpos
    · rw [hzero]
      exact Nat.zero_le _
    · obtain ⟨t, ht, hwrong⟩ := List.countP_pos_iff.1 hpos
      obtain ⟨log, hlog, rfl⟩ := hexists id ⟨t, ht, OtpThread.row_of_foundWrong hwrong⟩
      exact (hatq.rows log hlog).limit
  · refine (hatq.rows row' hrow').not_open (verifiedAt_reach (hatp.numbered.lt hrow) ?_ hq row' hrow' hid)
    intro r hr hrid
    obtain rfl := hatp.numbered.inj hr hrow hrid
    exact (hatp.rows r hr).stamped hverified

/-- One code is sent, and it is 123456. -/
def exampleOtp : List (Act OtpEvent OtpReply) :=
  [.event (.requestOtp "+237670000001"), .step 0 .ok, .step 0 (.drawn 123456), .step 0 (.sent .whatsapp 1), .step 0 .ok]

/-- Two calls with the right code read the row before either has marked it. -/
theorem signed_in_twice :
    ¬ ∀ p q : Pool OtpDb OtpThread, otpMachine.Reach anyMove ⟨.start, []⟩ p → otpMachine.Reach anyMove p q →
      (∀ id, q.threads.countP (OtpThread.succeeded id) ≤ 1) ∧
      (∀ id, q.threads.countP (OtpThread.foundWrong id) ≤ OTP_MAX_ATTEMPTS) ∧
      ∀ row ∈ p.shared.logs, row.status = .verified → ∀ row' ∈ q.shared.logs, row'.id = row.id →
        row'.isOpen q.shared.clock = false := by
  intro h
  obtain ⟨q, hq, htwice⟩ := Machine.reach_of_test otpMachine anyMove (fun _ _ _ => true) (fun _ _ _ _ => trivial)
    ⟨.start, []⟩
    (exampleOtp ++ [.event (.verifyOtp "+237670000001" 123456), .event (.verifyOtp "+237670000001" 123456),
      .step 0 .ok, .step 1 .ok, .step 0 .ok, .step 1 .ok, .step 0 .ok, .step 1 .ok, .step 0 .ok, .step 1 .ok,
      .step 0 .ok, .step 1 .ok])
    (fun q => q.threads.countP (OtpThread.succeeded 0) == 2) (by decide +kernel)
  have honce := (h _ q .refl hq).1 0
  rw [beq_iff_eq.1 htwice] at honce
  exact absurd honce (by decide)

def updatesAloneB (db : OtpDb) (us : List OtpThread) (m : Move OtpThread OtpEvent OtpReply) : Bool :=
  match m with
  | .step (.verify (.called phone _)) .ok =>
    (activeLog db.logs (normalizePhone phone) db.clock).all fun log => us.all fun u => u.reads != some log.id
  | .step (.verify (.wrong _)) (.fail _) => false
  | .step (.verify (.matched id _)) .ok => us.all fun u => u.resets != some id
  | _ => true

theorem updatesAlone_of_bool {db : OtpDb} {us : List OtpThread} {m : Move OtpThread OtpEvent OtpReply}
    (h : updatesAloneB db us m = true) : updatesAlone db us m := by
  unfold updatesAlone
  split
  · intro log hlog u hu
    simp only [updatesAloneB, Option.mem_def.1 hlog, Option.all_some, List.all_eq_true] at h
    simpa using h u hu
  · cases h
  · simpa [updatesAloneB] using h
  · trivial

/-- A wrong guess and then the right code, which cannot be used again. -/
theorem signed_in_once :
    ∃ p q, otpMachine.Reach updatesAlone ⟨.start, []⟩ p ∧ otpMachine.Reach updatesAlone p q ∧
      p.shared.logs.map (fun log => (log.status, log.attempts)) = [(.verified, 1)] ∧
      q.threads.countP (OtpThread.succeeded 0) = 1 ∧
      ∀ row ∈ p.shared.logs, row.status = .verified → ∀ row' ∈ q.shared.logs, row'.id = row.id →
        row'.isOpen q.shared.clock = false := by
  obtain ⟨p, q, hp, hq, ht⟩ := Machine.reach_of_stop otpMachine updatesAlone updatesAloneB
    (fun _ _ _ => updatesAlone_of_bool) ⟨.start, []⟩
    (exampleOtp ++ [.event (.verifyOtp "+237670000001" 654321), .step 0 .ok, .step 0 .ok, .step 0 .ok,
      .event (.verifyOtp "+237670000001" 123456), .step 0 .ok, .step 0 .ok, .step 0 .ok])
    [.step 0 .ok, .step 0 .ok, .event (.verifyOtp "+237670000001" 123456), .step 0 .ok]
    (fun p q => p.shared.logs.map (fun log => (log.status, log.attempts)) == [(.verified, 1)] &&
      q.threads.countP (OtpThread.succeeded 0) == 1) (by decide +kernel)
  simp only [Bool.and_eq_true, beq_iff_eq] at ht
  exact ⟨p, q, hp, hq, ht.1, ht.2, (otp_once hp hq).2.2⟩

end ChopNow
