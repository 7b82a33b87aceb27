import ChopNow.Proofs.RecoveryCodes

/-! 2FA that stays confirmed. Both calls read the row first and write it later, whatever it
has become: startEnrollment replaces it, and confirmEnrollment confirms the secret it finds. -/

namespace ChopNow

open Interleave

/-- The code was right for the secret when it was checked. -/
def CheckedCode.Right (check : TotpCheck) (secret : TotpSecret) (accepted : CheckedCode) : Prop :=
  accepted.secret = secret ∧ check accepted.code secret accepted.time = true

/-- A confirmed row has the secret that its code was checked against. -/
def AdminDb.Honest (check : TotpCheck) (db : AdminDb) : Prop :=
  ∀ row ∈ db.totp, row.confirmed = true → ∃ accepted ∈ row.checkedWith, accepted.Right check row.secret

/-- What was confirmed still is, with the same secret. -/
def AdminDb.KeepsConfirmed (db db' : AdminDb) : Prop :=
  ∀ row ∈ db.totp, row.confirmed = true → ∃ row' ∈ db'.totp, row'.confirmed = true ∧ row'.secret = row.secret

/-- Between a startEnrollment's read and its write the row was not confirmed, and between a
confirmEnrollment's read and its transaction the secret was not replaced. -/
def unchangedSince : Guard AdminDb AdminThread AdminEvent AdminReply := fun db _ m =>
  match m with
  | .step (.start (.minting existing)) (.drawn _) => db.isEnrolled = true → existing.any AdminTotpSecret.confirmed = true
  | .step (.confirm (.checked read _)) (.minted _) => ∀ row ∈ db.totp, row.secret = read.secret
  | _ => True

/-- What the calls know of the rows that they have read. -/
def AdminThread.Knows (check : TotpCheck) : AdminThread → Prop
  | .start (.minting existing) => existing.any AdminTotpSecret.confirmed = false
  | .confirm (.checked read accepted) => accepted.Right check read.secret
  | _ => True

section

variable {check : TotpCheck} {db db' db'' : AdminDb} {e : AdminReply} {us : List AdminThread}

theorem AdminDb.KeepsConfirmed.same (h : db'.totp = db.totp) : db.KeepsConfirmed db' :=
  fun row hrow hconfirmed => ⟨row, h ▸ hrow, hconfirmed, rfl⟩

theorem AdminDb.KeepsConfirmed.trans (h : db.KeepsConfirmed db') (h' : db'.KeepsConfirmed db'') : db.KeepsConfirmed db'' := by
  intro row hrow hconfirmed
  obtain ⟨row', hrow', hconfirmed', hsecret'⟩ := h row hrow hconfirmed
  obtain ⟨row'', hrow'', hconfirmed'', hsecret''⟩ := h' row' hrow' hconfirmed'
  exact ⟨row'', hrow'', hconfirmed'', hsecret''.trans hsecret'⟩

/-- The two calls' writes are the only ones. -/
theorem totp_cases {t t' : AdminThread} (h : AdminMove check db t e db' t') :
    db'.totp = db.totp ∨
      (∃ existing secret, t = .start (.minting existing) ∧ e = .drawn secret ∧ db'.totp = some { secret }) ∨
      ∃ read accepted codes row, t = .confirm (.checked read accepted) ∧ e = .minted codes ∧ db.totp = some row ∧
        db'.totp = some { row with confirmedAt := some db.clock, checkedWith := some accepted } := by
  cases h with
  | start h =>
    cases h with
    | minted => exact .inr (.inl ⟨_, _, rfl, rfl, rfl⟩)
    | stopped | free => exact .inl rfl
  | confirm h =>
    cases h with
    | confirmed found => exact .inr (.inr ⟨_, _, _, _, rfl, rfl, found, rfl⟩)
    | stopped | checked => exact .inl rfl
  | verify h => cases h <;> exact .inl rfl
  | login h => cases h <;> exact .inl rfl

/-- The calls stop at a confirmed row, and at a wrong code. -/
theorem knows_step {t t' : AdminThread} (h : AdminMove check db t e db' t') : t'.Knows check := by
  cases h with
  | start h =>
    cases h with
    | free unconfirmed => exact unconfirmed
    | stopped | minted => trivial
  | confirm h =>
    cases h with
    | checked _ right => exact ⟨rfl, right⟩
    | stopped | confirmed => trivial
  | verify | login => trivial

theorem isEnrolled_iff : db.isEnrolled = true ↔ ∃ row ∈ db.totp, row.confirmed = true := by
  unfold AdminDb.isEnrolled
  cases db.totp <;> simp

theorem minting_step {existing : Option AdminTotpSecret} {secret : TotpSecret} {ts : List AdminThread}
    (h : (adminMachine check).step db (.start (.minting existing)) (.drawn secret) = some (db', ts)) :
    db.user.isSome = true ∧ db'.totp = some { secret } ∨ db.user.isSome = false ∧ db' = db := by
  simp only [adminMachine, adminStep, StartEnrollment.step] at h
  split at h <;> obtain ⟨rfl, -⟩ := Prod.mk.inj (Option.some.inj h)
  · exact .inl ⟨‹_›, rfl⟩
  · exact .inr ⟨Bool.not_eq_true _ ▸ ‹¬_›, rfl⟩

theorem checked_step {read : AdminTotpSecret} {accepted : CheckedCode} {codes : Vector AdminCode RECOVERY_CODE_COUNT}
    {ts : List AdminThread}
    (h : (adminMachine check).step db (.confirm (.checked read accepted)) (.minted codes) = some (db', ts)) :
    db.totp = none ∧ db' = db ∨ ∃ row, db.totp = some row ∧
      db'.totp = some { row with confirmedAt := some db.clock, checkedWith := some accepted } := by
  simp only [adminMachine, adminStep, ConfirmEnrollment.step] at h
  split at h <;> obtain ⟨rfl, -⟩ := Prod.mk.inj (Option.some.inj h)
  · exact .inl ⟨‹_›, rfl⟩
  · exact .inr ⟨_, ‹_›, rfl⟩

theorem replace_keeps_iff {secret : TotpSecret} (h : db'.totp = some { secret }) :
    db.KeepsConfirmed db' ∧ db'.Honest check ↔ db.isEnrolled = false := by
  rw [← Bool.not_eq_true, isEnrolled_iff]
  constructor
  · rintro ⟨hkeeps, -⟩ ⟨row, hrow, hconfirmed⟩
    obtain ⟨row', hrow', hconfirmed', -⟩ := hkeeps row hrow hconfirmed
    obtain rfl := Option.some.inj (h.symm.trans hrow')
    cases hconfirmed'
  · refine fun hnone => ⟨fun row hrow hconfirmed => absurd ⟨row, hrow, hconfirmed⟩ hnone, fun row hrow hconfirmed => ?_⟩
    obtain rfl := Option.some.inj (h.symm.trans hrow)
    cases hconfirmed

theorem confirm_keeps_iff {row : AdminTotpSecret} {secret : TotpSecret} {accepted : CheckedCode}
    (hright : accepted.Right check secret) (found : db.totp = some row)
    (h : db'.totp = some { row with confirmedAt := some db.clock, checkedWith := some accepted }) :
    db.KeepsConfirmed db' ∧ db'.Honest check ↔ ∀ row ∈ db.totp, row.secret = secret := by
  simp only [found, Option.mem_def, Option.some.injEq, forall_eq']
  constructor
  · rintro ⟨-, hhonest⟩
    obtain ⟨accepted', haccepted, hsame, -⟩ := hhonest _ h rfl
    obtain rfl := Option.some.inj haccepted
    exact hsame.symm.trans hright.1
  · refine fun hsame => ⟨fun old hold _ => ⟨_, h, rfl, ?_⟩, fun new hnew _ => ?_⟩
    · obtain rfl := Option.some.inj (found.symm.trans hold)
      rfl
    · obtain rfl := Option.some.inj (h.symm.trans hnew)
      exact ⟨accepted, rfl, hsame ▸ hright⟩

theorem step_enrolls_iff {t : AdminThread} {ts : List AdminThread} (hstored : db.Stored) (hhonest : db.Honest check)
    (hknows : t.Knows check) (hst : (adminMachine check).step db t e = some (db', ts)) :
    db.KeepsConfirmed db' ∧ db'.Honest check ↔ unchangedSince db us (.step t e) := by
  have hsame : db'.totp = db.totp → db.KeepsConfirmed db' ∧ db'.Honest check := fun h =>
    ⟨.same h, fun row hrow => hhonest row (h ▸ hrow)⟩
  unfold unchangedSince
  split
  · next existing secret heq =>
    obtain ⟨rfl, rfl⟩ := Move.step.inj heq
    -- the row that was read was not confirmed
    have hread : existing.any AdminTotpSecret.confirmed = false := hknows
    simp only [hread, Bool.false_eq_true, imp_false, Bool.not_eq_true]
    rcases minting_step hst with ⟨-, htotp⟩ | ⟨horphan, rfl⟩
    · exact replace_keeps_iff htotp
    · refine iff_of_true (hsame rfl) (Bool.not_eq_true _ ▸ fun henrolled => ?_)
      obtain ⟨row, hrow, -⟩ := isEnrolled_iff.1 henrolled
      have howner := hstored.owner (.inl (by rw [Option.mem_def.1 hrow]; rfl))
      rw [horphan] at howner
      cases howner
  · next read accepted codes heq =>
    obtain ⟨rfl, rfl⟩ := Move.step.inj heq
    rcases checked_step hst with ⟨hnone, rfl⟩ | ⟨row, found, htotp⟩
    · exact iff_of_true (hsame rfl) fun row hrow => by rw [hnone] at hrow; cases hrow
    · exact confirm_keeps_iff hknows found htotp
  · next hstart hconfirm =>
    refine iff_of_true (hsame ?_) trivial
    obtain ⟨t', -, hmove⟩ := admin_cases hst
    rcases totp_cases hmove with h | ⟨existing, secret, rfl, rfl, -⟩ | ⟨read, accepted, codes, -, rfl, rfl, -⟩
    · exact h
    · exact absurd rfl (hstart existing secret)
    · exact absurd rfl (hconfirm read accepted codes)

end

/-! Runs. -/

section

variable {check : TotpCheck} {s₀ s s' : AdminDb} {q r : Pool AdminDb AdminThread}

theorem event_enrolls {n : AdminEvent} {ts : List AdminThread} (hhonest : s.Honest check)
    (hev : (adminMachine check).event s n = some (s', ts)) : s.KeepsConfirmed s' ∧ s'.Honest check := by
  obtain ⟨rfl, -⟩ := admin_event hev
  have htotp := (event_codes (s := s) n).2.2.1
  exact ⟨.same htotp, fun row hrow => hhonest row (htotp ▸ hrow)⟩

theorem event_knows {n : AdminEvent} {t : AdminThread} (ht : t ∈ (adminEvent s n).2) : t.Knows check := by
  cases n <;> simp only [adminEvent, List.mem_singleton, List.not_mem_nil] at ht <;> subst ht <;> trivial

theorem confirmed_stays {p : Pool AdminDb AdminThread} (hstored : p.shared.Stored) (hhonest : p.shared.Honest check)
    (hknows : ∀ t ∈ p.threads, t.Knows check) (hq : (adminMachine check).Reach unchangedSince p q) :
    (q.shared.Stored ∧ p.shared.KeepsConfirmed q.shared ∧ q.shared.Honest check) ∧ ∀ t ∈ q.threads, t.Knows check := by
  refine hq.stable (I := fun s => s.Stored ∧ p.shared.KeepsConfirmed s ∧ s.Honest check)
    (L := fun _ t => t.Knows check) ⟨hstored, .same rfl, hhonest⟩ hknows ?_ ?_
  · rintro s us n s' ts _ ⟨hs, hkeeps, hhonest⟩ _ hev
    obtain ⟨hkeeps', hhonest'⟩ := event_enrolls hhonest hev
    obtain ⟨rfl, rfl⟩ := admin_event hev
    exact ⟨⟨event_stored n hs, hkeeps.trans hkeeps', hhonest'⟩, fun t ht => event_knows ht, fun _ h => h⟩
  · rintro s us vs t e s' ts _ ⟨hs, hkeeps, hhonest⟩ hknows hok hst
    obtain ⟨hkeeps', hhonest'⟩ := (step_enrolls_iff hs hhonest hknows hst).2 hok
    obtain ⟨t', rfl, hmove⟩ := admin_cases hst
    refine ⟨⟨(codes_cases hmove).stored hs, hkeeps.trans hkeeps', hhonest'⟩, ?_, fun _ h => h⟩
    exact fun u hu => List.mem_singleton.1 hu ▸ knows_step hmove

/-- While no call's row is changed between its read and its write, what is confirmed stays
confirmed, with the secret that its code was right for; and it is the other writes, and nothing
else, that break this. -/
theorem enrollment_stays_iff (h₀ : s₀.Stored) (hhonest : s₀.Honest check)
    (hq : (adminMachine check).Reach unchangedSince ⟨s₀, []⟩ q) :
    q.shared.Honest check ∧
      (∀ r, (adminMachine check).Reach unchangedSince q r → q.shared.KeepsConfirmed r.shared) ∧
      (∀ n s' ts, (adminMachine check).event q.shared n = some (s', ts) → q.shared.KeepsConfirmed s' ∧ s'.Honest check) ∧
      ∀ us t vs e s' ts, q.threads = us ++ t :: vs → (adminMachine check).step q.shared t e = some (s', ts) →
        (q.shared.KeepsConfirmed s' ∧ s'.Honest check ↔ unchangedSince q.shared (us ++ vs) (.step t e)) := by
  obtain ⟨⟨hstored, -, hhonest⟩, hknows⟩ := confirmed_stays h₀ hhonest (by simp) hq
  refine ⟨hhonest, fun r hr => ?_, fun n s' ts hev => event_enrolls hhonest hev, fun us t vs e s' ts hsplit hst =>
    step_enrolls_iff hstored hhonest (hknows t (hsplit ▸ List.mem_append_right _ (.head _))) hst⟩
  exact (confirmed_stays hstored hhonest hknows hr).1.2.1

end

/-- The same admin before 2FA. -/
def newAdmin : AdminDb := { enrolledAdmin with totp := none, recoveryCodes := [] }

theorem newAdmin_stored : newAdmin.Stored where
  owner := fun _ => rfl
  nodup := .nil
  below := by simp [newAdmin]
  limit := by decide

theorem newAdmin_honest : newAdmin.Honest countingCheck := fun row hrow => by cases hrow

def tenCodes : Vector AdminCode RECOVERY_CODE_COUNT := ⟨Array.range RECOVERY_CODE_COUNT, by decide⟩

/-- Secret 40 is confirmed with its first code. -/
def enrollOnce : List (Act AdminEvent AdminReply) :=
  [.event .startEnrollment, .step 0 .ok, .step 0 (.drawn 40), .event (.confirmEnrollment 40), .step 0 .ok,
    .step 0 (.minted tenCodes)]

/-- A second startEnrollment that has read the row before it was confirmed takes 2FA away
again. And a code for the first secret confirms the second. -/
theorem late_start_undoes_enrollment :
    (¬∀ (check : TotpCheck) s₀ q r, s₀.Stored → s₀.Honest check → (adminMachine check).Reach anyMove ⟨s₀, []⟩ q →
        (adminMachine check).Reach anyMove q r → q.shared.KeepsConfirmed r.shared) ∧
      ¬∀ (check : TotpCheck) s₀ q, s₀.Stored → s₀.Honest check → (adminMachine check).Reach anyMove ⟨s₀, []⟩ q →
        q.shared.Honest check := by
  constructor
  · intro h
    obtain ⟨q, r, hq, hr, ht⟩ := Machine.reach_of_stop (adminMachine countingCheck) anyMove (fun _ _ _ => true)
      (fun _ _ _ _ => trivial) ⟨newAdmin, []⟩ ([.event .startEnrollment, .step 0 .ok] ++ enrollOnce)
      [.step 2 (.drawn 50)]
      (fun q r => q.shared.isEnrolled && !r.shared.isEnrolled) (by decide +kernel)
    simp only [Bool.and_eq_true, Bool.not_eq_true', isEnrolled_iff] at ht
    obtain ⟨⟨row, hrow, hconfirmed⟩, hnone⟩ := ht
    obtain ⟨row', hrow', hconfirmed', -⟩ := h _ _ q r newAdmin_stored newAdmin_honest hq hr row hrow hconfirmed
    rw [isEnrolled_iff.2 ⟨row', hrow', hconfirmed'⟩] at hnone
    cases hnone
  · intro h
    obtain ⟨q, hq, ht⟩ := Machine.reach_of_test (adminMachine countingCheck) anyMove (fun _ _ _ => true)
      (fun _ _ _ _ => trivial) ⟨newAdmin, []⟩
      [.event .startEnrollment, .step 0 .ok, .step 0 (.drawn 40), .event (.confirmEnrollment 40), .step 0 .ok,
        .event .startEnrollment, .step 0 .ok, .step 0 (.drawn 50), .step 1 (.minted tenCodes)]
      (fun q => q.shared.totp == some ⟨50, some 0, some ⟨40, 40, 0⟩⟩) (by decide +kernel)
    obtain ⟨accepted, haccepted, hsame, -⟩ := h _ _ q newAdmin_stored newAdmin_honest hq _ (beq_iff_eq.1 ht) rfl
    obtain rfl := Option.some.inj haccepted
    cases hsame

def unchangedSinceB (db : AdminDb) (_ : List AdminThread) (m : Move AdminThread AdminEvent AdminReply) : Bool :=
  match m with
  | .step (.start (.minting existing)) (.drawn _) => !db.isEnrolled || existing.any AdminTotpSecret.confirmed
  | .step (.confirm (.checked read _)) (.minted _) => db.totp.all fun row => row.secret == read.secret
  | _ => true

theorem unchangedSince_of_bool (db : AdminDb) (us : List AdminThread) (m : Move AdminThread AdminEvent AdminReply)
    (h : unchangedSinceB db us m = true) : unchangedSince db us m := by
  unfold unchangedSince
  split
  · intro henrolled
    simpa [unchangedSinceB, henrolled] using h
  · intro row hrow
    simpa [unchangedSinceB, Option.mem_def.1 hrow] using h
  · trivial

/-- One enrollment, call after call. -/
theorem enrolled_once :
    ∃ q, (adminMachine countingCheck).Reach unchangedSince ⟨newAdmin, []⟩ q ∧ q.shared.isEnrolled = true ∧
      q.shared.Honest countingCheck := by
  obtain ⟨q, hq, ht⟩ := Machine.reach_of_test (adminMachine countingCheck) unchangedSince unchangedSinceB
    unchangedSince_of_bool ⟨newAdmin, []⟩ enrollOnce (fun q => q.shared.isEnrolled) (by decide +kernel)
  exact ⟨q, hq, ht, (enrollment_stays_iff newAdmin_stored newAdmin_honest hq).1⟩

end ChopNow
