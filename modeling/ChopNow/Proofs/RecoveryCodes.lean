import ChopNow.Proofs.AdminStep

/-! The recovery codes. A call reads its candidates once and tries them one by one; what it
finds it stamps only if the row is still there and unused. -/

namespace ChopNow

open Interleave Table

/-- What the tables keep to. -/
structure AdminDb.Stored (db : AdminDb) : Prop where
  owner : db.totp.isSome = true ∨ db.recoveryCodes ≠ [] → db.user.isSome = true
  nodup : (db.recoveryCodes.map AdminRecoveryCode.id).Nodup
  below : ∀ row ∈ db.recoveryCodes, row.id < db.nextCode
  limit : db.recoveryCodes.countP AdminRecoveryCode.unconsumed ≤ RECOVERY_CODE_COUNT

/-- The row that the call has stamped; its consumeRecoveryCode returned `true`. -/
def AdminThread.consumed : AdminThread → Option RecoveryCodeId
  | .verify t => t.consumed
  | _ => none

/-- The id was given, and no unused row has it. -/
def AdminDb.Spent (db : AdminDb) (id : RecoveryCodeId) : Prop := id < db.nextCode ∧ db.holds id = false

section

variable {check : TotpCheck} {db db' : AdminDb} {e : AdminReply} {id first : RecoveryCodeId} {codes : List AdminCode}
  {row : AdminRecoveryCode} {checked : CheckedCode} {totp : AdminTotpSecret}

/-! The rows of one enrollment. -/

theorem mintedCodes_ids : (mintedCodes first codes).map AdminRecoveryCode.id = List.range' first codes.length := by
  refine List.ext_getElem (by simp [mintedCodes]) fun i hi hi' => ?_
  simp [mintedCodes]

theorem mintedCodes_mem (h : row ∈ mintedCodes first codes) :
    first ≤ row.id ∧ row.id < first + codes.length ∧ row.consumedAt = none := by
  obtain ⟨i, hi, rfl⟩ := List.mem_mapIdx.1 h
  exact ⟨Nat.le_add_right _ _, Nat.add_lt_add_left hi _, rfl⟩

/-! One row is stamped. -/

theorem holds_iff : db.holds id = true ↔ ∃ row ∈ db.recoveryCodes, row.id = id ∧ row.consumedAt = none := by
  simp [AdminDb.holds, AdminRecoveryCode.unconsumed]

theorem consume_split (hnodup : (db.recoveryCodes.map AdminRecoveryCode.id).Nodup) (held : db.holds id = true) :
    ∃ before row after, db.recoveryCodes = before ++ row :: after ∧ row.id = id ∧ row.consumedAt = none ∧
      (db.consume id).recoveryCodes = before ++ row.consume db.clock :: after := by
  obtain ⟨row, hrow, rfl, hunused⟩ := holds_iff.1 held
  obtain ⟨before, after, hsplit⟩ := List.append_of_mem hrow
  refine ⟨before, row, after, hsplit, rfl, hunused, ?_⟩
  rw [hsplit, List.map_append, List.map_cons] at hnodup
  have hothers : ∀ rows : List AdminRecoveryCode, row.id ∉ rows.map AdminRecoveryCode.id →
      (rows.map fun a => if a.id = row.id ∧ a.unconsumed = true then a.consume db.clock else a) = rows := by
    intro rows hnot
    conv_rhs => rw [← List.map_id rows]
    refine List.map_congr_left fun a ha => if_neg fun hhit => hnot ?_
    exact hhit.1 ▸ List.mem_map_of_mem ha
  have hmine : row.id = row.id ∧ row.unconsumed = true := ⟨rfl, by simp [AdminRecoveryCode.unconsumed, hunused]⟩
  have hbetween := List.nodup_middle.1 hnodup
  have hfresh := (List.nodup_cons.1 hbetween).1
  rw [List.mem_append, not_or] at hfresh
  rw [AdminDb.consume, hsplit, List.map_append, List.map_cons, if_pos hmine, hothers before hfresh.1,
    hothers after hfresh.2]

theorem consume_ids : (db.consume id).recoveryCodes.map AdminRecoveryCode.id = db.recoveryCodes.map AdminRecoveryCode.id :=
  column_update fun _ => rfl

theorem mem_consume (h : row ∈ (db.consume id).recoveryCodes) :
    row ∈ db.recoveryCodes ∨ ∃ old ∈ db.recoveryCodes, old.consumedAt = none ∧ old.id = id ∧ row = old.consume db.clock := by
  obtain ⟨old, hold, rfl⟩ := List.mem_map.1 h
  split
  · next hhit => exact .inr ⟨old, hold, by simpa [AdminRecoveryCode.unconsumed] using hhit.2, hhit.1, rfl⟩
  · exact .inl hold

/-! What a step keeps. -/

theorem AdminDb.Stored.consume (h : db.Stored) (held : db.holds id = true) : (db.consume id).Stored where
  owner := by
    rintro (htotp | hcodes)
    · exact h.owner (.inl htotp)
    · exact h.owner (.inr fun hnil => hcodes (by simp [AdminDb.consume, hnil]))
  nodup := by
    rw [consume_ids]
    exact h.nodup
  below := by
    intro row hrow
    rcases mem_consume hrow with hrow | ⟨old, hold, -, -, rfl⟩
    · exact h.below row hrow
    · exact h.below old hold
  limit := by
    obtain ⟨before, row, after, hsplit, -, -, hnew⟩ := consume_split h.nodup held
    have hlimit := h.limit
    rw [hsplit, List.countP_append, List.countP_cons] at hlimit
    rw [hnew, List.countP_append, List.countP_cons_of_neg (by simp [AdminRecoveryCode.unconsumed, AdminRecoveryCode.consume])]
    omega

theorem AdminDb.Stored.confirm (h : db.Stored) (found : db.totp = some totp) (hlen : codes.length = RECOVERY_CODE_COUNT) :
    (db.confirm totp checked codes).Stored where
  owner := fun _ => h.owner (.inl (by rw [found]; rfl))
  nodup := by
    rw [AdminDb.confirm, mintedCodes_ids]
    exact List.nodup_range'
  below := fun row hrow => (mintedCodes_mem hrow).2.1
  limit := by
    refine List.countP_le_length.trans (le_of_eq ?_)
    simpa [AdminDb.confirm, mintedCodes] using hlen

/-- What a step does to the two tables and to the counter of ids. -/
inductive CodesMove (check : TotpCheck) (db : AdminDb) : AdminThread → AdminReply → AdminDb → AdminThread → Prop
  | kept {t e db' t'} (codes : db'.recoveryCodes = db.recoveryCodes) (next : db'.nextCode = db.nextCode)
      (user : db'.user = db.user) (owner : db'.totp.isSome = true → db.totp.isSome = true ∨ db.user.isSome = true)
      (consumed : t'.consumed = t.consumed) : CodesMove check db t e db' t'
  | consumed {challenge id} (held : db.holds id = true) :
      CodesMove check db (.verify (.consuming challenge (.matched id))) .ok (db.consume id)
        (.verify (.passed challenge (some id)))
  | replaced {checked totp codes t e t'} (found : db.totp = some totp) (count : codes.length = RECOVERY_CODE_COUNT) :
      CodesMove check db (.confirm t) e (db.confirm totp checked codes) (.confirm t')

theorem codes_cases {t t' : AdminThread} (h : AdminMove check db t e db' t') : CodesMove check db t e db' t' := by
  cases h with
  | start h =>
    cases h with
    | minted owner => exact .kept rfl rfl rfl (fun _ => .inr owner) rfl
    | stopped | free => exact .kept rfl rfl rfl .inl rfl
  | confirm h =>
    cases h with
    | confirmed found => exact .replaced found (by simp)
    | stopped | checked => exact .kept rfl rfl rfl .inl rfl
  | verify h =>
    cases h with
    | refused _ unused => exact .kept rfl rfl rfl .inl unused.symm
    | consumed held => exact .consumed held
    | _ => exact .kept rfl rfl rfl .inl rfl
  | login h => cases h <;> exact .kept rfl rfl rfl .inl rfl

theorem CodesMove.stored {t t' : AdminThread} (h : db.Stored) (hmove : CodesMove check db t e db' t') : db'.Stored := by
  cases hmove with
  | consumed held => exact h.consume held
  | replaced found count => exact h.confirm found count
  | kept codes next user owner =>
    refine ⟨fun howned => ?_, codes ▸ h.nodup, codes ▸ next ▸ h.below, codes ▸ h.limit⟩
    rw [user]
    rcases howned with htotp | hcodes
    · exact (owner htotp).elim (fun hsome => h.owner (.inl hsome)) id
    · exact h.owner (.inr (codes ▸ hcodes))

theorem CodesMove.spent {t t' : AdminThread} (h : db.Spent id) (hmove : CodesMove check db t e db' t') : db'.Spent id := by
  have hgone := h.2
  rw [← Bool.not_eq_true, holds_iff] at hgone
  rw [AdminDb.Spent, ← Bool.not_eq_true, holds_iff]
  cases hmove with
  | kept codes next => exact codes ▸ next ▸ ⟨h.1, hgone⟩
  | consumed held =>
    refine ⟨h.1, ?_⟩
    rintro ⟨row, hrow, hid, hunused⟩
    rcases mem_consume hrow with hrow | ⟨old, -, -, -, rfl⟩
    · exact hgone ⟨row, hrow, hid, hunused⟩
    · cases hunused
  | replaced =>
    refine ⟨Nat.lt_add_right _ h.1, ?_⟩
    rintro ⟨row, hrow, rfl, -⟩
    exact absurd h.1 (not_lt.2 (mintedCodes_mem hrow).1)

theorem spent_consume (h : db.Stored) (held : db.holds id = true) : (db.consume id).Spent id := by
  obtain ⟨row, hrow, hid, -⟩ := holds_iff.1 held
  refine ⟨hid ▸ h.below row hrow, ?_⟩
  rw [← Bool.not_eq_true, holds_iff]
  rintro ⟨row', hrow', hid', hunused'⟩
  obtain ⟨old, hold, heq⟩ := List.mem_map.1 hrow'
  split at heq
  · rw [← heq] at hunused'
    cases hunused'
  · next hmiss =>
    subst heq
    exact hmiss ⟨hid', by simp [AdminRecoveryCode.unconsumed, hunused']⟩

/-- A row that was stamped stays so, as long as it is there. -/
theorem CodesMove.stamp {t t' : AdminThread} {stamp : Option Time} (hmove : CodesMove check db t e db' t')
    (hid : id < db.nextCode) (hstamp : stamp.isSome = true)
    (h : ∀ row ∈ db.recoveryCodes, row.id = id → row.consumedAt = stamp) :
    id < db'.nextCode ∧ ∀ row ∈ db'.recoveryCodes, row.id = id → row.consumedAt = stamp := by
  cases hmove with
  | kept codes next => exact codes ▸ next ▸ ⟨hid, h⟩
  | consumed held =>
    refine ⟨hid, fun row hrow heq => ?_⟩
    rcases mem_consume hrow with hrow | ⟨old, hold, hunused, -, rfl⟩
    · exact h row hrow heq
    · have hold := h old hold heq
      rw [hunused] at hold
      rw [← hold] at hstamp
      cases hstamp
  | replaced =>
    refine ⟨Nat.lt_add_right _ hid, fun row hrow heq => ?_⟩
    exact absurd (heq ▸ hid) (not_lt.2 (mintedCodes_mem hrow).1)

end

/-! Runs. -/

/-- Of all rows, the one with this id is stamped, and it was not before. -/
def StampsOne (db : AdminDb) (id : RecoveryCodeId) (db' : AdminDb) : Prop :=
  ∃ before row after, db.recoveryCodes = before ++ row :: after ∧ row.id = id ∧ row.consumedAt = none ∧
    db'.recoveryCodes = before ++ row.consume db.clock :: after

section

variable {check : TotpCheck} {s₀ s s' : AdminDb} {q : Pool AdminDb AdminThread} {id : RecoveryCodeId}

theorem event_codes (n : AdminEvent) :
    (adminEvent s n).1.recoveryCodes = s.recoveryCodes ∧ (adminEvent s n).1.nextCode = s.nextCode ∧
      (adminEvent s n).1.totp = s.totp ∧ (s.user.isSome = true → (adminEvent s n).1.user.isSome = true) ∧
        ∀ t ∈ (adminEvent s n).2, t.consumed = none := by
  cases n <;> simp [adminEvent, AdminThread.consumed, VerifyTotpChallenge.consumed]

theorem event_stored (n : AdminEvent) (h : s.Stored) : (adminEvent s n).1.Stored := by
  obtain ⟨hcodes, hnext, htotp, huser, -⟩ := event_codes (s := s) n
  exact ⟨fun howned => huser (h.owner (htotp ▸ hcodes ▸ howned)), hcodes ▸ h.nodup, hcodes ▸ hnext ▸ h.below,
    hcodes ▸ h.limit⟩

theorem event_spent (n : AdminEvent) (h : s.Spent id) : (adminEvent s n).1.Spent id := by
  obtain ⟨hcodes, hnext, -⟩ := event_codes (s := s) n
  rwa [AdminDb.Spent, AdminDb.holds, hcodes, hnext]

theorem codes_sat (h₀ : s₀.Stored) (hq : (adminMachine check).Reach anyMove ⟨s₀, []⟩ q) :
    Sat AdminDb.Stored (fun s t => ∀ id ∈ t.consumed, s.Spent id) (Distinct AdminThread.consumed)
      q.shared q.threads := by
  refine hq.sat (fun t u => Distinct.symm _) ⟨h₀, by simp, .nil⟩ ?_ ?_
  · intro s us n s' ts _ hs hus _ hev
    obtain ⟨rfl, rfl⟩ := admin_event hev
    have hfresh := (event_codes (s := s) n).2.2.2.2
    refine ⟨event_stored n hs, ?_, fun u hu id hid => event_spent n (hus u hu id hid), ?_, ?_⟩
    · intro t ht id hid
      rw [hfresh t ht] at hid
      cases hid
    · exact List.pairwise_of_forall_mem_list fun t ht u _ => .idle _ (hfresh t ht)
    · exact fun t ht u _ => .idle _ (hfresh t ht)
  · intro s us vs t e s' ts _ hs hmine hus _ hst
    obtain ⟨t', rfl, hmove⟩ := admin_cases hst
    have hcodes := codes_cases hmove
    have hstored : s'.Stored := hcodes.stored hs
    have hspent : ∀ id, s.Spent id → s'.Spent id := fun id h => hcodes.spent h
    have hothers : ∀ u ∈ us ++ vs, ∀ id ∈ u.consumed, s'.Spent id :=
      fun u hu id hid => hspent id ((hus u hu).1 id hid)
    cases hcodes with
    | kept _ _ _ _ consumed =>
      refine .one hstored ?_ fun u hu => ⟨hothers u hu, (hus u hu).2.of _ (.inr consumed)⟩
      exact fun id hid => hspent id (hmine id (consumed ▸ hid))
    | replaced =>
      refine .one hstored ?_ fun u hu => ⟨hothers u hu, .idle _ rfl⟩
      rintro _ ⟨⟩
    | @consumed challenge id held =>
      refine .one hstored ?_ fun u hu => ⟨hothers u hu, fun _ heq => ?_⟩
      · rintro _ ⟨⟩
        exact spent_consume hs held
      · -- an id that another call has stamped is not there to be stamped
        have hspent := (hus u hu).1 id (heq ▸ rfl)
        rw [hspent.2] at held
        cases held

theorem stamps_stay {r : Pool AdminDb AdminThread} {row row' : AdminRecoveryCode} (hstored : q.shared.Stored)
    (hr : (adminMachine check).Reach anyMove q r) (hrow : row ∈ q.shared.recoveryCodes)
    (hstamped : row.consumedAt.isSome = true) (hrow' : row' ∈ r.shared.recoveryCodes) (hid : row'.id = row.id) :
    row'.consumedAt = row.consumedAt := by
  have hstays : row.id < r.shared.nextCode ∧
      ∀ a ∈ r.shared.recoveryCodes, a.id = row.id → a.consumedAt = row.consumedAt := by
    refine hr.invariant (J := fun s _ => row.id < s.nextCode ∧
      ∀ a ∈ s.recoveryCodes, a.id = row.id → a.consumedAt = row.consumedAt) ?_ ?_ ?_
    · refine ⟨hstored.below row hrow, fun a ha heq => ?_⟩
      rw [List.inj_on_of_nodup_map hstored.nodup ha hrow heq]
    · rintro s us n s' ts _ hs _ hev
      obtain ⟨rfl, -⟩ := admin_event hev
      obtain ⟨hcodes, hnext, -⟩ := event_codes (s := s) n
      rwa [hcodes, hnext]
    · rintro s us vs t e s' ts _ hs _ hst
      obtain ⟨t', -, hmove⟩ := admin_cases hst
      exact (codes_cases hmove).stamp hs.1 hstamped hs.2
  exact hstays.2 row' hrow' hid

/-- No two calls are told `true` about one row; a call that is told so has stamped that row
and no other, and stamps nothing else; a stamp stays; and no more than ten rows are unused. -/
theorem recovery_codes_single_use (h₀ : s₀.Stored) (hq : (adminMachine check).Reach anyMove ⟨s₀, []⟩ q) :
    q.threads.Pairwise (Distinct AdminThread.consumed) ∧
      q.shared.recoveryCodes.countP AdminRecoveryCode.unconsumed ≤ RECOVERY_CODE_COUNT ∧
      (∀ t ∈ q.threads, ∀ e s' ts, (adminMachine check).step q.shared t e = some (s', ts) → ∃ t', ts = [t'] ∧
        (t'.consumed = t.consumed ∧ ((∃ v, t = .verify v) → s'.recoveryCodes = q.shared.recoveryCodes) ∨
          t.consumed = none ∧ ∃ id, t'.consumed = some id ∧ StampsOne q.shared id s')) ∧
      ∀ r, (adminMachine check).Reach anyMove q r → ∀ row ∈ q.shared.recoveryCodes, row.consumedAt.isSome = true →
        ∀ row' ∈ r.shared.recoveryCodes, row'.id = row.id → row'.consumedAt = row.consumedAt := by
  have hsat := codes_sat h₀ hq
  refine ⟨hsat.apart, hsat.shared.limit, fun t ht e s' ts hst => ?_, fun r hr row hrow hstamped row' hrow' hid =>
    stamps_stay hsat.shared hr hrow hstamped hrow' hid⟩
  obtain ⟨t', rfl, hmove⟩ := admin_cases hst
  refine ⟨t', rfl, ?_⟩
  cases codes_cases hmove with
  | kept codes _ _ _ consumed => exact .inl ⟨consumed, fun _ => codes⟩
  | consumed held => exact .inr ⟨rfl, _, rfl, consume_split hsat.shared.nodup held⟩
  | replaced =>
    refine .inl ⟨rfl, ?_⟩
    rintro ⟨v, hv⟩
    cases hv

end

/-- An authenticator whose code is the secret plus the number of the half minute; the one
before and the one after pass as well. -/
def countingCheck : TotpCheck := fun code secret now =>
  code + 1 == secret + now / 30000 || code == secret + now / 30000 || code == secret + now / 30000 + 1

/-- An admin with 2FA, who has passed the password step: challenge 1 is pending. -/
def enrolledAdmin : AdminDb where
  user := some ⟨.admin, some 5⟩
  totp := some ⟨40, some 0, some ⟨40, 40, 0⟩⟩
  recoveryCodes := mintedCodes 0 (List.range' 100 RECOVERY_CODE_COUNT)
  nextCode := RECOVERY_CODE_COUNT
  attempts := none
  locked := false
  challenges := fun challenge => if challenge = 1 then some 300000 else none
  clock := 0
  verified := 0

theorem enrolledAdmin_stored : enrolledAdmin.Stored where
  owner := fun _ => rfl
  nodup := by decide
  below := by decide
  limit := by decide

/-- Two calls with one code: the second finds it used. -/
theorem recovery_code_used_twice :
    ∃ q, (adminMachine countingCheck).Reach anyMove ⟨enrolledAdmin, []⟩ q ∧
      (q.threads.filterMap AdminThread.consumed = [0] ∧ q.threads.length = 2) ∧
        q.threads.Pairwise (Distinct AdminThread.consumed) := by
  obtain ⟨q, hq, ht⟩ := Machine.reach_of_test (adminMachine countingCheck) anyMove (fun _ _ _ => true)
    (fun _ _ _ _ => trivial) ⟨enrolledAdmin, []⟩
    [.event (.verifyTotpChallenge 1 100 true), .event (.verifyTotpChallenge 1 100 true), .step 0 .ok, .step 1 .ok,
      .step 0 .ok, .step 1 .ok, .step 0 .ok, .step 1 .ok, .step 0 .ok, .step 1 .ok]
    (fun q => q.threads.filterMap AdminThread.consumed == [0] && q.threads.length == 2) (by decide +kernel)
  exact ⟨q, hq, by simpa using ht, (recovery_codes_single_use enrolledAdmin_stored hq).1⟩

end ChopNow
