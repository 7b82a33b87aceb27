import ChopNow.Lib.Table
import ChopNow.Spec.Sessions

/-! What one step of a call on the refresh tokens can do, and what it writes to the rows. -/

namespace ChopNow

open Interleave Table

/-- The lock is there to be taken. -/
def Sessions.lockFree (s : Sessions) (raw : Token) : Prop := ∀ expiry ∈ s.locks raw, expiry ≤ s.clock

/-- `thrown` outside the `try`, or in its `finally`; `caught` inside. -/
inductive RefreshMove (s : Sessions) : Refresh → SessionReply → Sessions → Refresh → Prop
  | thrown {t reason} : RefreshMove s t (.fail reason) s (.done (.error (.thrown reason)))
  | caught {t raw reason} : RefreshMove s t (.fail reason) s (.releasing raw (.error (.thrown reason)))
  | active {raw deviceCookie} (h : s.userActive = true) :
      RefreshMove s (.received raw deviceCookie) .ok s (.locking raw deviceCookie)
  | inactive {raw deviceCookie} (h : s.userActive = false) :
      RefreshMove s (.received raw deviceCookie) .ok s .suspended
  | wiped : RefreshMove s .suspended .ok s.revokeFamily (.done (.error .userSuspended))
  | inFlight {raw deviceCookie} (held : ¬s.lockFree raw) :
      RefreshMove s (.locking raw deviceCookie) .ok s (.done (.error .inFlight))
  | acquired {raw deviceCookie} (free : s.lockFree raw) :
      RefreshMove s (.locking raw deviceCookie) .ok
        (s.lock raw (some (s.clock + REFRESH_INFLIGHT_LOCK_SECONDS * 1000))) (.locked raw deviceCookie)
  | unmatched {raw deviceCookie} (none : s.matched raw = none) :
      RefreshMove s (.locked raw deviceCookie) .ok s (.releasing raw (.error .invalidOrExpired))
  | reuse {raw deviceCookie row} (found : s.matched raw = some row) (revoked : row.revokedAt.isSome) :
      RefreshMove s (.locked raw deviceCookie) .ok s (.reused raw)
  | mismatch {raw deviceCookie row} (found : s.matched raw = some row) (device : row.deviceMismatch deviceCookie = true) :
      RefreshMove s (.locked raw deviceCookie) .ok s (.mismatched raw)
  | recognised {raw deviceCookie row} (found : s.matched raw = some row) (active : row.revokedAt = none)
      (device : row.deviceMismatch deviceCookie = false) :
      RefreshMove s (.locked raw deviceCookie) .ok s (.resolving raw row.id deviceCookie)
  | reuseRevoked {raw} : RefreshMove s (.reused raw) .ok s.revokeFamily (.releasing raw (.error .reuseDetected))
  | mismatchRevoked {raw} :
      RefreshMove s (.mismatched raw) .ok s.revokeFamily (.releasing raw (.error .deviceMismatch))
  | knownDevice {raw row deviceCookie device} :
      RefreshMove s (.resolving raw row deviceCookie) .ok s (.rotating raw row device)
  | unknownDevice {raw row deviceCookie} : RefreshMove s (.resolving raw row deviceCookie) .ok s (.minting raw row)
  | minted {raw row device} :
      RefreshMove s (.minting raw row) (.drawn device) { s with devices := s.devices ++ [device] }
        (.rotating raw row device)
  | rotated {raw row device token} (fresh : s.isNew token = true) :
      RefreshMove s (.rotating raw row device) (.drawn token) (s.signTokens (some row) device token)
        (.releasing raw (.ok ⟨token, device⟩))
  | released {raw result} : RefreshMove s (.releasing raw result) .ok (s.lock raw none) (.done result)

section

variable {s s' : Sessions} {rows : List RefreshToken} {e : SessionReply}

theorem matched_some {raw : Token} {row : RefreshToken} (h : s.matched raw = some row) : row ∈ s.tokens ∧ row.tokenHash = raw ∧ s.clock < row.expiresAt := by
  unfold Sessions.matched at h
  have hmem := List.mem_of_find?_eq_some h
  have hhash := List.find?_some h
  rw [List.mem_filter, List.mem_reverse] at hmem
  exact ⟨hmem.1, by simpa using hhash, by simpa using hmem.2⟩

theorem refresh_cases {t t' : Refresh} (h : t.step s e = some (s', t')) : RefreshMove s t e s' t' := by
  cases e with
  | fail reason => cases t <;> cases h <;> first | exact .thrown | exact .caught
  | ok =>
    cases t with
    | received raw deviceCookie =>
      simp only [Refresh.step] at h
      split at h <;> obtain ⟨rfl, rfl⟩ := Prod.mk.inj (Option.some.inj h)
      · next hactive => exact .active hactive
      · next hinactive => exact .inactive (by simpa using hinactive)
    | suspended =>
      obtain ⟨rfl, rfl⟩ := Prod.mk.inj (Option.some.inj h)
      exact .wiped
    | locking raw deviceCookie =>
      simp only [Refresh.step] at h
      split at h <;> obtain ⟨rfl, rfl⟩ := Prod.mk.inj (Option.some.inj h)
      · next hheld => exact .inFlight (setNX_isNone.1 hheld)
      · next hset =>
        obtain ⟨hfree, rfl⟩ := setNX_some hset
        exact .acquired hfree
    | locked raw deviceCookie =>
      simp only [Refresh.step] at h
      split at h
      · next hnone =>
        obtain ⟨rfl, rfl⟩ := Prod.mk.inj (Option.some.inj h)
        exact .unmatched hnone
      · next row hfound =>
        split at h
        · next hrevoked =>
          obtain ⟨rfl, rfl⟩ := Prod.mk.inj (Option.some.inj h)
          exact .reuse hfound hrevoked
        · next hactive =>
          split at h <;> obtain ⟨rfl, rfl⟩ := Prod.mk.inj (Option.some.inj h)
          · next hdevice => exact .mismatch hfound hdevice
          · next hdevice => exact .recognised hfound (by simpa using hactive) (by simpa using hdevice)
    | reused raw =>
      obtain ⟨rfl, rfl⟩ := Prod.mk.inj (Option.some.inj h)
      exact .reuseRevoked
    | mismatched raw =>
      obtain ⟨rfl, rfl⟩ := Prod.mk.inj (Option.some.inj h)
      exact .mismatchRevoked
    | resolving raw row deviceCookie =>
      simp only [Refresh.step] at h
      split at h
      · split at h <;> obtain ⟨rfl, rfl⟩ := Prod.mk.inj (Option.some.inj h)
        · exact .knownDevice
        · exact .unknownDevice
      · obtain ⟨rfl, rfl⟩ := Prod.mk.inj (Option.some.inj h)
        exact .unknownDevice
    | minting raw row => cases h
    | rotating raw row device => cases h
    | releasing raw result =>
      obtain ⟨rfl, rfl⟩ := Prod.mk.inj (Option.some.inj h)
      exact .released
    | done result => cases h
  | drawn random =>
    cases t with
    | minting raw row =>
      simp only [Refresh.step] at h
      split at h
      · cases h
      · obtain ⟨rfl, rfl⟩ := Prod.mk.inj (Option.some.inj h)
        exact .minted
    | rotating raw row device =>
      simp only [Refresh.step] at h
      split at h
      · next hfresh =>
        obtain ⟨rfl, rfl⟩ := Prod.mk.inj (Option.some.inj h)
        exact .rotated hfresh
      · cases h
    | _ => cases h

theorem refresh_of_step {t : Refresh} {ts : List SessionThread} (h : sessionMachine.step s (.refresh t) e = some (s', ts)) :
    ∃ t', ts = [.refresh t'] ∧ RefreshMove s t e s' t' := by
  obtain ⟨⟨s₁, t₁⟩, hst, hr⟩ := Option.map_eq_some_iff.1 h
  obtain ⟨rfl, rfl⟩ := Prod.mk.inj hr
  obtain ⟨⟨s₂, t₂⟩, ht, hr⟩ := Option.map_eq_some_iff.1 hst
  obtain ⟨rfl, rfl⟩ := Prod.mk.inj hr
  exact ⟨t₂, rfl, refresh_cases ht⟩

/-! What a move writes to the rows. -/

/-- The row that this step of the thread replaces. -/
def SessionThread.rotates : SessionThread → SessionReply → Option TokenId
  | .refresh (.rotating _ id _), .drawn _ => some id
  | _, _ => none

/-- A row keeps its id and its origin, and what is revoked stays revoked. -/
structure KeepsRow (f : RefreshToken → RefreshToken) : Prop where
  id : ∀ row, (f row).id = row.id
  replaces : ∀ row, (f row).replaces = row.replaces
  revoked : ∀ row, row.revokedAt.isSome → (f row).revokedAt.isSome

/-- Rows are stamped, and one may be issued. -/
inductive RowsWritten (rows : List RefreshToken) (rotates : Option TokenId) : List RefreshToken → Prop
  | kept {f : RefreshToken → RefreshToken} (hf : KeepsRow f) : RowsWritten rows rotates (rows.map f)
  | issued {f : RefreshToken → RefreshToken} {row : RefreshToken} (hf : KeepsRow f) (hid : row.id = rows.length)
      (hreplaces : row.replaces = rotates) : RowsWritten rows rotates (rows.map f ++ [row])

theorem RowsWritten.same (rows : List RefreshToken) (rotates : Option TokenId) : RowsWritten rows rotates rows := by
  have hid : KeepsRow id := ⟨fun _ => rfl, fun _ => rfl, fun _ h => h⟩
  have hkept : RowsWritten rows rotates (rows.map id) := .kept hid
  simpa using hkept

theorem RowsWritten.numbered {rows' : List RefreshToken} {rotates : Option TokenId} (hw : RowsWritten rows rotates rows')
    (h : Numbered RefreshToken.id rows) : Numbered RefreshToken.id rows' := by
  cases hw with
  | kept hf => exact h.map hf.id
  | issued hf hid => exact (h.map hf.id).append (by simpa using hid)

theorem keepsRow_revoke (now : Time) : KeepsRow (RefreshToken.revoke now) := by
  refine ⟨fun row => ?_, fun row => ?_, fun row h => ?_⟩ <;> unfold RefreshToken.revoke <;> split
  all_goals first | rfl | exact h

/-- Stamping some rows, whatever else is written on them. -/
theorem keepsRow_stamp (p : RefreshToken → Prop) [DecidablePred p] (now : Time) (replacedBy : RefreshToken → Option TokenId) :
    KeepsRow fun row => if p row then { row with revokedAt := some now, replacedBy := replacedBy row } else row where
  id := fun row => by split <;> rfl
  replaces := fun row => by split <;> rfl
  revoked := fun row h => by
    split
    · rfl
    · exact h

theorem revokeFamily_written (s : Sessions) (rotates : Option TokenId) :
    RowsWritten s.tokens rotates s.revokeFamily.tokens := .kept (keepsRow_revoke s.clock)

theorem signTokens_written (s : Sessions) (replaces : Option TokenId) (device : DeviceId) (token : Token) :
    RowsWritten s.tokens replaces (s.signTokens replaces device token).tokens :=
  .issued (keepsRow_stamp (fun row => some row.id = replaces) s.clock fun _ => some s.tokens.length) rfl rfl

theorem logout_written {t t' : Logout} (h : t.step s e = some (s', t')) : RowsWritten s.tokens none s'.tokens := by
  cases t with
  | called raw =>
    cases e with
    | ok =>
      simp only [Logout.step] at h
      split at h <;> obtain ⟨rfl, -⟩ := Prod.mk.inj (Option.some.inj h) <;> exact .same _ _
    | fail reason =>
      obtain ⟨rfl, -⟩ := Prod.mk.inj (Option.some.inj h)
      exact .same _ _
    | drawn random => cases h
  | found id =>
    cases e with
    | ok =>
      obtain ⟨rfl, -⟩ := Prod.mk.inj (Option.some.inj h)
      exact .kept (keepsRow_stamp (fun row => row.id = id) s.clock RefreshToken.replacedBy)
    | fail reason =>
      obtain ⟨rfl, -⟩ := Prod.mk.inj (Option.some.inj h)
      exact .same _ _
    | drawn random => cases h
  | done => cases e <;> cases h

theorem session_written {t : SessionThread} {ts : List SessionThread} (h : sessionMachine.step s t e = some (s', ts)) :
    RowsWritten s.tokens (t.rotates e) s'.tokens := by
  cases t with
  | refresh t =>
    obtain ⟨t', -, hmove⟩ := refresh_of_step h
    cases hmove with
    | wiped | reuseRevoked | mismatchRevoked => exact revokeFamily_written s _
    | @rotated raw row device token fresh => exact signTokens_written s (some row) device token
    | _ => exact .same _ _
  | logout t =>
    obtain ⟨⟨s₁, t₁⟩, hst, hr⟩ := Option.map_eq_some_iff.1 h
    obtain ⟨rfl, -⟩ := Prod.mk.inj hr
    obtain ⟨⟨s₂, t₂⟩, ht, hr⟩ := Option.map_eq_some_iff.1 hst
    obtain ⟨rfl, -⟩ := Prod.mk.inj hr
    exact logout_written ht

theorem sessionEvent_written {n : SessionEvent} {ts : List SessionThread} (h : sessionMachine.event s n = some (s', ts)) :
    RowsWritten s.tokens none s'.tokens := by
  cases n with
  | signIn device token =>
    simp only [sessionMachine, sessionEvent] at h
    split at h
    · obtain ⟨rfl, -⟩ := Prod.mk.inj (Option.some.inj h)
      exact signTokens_written s none device token
    · cases h
  | revokeAllSessions =>
    obtain ⟨rfl, -⟩ := Prod.mk.inj (Option.some.inj h)
    exact revokeFamily_written s none
  | _ =>
    obtain ⟨rfl, -⟩ := Prod.mk.inj (Option.some.inj h)
    exact .same _ _

end

end ChopNow
