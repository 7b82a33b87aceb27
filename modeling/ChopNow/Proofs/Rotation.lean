import ChopNow.Lib.Alone
import ChopNow.Lib.Chains
import ChopNow.Proofs.SessionStep

/-! Sessions that are used one call at a time. A rotation hands its chain on to the new row;
whatever else happens to the rows only stamps them. -/

namespace ChopNow

open Alone Chains Relation Table

/-! A call that runs alone, every statement of it landing. -/

def SessionReply.lands : SessionReply → Bool
  | .fail _ => false
  | _ => true

def Refresh.Runs (s : Sessions) (t : Refresh) (s' : Sessions) (result : Except RefreshError IssuedTokens) : Prop :=
  Alone.Runs Refresh.step SessionReply.lands s t s' (.done result)

def Logout.Runs (s : Sessions) (raw : Token) (s' : Sessions) : Prop :=
  Alone.Runs Logout.step SessionReply.lands s (.called raw) s' .done

/-- verifyOtp and issueAdminSession from resolveDevice on; an admin's token lives by a `ttl`
of its own. -/
def Sessions.login (s : Sessions) (device : DeviceId) (token : Token) (ttl : Time) : Sessions :=
  { s with
    devices := if device ∈ s.devices then s.devices else s.devices ++ [device]
    tokens := signedRows s.tokens none device token (s.clock + ttl) s.clock }

inductive SessionCall (s : Sessions) : Sessions → Prop
  | login {device token ttl} (fresh : s.isNew token = true) : SessionCall s (s.login device token ttl)
  | refresh {raw deviceCookie s' result} (h : Refresh.Runs s (.received raw deviceCookie) s' result) : SessionCall s s'
  | logout {raw s'} (h : Logout.Runs s raw s') : SessionCall s s'
  | revokeAllSessions : SessionCall s s.revokeFamily
  | tick {elapsed} : SessionCall s { s with clock := s.clock + elapsed }

/-- One call after the other. -/
def SessionRun : Sessions → Sessions → Prop := ReflTransGen SessionCall

/-- What a refresh does to the sessions, and what it answers. -/
inductive RefreshEffect (s : Sessions) (raw : Token) : Sessions → Except RefreshError IssuedTokens → Prop
  | suspended (inactive : s.userActive = false) : RefreshEffect s raw s.revokeFamily (.error .userSuspended)
  | unmatched (none : s.matched raw = none) : RefreshEffect s raw s (.error .invalidOrExpired)
  | reuse {row} (found : s.matched raw = some row) (revoked : row.revokedAt.isSome) :
      RefreshEffect s raw s.revokeFamily (.error .reuseDetected)
  | mismatch {row} (found : s.matched raw = some row) : RefreshEffect s raw s.revokeFamily (.error .deviceMismatch)
  | rotated {row device token devices} (found : s.matched raw = some row) (active : row.revokedAt = none)
      (fresh : s.isNew token = true) :
      RefreshEffect s raw (Sessions.signTokens { s with devices } (some row.id) device token) (.ok ⟨token, device⟩)

section

variable {s s' : Sessions} {raw : Token} {result : Except RefreshError IssuedTokens}

/-! The points of a lone refresh, the last one first. -/

theorem runs_releasing {answer : Except RefreshError IssuedTokens} (h : Refresh.Runs s (.releasing raw answer) s' result) :
    s' = s.lock raw none ∧ result = answer := by
  obtain ⟨e, s₁, t₁, he, hst, hrest⟩ := Runs.next h (fun heq => by cases heq)
  cases refresh_cases hst with
  | thrown | caught => cases he
  | released =>
    obtain ⟨rfl, hdone⟩ := hrest.stopped fun e => by cases e <;> rfl
    exact ⟨rfl, Refresh.done.inj hdone⟩

theorem runs_rotating {row : TokenId} {device : DeviceId} (h : Refresh.Runs s (.rotating raw row device) s' result) :
    ∃ token, s.isNew token = true ∧ s' = (s.signTokens (some row) device token).lock raw none ∧
      result = .ok ⟨token, device⟩ := by
  obtain ⟨e, s₁, t₁, he, hst, hrest⟩ := Runs.next h (fun heq => by cases heq)
  cases refresh_cases hst with
  | thrown | caught => cases he
  | rotated hfresh =>
    obtain ⟨rfl, rfl⟩ := runs_releasing hrest
    exact ⟨_, hfresh, rfl, rfl⟩

theorem runs_minting {row : TokenId} (h : Refresh.Runs s (.minting raw row) s' result) :
    ∃ devices device token, s.isNew token = true ∧
      s' = (Sessions.signTokens { s with devices } (some row) device token).lock raw none ∧
      result = .ok ⟨token, device⟩ := by
  obtain ⟨e, s₁, t₁, he, hst, hrest⟩ := Runs.next h (fun heq => by cases heq)
  cases refresh_cases hst with
  | thrown | caught => cases he
  | minted =>
    obtain ⟨token, hfresh, rfl, rfl⟩ := runs_rotating hrest
    exact ⟨_, _, token, hfresh, rfl, rfl⟩

theorem runs_resolving {row : TokenId} {deviceCookie : Option DeviceId}
    (h : Refresh.Runs s (.resolving raw row deviceCookie) s' result) :
    ∃ devices device token, s.isNew token = true ∧
      s' = (Sessions.signTokens { s with devices } (some row) device token).lock raw none ∧
      result = .ok ⟨token, device⟩ := by
  obtain ⟨e, s₁, t₁, he, hst, hrest⟩ := Runs.next h (fun heq => by cases heq)
  cases refresh_cases hst with
  | thrown | caught => cases he
  | knownDevice =>
    obtain ⟨token, hfresh, rfl, rfl⟩ := runs_rotating hrest
    exact ⟨s.devices, _, token, hfresh, rfl, rfl⟩
  | unknownDevice => exact runs_minting hrest

theorem runs_reused (h : Refresh.Runs s (.reused raw) s' result) :
    s' = s.revokeFamily.lock raw none ∧ result = .error .reuseDetected := by
  obtain ⟨e, s₁, t₁, he, hst, hrest⟩ := Runs.next h (fun heq => by cases heq)
  cases refresh_cases hst with
  | thrown | caught => cases he
  | reuseRevoked => exact runs_releasing hrest

theorem runs_mismatched (h : Refresh.Runs s (.mismatched raw) s' result) :
    s' = s.revokeFamily.lock raw none ∧ result = .error .deviceMismatch := by
  obtain ⟨e, s₁, t₁, he, hst, hrest⟩ := Runs.next h (fun heq => by cases heq)
  cases refresh_cases hst with
  | thrown | caught => cases he
  | mismatchRevoked => exact runs_releasing hrest

theorem lock_unlocked {expiry : Option Time} (hfree : s.locks raw = none) :
    (s.lock raw expiry).lock raw none = s := by
  unfold Sessions.lock
  simp only [Function.update_idem]
  rw [← hfree, Function.update_eq_self]

/-- Whatever the refresh does under its lock, the lock comes and goes. -/
theorem runs_locked {expiry : Option Time} {deviceCookie : Option DeviceId} (hfree : s.locks raw = none)
    (h : Refresh.Runs (s.lock raw expiry) (.locked raw deviceCookie) s' result) : RefreshEffect s raw s' result := by
  obtain ⟨e, s₁, t₁, he, hst, hrest⟩ := Runs.next h (fun heq => by cases heq)
  cases refresh_cases hst with
  | thrown | caught => cases he
  | unmatched hnone =>
    obtain ⟨rfl, rfl⟩ := runs_releasing hrest
    rw [lock_unlocked hfree]
    exact .unmatched hnone
  | reuse hfound hrevoked =>
    obtain ⟨rfl, rfl⟩ := runs_reused hrest
    have hback : (s.lock raw expiry).revokeFamily.lock raw none = s.revokeFamily := lock_unlocked (s := s.revokeFamily) hfree
    rw [hback]
    exact .reuse hfound hrevoked
  | mismatch hfound =>
    obtain ⟨rfl, rfl⟩ := runs_mismatched hrest
    have hback : (s.lock raw expiry).revokeFamily.lock raw none = s.revokeFamily := lock_unlocked (s := s.revokeFamily) hfree
    rw [hback]
    exact .mismatch hfound
  | @recognised _ _ row hfound hactive =>
    obtain ⟨devices, device, token, hfresh, rfl, rfl⟩ := runs_resolving hrest
    have hback : (Sessions.signTokens { s.lock raw expiry with devices } (some row.id) device token).lock raw none =
        Sessions.signTokens { s with devices } (some row.id) device token :=
      lock_unlocked (s := Sessions.signTokens { s with devices } (some row.id) device token) hfree
    rw [hback]
    exact .rotated hfound hactive hfresh

theorem refresh_effect {deviceCookie : Option DeviceId} (hfree : s.locks raw = none)
    (h : Refresh.Runs s (.received raw deviceCookie) s' result) : RefreshEffect s raw s' result := by
  obtain ⟨e, s₁, t₁, he, hst, hrest⟩ := Runs.next h (fun heq => by cases heq)
  cases refresh_cases hst with
  | thrown | caught => cases he
  | inactive hinactive =>
    obtain ⟨e, s₂, t₂, he, hst, hrest⟩ := Runs.next hrest (fun heq => by cases heq)
    cases refresh_cases hst with
    | thrown | caught => cases he
    | wiped =>
      obtain ⟨rfl, hdone⟩ := hrest.stopped fun e => by cases e <;> rfl
      rw [Refresh.done.inj hdone]
      exact .suspended hinactive
  | active =>
    obtain ⟨e, s₂, t₂, he, hst, hrest⟩ := Runs.next hrest (fun heq => by cases heq)
    cases refresh_cases hst with
    | thrown | caught => cases he
    | inFlight hheld => exact absurd (by simp [Sessions.lockFree, hfree]) hheld
    | acquired => exact runs_locked hfree hrest

end

/-! The rows as a set of chains. -/

/-- The link that a rotation leaves on the row that it replaces. -/
def ReplacedBy (rows : List RefreshToken) (x y : TokenId) : Prop := ∃ row ∈ rows, row.id = x ∧ row.replacedBy = some y

/-- A link is left on a revoked row and leads to a later one, each to a row of its own. -/
structure Rotation (rows : List RefreshToken) : Prop where
  numbered : Numbered RefreshToken.id rows
  distinct : (rows.map RefreshToken.tokenHash).Nodup
  linked : ∀ row ∈ rows, ∀ y ∈ row.replacedBy, row.revokedAt.isSome ∧ row.id < y ∧ y < rows.length
  once : ∀ row ∈ rows, ∀ row' ∈ rows, ∀ y ∈ row.replacedBy, y ∈ row'.replacedBy → row = row'

/-- A row is stamped at most. -/
structure OnlyStamps (f : RefreshToken → RefreshToken) : Prop extends KeepsRow f where
  tokenHash : ∀ row, (f row).tokenHash = row.tokenHash
  replacedBy : ∀ row, (f row).replacedBy = row.replacedBy

section

variable {rows : List RefreshToken} {row row' : RefreshToken} {now expiresAt : Time}

theorem Rotation.nil : Rotation [] := ⟨rfl, List.nodup_nil, by simp, by simp⟩

theorem Rotation.replacedBy_chained (h : Rotation rows) : Chained (ReplacedBy rows) where
  oneNext := by
    rintro x y z ⟨row, hrow, hid, hy⟩ ⟨row', hrow', hid', hz⟩
    obtain rfl := h.numbered.inj hrow hrow' (hid.trans hid'.symm)
    exact Option.some.inj (hy.symm.trans hz)
  onePrevious := by
    rintro x y z ⟨row, hrow, rfl, hz⟩ ⟨row', hrow', rfl, hz'⟩
    rw [h.once row hrow row' hrow' z hz hz']
  acyclic := acyclic_of_lt (fun x => x) (by
    rintro x y ⟨row, hrow, rfl, hy⟩
    exact (h.linked row hrow y hy).2.1)

/-- An active row ends its chain. -/
theorem Rotation.active_end (h : Rotation rows) (hrow : row ∈ rows) (hactive : row.revokedAt = none) (y : TokenId) :
    ¬ReplacedBy rows row.id y := by
  rintro ⟨row', hrow', hid, hy⟩
  obtain rfl := h.numbered.inj hrow' hrow hid
  have hrevoked := (h.linked row' hrow' y hy).1
  rw [hactive] at hrevoked
  cases hrevoked

theorem Rotation.one_active (h : Rotation rows) (hrow : row ∈ rows) (hrow' : row' ∈ rows) (hactive : row.revokedAt = none)
    (hactive' : row'.revokedAt = none) (hchain : EqvGen (ReplacedBy rows) row.id row'.id) : row = row' :=
  h.numbered.inj hrow hrow' (h.replacedBy_chained.end_unique hchain (h.active_end hrow hactive) (h.active_end hrow' hactive'))

theorem Rotation.stamped {f : RefreshToken → RefreshToken} (h : Rotation rows) (hf : OnlyStamps f) : Rotation (rows.map f) where
  numbered := h.numbered.map hf.id
  distinct := by
    rw [List.map_map]
    exact (List.map_congr_left fun row _ => hf.tokenHash row) ▸ h.distinct
  linked := fun row hrow y hy => by
    obtain ⟨r, hr, rfl⟩ := List.mem_map.1 hrow
    rw [hf.replacedBy] at hy
    obtain ⟨hrevoked, hlt, hbound⟩ := h.linked r hr y hy
    exact ⟨hf.revoked r hrevoked, by rwa [hf.id], by rwa [List.length_map]⟩
  once := fun row hrow row' hrow' y hy hy' => by
    obtain ⟨r, hr, rfl⟩ := List.mem_map.1 hrow
    obtain ⟨r', hr', rfl⟩ := List.mem_map.1 hrow'
    rw [hf.replacedBy] at hy hy'
    rw [h.once r hr r' hr' y hy hy']

theorem onlyStamps_revoke (now : Time) : OnlyStamps (RefreshToken.revoke now) where
  toKeepsRow := keepsRow_revoke now
  tokenHash := fun row => by unfold RefreshToken.revoke; split <;> rfl
  replacedBy := fun row => by unfold RefreshToken.revoke; split <;> rfl

theorem onlyStamps_logout (id : TokenId) (now : Time) :
    OnlyStamps fun row => if row.id = id then { row with revokedAt := some now } else row where
  toKeepsRow := keepsRow_stamp (fun row => row.id = id) now RefreshToken.replacedBy
  tokenHash := fun row => by split <;> rfl
  replacedBy := fun row => by split <;> rfl

/-- The row of a rotation, as signTokens leaves it. -/
def RefreshToken.rotated (row : RefreshToken) (now : Time) (successor : TokenId) : RefreshToken :=
  { row with revokedAt := some now, replacedBy := some successor }

/-- The row that signTokens adds. -/
def RefreshToken.issued (id : TokenId) (replaces : Option TokenId) (device : DeviceId) (token : Token) (expiresAt : Time) :
    RefreshToken :=
  { id := id, tokenHash := token, deviceId := some device, expiresAt := expiresAt, replaces := replaces }

theorem signedRows_eq (replaces : Option TokenId) (device : DeviceId) (token : Token) :
    signedRows rows replaces device token expiresAt now =
      (rows.map fun row => if some row.id = replaces then row.rotated now rows.length else row) ++
        [.issued rows.length replaces device token expiresAt] := rfl

theorem signedRows_mem {replaces : Option TokenId} {device : DeviceId} {token : Token}
    (h : row ∈ signedRows rows replaces device token expiresAt now) :
    (row ∈ rows ∧ some row.id ≠ replaces) ∨ (∃ r ∈ rows, some r.id = replaces ∧ row = r.rotated now rows.length) ∨
      row = .issued rows.length replaces device token expiresAt := by
  rcases List.mem_append.1 h with h | h
  · obtain ⟨r, hr, rfl⟩ := List.mem_map.1 h
    split
    · next hid => exact .inr (.inl ⟨r, hr, hid, rfl⟩)
    · next hid => exact .inl ⟨hr, hid⟩
  · exact .inr (.inr (List.mem_singleton.1 h))

theorem signedRows_length (replaces : Option TokenId) (device : DeviceId) (token : Token) :
    (signedRows rows replaces device token expiresAt now).length = rows.length + 1 := by
  simp [signedRows]

/-- A new token starts a chain, or goes on with that of the row it replaces. -/
theorem Rotation.signed (h : Rotation rows) {replaces : Option TokenId} {device : DeviceId} {token : Token}
    (hfresh : ∀ row ∈ rows, row.tokenHash ≠ token) : Rotation (signedRows rows replaces device token expiresAt now) where
  numbered := by
    have hkeeps : KeepsRow fun row => if some row.id = replaces then row.rotated now rows.length else row :=
      keepsRow_stamp (fun row => some row.id = replaces) now fun _ => some rows.length
    rw [signedRows_eq]
    exact (h.numbered.map hkeeps.id).append (by simp [RefreshToken.issued])
  distinct := by
    have hkept : (rows.map fun row => if some row.id = replaces then row.rotated now rows.length else row).map
        RefreshToken.tokenHash = rows.map RefreshToken.tokenHash := by
      rw [List.map_map]
      exact List.map_congr_left fun row _ => by simp only [Function.comp_apply]; split <;> rfl
    rw [signedRows_eq, List.map_append, hkept]
    refine List.nodup_append.2 ⟨h.distinct, List.nodup_singleton _, fun a ha b hb => ?_⟩
    obtain ⟨r, hr, rfl⟩ := List.mem_map.1 ha
    obtain rfl := List.mem_singleton.1 hb
    exact hfresh r hr
  linked := fun row hrow y hy => by
    rw [signedRows_length]
    rcases signedRows_mem hrow with ⟨hr, -⟩ | ⟨r, hr, -, rfl⟩ | rfl
    · obtain ⟨hrevoked, hlt, hbound⟩ := h.linked row hr y hy
      exact ⟨hrevoked, hlt, Nat.lt_succ_of_lt hbound⟩
    · obtain rfl := Option.some.inj hy
      have hlt : r.id < rows.length := h.numbered.lt hr
      exact ⟨rfl, hlt, Nat.lt_succ_self _⟩
    · cases hy
  once := fun row hrow row' hrow' y hy hy' => by
    rcases signedRows_mem hrow with ⟨hr, hid⟩ | ⟨r, hr, hid, rfl⟩ | rfl
    all_goals rcases signedRows_mem hrow' with ⟨hr', hid'⟩ | ⟨r', hr', hid', rfl⟩ | rfl
    · exact h.once row hr row' hr' y hy hy'
    · obtain rfl := Option.some.inj hy'
      exact absurd (h.linked row hr _ hy).2.2 (lt_irrefl _)
    · cases hy'
    · obtain rfl := Option.some.inj hy
      exact absurd (h.linked row' hr' _ hy').2.2 (lt_irrefl _)
    · rw [h.numbered.inj hr hr' (Option.some.inj (hid.trans hid'.symm))]
    · cases hy'
    all_goals cases hy

end

/-! What a run keeps. -/

structure Sessions.Sound (ttl : Time) (s : Sessions) : Prop where
  rotation : Rotation s.tokens
  unlocked : ∀ raw, s.locks raw = none
  refreshTtl : s.refreshTtl = ttl

section

variable {s s' : Sessions} {raw : Token} {row : RefreshToken} {ttl : Time}

theorem isNew_iff {token : Token} : s.isNew token = true ↔ ∀ row ∈ s.tokens, row.tokenHash ≠ token := by
  simp [Sessions.isNew]

/-- A row that has not expired is the one that its token matches. -/
theorem Rotation.matched (h : Rotation s.tokens) (hrow : row ∈ s.tokens) (hlive : s.clock < row.expiresAt) :
    s.matched row.tokenHash = some row := by
  cases hfound : s.matched row.tokenHash with
  | none =>
    have hnone := List.find?_eq_none.1 hfound row (by simp [hrow, hlive])
    simp at hnone
  | some row' =>
    obtain ⟨hrow', hhash, -⟩ := matched_some hfound
    rw [List.inj_on_of_nodup_map h.distinct hrow' hrow hhash]

theorem logout_effect (h : Logout.Runs s raw s') :
    s' = s ∨ ∃ id, s' = { s with tokens := s.tokens.map fun row =>
      if row.id = id then { row with revokedAt := some s.clock } else row } := by
  obtain ⟨e, s₁, t₁, he, hst, hrest⟩ := Runs.next h (fun heq => by cases heq)
  cases e with
  | fail reason => cases he
  | drawn random => cases hst
  | ok =>
    simp only [Logout.step] at hst
    split at hst <;> obtain ⟨rfl, rfl⟩ := Prod.mk.inj (Option.some.inj hst)
    · exact .inl (hrest.stopped fun e => by cases e <;> rfl).1
    · obtain ⟨e, s₂, t₂, he, hst, hrest⟩ := Runs.next hrest (fun heq => by cases heq)
      cases e with
      | fail reason => cases he
      | drawn random => cases hst
      | ok =>
        obtain ⟨rfl, rfl⟩ := Prod.mk.inj (Option.some.inj hst)
        exact .inr ⟨_, (hrest.stopped fun e => by cases e <;> rfl).1⟩

theorem Sessions.Sound.revokeFamily (h : s.Sound ttl) : s.revokeFamily.Sound ttl :=
  { h with rotation := h.rotation.stamped (onlyStamps_revoke s.clock) }

theorem Sessions.Sound.call (h : s.Sound ttl) (hcall : SessionCall s s') : s'.Sound ttl := by
  cases hcall with
  | login hfresh => exact { h with rotation := h.rotation.signed (isNew_iff.1 hfresh) }
  | refresh hrun =>
    cases refresh_effect (h.unlocked _) hrun with
    | suspended | reuse | mismatch => exact h.revokeFamily
    | unmatched => exact h
    | rotated _ _ hfresh => exact { h with rotation := h.rotation.signed (isNew_iff.1 hfresh) }
  | logout hrun =>
    rcases logout_effect hrun with rfl | ⟨id, rfl⟩
    · exact h
    · exact { h with rotation := h.rotation.stamped (onlyStamps_logout id s.clock) }
  | revokeAllSessions => exact h.revokeFamily
  | tick => exact { h with }

theorem Sessions.Sound.run (h : s.Sound ttl) (hrun : SessionRun s s') : s'.Sound ttl := by
  induction hrun with
  | refl => exact h
  | tail _ hcall ih => exact ih.call hcall

/-! The two kinds of refresh that the discipline is about. -/

/-- The user's active tokens that have not expired. -/
def Sessions.activeUnexpired (s : Sessions) : ℕ :=
  s.tokens.countP fun row => row.revokedAt.isNone && decide (s.clock < row.expiresAt)

theorem activeUnexpired_rotated (h : Rotation s.tokens) (httl : 0 < s.refreshTtl) (hfound : s.matched raw = some row)
    (hactive : row.revokedAt = none) (devices : List DeviceId) (device : DeviceId) (token : Token) :
    (Sessions.signTokens { s with devices } (some row.id) device token).activeUnexpired = s.activeUnexpired := by
  obtain ⟨hrow, -, hlive⟩ := matched_some hfound
  have hcount := countP_update h.numbered.nodup hrow
    (fun row => row.revokedAt.isNone && decide (s.clock < row.expiresAt)) fun row => row.rotated s.clock s.tokens.length
  have hnew : s.clock < s.clock + s.refreshTtl := Nat.lt_add_of_pos_right httl
  simp only [hactive, hlive, Option.isNone_none, decide_true, Bool.and_self, if_pos, RefreshToken.rotated,
    Option.isNone_some, Bool.false_and, Bool.false_eq_true, if_false, Nat.add_zero] at hcount
  simp only [Sessions.activeUnexpired, Sessions.signTokens, signedRows_eq, List.countP_append, List.countP_singleton,
    RefreshToken.issued, Option.isNone_none, hnew, decide_true, Bool.and_self, if_pos, Option.some.injEq,
    RefreshToken.rotated]
  exact hcount

/-- The rows of a rotation, told by the row and not by its id. -/
theorem signedRows_rotated (h : Rotation s.tokens) (hrow : row ∈ s.tokens) (device : DeviceId) (token : Token)
    (expiresAt : Time) :
    signedRows s.tokens (some row.id) device token expiresAt s.clock =
      (s.tokens.map fun r => if r = row then { r with revokedAt := some s.clock, replacedBy := some s.tokens.length }
        else r) ++ [.issued s.tokens.length (some row.id) device token expiresAt] := by
  rw [signedRows_eq]
  congr 1
  refine List.map_congr_left fun r hr => ?_
  by_cases heq : r = row
  · rw [if_pos (by rw [heq]), if_pos heq]
    rfl
  · rw [if_neg fun hid => heq (h.numbered.inj hr hrow (Option.some.inj hid)), if_neg heq]

theorem revokeFamily_revoked : ∀ row ∈ s.revokeFamily.tokens, row.revokedAt.isSome := fun row hrow => by
  obtain ⟨r, -, rfl⟩ := List.mem_map.1 hrow
  unfold RefreshToken.revoke
  split
  · rfl
  · next hsome => simpa [Option.isSome_iff_ne_none] using hsome

/-- A refresh with a revoked token comes to its end. -/
theorem refresh_refused (hfree : s.locks raw = none) (hfound : s.matched raw = some row) (hrevoked : row.revokedAt.isSome)
    (deviceCookie : Option DeviceId) :
    ∃ s' err, Refresh.Runs s (.received raw deviceCookie) s' (.error err) := by
  by_cases hactive : s.userActive = true
  · set locked := s.lock raw (some (s.clock + REFRESH_INFLIGHT_LOCK_SECONDS * 1000)) with hlocked
    have hreceived : Refresh.step s (.received raw deviceCookie) .ok = some (s, .locking raw deviceCookie) := if_pos hactive
    have hlocking : Refresh.step s (.locking raw deviceCookie) .ok = some (locked, .locked raw deviceCookie) := by
      simp only [Refresh.step, hfree]
      rfl
    have hread : Refresh.step locked (.locked raw deviceCookie) .ok = some (locked, .reused raw) := by
      have hfound' : locked.matched raw = some row := hfound
      simp only [Refresh.step, hfound', if_pos hrevoked]
    have hreused : Refresh.step locked (.reused raw) .ok =
        some (locked.revokeFamily, .releasing raw (.error .reuseDetected)) := rfl
    exact ⟨_, .reuseDetected, .head rfl hreceived (.head rfl hlocking (.head rfl hread (.head rfl hreused
      (.head (e := .ok) rfl rfl .refl))))⟩
  · have hreceived : Refresh.step s (.received raw deviceCookie) .ok = some (s, .suspended) := if_neg hactive
    exact ⟨_, .userSuspended, .head rfl hreceived (.head (e := .ok) rfl rfl .refl)⟩

end

/-- Sessions of a user who has not signed in yet. -/
structure Sessions.Unused (s : Sessions) : Prop where
  tokens : s.tokens = []
  locks : ∀ raw, s.locks raw = none
  refreshTtl : 0 < s.refreshTtl

/-- In a run of one call after the other: the links form chains with one active row each at
most; a refresh that succeeds hands the presented token's place to the new one; a refresh
with a token that was rotated or revoked is refused and signs the user out. -/
theorem rotation_discipline {s₀ s : Sessions} (h₀ : s₀.Unused) (hrun : SessionRun s₀ s) :
    Chained (ReplacedBy s.tokens) ∧
    (∀ row ∈ s.tokens, ∀ row' ∈ s.tokens, row.revokedAt = none → row'.revokedAt = none →
      EqvGen (ReplacedBy s.tokens) row.id row'.id → row = row') ∧
    (∀ raw deviceCookie s' issued, Refresh.Runs s (.received raw deviceCookie) s' (.ok issued) →
      s'.activeUnexpired = s.activeUnexpired ∧
      ∃ row ∈ s.tokens, row.tokenHash = raw ∧ row.revokedAt = none ∧
        ∃ new : RefreshToken, new.tokenHash = issued.refreshToken ∧ new.revokedAt = none ∧ new.replacedBy = none ∧
          (∀ r ∈ s.tokens, r.id ≠ new.id) ∧
          s'.tokens = (s.tokens.map fun r =>
            if r = row then { r with revokedAt := some s.clock, replacedBy := some new.id } else r) ++ [new]) ∧
    (∀ row ∈ s.tokens, row.revokedAt.isSome ∨ row.replacedBy.isSome → s.clock < row.expiresAt → ∀ deviceCookie,
      (∃ s' err, Refresh.Runs s (.received row.tokenHash deviceCookie) s' (.error err)) ∧
      ∀ s' result, Refresh.Runs s (.received row.tokenHash deviceCookie) s' result →
        (∀ issued, result ≠ .ok issued) ∧ ∀ r ∈ s'.tokens, r.revokedAt.isSome) := by
  have hsound : s.Sound s₀.refreshTtl := by
    refine Sessions.Sound.run ⟨?_, h₀.locks, rfl⟩ hrun
    rw [h₀.tokens]
    exact .nil
  have hrotation := hsound.rotation
  refine ⟨hrotation.replacedBy_chained, fun row hrow row' hrow' => hrotation.one_active hrow hrow', ?_, ?_⟩
  · intro raw deviceCookie s' issued hrefresh
    cases refresh_effect (hsound.unlocked raw) hrefresh with
    | @rotated row device token devices hfound hactive hfresh =>
      obtain ⟨hrow, hhash, -⟩ := matched_some hfound
      refine ⟨activeUnexpired_rotated hrotation (hsound.refreshTtl ▸ h₀.refreshTtl) hfound hactive devices device token,
        row, hrow, hhash, hactive, .issued s.tokens.length (some row.id) device token _, rfl, rfl, rfl, ?_,
        signedRows_rotated hrotation hrow device token _⟩
      exact fun r hr => Nat.ne_of_lt (hrotation.numbered.lt hr)
  · intro row hrow hrevoked hlive deviceCookie
    have hstamped : row.revokedAt.isSome := hrevoked.elim id fun hreplaced =>
      (hrotation.linked row hrow _ (Option.some_get hreplaced).symm).1
    have hfound := hrotation.matched hrow hlive
    refine ⟨refresh_refused (hsound.unlocked _) hfound hstamped deviceCookie, fun s' result hrefresh => ?_⟩
    cases refresh_effect (hsound.unlocked _) hrefresh with
    | suspended | reuse | mismatch => exact ⟨fun _ hok => (by cases hok), revokeFamily_revoked⟩
    | unmatched hnone => rw [hfound] at hnone; cases hnone
    | rotated hfound' hactive =>
      obtain rfl := Option.some.inj (hfound.symm.trans hfound')
      rw [hactive] at hstamped
      cases hstamped

/-- A user who has not signed in, on no device. -/
def unusedSessions : Sessions where
  userActive := true
  tokens := []
  devices := []
  locks := fun _ => none
  refreshTtl := 2592000000
  clock := 0

/-- A sign-in that is rotated once; token 7 is then worth nothing. -/
theorem rotated_once :
    ∃ s, SessionRun unusedSessions s ∧
      s.tokens.map (fun row => (row.tokenHash, row.revokedAt.isSome, row.replacedBy)) =
        [(7, true, some 1), (8, false, none)] ∧
      ∀ row ∈ s.tokens, row.tokenHash = 7 → ∀ deviceCookie s' result,
        Refresh.Runs s (.received row.tokenHash deviceCookie) s' result → ∀ r ∈ s'.tokens, r.revokedAt.isSome := by
  have hlogin : SessionCall unusedSessions (unusedSessions.login 3 7 86400000) := .login rfl
  have hrefresh : ∃ s', Refresh.Runs (unusedSessions.login 3 7 86400000) (.received 7 (some 3)) s' (.ok ⟨8, 3⟩) ∧
      s'.tokens.map (fun row => (row.tokenHash, row.revokedAt.isSome, row.replacedBy)) =
        [(7, true, some 1), (8, false, none)] ∧
      ∀ row ∈ s'.tokens, row.tokenHash = 7 → row.revokedAt.isSome ∧ s'.clock < row.expiresAt := by
    refine ⟨_, .head (e := .ok) rfl rfl (.head (e := .ok) rfl rfl (.head (e := .ok) rfl rfl (.head (e := .ok) rfl rfl
      (.head (e := .drawn 8) rfl rfl (.head (e := .ok) rfl rfl .refl))))), by decide, by decide⟩
  obtain ⟨s, hruns, hrows, hlive⟩ := hrefresh
  have hrun : SessionRun unusedSessions s := .tail (.single hlogin) (.refresh hruns)
  refine ⟨s, hrun, hrows, fun row hrow hhash deviceCookie s' result hpresented => ?_⟩
  obtain ⟨-, -, -, hreuse⟩ := rotation_discipline ⟨rfl, fun _ => rfl, by decide⟩ hrun
  have hrevoked := hlive row hrow hhash
  exact ((hreuse row hrow (.inl hrevoked.1) hrevoked.2 deviceCookie).2 s' result hpresented).2

end ChopNow
