import ChopNow.Proofs.SessionStep
import ChopNow.Spec.Tokens

/-! How long the refresh tokens of an admin live, and whose role the minted tokens carry. The
admin lifetime and the role are arguments of the first sign-in; a rotation takes the default
lifetime, and the role from the token that was presented. -/

namespace ChopNow

open Interleave Table

/-- Each row of a chain that issueAdminSession started lives as an admin's should. -/
def Tokens.AdminShort (s : Tokens) : Prop :=
  ∀ p ∈ s.signed, p.fromAdmin = true → ∀ row ∈ s.sessions.tokens, row.id = p.row →
    row.expiresAt ≤ p.issuedAt + s.jwtAdminRefreshTtl

/-- What refresh minted carries the role that the user had. -/
def Tokens.RoleTrue (s : Tokens) : Prop :=
  ∀ p ∈ s.signed, (∃ row, p.origin = .refresh row) → p.access.role = p.userRole ∧ p.refresh.role = p.userRole

def Tokens.Keeps (s : Tokens) : Prop := s.AdminShort ∧ s.RoleTrue

/-- A rotation is called with the role that the user has, and is none of an admin's session
unless the default lifetime is no longer than an admin's. -/
def rotatesTrue : Guard Tokens TokenThread TokenEvent SessionReply := fun s _ m =>
  match m with
  | .step (.refresh role (.rotating _ row _)) (.drawn _) =>
    role = s.role ∧ (s.ofAdmin row = true → s.sessions.refreshTtl ≤ s.jwtAdminRefreshTtl)
  | _ => True

/-! Each row has its pair. -/

/-- Id and expiry. -/
def RefreshToken.term (row : RefreshToken) : TokenId × Time := (row.id, row.expiresAt)

/-- When the row of a pair expires. -/
def Tokens.rowExpiry (s : Tokens) (p : SignedPair) : Time :=
  p.issuedAt + if p.origin = .issueAdminSession then s.jwtAdminRefreshTtl else s.sessions.refreshTtl

structure Tokens.Paired (s : Tokens) : Prop where
  rows : s.sessions.tokens.map RefreshToken.term = s.signed.map fun p => (p.row, s.rowExpiry p)
  numbered : Numbered SignedPair.row s.signed

section

variable {s s' : Tokens} {x x' : Sessions} {t t' : TokenThread} {e : SessionReply}

theorem Tokens.Paired.length (h : s.Paired) : s.sessions.tokens.length = s.signed.length := by
  simpa using congrArg List.length h.rows

theorem Tokens.Paired.row (h : s.Paired) {p : SignedPair} (hp : p ∈ s.signed) {row : RefreshToken}
    (hrow : row ∈ s.sessions.tokens) (hid : row.id = p.row) : row.expiresAt = s.rowExpiry p := by
  have hterm : row.term ∈ s.signed.map fun p => (p.row, s.rowExpiry p) := h.rows ▸ List.mem_map_of_mem hrow
  obtain ⟨q, hq, heq⟩ := List.mem_map.1 hterm
  obtain ⟨hqid, hqexp⟩ := Prod.mk.inj heq
  rw [← h.numbered.inj hq hp (hqid.trans hid), hqexp]

/-- A pair that is signed has a row. -/
theorem Tokens.Paired.exists_row (h : s.Paired) {p : SignedPair} (hp : p ∈ s.signed) :
    ∃ row ∈ s.sessions.tokens, row.id = p.row := by
  have hterm : (p.row, s.rowExpiry p) ∈ s.sessions.tokens.map RefreshToken.term :=
    h.rows ▸ List.mem_map_of_mem (f := fun p => (p.row, s.rowExpiry p)) hp
  obtain ⟨row, hrow, heq⟩ := List.mem_map.1 hterm
  exact ⟨row, hrow, (Prod.mk.inj heq).1⟩

/-- Of the pairs alone, where each has its row. -/
theorem Tokens.Paired.adminShort_iff (h : s.Paired) :
    s.AdminShort ↔ ∀ p ∈ s.signed, p.fromAdmin = true → s.rowExpiry p ≤ p.issuedAt + s.jwtAdminRefreshTtl := by
  refine forall₃_congr fun p hp _ => ⟨fun hshort => ?_, fun hle row hrow hid => ?_⟩
  · obtain ⟨row, hrow, hid⟩ := h.exists_row hp
    exact h.row hp hrow hid ▸ hshort row hrow hid
  · exact h.row hp hrow hid ▸ hle

/-! What a step writes. -/

theorem revokeFamily_terms (x : Sessions) : x.revokeFamily.tokens.map RefreshToken.term = x.tokens.map RefreshToken.term := by
  rw [Sessions.revokeFamily, List.map_map]
  refine List.map_congr_left fun row _ => ?_
  simp only [Function.comp, RefreshToken.revoke]
  split <;> rfl

theorem signedRows_terms (rows : List RefreshToken) (replaces : Option TokenId) (device : DeviceId) (token : Token)
    (expiresAt now : Time) :
    (signedRows rows replaces device token expiresAt now).map RefreshToken.term =
      rows.map RefreshToken.term ++ [(rows.length, expiresAt)] := by
  rw [signedRows, List.map_append]
  exact congrArg₂ _ (column_update fun _ => rfl) rfl

/-- The pairs that were signed, with their rows; everything older is as it was. -/
structure Wrote (s : Tokens) (new : Option SignedPair) (s' : Tokens) : Prop where
  signed : s'.signed = s.signed ++ new.toList
  rows : s'.sessions.tokens.map RefreshToken.term =
    s.sessions.tokens.map RefreshToken.term ++ new.toList.map fun p => (p.row, s.rowExpiry p)
  next : ∀ p ∈ new, p.row = s.sessions.tokens.length
  refreshTtl : s'.sessions.refreshTtl = s.sessions.refreshTtl
  adminTtl : s'.jwtAdminRefreshTtl = s.jwtAdminRefreshTtl

theorem Wrote.nothing (hsigned : s'.signed = s.signed)
    (hrows : s'.sessions.tokens.map RefreshToken.term = s.sessions.tokens.map RefreshToken.term)
    (hrefresh : s'.sessions.refreshTtl = s.sessions.refreshTtl)
    (hadmin : s'.jwtAdminRefreshTtl = s.jwtAdminRefreshTtl) : Wrote s none s' where
  signed := by simpa using hsigned
  rows := by simpa using hrows
  next := by simp
  refreshTtl := hrefresh
  adminTtl := hadmin

theorem Wrote.rowExpiry {new : Option SignedPair} (h : Wrote s new s') (p : SignedPair) :
    s'.rowExpiry p = s.rowExpiry p := by
  rw [Tokens.rowExpiry, Tokens.rowExpiry, h.refreshTtl, h.adminTtl]

theorem Wrote.paired {new : Option SignedPair} (h : Wrote s new s') (hpaired : s.Paired) : s'.Paired := by
  constructor
  · simp only [h.rows, h.signed, h.rowExpiry, List.map_append, hpaired.rows]
  · rw [h.signed]
    cases new with
    | none => simpa using hpaired.numbered
    | some p => exact hpaired.numbered.append ((h.next p rfl).trans hpaired.length)

/-- What a new pair owes. -/
def Tokens.Owes (s : Tokens) (p : SignedPair) : Prop :=
  (p.fromAdmin = true → s.rowExpiry p ≤ p.issuedAt + s.jwtAdminRefreshTtl) ∧
    ((∃ row, p.origin = .refresh row) → p.access.role = p.userRole ∧ p.refresh.role = p.userRole)

theorem Wrote.keeps_iff {new : Option SignedPair} (h : Wrote s new s') (hpaired : s.Paired) (hkeeps : s.Keeps) :
    s'.Keeps ↔ ∀ p ∈ new, s.Owes p := by
  rw [Tokens.Keeps, (h.paired hpaired).adminShort_iff, Tokens.RoleTrue]
  simp only [h.signed, h.rowExpiry, h.adminTtl, List.mem_append, Option.mem_toList]
  have hold := hpaired.adminShort_iff.1 hkeeps.1
  constructor
  · rintro ⟨hshort, hrole⟩ p hp
    exact ⟨hshort p (.inr hp), hrole p (.inr hp)⟩
  · intro howes
    exact ⟨fun p hp => hp.elim (hold p) fun hp => (howes p hp).1,
      fun p hp => hp.elim (hkeeps.2 p) fun hp => (howes p hp).2⟩

theorem refresh_wrote {role : UserRole} {t t' : Refresh} (h : t.step s.sessions e = some (x', t')) :
    Wrote s (s.signs role t e) { s with sessions := x', signed := s.signed ++ (s.signs role t e).toList } := by
  cases refresh_cases h with
  | @rotated raw row device token fresh =>
    refine ⟨rfl, ?_, ?_, rfl, rfl⟩
    · exact signedRows_terms _ _ _ _ _ _
    · rintro p hp
      obtain rfl := Option.some.inj hp
      rfl
  | wiped | reuseRevoked | mismatchRevoked =>
    exact .nothing (List.append_nil _) (revokeFamily_terms _) rfl rfl
  | thrown | caught =>
    have hnone : ∀ reason, s.signs role t (.fail reason) = none := fun reason => by cases t <;> rfl
    rw [hnone]
    exact .nothing (List.append_nil _) rfl rfl rfl
  | _ => exact .nothing (List.append_nil _) rfl rfl rfl

theorem logout_terms {t t' : Logout} (h : t.step x e = some (x', t')) :
    x'.tokens.map RefreshToken.term = x.tokens.map RefreshToken.term ∧ x'.refreshTtl = x.refreshTtl := by
  cases t <;> cases e <;> simp only [Logout.step, Option.some.injEq, Prod.mk.injEq, reduceCtorEq] at h
  · split at h <;> obtain ⟨rfl, -⟩ := Prod.mk.inj (Option.some.inj h) <;> exact ⟨rfl, rfl⟩
  · obtain ⟨rfl, -⟩ := h
    exact ⟨rfl, rfl⟩
  · obtain ⟨rfl, -⟩ := h
    exact ⟨column_update fun _ => rfl, rfl⟩
  · obtain ⟨rfl, -⟩ := h
    exact ⟨rfl, rfl⟩

theorem signIn_wrote {role : UserRole} {origin : Origin} {device : DeviceId} {token : Token} {ttl : Time}
    {ts : List TokenThread} (h : s.signIn role origin device token ttl = some (s', ts))
    (httl : ttl = if origin = .issueAdminSession then s.jwtAdminRefreshTtl else s.sessions.refreshTtl) :
    Wrote s (some (s.sign role origin token ttl)) s' := by
  unfold Tokens.signIn at h
  split at h
  · obtain ⟨rfl, rfl⟩ := Prod.mk.inj (Option.some.inj h)
    refine ⟨rfl, ?_, ?_, rfl, rfl⟩
    · rw [signedRows_terms, httl]
      rfl
    · rintro p hp
      obtain rfl := Option.some.inj hp
      rfl
  · cases h

/-- What an event or a step signs. -/
def tokensSigned (s : Tokens) : Move TokenThread TokenEvent SessionReply → Option SignedPair
  | .event (.verifyOtp _ token) => some (s.sign s.role .verifyOtp token s.sessions.refreshTtl)
  | .event (.issueAdminSession role _ token) => some (s.sign role .issueAdminSession token s.jwtAdminRefreshTtl)
  | .step (.refresh role t) e => s.signs role t e
  | _ => none

theorem tokenEvent_wrote {n : TokenEvent} {ts : List TokenThread} (h : tokenMachine.event s n = some (s', ts)) :
    Wrote s (tokensSigned s (.event n)) s' := by
  cases n with
  | verifyOtp device token => exact signIn_wrote h rfl
  | issueAdminSession role device token => exact signIn_wrote h rfl
  | refresh raw deviceCookie =>
    simp only [tokenMachine, tokenEvent] at h
    split at h <;> obtain ⟨rfl, -⟩ := Prod.mk.inj (Option.some.inj h) <;> exact .nothing rfl rfl rfl rfl
  | revokeAllSessions =>
    obtain ⟨rfl, -⟩ := Prod.mk.inj (Option.some.inj h)
    exact .nothing rfl (revokeFamily_terms _) rfl rfl
  | _ =>
    obtain ⟨rfl, -⟩ := Prod.mk.inj (Option.some.inj h)
    exact .nothing rfl rfl rfl rfl

theorem tokenStep_wrote {ts : List TokenThread} (h : tokenMachine.step s t e = some (s', ts)) :
    Wrote s (tokensSigned s (.step t e)) s' := by
  obtain ⟨⟨s₁, t₁⟩, hst, hr⟩ := Option.map_eq_some_iff.1 h
  obtain ⟨rfl, -⟩ := Prod.mk.inj hr
  cases t with
  | refresh role t =>
    obtain ⟨⟨x', t'⟩, ht, hr⟩ := Option.map_eq_some_iff.1 hst
    obtain ⟨rfl, -⟩ := Prod.mk.inj hr
    exact refresh_wrote ht
  | logout t =>
    obtain ⟨⟨x', t'⟩, ht, hr⟩ := Option.map_eq_some_iff.1 hst
    obtain ⟨rfl, -⟩ := Prod.mk.inj hr
    exact .nothing rfl (logout_terms ht).1 (logout_terms ht).2 rfl

/-! What each pair owes. -/

/-- Only the step that rotates signs anything. -/
theorem signs_some {role : UserRole} {t : Refresh} {p : SignedPair} (h : s.signs role t e = some p) :
    ∃ raw row device token, t = .rotating raw row device ∧ e = .drawn token := by
  unfold Tokens.signs at h
  split at h
  · exact ⟨_, _, _, _, rfl, rfl⟩
  · cases h

theorem owes_verifyOtp (token : Token) : s.Owes (s.sign s.role .verifyOtp token s.sessions.refreshTtl) :=
  ⟨fun h => (by cases h), fun ⟨_, h⟩ => (by cases h)⟩

theorem owes_issueAdminSession (role : UserRole) (token : Token) :
    s.Owes (s.sign role .issueAdminSession token s.jwtAdminRefreshTtl) :=
  ⟨fun _ => le_rfl, fun ⟨_, h⟩ => (by cases h)⟩

theorem owes_refresh_iff {role : UserRole} {row : TokenId} {token : Token} :
    s.Owes (s.sign role (.refresh row) token s.sessions.refreshTtl) ↔
      role = s.role ∧ (s.ofAdmin row = true → s.sessions.refreshTtl ≤ s.jwtAdminRefreshTtl) := by
  have hexpiry : s.rowExpiry (s.sign role (.refresh row) token s.sessions.refreshTtl) =
    s.sessions.clock + s.sessions.refreshTtl := rfl
  have hissued : (s.sign role (.refresh row) token s.sessions.refreshTtl).issuedAt = s.sessions.clock := rfl
  rw [Tokens.Owes, hexpiry, hissued, Nat.add_le_add_iff_left]
  constructor
  · rintro ⟨hshort, hrole⟩
    exact ⟨(hrole ⟨row, rfl⟩).1, hshort⟩
  · rintro ⟨hrole, hshort⟩
    exact ⟨hshort, fun _ => ⟨hrole, hrole⟩⟩

theorem event_keeps {n : TokenEvent} {ts : List TokenThread} (hpaired : s.Paired) (hkeeps : s.Keeps)
    (h : tokenMachine.event s n = some (s', ts)) : s'.Keeps := by
  refine ((tokenEvent_wrote h).keeps_iff hpaired hkeeps).2 fun p hp => ?_
  cases n with
  | verifyOtp device token => exact Option.some.inj hp ▸ owes_verifyOtp token
  | issueAdminSession role device token => exact Option.some.inj hp ▸ owes_issueAdminSession role token
  | _ => cases hp

theorem step_keeps_iff {us : List TokenThread} {ts : List TokenThread} (hpaired : s.Paired) (hkeeps : s.Keeps)
    (h : tokenMachine.step s t e = some (s', ts)) : s'.Keeps ↔ rotatesTrue s us (.step t e) := by
  refine ((tokenStep_wrote h).keeps_iff hpaired hkeeps).trans ?_
  unfold rotatesTrue
  split
  · next role raw row device token heq =>
    obtain ⟨rfl, rfl⟩ := Move.step.inj heq
    simp only [tokensSigned, Tokens.signs, Option.mem_def, Option.some.injEq, forall_eq']
    exact owes_refresh_iff
  · next hnot =>
    refine iff_of_true (fun p hp => ?_) trivial
    cases t with
    | refresh role t =>
      obtain ⟨raw, row, device, token, rfl, rfl⟩ := signs_some hp
      exact absurd rfl (hnot role raw row device token)
    | logout t => cases hp

end

section

variable {s₀ : Tokens} {q : Pool Tokens TokenThread}

/-- Nobody has signed in yet. -/
structure Tokens.Unused (s : Tokens) : Prop where
  tokens : s.sessions.tokens = []
  signed : s.signed = []

theorem tokens_reach (h₀ : s₀.Unused) (hq : tokenMachine.Reach rotatesTrue ⟨s₀, []⟩ q) :
    q.shared.Paired ∧ q.shared.Keeps := by
  refine hq.invariant (J := fun s _ => s.Paired ∧ s.Keeps) ?_ ?_ ?_
  · refine ⟨⟨?_, ?_⟩, ?_, ?_⟩
    · simp [h₀.tokens, h₀.signed]
    · rw [h₀.signed]
      exact .nil
    · intro p hp
      rw [h₀.signed] at hp
      cases hp
    · intro p hp
      rw [h₀.signed] at hp
      cases hp
  · rintro s us n s' ts _ ⟨hpaired, hkeeps⟩ _ hev
    exact ⟨(tokenEvent_wrote hev).paired hpaired, event_keeps hpaired hkeeps hev⟩
  · rintro s us vs t e s' ts _ ⟨hpaired, hkeeps⟩ hok hst
    exact ⟨(tokenStep_wrote hst).paired hpaired, (step_keeps_iff hpaired hkeeps hst).2 hok⟩

/-- While every rotation is one of those, admin sessions stay short and the minted tokens
true to the role; and it is the other rotations, and nothing else, that break this. -/
theorem admin_tokens_iff (h₀ : s₀.Unused) (hq : tokenMachine.Reach rotatesTrue ⟨s₀, []⟩ q) :
    q.shared.AdminShort ∧ q.shared.RoleTrue ∧
      (∀ n s' ts, tokenMachine.event q.shared n = some (s', ts) → s'.AdminShort ∧ s'.RoleTrue) ∧
      ∀ us t vs e s' ts, q.threads = us ++ t :: vs → tokenMachine.step q.shared t e = some (s', ts) →
        (s'.AdminShort ∧ s'.RoleTrue ↔ rotatesTrue q.shared (us ++ vs) (.step t e)) := by
  obtain ⟨hpaired, hkeeps⟩ := tokens_reach h₀ hq
  exact ⟨hkeeps.1, hkeeps.2, fun n s' ts hev => event_keeps hpaired hkeeps hev,
    fun us t vs e s' ts _ hst => step_keeps_iff hpaired hkeeps hst⟩

end

/-- The lifetimes are 15 minutes, 30 days and 24 hours. -/
def freshTokens (role : UserRole) : Tokens where
  sessions := ⟨true, [], [1], fun _ => none, 2592000000, 0⟩
  role := role
  revoked := false
  signed := []
  jwtAccessTtl := 900000
  jwtAdminRefreshTtl := 86400000

theorem freshTokens_unused (role : UserRole) : (freshTokens role).Unused := ⟨rfl, rfl⟩

def rotateFirst : List (Act TokenEvent SessionReply) :=
  [.event (.refresh 10 (some 1)), .step 0 .ok, .step 0 .ok, .step 0 .ok, .step 0 .ok, .step 0 (.drawn 11)]

/-- The first rotation of an admin's session makes it last 30 days. And who has become a
vendor since the sign-in goes on as a consumer. -/
theorem admin_session_outlives_its_ttl :
    (¬∀ s₀ q, Tokens.Unused s₀ → tokenMachine.Reach anyMove ⟨s₀, []⟩ q → q.shared.AdminShort) ∧
      ¬∀ s₀ q, Tokens.Unused s₀ → tokenMachine.Reach anyMove ⟨s₀, []⟩ q → q.shared.RoleTrue := by
  constructor
  · intro h
    obtain ⟨q, hq, ht⟩ := Machine.reach_of_test tokenMachine anyMove (fun _ _ _ => true) (fun _ _ _ _ => trivial)
      ⟨freshTokens .admin, []⟩ (.event (.issueAdminSession .admin 1 10) :: rotateFirst)
      (fun q => q.shared.signed.any fun p => p.fromAdmin && q.shared.sessions.tokens.any fun row =>
        row.id == p.row && Nat.blt (p.issuedAt + q.shared.jwtAdminRefreshTtl) row.expiresAt) (by decide +kernel)
    obtain ⟨p, hp, ht⟩ := List.any_eq_true.1 ht
    obtain ⟨hadmin, ht⟩ := Bool.and_eq_true_iff.1 ht
    obtain ⟨row, hrow, ht⟩ := List.any_eq_true.1 ht
    simp only [Bool.and_eq_true, beq_iff_eq, Nat.blt_eq] at ht
    exact absurd (h _ q (freshTokens_unused _) hq p hp hadmin row hrow ht.1) (not_le.2 ht.2)
  · intro h
    obtain ⟨q, hq, ht⟩ := Machine.reach_of_test tokenMachine anyMove (fun _ _ _ => true) (fun _ _ _ _ => trivial)
      ⟨freshTokens .consumer, []⟩ ([.event (.verifyOtp 1 10), .event (.setRole .vendor)] ++ rotateFirst)
      (fun q => q.shared.signed.any fun p => p.origin == .refresh 0 && p.access.role != p.userRole) (by decide +kernel)
    obtain ⟨p, hp, ht⟩ := List.any_eq_true.1 ht
    simp only [Bool.and_eq_true, beq_iff_eq, bne_iff_ne] at ht
    exact ht.2 (h _ q (freshTokens_unused _) hq p hp ⟨0, ht.1⟩).1

def rotatesTrueB (s : Tokens) (_ : List TokenThread) (m : Move TokenThread TokenEvent SessionReply) : Bool :=
  match m with
  | .step (.refresh role (.rotating _ row _)) (.drawn _) => role == s.role && !s.ofAdmin row
  | _ => true

theorem rotatesTrue_of_bool (s : Tokens) (us : List TokenThread) (m : Move TokenThread TokenEvent SessionReply)
    (h : rotatesTrueB s us m = true) : rotatesTrue s us m := by
  unfold rotatesTrue
  split
  · simp only [rotatesTrueB, Bool.and_eq_true, beq_iff_eq, Bool.not_eq_true'] at h
    exact ⟨h.1, fun hadmin => by rw [h.2] at hadmin; cases hadmin⟩
  · trivial

/-- A consumer's session, rotated once. -/
theorem consumer_session_rotated :
    ∃ q, tokenMachine.Reach rotatesTrue ⟨freshTokens .consumer, []⟩ q ∧ q.shared.signed.length = 2 ∧
      q.shared.AdminShort ∧ q.shared.RoleTrue := by
  obtain ⟨q, hq, ht⟩ := Machine.reach_of_test tokenMachine rotatesTrue rotatesTrueB rotatesTrue_of_bool
    ⟨freshTokens .consumer, []⟩ (.event (.verifyOtp 1 10) :: rotateFirst)
    (fun q => q.shared.signed.length == 2) (by decide +kernel)
  obtain ⟨hshort, hrole, -⟩ := admin_tokens_iff (freshTokens_unused .consumer) hq
  exact ⟨q, hq, by simpa using ht, hshort, hrole⟩

end ChopNow
