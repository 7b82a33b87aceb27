import Mathlib.Logic.Relation
import ChopNow.Proofs.SessionStep

/-! What a revocation of the whole family leaves. It stamps the rows that are there; a
rotation that read its row before and inserts after it brings the family back. -/

namespace ChopNow

open Interleave Table

/-- `y` was issued by rotating `x`, or by rotating what was. -/
def Descends (tokens : List RefreshToken) : TokenId → TokenId → Prop :=
  Relation.ReflTransGen fun x y => ∃ row ∈ tokens, row.id = y ∧ row.replaces = some x

/-- The steps of `refresh` whose next statement revokes the family. -/
def Refresh.revokesFamily : Refresh → Bool
  | .suspended | .reused _ | .mismatched _ => true
  | _ => false

/-- The statement that revokes the family has just run. -/
inductive FamilyRevoked (p : Pool Sessions SessionThread) : Pool Sessions SessionThread → Prop
  | everywhere : FamilyRevoked p ⟨p.shared.revokeFamily, p.threads⟩
  | refresh {us vs : List SessionThread} {t t' : Refresh} {s' : Sessions} : p.threads = us ++ .refresh t :: vs →
      t.revokesFamily = true → t.step p.shared .ok = some (s', t') →
      FamilyRevoked p ⟨s', [.refresh t'] ++ (us ++ vs)⟩

/-- The row that a refresh has read and is about to replace. -/
def SessionThread.rowRead : SessionThread → Option TokenId
  | .refresh (.resolving _ id _) | .refresh (.minting _ id) | .refresh (.rotating _ id _) => some id
  | _ => none

/-- The rows that refreshes have read by now. -/
def rowsRead (us : List SessionThread) : List TokenId := us.filterMap SessionThread.rowRead

/-- None of these rows is rotated any more. -/
def rotatesOther (ids : List TokenId) : Guard Sessions SessionThread SessionEvent SessionReply := fun _ _ m =>
  match m with
  | .step (.refresh (.rotating _ id _)) (.drawn _) => id ∉ ids
  | _ => True

section

variable {s : Sessions} {rows : List RefreshToken} {n : ℕ}

/-! The family after it was revoked. -/

/-- The first `n` rows are revoked for good, and no later one comes from them. -/
structure Severed (n : ℕ) (rows : List RefreshToken) : Prop where
  numbered : Numbered RefreshToken.id rows
  before : n ≤ rows.length
  old : ∀ row ∈ rows, row.id < n → row.revokedAt.isSome
  new : ∀ row ∈ rows, n ≤ row.id → ∀ k ∈ row.replaces, n ≤ k

theorem severed_revokeFamily (h : Numbered RefreshToken.id s.tokens) : Severed s.tokens.length s.revokeFamily.tokens where
  numbered := (revokeFamily_written s none).numbered h
  before := by simp [Sessions.revokeFamily]
  old := fun row hrow _ => by
    obtain ⟨r, -, rfl⟩ := List.mem_map.1 hrow
    unfold RefreshToken.revoke
    split
    · rfl
    · next hsome => simpa [Option.isSome_iff_ne_none] using hsome
  new := fun row hrow hle => by
    have hlt := ((revokeFamily_written s none).numbered h).lt hrow
    simp only [Sessions.revokeFamily, List.length_map] at hlt
    exact absurd hlt (not_lt_of_ge hle)

/-- An active row is a later one. -/
theorem Severed.active (h : Severed n rows) {row : RefreshToken} (hrow : row ∈ rows) (hactive : row.revokedAt = none) :
    n ≤ row.id := by
  by_contra hlt
  have hrevoked := h.old row hrow (not_le.1 hlt)
  rw [hactive] at hrevoked
  cases hrevoked

/-- A refresh goes on with the row it has read, or reads one that is active. -/
theorem rowRead_step {t : SessionThread} {e : SessionReply} {s' : Sessions} {ts : List SessionThread}
    (h : sessionMachine.step s t e = some (s', ts)) : ∀ u ∈ ts, ∀ id, u.rowRead = some id →
      t.rowRead = some id ∨ ∃ row ∈ s.tokens, row.id = id ∧ row.revokedAt = none := by
  intro u hu id hid
  cases t with
  | refresh t =>
    obtain ⟨t', rfl, hmove⟩ := refresh_of_step h
    obtain rfl := List.mem_singleton.1 hu
    cases hmove with
    | @recognised raw deviceCookie row hfound hactive _ =>
      obtain rfl := Option.some.inj hid
      exact .inr ⟨row, (matched_some hfound).1, rfl, hactive⟩
    | knownDevice | unknownDevice | minted => exact .inl hid
    | _ => cases hid
  | logout t =>
    obtain ⟨⟨s₁, t₁⟩, hst, hr⟩ := Option.map_eq_some_iff.1 h
    obtain ⟨-, rfl⟩ := Prod.mk.inj hr
    obtain ⟨r, -, hr⟩ := Option.map_eq_some_iff.1 hst
    obtain ⟨-, rfl⟩ := Prod.mk.inj hr
    obtain rfl := List.mem_singleton.1 hu
    cases hid

theorem rowRead_event {n : SessionEvent} {s' : Sessions} {ts : List SessionThread}
    (h : sessionMachine.event s n = some (s', ts)) : ∀ u ∈ ts, u.rowRead = none := by
  intro u hu
  cases n with
  | signIn device token =>
    simp only [sessionMachine, sessionEvent] at h
    split at h
    · obtain ⟨-, rfl⟩ := Prod.mk.inj (Option.some.inj h)
      cases hu
    · cases h
  | refresh raw deviceCookie | logout raw =>
    obtain ⟨-, rfl⟩ := Prod.mk.inj (Option.some.inj h)
    obtain rfl := List.mem_singleton.1 hu
    rfl
  | _ =>
    obtain ⟨-, rfl⟩ := Prod.mk.inj (Option.some.inj h)
    cases hu

theorem Severed.written {rows' : List RefreshToken} {rotates : Option TokenId} (h : Severed n rows)
    (hw : RowsWritten rows rotates rows') (hrotates : ∀ k ∈ rotates, n ≤ k) : Severed n rows' := by
  have hmap : ∀ {f}, KeepsRow f → ∀ row ∈ rows.map f, (row.id < n → row.revokedAt.isSome) ∧
      (n ≤ row.id → ∀ k ∈ row.replaces, n ≤ k) := by
    intro f hf row hrow
    obtain ⟨r, hr, rfl⟩ := List.mem_map.1 hrow
    rw [hf.id, hf.replaces]
    exact ⟨fun hlt => hf.revoked r (h.old r hr hlt), h.new r hr⟩
  cases hw with
  | kept hf =>
    exact ⟨h.numbered.map hf.id, by simpa using h.before, fun row hrow => (hmap hf row hrow).1, fun row hrow => (hmap hf row hrow).2⟩
  | @issued f new hf hid hreplaces =>
    refine ⟨(RowsWritten.issued hf hid hreplaces).numbered h.numbered, ?_, fun row hrow => ?_, fun row hrow => ?_⟩
    · simpa using h.before.trans (Nat.le_succ _)
    · rcases List.mem_append.1 hrow with hrow | hrow
      · exact (hmap hf row hrow).1
      · obtain rfl := List.mem_singleton.1 hrow
        exact fun hlt => absurd h.before (not_le_of_gt (hid ▸ hlt))
    · rcases List.mem_append.1 hrow with hrow | hrow
      · exact (hmap hf row hrow).2
      · obtain rfl := List.mem_singleton.1 hrow
        exact fun _ k hk => hrotates k (hreplaces ▸ hk)

/-- What descends from an old row is an old row. -/
theorem Severed.descends (h : Severed n rows) {x y : TokenId} (hxy : Descends rows x y) (hx : x < n) : y < n := by
  induction hxy with
  | refl => exact hx
  | tail _ hstep ih =>
    obtain ⟨row, hrow, rfl, hreplaces⟩ := hstep
    by_contra hge
    exact absurd (h.new row hrow (not_lt.1 hge) _ hreplaces) (not_le_of_gt ih)

theorem numbered_reach {s₀ : Sessions} (h₀ : Numbered RefreshToken.id s₀.tokens) {p : Pool Sessions SessionThread}
    (h : sessionMachine.Reach anyMove ⟨s₀, []⟩ p) : Numbered RefreshToken.id p.shared.tokens :=
  h.invariant (J := fun s _ => Numbered RefreshToken.id s.tokens) h₀
    (fun _ _ _ _ _ _ hn _ hev => (sessionEvent_written hev).numbered hn)
    fun _ _ _ _ _ _ _ _ hn _ hst => (session_written hst).numbered hn

/-- The family stays severed, and no refresh will rotate an old row but one that had read it before. -/
theorem severed_reach {p q : Pool Sessions SessionThread} (hp : Severed n p.shared.tokens)
    (h : sessionMachine.Reach (rotatesOther (rowsRead p.threads)) p q) : Severed n q.shared.tokens := by
  have hall := h.invariant (J := fun s us => Severed n s.tokens ∧
    ∀ u ∈ us, ∀ id, u.rowRead = some id → n ≤ id ∨ id ∈ rowsRead p.threads)
    ⟨hp, fun u hu id hid => .inr (List.mem_filterMap.2 ⟨u, hu, hid⟩)⟩ ?_ ?_
  · exact hall.1
  · rintro s us n' s' ts _ ⟨hs, hus⟩ _ hev
    refine ⟨hs.written (sessionEvent_written hev) (by simp), fun u hu id hid => ?_⟩
    rcases List.mem_append.1 hu with hu | hu
    · exact absurd hid (by rw [rowRead_event hev u hu]; simp)
    · exact hus u hu id hid
  · rintro s us vs t e s' ts _ ⟨hs, hus⟩ hok hst
    have hread := hus t (mem_middle.2 (.inl rfl))
    refine ⟨hs.written (session_written hst) fun k hk => ?_, fun u hu id hid => ?_⟩
    · unfold SessionThread.rotates at hk
      split at hk
      · obtain rfl := Option.some.inj hk
        exact (hread _ rfl).resolve_right hok
      · cases hk
    · rcases List.mem_append.1 hu with hu | hu
      · rcases rowRead_step hst u hu id hid with hid | ⟨row, hrow, rfl, hactive⟩
        · exact hread id hid
        · exact .inl (hs.active hrow hactive)
      · exact hus u (mem_middle.2 (.inr hu)) id hid

/-- However the family was revoked, its rows are those of the step before, all stamped. -/
theorem FamilyRevoked.tokens {p p' : Pool Sessions SessionThread} (h : FamilyRevoked p p') :
    p'.shared.tokens = p.shared.revokeFamily.tokens := by
  cases h with
  | everywhere => rfl
  | refresh hthreads hrevokes hst =>
    cases refresh_cases hst with
    | wiped | reuseRevoked | mismatchRevoked => rfl
    | _ => cases hrevokes

end

/-- Once the family was revoked, and unless a refresh goes on to rotate a row that it had read by
then, no active row comes from one that was there before. -/
theorem logged_out_everywhere {s₀ : Sessions} (h₀ : Numbered RefreshToken.id s₀.tokens)
    {p p' q : Pool Sessions SessionThread} (hp : sessionMachine.Reach anyMove ⟨s₀, []⟩ p) (hrevoked : FamilyRevoked p p')
    (hq : sessionMachine.Reach (rotatesOther (rowsRead p'.threads)) p' q) :
    ∀ row ∈ q.shared.tokens, row.revokedAt = none → ∀ old ∈ p.shared.tokens,
      ¬Descends q.shared.tokens old.id row.id := by
  intro row hrow hactive old hold hdescends
  have hnumbered := numbered_reach h₀ hp
  have hsevered : Severed p.shared.tokens.length q.shared.tokens := by
    refine severed_reach ?_ hq
    rw [hrevoked.tokens]
    exact severed_revokeFamily hnumbered
  have hlt := hsevered.descends hdescends (hnumbered.lt hold)
  have hstamped := hsevered.old row hrow hlt
  rw [hactive] at hstamped
  cases hstamped

/-- A user with one session, signed in on device 3. -/
def exampleSessions : Sessions where
  userActive := true
  tokens := [{ id := 0, tokenHash := 7, deviceId := some 3, expiresAt := 2592000000 }]
  devices := [3]
  locks := fun _ => none
  refreshTtl := 2592000000
  clock := 0

theorem exampleSessions_numbered : Numbered RefreshToken.id exampleSessions.tokens := rfl

/-- A refresh up to the transaction that rotates its row. -/
def refreshUntilRotation (raw : Token) : List (Act SessionEvent SessionReply) :=
  [.event (.refresh raw (some 3)), .step 0 .ok, .step 0 .ok, .step 0 .ok, .step 0 .ok]

/-- Some active row replaces row 0. -/
def Sessions.replacedActive (s : Sessions) : Bool :=
  s.tokens.any fun row => row.revokedAt.isNone && row.replaces == some 0

/-- The user logs out everywhere between a refresh's read and its write. -/
theorem refreshed_after_logout :
    ¬ ∀ (s₀ : Sessions) (p p' q : Pool Sessions SessionThread), Numbered RefreshToken.id s₀.tokens →
      sessionMachine.Reach anyMove ⟨s₀, []⟩ p → FamilyRevoked p p' → sessionMachine.Reach anyMove p' q →
      ∀ row ∈ q.shared.tokens, row.revokedAt = none → ∀ old ∈ p.shared.tokens,
        ¬Descends q.shared.tokens old.id row.id := by
  intro h
  obtain ⟨p, hp, ht⟩ := Machine.reach_of_test sessionMachine anyMove (fun _ _ _ => true) (fun _ _ _ _ => trivial)
    ⟨exampleSessions, []⟩ (refreshUntilRotation 7)
    (fun p => p.shared.tokens == exampleSessions.tokens &&
      (sessionMachine.run (fun _ _ _ => true) ⟨p.shared.revokeFamily, p.threads⟩ [.step 0 (.drawn 8)]).map
        (·.shared.replacedActive) == some true)
    (by decide +kernel)
  simp only [Bool.and_eq_true, beq_iff_eq] at ht
  obtain ⟨hsame, hrun⟩ := ht
  obtain ⟨q, hq, hactive⟩ := Machine.reach_of_test sessionMachine anyMove (fun _ _ _ => true) (fun _ _ _ _ => trivial)
    ⟨p.shared.revokeFamily, p.threads⟩ _ _ hrun
  obtain ⟨row, hrow, htest⟩ := List.any_eq_true.1 hactive
  simp only [Bool.and_eq_true, Option.isNone_iff_eq_none, beq_iff_eq] at htest
  refine h _ p _ q exampleSessions_numbered hp .everywhere hq row hrow htest.1
    { id := 0, tokenHash := 7, deviceId := some 3, expiresAt := 2592000000 } ?_ ?_
  · rw [hsame]
    exact .head _
  · exact Relation.ReflTransGen.single ⟨row, hrow, rfl, htest.2⟩

def rotatesOtherB (ids : List TokenId) (_ : Sessions) (_ : List SessionThread)
    (m : Move SessionThread SessionEvent SessionReply) : Bool :=
  match m with
  | .step (.refresh (.rotating _ id _)) (.drawn _) => !ids.contains id
  | _ => true

theorem rotatesOther_of_bool {ids : List TokenId} {s : Sessions} {us : List SessionThread}
    {m : Move SessionThread SessionEvent SessionReply} (h : rotatesOtherB ids s us m = true) : rotatesOther ids s us m := by
  unfold rotatesOther
  split
  · simpa [rotatesOtherB] using h
  · trivial

/-- A rotation before the user logs out everywhere, and one of a new session after it. -/
theorem signed_in_again :
    ∃ p q, sessionMachine.Reach anyMove ⟨exampleSessions, []⟩ p ∧
      sessionMachine.Reach (rotatesOther (rowsRead p.threads)) ⟨p.shared.revokeFamily, p.threads⟩ q ∧
      q.shared.tokens.map (fun row => (row.revokedAt.isSome, row.replaces)) =
        [(true, none), (true, some 0), (true, none), (false, some 2)] ∧
      ∀ row ∈ q.shared.tokens, row.revokedAt = none → ∀ old ∈ p.shared.tokens,
        ¬Descends q.shared.tokens old.id row.id := by
  obtain ⟨p, hp, ht⟩ := Machine.reach_of_test sessionMachine anyMove (fun _ _ _ => true) (fun _ _ _ _ => trivial)
    ⟨exampleSessions, []⟩ (refreshUntilRotation 7 ++ [.step 0 (.drawn 8), .step 0 .ok])
    (fun p => (sessionMachine.run (rotatesOtherB (rowsRead p.threads)) ⟨p.shared.revokeFamily, p.threads⟩
      ([.event (.signIn 3 9)] ++ refreshUntilRotation 9 ++ [.step 0 (.drawn 10), .step 0 .ok])).map
        (fun q => q.shared.tokens.map (fun row => (row.revokedAt.isSome, row.replaces)) ==
          [(true, none), (true, some 0), (true, none), (false, some 2)]) == some true)
    (by decide +kernel)
  obtain ⟨q, hq, hrows⟩ := Machine.reach_of_test sessionMachine (rotatesOther (rowsRead p.threads))
    (rotatesOtherB (rowsRead p.threads)) (fun _ _ _ => rotatesOther_of_bool) ⟨p.shared.revokeFamily, p.threads⟩ _ _ (beq_iff_eq.1 ht)
  exact ⟨p, q, hp, hq, by simpa using hrows, logged_out_everywhere exampleSessions_numbered hp .everywhere hq⟩

end ChopNow
