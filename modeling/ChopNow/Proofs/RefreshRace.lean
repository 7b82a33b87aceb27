import ChopNow.Proofs.LoggedOut

/-! Calls of `refresh` that race with one token. The lock keeps the losers away from the
row as long as each of them tries it before the winner has let go; a call that comes later
finds the row revoked and takes that for theft. -/

namespace ChopNow

open Interleave

/-- A token that its user may refresh now, from the device it was issued to. -/
structure Presented (s₀ : Sessions) (raw : Token) (deviceCookie : Option DeviceId) (row : RefreshToken) : Prop where
  user : s₀.userActive = true
  mem : row ∈ s₀.tokens
  hash : row.tokenHash = raw
  unique : ∀ r ∈ s₀.tokens, r.tokenHash = raw → r = row
  active : row.revokedAt = none
  unexpired : s₀.clock < row.expiresAt
  device : row.deviceMismatch deviceCookie = false
  idle : s₀.lockFree raw

/-- Only calls with this token run, all received before one of them has completed; no
statement fails, and the token does not expire meanwhile. -/
def raceWith (raw : Token) (deviceCookie : Option DeviceId) (expiresAt : Time) :
    Guard Sessions SessionThread SessionEvent SessionReply := fun s us m =>
  match m with
  | .event (.refresh raw' deviceCookie') => raw' = raw ∧ deviceCookie' = deviceCookie ∧ ∀ u ∈ us, u.isDone = false
  | .event (.tick elapsed) => s.clock + elapsed < expiresAt
  | .event _ => False
  | .step _ (.fail _) => False
  | .step .. => True

/-- The call has got past the lock. -/
def SessionThread.entered : SessionThread → Bool
  | .refresh (.received ..) | .refresh .suspended | .refresh (.locking ..) | .refresh (.done (.error .inFlight))
  | .logout _ => false
  | .refresh _ => true

/-- A call tries the lock before anybody has taken it, or while it is still there. -/
def lockCovers (raw : Token) : Guard Sessions SessionThread SessionEvent SessionReply := fun s us m =>
  match m with
  | .step (.refresh (.locking ..)) .ok => (∀ u ∈ us, u.entered = false) ∨ ¬s.lockFree raw
  | _ => True

def SessionThread.issued : SessionThread → Bool
  | .refresh (.done (.ok _)) => true
  | _ => false

def Sessions.Untouched (s₀ s : Sessions) : Prop := s.tokens = s₀.tokens ∧ s.devices = s₀.devices

/-- The row was rotated once, and nothing else was written. -/
def Sessions.Rotated (s₀ : Sessions) (row : RefreshToken) (s : Sessions) : Prop :=
  (∃ device token expiresAt now, s.tokens = signedRows s₀.tokens (some row.id) device token expiresAt now) ∧
    (s.devices = s₀.devices ∨ ∃ device, s.devices = s₀.devices ++ [device])

/-- One call issues new tokens, once all have completed; the others say `refresh_in_flight`,
and nobody revokes the family. -/
structure RaceWon (s₀ : Sessions) (row : RefreshToken) (q : Pool Sessions SessionThread) : Prop where
  once : q.threads.Pairwise fun t u => ¬(t.issued = true ∧ u.issued = true)
  results : ∀ t ∈ q.threads, t.isDone = true → t.issued = true ∨ t = .refresh (.done (.error .inFlight))
  issued : q.threads ≠ [] → (∀ t ∈ q.threads, t.isDone = true) → ∃ t ∈ q.threads, t.issued = true
  rows : q.shared.tokens = s₀.tokens ∨ s₀.Rotated row q.shared
  devices : q.shared.devices = s₀.devices ∨ ∃ device, q.shared.devices = s₀.devices ++ [device]

/-- What holds of a call between its steps. -/
def RaceLocal (s₀ : Sessions) (raw : Token) (deviceCookie : Option DeviceId) (row : RefreshToken) (s : Sessions) :
    SessionThread → Prop
  | .refresh (.received raw' deviceCookie') | .refresh (.locking raw' deviceCookie') =>
    raw' = raw ∧ deviceCookie' = deviceCookie
  | .refresh (.locked raw' deviceCookie') => raw' = raw ∧ deviceCookie' = deviceCookie ∧ s₀.Untouched s
  | .refresh (.resolving raw' id _) | .refresh (.minting raw' id) => raw' = raw ∧ id = row.id ∧ s₀.Untouched s
  | .refresh (.rotating raw' id _) => raw' = raw ∧ id = row.id ∧ s.tokens = s₀.tokens ∧
    (s.devices = s₀.devices ∨ ∃ device, s.devices = s₀.devices ++ [device])
  | .refresh (.releasing raw' (.ok _)) => raw' = raw ∧ s₀.Rotated row s
  | .refresh (.done (.ok _)) => s₀.Rotated row s
  | .refresh (.done (.error .inFlight)) => True
  | _ => False

structure Racing (s₀ : Sessions) (raw : Token) (deviceCookie : Option DeviceId) (row : RefreshToken) (s : Sessions)
    (us : List SessionThread) : Prop where
  user : s.userActive = true
  unexpired : s.clock < row.expiresAt
  locals : ∀ u ∈ us, RaceLocal s₀ raw deviceCookie row s u
  apart : us.Pairwise (Exclusive SessionThread.entered)
  waiting : (∀ u ∈ us, u.entered = false) → s₀.Untouched s ∧ s.lockFree raw ∧ ∀ u ∈ us, u.isDone = false

section

variable {s₀ s s' : Sessions} {raw : Token} {deviceCookie : Option DeviceId} {row : RefreshToken}
  {us vs : List SessionThread} {t t' : SessionThread} {e : SessionReply}

/-- A call that has not entered knows nothing of the state. -/
theorem RaceLocal.outside (h : RaceLocal s₀ raw deviceCookie row s t) (ht : t.entered = false) :
    RaceLocal s₀ raw deviceCookie row s' t := by
  cases t with
  | logout t => exact h
  | refresh t =>
    cases t with
    | received raw' deviceCookie' => exact h
    | suspended => exact h
    | locking raw' deviceCookie' => exact h
    | done result =>
      cases result with
      | ok issued => cases ht
      | error err => cases err <;> exact h
    | _ => cases ht

/-- It rests on the rows and the devices alone. -/
theorem RaceLocal.frame (h : RaceLocal s₀ raw deviceCookie row s t) (htokens : s'.tokens = s.tokens)
    (hdevices : s'.devices = s.devices) : RaceLocal s₀ raw deviceCookie row s' t := by
  unfold RaceLocal Sessions.Untouched Sessions.Rotated at *
  rw [htokens, hdevices]
  exact h

/-- The row is the one that its token matches. -/
theorem Presented.matched (h : Presented s₀ raw deviceCookie row) (htokens : s.tokens = s₀.tokens)
    (hclock : s.clock < row.expiresAt) : s.matched raw = some row := by
  unfold Sessions.matched
  cases hfound : (s.tokens.reverse.filter fun r => decide (s.clock < r.expiresAt)).find? fun r => r.tokenHash == raw with
  | none =>
    have hmem : row ∈ s.tokens.reverse.filter fun r => decide (s.clock < r.expiresAt) :=
      List.mem_filter.2 ⟨List.mem_reverse.2 (htokens ▸ h.mem), decide_eq_true hclock⟩
    have hno := List.find?_eq_none.1 hfound row hmem
    simp [h.hash] at hno
  | some r =>
    have hr : r ∈ s₀.tokens := htokens ▸ List.mem_reverse.1 (List.mem_filter.1 (List.mem_of_find?_eq_some hfound)).1
    rw [h.unique r hr (by simpa using List.find?_some hfound)]

/-- A call is past the lock, and nobody else is. -/
theorem Racing.alone (hI : Racing s₀ raw deviceCookie row s (us ++ t :: vs)) (hothers : ∀ u ∈ us ++ vs, u.entered = false)
    (huser : s'.userActive = s.userActive) (hclock : s'.clock = s.clock) (ht' : t'.entered = true)
    (hL : RaceLocal s₀ raw deviceCookie row s' t') : Racing s₀ raw deviceCookie row s' ([t'] ++ (us ++ vs)) := by
  refine ⟨huser.trans hI.user, by rw [hclock]; exact hI.unexpired, fun u hu => ?_, ?_, fun hnone => ?_⟩
  · rcases List.mem_cons.1 hu with rfl | hu
    · exact hL
    · exact (hI.locals u (mem_middle.2 (.inr hu))).outside (hothers u hu)
  · obtain ⟨hapart, -⟩ := pairwise_middle (fun _ _ => Exclusive.symm _) hI.apart
    exact List.pairwise_cons.2 ⟨fun u hu => (Exclusive.idle _ (hothers u hu)).symm, hapart⟩
  · rw [hnone t' (.head _)] at ht'
    cases ht'

/-- A move of the call at the row. -/
theorem Racing.inside (hI : Racing s₀ raw deviceCookie row s (us ++ t :: vs)) (ht : t.entered = true)
    (huser : s'.userActive = s.userActive) (hclock : s'.clock = s.clock) (ht' : t'.entered = true)
    (hL : RaceLocal s₀ raw deviceCookie row s' t') : Racing s₀ raw deviceCookie row s' ([t'] ++ (us ++ vs)) := by
  obtain ⟨-, hbetween⟩ := pairwise_middle (fun _ _ => Exclusive.symm _) hI.apart
  refine hI.alone (fun u hu => ?_) huser hclock ht' hL
  simpa [ht] using not_and.1 (hbetween u hu) ht

/-- A move of a call that stays outside. -/
theorem Racing.outside (hI : Racing s₀ raw deviceCookie row s (us ++ t :: vs)) (ht : t.entered = false)
    (ht' : t'.entered = false) (hL : RaceLocal s₀ raw deviceCookie row s t')
    (hdone : (∀ u ∈ us ++ t :: vs, u.entered = false) → t'.isDone = false) :
    Racing s₀ raw deviceCookie row s ([t'] ++ (us ++ vs)) := by
  obtain ⟨hothers, -⟩ := pairwise_middle (fun _ _ => Exclusive.symm _) hI.apart
  refine ⟨hI.user, hI.unexpired, fun u hu => ?_, ?_, fun hnone => ?_⟩
  · rcases List.mem_cons.1 hu with rfl | hu
    · exact hL
    · exact hI.locals u (mem_middle.2 (.inr hu))
  · exact List.pairwise_cons.2 ⟨fun u _ => Exclusive.idle _ ht', hothers⟩
  · have hbefore : ∀ u ∈ us ++ t :: vs, u.entered = false := forall_middle.2 ⟨ht, fun u hu => hnone u (.tail _ hu)⟩
    obtain ⟨huntouched, hfree, hundone⟩ := hI.waiting hbefore
    refine ⟨huntouched, hfree, fun u hu => ?_⟩
    rcases List.mem_cons.1 hu with rfl | hu
    · exact hdone hbefore
    · exact hundone u (mem_middle.2 (.inr hu))

theorem Racing.step (h : Presented s₀ raw deviceCookie row) (hI : Racing s₀ raw deviceCookie row s (us ++ t :: vs))
    (hok : ((raceWith raw deviceCookie row.expiresAt).and (lockCovers raw)) s (us ++ vs) (.step t e))
    {ts : List SessionThread} (hst : sessionMachine.step s t e = some (s', ts)) :
    Racing s₀ raw deviceCookie row s' (ts ++ (us ++ vs)) := by
  have hL := hI.locals t (by simp)
  cases t with
  | logout t => exact hL.elim
  | refresh t =>
    obtain ⟨t', rfl, hmove⟩ := refresh_of_step hst
    cases hmove with
    | thrown => exact hok.1.elim
    | caught => exact hok.1.elim
    | active huser => exact hI.outside rfl rfl hL fun _ => rfl
    | inactive huser =>
      rw [hI.user] at huser
      cases huser
    | wiped => exact hL.elim
    | inFlight held =>
      refine hI.outside rfl rfl trivial fun hnone => ?_
      exact absurd (hL.1 ▸ (hI.waiting hnone).2.1) held
    | @acquired raw' deviceCookie' free =>
      -- the lock was there to be taken, so nobody has taken it yet
      have hnone : ∀ u ∈ us ++ vs, u.entered = false := by
        rcases hok.2 with hnone | hheld
        · exact hnone
        · exact absurd (hL.1 ▸ free) hheld
      obtain ⟨huntouched, -, -⟩ := hI.waiting (forall_middle.2 ⟨rfl, hnone⟩)
      exact hI.alone hnone rfl rfl rfl ⟨hL.1, hL.2, huntouched⟩
    | unmatched none =>
      obtain ⟨rfl, rfl, huntouched⟩ := hL
      rw [h.matched huntouched.1 hI.unexpired] at none
      cases none
    | reuse found revoked =>
      obtain ⟨rfl, rfl, huntouched⟩ := hL
      rw [h.matched huntouched.1 hI.unexpired] at found
      obtain rfl := Option.some.inj found
      rw [h.active] at revoked
      cases revoked
    | mismatch found device =>
      obtain ⟨rfl, rfl, huntouched⟩ := hL
      rw [h.matched huntouched.1 hI.unexpired] at found
      obtain rfl := Option.some.inj found
      rw [h.device] at device
      cases device
    | recognised found active device =>
      obtain ⟨rfl, rfl, huntouched⟩ := hL
      rw [h.matched huntouched.1 hI.unexpired] at found
      obtain rfl := Option.some.inj found
      exact hI.inside rfl rfl rfl rfl ⟨rfl, rfl, huntouched⟩
    | reuseRevoked => exact hL.elim
    | mismatchRevoked => exact hL.elim
    | knownDevice => exact hI.inside rfl rfl rfl rfl ⟨hL.1, hL.2.1, hL.2.2.1, .inl hL.2.2.2⟩
    | unknownDevice => exact hI.inside rfl rfl rfl rfl hL
    | @minted raw' id device =>
      obtain ⟨hraw, hid, htokens, hdevices⟩ := hL
      exact hI.inside rfl rfl rfl rfl ⟨hraw, hid, htokens, .inr ⟨device, by rw [hdevices]⟩⟩
    | @rotated raw' id device token fresh =>
      obtain ⟨hraw, rfl, htokens, hdevices⟩ := hL
      refine hI.inside rfl rfl rfl rfl ⟨hraw, ⟨device, token, s.clock + s.refreshTtl, s.clock, ?_⟩, hdevices⟩
      simp only [Sessions.signTokens, htokens]
    | @released raw' result =>
      cases result with
      | ok issued => exact hI.inside rfl rfl rfl rfl hL.2
      | error err => exact hL.elim

theorem Racing.event (hI : Racing s₀ raw deviceCookie row s us) {n : SessionEvent}
    (hok : raceWith raw deviceCookie row.expiresAt s us (.event n)) {ts : List SessionThread}
    (hev : sessionMachine.event s n = some (s', ts)) : Racing s₀ raw deviceCookie row s' (ts ++ us) := by
  cases n with
  | tick elapsed =>
    obtain ⟨rfl, rfl⟩ := Prod.mk.inj (Option.some.inj hev)
    refine ⟨hI.user, hok, fun u hu => (hI.locals u hu).frame rfl rfl, hI.apart, fun hnone => ?_⟩
    obtain ⟨huntouched, hfree, hundone⟩ := hI.waiting hnone
    exact ⟨huntouched, fun expiry he => (hfree expiry he).trans (Nat.le_add_right _ _), hundone⟩
  | refresh raw' deviceCookie' =>
    obtain ⟨rfl, rfl⟩ := Prod.mk.inj (Option.some.inj hev)
    refine ⟨hI.user, hI.unexpired, fun u hu => ?_, ?_, fun hnone => ?_⟩
    · rcases List.mem_cons.1 hu with rfl | hu
      · exact ⟨hok.1, hok.2.1⟩
      · exact hI.locals u hu
    · exact List.pairwise_cons.2 ⟨fun u _ => Exclusive.idle _ rfl, hI.apart⟩
    · obtain ⟨huntouched, hfree, hundone⟩ := hI.waiting fun u hu => hnone u (.tail _ hu)
      refine ⟨huntouched, hfree, fun u hu => ?_⟩
      rcases List.mem_cons.1 hu with rfl | hu
      · rfl
      · exact hundone u hu
  | signIn device token => exact hok.elim
  | logout raw' => exact hok.elim
  | revokeAllSessions => exact hok.elim

theorem racing_reach (h : Presented s₀ raw deviceCookie row) {q : Pool Sessions SessionThread}
    (hq : sessionMachine.Reach ((raceWith raw deviceCookie row.expiresAt).and (lockCovers raw)) ⟨s₀, []⟩ q) :
    Racing s₀ raw deviceCookie row q.shared q.threads := by
  refine hq.invariant (J := Racing s₀ raw deviceCookie row) ?_ ?_ ?_
  · exact ⟨h.user, h.unexpired, by simp, .nil, fun _ => ⟨⟨rfl, rfl⟩, h.idle, by simp⟩⟩
  · exact fun s us n s' ts _ hI hok hev => hI.event hok.1 hev
  · exact fun s us vs t e s' ts _ hI hok hst => hI.step h hok hst

/-- A completed call, by its result. -/
theorem RaceLocal.completed (h : RaceLocal s₀ raw deviceCookie row s t) (hdone : t.isDone = true) :
    (t.issued = true ∧ s₀.Rotated row s) ∨ t = .refresh (.done (.error .inFlight)) := by
  cases t with
  | logout t => exact h.elim
  | refresh t =>
    cases t with
    | done result =>
      cases result with
      | ok issued => exact .inl ⟨rfl, h⟩
      | error err => cases err <;> first | exact .inr rfl | exact h.elim
    | _ => cases hdone

theorem issued_entered (h : t.issued = true) : t.entered = true := by
  unfold SessionThread.issued at h
  split at h
  · rfl
  · cases h

/-- What is written is what one rotation writes. -/
theorem Racing.written (hI : Racing s₀ raw deviceCookie row s us) :
    (s.tokens = s₀.tokens ∨ s₀.Rotated row s) ∧ (s.devices = s₀.devices ∨ ∃ device, s.devices = s₀.devices ++ [device]) := by
  by_cases hnone : ∀ u ∈ us, u.entered = false
  · obtain ⟨⟨htokens, hdevices⟩, -⟩ := hI.waiting hnone
    exact ⟨.inl htokens, .inl hdevices⟩
  · simp only [not_forall, Bool.not_eq_false] at hnone
    obtain ⟨u, hu, hentered⟩ := hnone
    have hL := hI.locals u hu
    cases u with
    | logout t => exact hL.elim
    | refresh t =>
      cases t with
      | received raw' deviceCookie' => cases hentered
      | suspended => cases hentered
      | locking raw' deviceCookie' => cases hentered
      | locked raw' deviceCookie' => exact ⟨.inl hL.2.2.1, .inl hL.2.2.2⟩
      | reused raw' => exact hL.elim
      | mismatched raw' => exact hL.elim
      | resolving raw' id deviceCookie' => exact ⟨.inl hL.2.2.1, .inl hL.2.2.2⟩
      | minting raw' id => exact ⟨.inl hL.2.2.1, .inl hL.2.2.2⟩
      | rotating raw' id device => exact ⟨.inl hL.2.2.1, hL.2.2.2⟩
      | releasing raw' result =>
        cases result with
        | ok issued => exact ⟨.inr hL.2, hL.2.2⟩
        | error err => exact hL.elim
      | done result =>
        cases result with
        | ok issued => exact ⟨.inr hL, hL.2⟩
        | error err => cases err <;> first | exact hL.elim | cases hentered

end

/-- Calls that race with one token: one issues new tokens and the others find it in flight,
while each of them tries the lock before it is taken or while it is there. -/
theorem benign_race {s₀ : Sessions} {raw : Token} {deviceCookie : Option DeviceId} {row : RefreshToken}
    (h : Presented s₀ raw deviceCookie row) {q : Pool Sessions SessionThread}
    (hq : sessionMachine.Reach ((raceWith raw deviceCookie row.expiresAt).and (lockCovers raw)) ⟨s₀, []⟩ q) :
    RaceWon s₀ row q where
  once := (racing_reach h hq).apart.imp fun hapart hboth => hapart ⟨issued_entered hboth.1, issued_entered hboth.2⟩
  results := fun t ht hdone => ((racing_reach h hq).locals t ht).completed hdone |>.imp_left And.left
  issued := fun hne hdone => by
    have hI := racing_reach h hq
    by_contra hno
    push Not at hno
    have hnone : ∀ t ∈ q.threads, t.entered = false := fun t ht => by
      rcases (hI.locals t ht).completed (hdone t ht) with ⟨hissued, -⟩ | rfl
      · exact absurd hissued (hno t ht)
      · rfl
    obtain ⟨t, ht⟩ := List.exists_mem_of_ne_nil _ hne
    have hundone := (hI.waiting hnone).2.2 t ht
    rw [hdone t ht] at hundone
    cases hundone
  rows := (racing_reach h hq).written.1
  devices := (racing_reach h hq).written.2

theorem exampleSessions_presented :
    Presented exampleSessions 7 (some 3) { id := 0, tokenHash := 7, deviceId := some 3, expiresAt := 2592000000 } where
  user := rfl
  mem := .head _
  hash := rfl
  unique := fun _ hr _ => List.mem_singleton.1 hr
  active := rfl
  unexpired := by decide
  device := rfl
  idle := by simp [Sessions.lockFree, exampleSessions]

def raceWithB (raw : Token) (deviceCookie : Option DeviceId) (us : List SessionThread) :
    Move SessionThread SessionEvent SessionReply → Bool
  | .event (.refresh raw' deviceCookie') => raw' == raw && deviceCookie' == deviceCookie && us.all fun u => !u.isDone
  | .event _ => false
  | .step _ (.fail _) => false
  | .step .. => true

theorem raceWith_of_bool {raw : Token} {deviceCookie : Option DeviceId} {expiresAt : Time} {s : Sessions}
    {us : List SessionThread} {m : Move SessionThread SessionEvent SessionReply}
    (h : raceWithB raw deviceCookie us m = true) : raceWith raw deviceCookie expiresAt s us m := by
  unfold raceWithB at h
  unfold raceWith
  split at h
  · simpa [and_assoc] using h
  · cases h
  · cases h
  · next hfail => split <;> simp_all

/-- Every row is revoked. -/
def Sessions.allRevoked (s : Sessions) : Bool := s.tokens.all fun row => row.revokedAt.isSome

/-- A call that was received before the winner completed, and tried the lock after. -/
theorem late_racer_revokes :
    ¬ ∀ (s₀ : Sessions) (raw : Token) (deviceCookie : Option DeviceId) (row : RefreshToken)
      (q : Pool Sessions SessionThread), Presented s₀ raw deviceCookie row →
      sessionMachine.Reach (raceWith raw deviceCookie row.expiresAt) ⟨s₀, []⟩ q → RaceWon s₀ row q := by
  intro h
  obtain ⟨q, hq, hrevoked⟩ := Machine.reach_of_test sessionMachine (raceWith 7 (some 3) 2592000000)
    (fun _ => raceWithB 7 (some 3)) (fun _ _ _ => raceWith_of_bool) ⟨exampleSessions, []⟩
    ([.event (.refresh 7 (some 3))] ++ refreshUntilRotation 7 ++
      [.step 0 (.drawn 8), .step 0 .ok, .step 1 .ok, .step 0 .ok, .step 0 .ok, .step 0 .ok])
    (fun q => q.shared.allRevoked) (by decide +kernel)
  have hall := List.all_eq_true.1 hrevoked
  rcases (h _ _ _ _ q exampleSessions_presented hq).rows with hsame | ⟨⟨device, token, expiresAt, now, hrows⟩, -⟩
  · have hold := hall { id := 0, tokenHash := 7, deviceId := some 3, expiresAt := 2592000000 } (by rw [hsame]; exact .head _)
    cases hold
  · have hnew := hall { id := 1, tokenHash := token, deviceId := some device, expiresAt := expiresAt, replaces := some 0 }
      (by rw [hrows]; exact List.mem_append_right _ (.head _))
    cases hnew

def lockCoversB (raw : Token) (s : Sessions) (us : List SessionThread) :
    Move SessionThread SessionEvent SessionReply → Bool
  | .step (.refresh (.locking ..)) .ok =>
    (us.all fun u => !u.entered) || (s.locks raw).any fun expiry => decide (s.clock < expiry)
  | _ => true

theorem lockCovers_of_bool {raw : Token} {s : Sessions} {us : List SessionThread}
    {m : Move SessionThread SessionEvent SessionReply} (h : lockCoversB raw s us m = true) : lockCovers raw s us m := by
  unfold lockCoversB at h
  unfold lockCovers
  split
  · rcases Bool.or_eq_true _ _ ▸ h with hnone | hheld
    · exact .inl (by simpa using hnone)
    · obtain ⟨expiry, he, hlt⟩ := (Option.any_eq_true _ _).1 hheld
      exact .inr fun hfree => absurd (hfree expiry he) (not_le_of_gt (of_decide_eq_true hlt))
  · trivial

def raceB (raw : Token) (deviceCookie : Option DeviceId) (s : Sessions) (us : List SessionThread)
    (m : Move SessionThread SessionEvent SessionReply) : Bool :=
  raceWithB raw deviceCookie us m && lockCoversB raw s us m

/-- Two calls; the second tries the lock while the first is inside. -/
theorem second_in_flight :
    ∃ q : Pool Sessions SessionThread, q.threads.map (fun t => (t.isDone, t.issued)) = [(true, true), (true, false)] ∧
      RaceWon exampleSessions { id := 0, tokenHash := 7, deviceId := some 3, expiresAt := 2592000000 } q := by
  obtain ⟨q, hq, hthreads⟩ := Machine.reach_of_test sessionMachine ((raceWith 7 (some 3) 2592000000).and (lockCovers 7))
    (raceB 7 (some 3))
    (fun _ _ _ h => ⟨raceWith_of_bool (Bool.and_eq_true_iff.1 h).1, lockCovers_of_bool (Bool.and_eq_true_iff.1 h).2⟩)
    ⟨exampleSessions, []⟩
    ([.event (.refresh 7 (some 3))] ++ refreshUntilRotation 7 ++
      [.step 1 .ok, .step 0 .ok, .step 1 (.drawn 8), .step 0 .ok])
    (fun q => q.threads.map (fun t => (t.isDone, t.issued)) == [(true, true), (true, false)])
    (by decide +kernel)
  exact ⟨q, by simpa using hthreads, benign_race exampleSessions_presented hq⟩

end ChopNow
