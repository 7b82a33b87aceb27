import ChopNow.Proofs.RecoveryCodes

/-! One session for a challenge. verifyTotpChallenge reads the challenge, takes its time over
the code, and deletes the challenge when the code was right: by then another call may have
been past the read. -/

namespace ChopNow

open Interleave

/-- The challenge that the call has read and not deleted. -/
def AdminThread.reads : AdminThread → Option Challenge
  | .verify (.checking challenge _) | .verify (.consuming challenge _) | .verify (.passed challenge _) => some challenge
  | _ => none

/-- The challenge that the call has deleted, while nothing has failed since. -/
def AdminThread.redeems : AdminThread → Option Challenge
  | .verify (.redeemed challenge _) | .verify (.signing challenge _ _) | .verify (.done challenge _ (.ok _)) => some challenge
  | _ => none

/-- The challenge that the call was given a session for. -/
def AdminThread.session : AdminThread → Option Challenge
  | .verify (.done challenge _ (.ok _)) => some challenge
  | _ => none

/-- A challenge is deleted while no other call is between its read and its delete of it, and no
login draws it again; and a call that has used a recovery code meets no failure. -/
def deletesAlone : Guard AdminDb AdminThread AdminEvent AdminReply := fun _ us m =>
  match m with
  | .step (.verify (.passed challenge _)) .ok => ∀ u ∈ us, u.reads ≠ some challenge
  | .step (.verify t) .fail => t.consumed = none
  | .step (.login .challenging) (.drawn challenge) => ∀ u ∈ us, u.redeems ≠ some challenge
  | _ => True

/-- No two calls have deleted one challenge, and none has one still in hand that another deleted. -/
def Unshared (t u : AdminThread) : Prop :=
  Distinct AdminThread.redeems t u ∧ (∀ challenge ∈ t.redeems, u.reads ≠ some challenge) ∧
    ∀ challenge ∈ u.redeems, t.reads ≠ some challenge

/-- What was deleted stays so. A call that has used a recovery code belongs to a user, and has
not been refused. -/
structure Redeeming (s : AdminDb) (t : AdminThread) : Prop where
  deleted : ∀ challenge ∈ t.redeems, s.challenges challenge = none
  owner : t.consumed.isSome = true → s.user.isSome = true
  accepted : ∀ v, t = .verify v → t.consumed.isSome = true → v.accepted = true

section

variable {check : TotpCheck} {s₀ s s' : AdminDb} {q : Pool AdminDb AdminThread} {t t' u : AdminThread}

theorem Unshared.symm (h : Unshared t u) : Unshared u t := ⟨h.1.symm, h.2.2, h.2.1⟩

theorem Unshared.idle (hredeems : t.redeems = none) (hreads : t.reads = none) : Unshared t u := by
  refine ⟨.idle _ hredeems, fun challenge h => ?_, fun challenge _ => ?_⟩
  · rw [hredeems] at h
    cases h
  · simp [hreads]

/-- The call has deleted what it had, and looks at nothing that it did not look at before. -/
theorem Unshared.of (h : Unshared t u) (hredeems : t'.redeems = t.redeems) (hreads : t'.reads = none ∨ t'.reads = t.reads) :
    Unshared t' u := by
  refine ⟨h.1.of _ (.inr hredeems), hredeems ▸ h.2.1, fun challenge hu => ?_⟩
  rcases hreads with hreads | hreads
  · simp [hreads]
  · exact hreads ▸ h.2.2 challenge hu

/-- A challenge that is pending has been deleted by nobody. -/
theorem Unshared.read {challenge : Challenge} (hu : Redeeming s u) (pending : s.pending challenge = true)
    (hredeems : t'.redeems = none) (hreads : t'.reads = some challenge) : Unshared t' u := by
  refine ⟨.idle _ hredeems, fun challenge h => ?_, fun challenge h heq => ?_⟩
  · rw [hredeems] at h
    cases h
  · obtain rfl := Option.some.inj (hreads.symm.trans heq)
    rw [AdminDb.pending, hu.deleted _ h] at pending
    cases pending

/-- The delete, while nobody else looks at the challenge. -/
theorem Unshared.delete {challenge : Challenge} (h : Unshared t u) (hread : t.reads = some challenge)
    (halone : u.reads ≠ some challenge) (hredeems : t'.redeems = some challenge) (hreads : t'.reads = none) :
    Unshared t' u := by
  refine ⟨fun _ heq => ?_, fun challenge' hmem => ?_, fun challenge' _ => ?_⟩
  · exact h.2.2 challenge (heq ▸ hredeems) hread
  · obtain rfl := Option.some.inj (hredeems.symm.trans hmem)
    exact halone
  · simp [hreads]

theorem Redeeming.of_none (hconsumed : t.consumed = none) (hredeems : t.redeems = none) : Redeeming s t := by
  refine ⟨fun challenge h => ?_, fun h => ?_, fun v _ h => ?_⟩
  · rw [hredeems] at h
    cases h
  · rw [hconsumed] at h
    cases h
  · rw [hconsumed] at h
    cases h

theorem session_redeems {challenge : Challenge} (h : t.session = some challenge) : t.redeems = some challenge := by
  unfold AdminThread.session at h
  split at h
  · exact h
  · cases h

theorem Redeeming.frame (h : Redeeming s u) (huser : s.user.isSome = true → s'.user.isSome = true)
    (hkept : ∀ challenge ∈ u.redeems, s'.challenges challenge = none ∨ s'.challenges challenge = s.challenges challenge) :
    Redeeming s' u where
  deleted := fun challenge hu => (hkept challenge hu).elim id fun hsame => hsame.trans (h.deleted challenge hu)
  owner := fun hsome => huser (h.owner hsome)
  accepted := h.accepted

/-- A token is put there only by the login that draws it. -/
theorem challenges_kept {us : List AdminThread} {e : AdminReply} (hok : deletesAlone s us (.step t e))
    (hmove : AdminMove check s t e s' t') (hu : u ∈ us) :
    ∀ challenge ∈ u.redeems, s'.challenges challenge = none ∨ s'.challenges challenge = s.challenges challenge := by
  intro challenge hredeems
  cases hmove with
  | start h | confirm h => cases h <;> exact .inr rfl
  | verify h =>
    cases h with
    | @redeemed deleted =>
      by_cases hsame : challenge = deleted
      · exact .inl (hsame ▸ Function.update_self ..)
      · exact .inr (Function.update_of_ne hsame ..)
    | _ => exact .inr rfl
  | login h =>
    cases h with
    | @challenged drawn =>
      refine .inr (Function.update_of_ne (fun hsame => ?_) ..)
      exact hok u hu (hsame ▸ hredeems)
    | _ => exact .inr rfl

/-- What the step of one call leaves of it. -/
theorem redeeming_step {us : List AdminThread} {e : AdminReply} (hs : s.Stored) (hmine : Redeeming s t)
    (hus : ∀ u ∈ us, Redeeming s u ∧ Unshared t u) (hok : deletesAlone s us (.step t e))
    (hmove : AdminMove check s t e s' t') : Redeeming s' t' ∧ ∀ u ∈ us, Unshared t' u := by
  cases hmove with
  | start | confirm | login => exact ⟨.of_none rfl rfl, fun u _ => .idle rfl rfl⟩
  | verify h =>
    cases h with
    | refused => exact ⟨.of_none rfl rfl, fun u _ => .idle rfl rfl⟩
    | readTotp pending | readRecovery pending =>
      exact ⟨.of_none rfl rfl, fun u hu => .read (hus u hu).1 pending rfl rfl⟩
    | tried | passed => exact ⟨.of_none rfl rfl, fun u hu => (hus u hu).2.of rfl (.inr rfl)⟩
    | consumed held =>
      refine ⟨⟨(by rintro _ ⟨⟩), fun _ => hs.owner (.inr fun hnil => ?_), ?_⟩, fun u hu => (hus u hu).2.of rfl (.inr rfl)⟩
      · rw [AdminDb.holds, hnil] at held
        cases held
      · rintro _ ⟨⟩ -
        rfl
    | redeemed =>
      refine ⟨⟨?_, hmine.owner, ?_⟩, fun u hu => (hus u hu).2.delete rfl (hok u hu) rfl rfl⟩
      · rintro _ ⟨⟩
        exact Function.update_self ..
      · rintro _ ⟨⟩ -
        rfl
    | resolved | signed =>
      refine ⟨⟨hmine.deleted, hmine.owner, ?_⟩, fun u hu => (hus u hu).2.of rfl (.inl rfl)⟩
      rintro _ ⟨⟩ -
      rfl
    | @orphaned challenge consumed missing =>
      refine ⟨.of_none (Option.not_isSome_iff_eq_none.1 fun hsome => ?_) rfl, fun u _ => .idle rfl rfl⟩
      have howner := hmine.owner hsome
      rw [missing] at howner
      cases howner
    | thrown after =>
      rename_i t
      have hunused : t.consumed = none := by cases t <;> exact hok
      exact ⟨.of_none hunused rfl, fun u _ => .idle rfl rfl⟩

theorem CodesMove.user {e : AdminReply} (h : CodesMove check s t e s' t') : s'.user = s.user := by
  cases h with
  | kept _ _ user => exact user
  | consumed | replaced => rfl

theorem sessions_sat (h₀ : s₀.Stored) (hq : (adminMachine check).Reach deletesAlone ⟨s₀, []⟩ q) :
    Sat AdminDb.Stored Redeeming Unshared q.shared q.threads := by
  refine hq.sat (fun t u => Unshared.symm) ⟨h₀, by simp, .nil⟩ ?_ ?_
  · intro s us n s' ts _ hs hus _ hev
    obtain ⟨rfl, rfl⟩ := admin_event hev
    obtain ⟨-, -, -, huser, hfresh⟩ := event_codes (s := s) n
    have hidle : ∀ t ∈ (adminEvent s n).2, t.redeems = none ∧ t.reads = none := by
      cases n <;> simp [adminEvent, AdminThread.redeems, AdminThread.reads]
    refine ⟨event_stored n hs, fun t ht => .of_none (hfresh t ht) (hidle t ht).1, fun u hu => ?_, ?_, fun t ht u _ => ?_⟩
    · exact (hus u hu).frame huser fun challenge _ => .inr (by cases n <;> rfl)
    · exact List.pairwise_of_forall_mem_list fun t ht u _ => .idle (hidle t ht).1 (hidle t ht).2
    · exact .idle (hidle t ht).1 (hidle t ht).2
  · intro s us vs t e s' ts _ hs hmine hus hok hst
    obtain ⟨t', rfl, hmove⟩ := admin_cases hst
    have hcodes := codes_cases hmove
    obtain ⟨hmine', hapart⟩ := redeeming_step hs hmine hus hok hmove
    refine .one (hcodes.stored hs) hmine' fun u hu => ⟨?_, hapart u hu⟩
    exact (hus u hu).1.frame (hcodes.user ▸ id) (challenges_kept hok hmove hu)

/-- While challenges are deleted by one call at a time, each gives one session, and who has used
a recovery code is given it. -/
theorem one_session_per_challenge (h₀ : s₀.Stored)
    (hq : (adminMachine check).Reach deletesAlone ⟨s₀, []⟩ q) :
    q.threads.Pairwise (Distinct AdminThread.session) ∧
      ∀ challenge id result, .verify (.done challenge (some id) result) ∈ q.threads → ∃ role, result = .ok role := by
  have hsat := sessions_sat h₀ hq
  constructor
  · refine hsat.apart.imp fun {t u} hunshared hsome heq => ?_
    obtain ⟨challenge, hsession⟩ := Option.isSome_iff_exists.1 hsome
    have hredeems := session_redeems hsession
    exact hunshared.1 (by rw [hredeems]; rfl) (hredeems.trans (session_redeems (heq ▸ hsession)).symm)
  · intro challenge id result hdone
    have haccepted := (hsat.locals _ hdone).accepted _ rfl rfl
    cases result with
    | error err => cases haccepted
    | ok role => exact ⟨role, rfl⟩

end

/-- Two calls with the code of the moment, both past the read: challenge 1 gives two sessions. -/
theorem challenge_redeemed_twice : ¬∀ (check : TotpCheck) s₀ q, s₀.Stored →
    (adminMachine check).Reach anyMove ⟨s₀, []⟩ q → q.threads.Pairwise (Distinct AdminThread.session) ∧
      ∀ challenge id result, .verify (.done challenge (some id) result) ∈ q.threads → ∃ role, result = .ok role := by
  intro h
  obtain ⟨q, hq, ht⟩ := Machine.reach_of_test (adminMachine countingCheck) anyMove (fun _ _ _ => true)
    (fun _ _ _ _ => trivial) ⟨enrolledAdmin, []⟩
    ([.event (.verifyTotpChallenge 1 40 false), .event (.verifyTotpChallenge 1 40 false)] ++
      List.replicate 10 (.step 1 .ok))
    (fun q => q.threads.map AdminThread.session == [some 1, some 1]) (by decide +kernel)
  have hsessions : (q.threads.map AdminThread.session).Pairwise fun x y => x.isSome = true → x ≠ y :=
    List.pairwise_map.2 (h _ _ q enrolledAdmin_stored hq).1
  rw [beq_iff_eq.1 ht] at hsessions
  revert hsessions
  decide

def deletesAloneB (_ : AdminDb) (us : List AdminThread) (m : Move AdminThread AdminEvent AdminReply) : Bool :=
  match m with
  | .step (.verify (.passed challenge _)) .ok => us.all fun u => u.reads != some challenge
  | .step (.verify t) .fail => t.consumed == none
  | .step (.login .challenging) (.drawn challenge) => us.all fun u => u.redeems != some challenge
  | _ => true

theorem deletesAlone_of_bool (db : AdminDb) (us : List AdminThread) (m : Move AdminThread AdminEvent AdminReply)
    (h : deletesAloneB db us m = true) : deletesAlone db us m := by
  unfold deletesAlone
  split
  · simpa [deletesAloneB] using h
  · simpa [deletesAloneB] using h
  · simpa [deletesAloneB] using h
  · trivial

/-- A recovery code, and then the authenticator's, both for challenge 1: the second call comes
too late. -/
theorem challenge_redeemed_once :
    ∃ q, (adminMachine countingCheck).Reach deletesAlone ⟨enrolledAdmin, []⟩ q ∧
      q.threads.map AdminThread.session = [none, some 1] ∧ q.threads.Pairwise (Distinct AdminThread.session) := by
  obtain ⟨q, hq, ht⟩ := Machine.reach_of_test (adminMachine countingCheck) deletesAlone deletesAloneB
    deletesAlone_of_bool ⟨enrolledAdmin, []⟩
    (.event (.verifyTotpChallenge 1 100 true) :: List.replicate 7 (.step 0 .ok) ++
      [.event (.verifyTotpChallenge 1 40 false), .step 0 .ok])
    (fun q => q.threads.map AdminThread.session == [none, some 1]) (by decide +kernel)
  exact ⟨q, hq, by simpa using ht, (one_session_per_challenge enrolledAdmin_stored hq).1⟩

end ChopNow
