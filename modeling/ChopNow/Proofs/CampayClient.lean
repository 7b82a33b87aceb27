import ChopNow.Lib.Simulation
import ChopNow.Spec.CampayClient
import ChopNow.Proofs.Probe

/-! What CampayService keeps is never stale: the token still has time left, the balance is less
than a minute old, and what closes the breaker is an answer of Campay and not the cache. -/

namespace ChopNow

open Interleave CircuitState

/-- What one step of a call does. -/
inductive CampayMove (s : CampayProcess) : CampayCall → CampayProcess → CampayCall → Prop
  | failed {t : CampayCall} {entry : RunningCall} (op : CampayOp) (err : String) :
      t.entry = some entry → CampayMove s t s (.settled op entry (.error err))
  | authenticated (op : CampayOp) (entry : RunningCall) (token : String) (expires_in : Option ℚ) :
      CampayMove s (.authenticating op entry) (s.keepToken entry.startedAt token expires_in) (.authorized op entry token)
  | sent (op : CampayOp) (entry : RunningCall) (token : String) :
      CampayMove s (.authorized op entry token) (s.send op entry.startedAt token) (.requested op entry s.circuit.clock)
  | answered (op : CampayOp) (entry : RunningCall) (sentAt : Time) (result : CampayResult) :
      CampayMove s (.requested op entry sentAt) (s.hear sentAt result) (.settled op entry (.ok result))
  | balance (op : CampayOp) (entry : RunningCall) (sentAt : Time) (xaf : ℤ) :
      CampayMove s (.requested op entry sentAt) ((s.hear sentAt (.balance xaf)).keepBalance xaf entry.startedAt)
        (.settled op entry (.ok (.balance xaf)))
  | wrapped (op : CampayOp) (entry : RunningCall) (outcome : Except String CampayResult) :
      CampayMove s (.settled op entry outcome) { s with circuit := circuitStep s.circuit outcome.isOk }
        (.done op entry.startedAt outcome)

section

variable {s s' : CampayProcess} {t t' : CampayCall} {e : CampayAnswer}

theorem receive_cases {op : CampayOp} {calledAt sentAt : Time} {outcome : Except String CampayResult}
    (h : s.receive op calledAt sentAt e = some (s', outcome)) :
    (s' = s ∧ ∃ err, outcome = .error err) ∨
      (∃ result, s' = s.hear sentAt result ∧ outcome = .ok result) ∨
      ∃ xaf, s' = (s.hear sentAt (.balance xaf)).keepBalance xaf calledAt ∧ outcome = .ok (.balance xaf) := by
  cases e with
  | threw err => cases h; exact .inl ⟨rfl, err, rfl⟩
  | payment status body =>
    cases op with
    | getBalance forceRefresh => cases h
    | _ =>
      simp only [CampayProcess.receive] at h
      split at h <;> cases h
      · exact .inl ⟨rfl, _, rfl⟩
      · exact .inr (.inl ⟨_, rfl, rfl⟩)
  | balance status body =>
    cases op with
    | getBalance forceRefresh =>
      simp only [CampayProcess.receive] at h
      split at h <;> cases h
      · exact .inl ⟨rfl, _, rfl⟩
      · exact .inr (.inr ⟨_, rfl, rfl⟩)
    | _ => cases h
  | _ => cases h

theorem campayMove_of_step (h : t.step s e = some (s', t')) : CampayMove s t s' t' := by
  cases t with
  | authenticating op entry =>
    cases e with
    | threw err => cases h; exact .failed op err rfl
    | token status text body =>
      simp only [CampayCall.step] at h
      split at h <;> cases h
      · exact .failed op _ rfl
      · exact .authenticated op entry _ _
    | _ => cases h
  | authorized op entry token =>
    cases e with
    | go => cases h; exact .sent op entry token
    | _ => cases h
  | requested op entry sentAt =>
    obtain ⟨⟨s₁, outcome⟩, hreceive, hr⟩ := Option.map_eq_some_iff.1 h
    obtain ⟨rfl, rfl⟩ := Prod.mk.inj hr
    obtain ⟨rfl, err, rfl⟩ | ⟨result, rfl, rfl⟩ | ⟨xaf, rfl, rfl⟩ := receive_cases hreceive
    · exact .failed op err rfl
    · exact .answered op entry sentAt result
    · exact .balance op entry sentAt xaf
  | settled op entry outcome =>
    cases e with
    | go => cases h; exact .wrapped op entry outcome
    | _ => cases h
  | done op calledAt outcome => cases h

theorem campayMachine_step {ts : List CampayCall} (h : campayMachine.step s t e = some (s', ts)) :
    ∃ t', ts = [t'] ∧ CampayMove s t s' t' := by
  obtain ⟨⟨s₁, t'⟩, hst, hr⟩ := Option.map_eq_some_iff.1 h
  obtain ⟨rfl, rfl⟩ := Prod.mk.inj hr
  exact ⟨t', rfl, campayMove_of_step hst⟩

theorem campayMachine_event {n : CampayEvent} {ts : List CampayCall} (h : campayMachine.event s n = some (s', ts)) :
    s' = (campayEvent s n).1 ∧ ts = (campayEvent s n).2 :=
  Prod.mk.inj (Option.some.inj h).symm

/-- How a call begins. -/
inductive Begun (s : CampayProcess) (op : CampayOp) (entry : RunningCall) : CampayCall → Prop
  | cached (xaf : ℤ) : op = .getBalance false → s.balanceXAF = some xaf →
      entry.startedAt - s.balanceFetchedAt < BALANCE_TTL_MS → Begun s op entry (.settled op entry (.ok (.balance xaf)))
  | unconfigured (err : String) : Begun s op entry (.settled op entry (.error err))
  | authenticating : Begun s op entry (.authenticating op entry)
  | authorized (token : String) : s.token = some token → entry.startedAt < s.tokenExpiresAt →
      Begun s op entry (.authorized op entry token)

theorem begun_getToken (op : CampayOp) (entry : RunningCall) : Begun s op entry (s.getToken op entry) := by
  unfold CampayProcess.getToken
  split
  · exact .unconfigured _
  · cases htoken : s.token with
    | none => exact .authenticating
    | some token =>
      by_cases hlive : (entry.startedAt : ℚ) < s.tokenExpiresAt
      · simpa [hlive] using Begun.authorized token htoken hlive
      · simpa [hlive] using Begun.authenticating

theorem begun (op : CampayOp) (entry : RunningCall) : Begun s op entry (s.begin op entry) := by
  cases op with
  | getBalance forceRefresh =>
    cases hcached : s.cachedBalance forceRefresh entry.startedAt with
    | none => simpa only [CampayProcess.begin, hcached] using begun_getToken _ entry
    | some xaf =>
      simp only [CampayProcess.begin, hcached]
      simp only [CampayProcess.cachedBalance] at hcached
      split at hcached
      next hfresh =>
        simp only [Bool.and_eq_true, Bool.not_eq_true', decide_eq_true_eq] at hfresh
        obtain ⟨rfl, hfresh⟩ := hfresh
        exact .cached xaf rfl hcached hfresh
      · cases hcached
  | _ => exact begun_getToken _ entry

theorem Begun.entry {op : CampayOp} {entry : RunningCall} (h : Begun s op entry t) : t.entry = some entry := by
  cases h <;> rfl

/-! The calls of the client are calls of the breaker. -/

theorem CampayMove.circuit (h : CampayMove s t s' t') :
    (s'.circuit = s.circuit ∧ t'.entry = t.entry) ∨
      ∃ entry succeeds, t.entry = some entry ∧ s'.circuit = circuitStep s.circuit succeeds ∧ t'.entry = none := by
  cases h with
  | failed op err hentry => exact .inl ⟨rfl, hentry.symm⟩
  | wrapped op entry outcome => exact .inr ⟨entry, outcome.isOk, rfl, rfl, rfl⟩
  | _ => exact .inl ⟨rfl, rfl⟩

/-- The breaker's part in an incoming call. -/
theorem campayEvent_call (s : CampayProcess) (op : CampayOp) :
    (campayEvent s (.call op)).1 = { s with circuit := (circuitEvent s.circuit .wrap).1 } ∧
      (campayEvent s (.call op)).2.filterMap CampayCall.entry = (circuitEvent s.circuit .wrap).2 := by
  simp only [campayEvent, circuitEvent]
  cases henter : s.circuit.breaker.enter s.circuit.clock with
  | none => simp [CampayCall.entry]
  | some b => simp [(begun op _).entry]

theorem campay_simulates (configured : Bool) (now : Time) :
    Simulates campayMachine circuitMachine anyMove anyMove CampayProcess.circuit CampayCall.entry
      ⟨.start configured now, []⟩ := by
  refine ⟨fun _ _ _ _ _ _ => trivial, ?_, ?_⟩
  · intro s us n s' ts as _ _ _ _ hev
    obtain ⟨rfl, rfl⟩ := campayMachine_event hev
    cases n with
    | tick elapsed => exact .event (n := .tick elapsed) trivial rfl
    | call op =>
      obtain ⟨hcircuit, hthreads⟩ := campayEvent_call s op
      refine .event (n := .wrap) trivial ?_
      rw [hthreads, hcircuit]
      rfl
  · intro s us vs t e s' ts as _ _ _ _ hst
    obtain ⟨t', rfl, hmove⟩ := campayMachine_step hst
    rcases hmove.circuit with ⟨hcircuit, hentry⟩ | ⟨entry, succeeds, hentry, hcircuit, hdone⟩
    · have hsame : [t'].filterMap CampayCall.entry = t.entry.toList := by cases h : t.entry <;> simp [hentry, h]
      rw [hcircuit, hsame]
      exact .stutter
    · have hgone : [t'].filterMap CampayCall.entry = [] := by simp [hdone]
      rw [hgone, hcircuit, hentry]
      exact .step trivial rfl

theorem campay_timely {configured : Bool} {now : Time} {q : Pool CampayProcess CampayCall}
    (h : campayMachine.Reach anyMove ⟨.start configured now, []⟩ q) :
    ∃ as, Timely q.shared.circuit as ∧ as.Perm (q.threads.filterMap CampayCall.entry) := by
  obtain ⟨as, hr, has⟩ := (campay_simulates configured now).run h
  exact ⟨as, timely_reach hr, has⟩

end

/-! Between the moment the breaker trips and the end of the cool-down nothing starts. -/

def Circuit.Gap (c : Circuit) (at_ : Time) : Prop :=
  c.breaker.state ≠ closed → at_ ≤ c.trippedAt ∨ c.trippedAt + OPEN_DURATION_MS ≤ at_

section

variable {c c' : Circuit} {at_ : Time} {t : RunningCall} {ts : List RunningCall}

theorem Timely.gap (h : Timely c ts) (ht : t ∈ ts) : c.Gap t.startedAt := by
  intro hopen
  rcases (h.known t ht).1.lt_or_eq with hlt | heq
  · exact .inl (h.earlier t ht hlt)
  · exact .inr (h.cooled t ht heq hopen)

theorem Circuit.Gap.same (h : c.Gap at_) (hstate : c'.breaker.state ≠ closed → c.breaker.state ≠ closed)
    (htripped : c'.trippedAt = c.trippedAt) : c'.Gap at_ := fun hopen => by
  rw [htripped]
  exact h (hstate hopen)

theorem Circuit.Gap.wrap (h : c.Gap at_) : (circuitEvent c .wrap).1.Gap at_ := by
  have hr := circuitEvent_wrap c
  generalize circuitEvent c .wrap = r at hr
  cases hr with
  | turnedAway => exact h
  | trial hopened => exact h.same (fun _ => by simp [hopened]) rfl
  | through => exact h

theorem Circuit.Gap.step (h : c.Gap at_) (hclock : at_ ≤ c.clock) (succeeds : Bool) :
    (circuitStep c succeeds).Gap at_ := by
  have hs := circuitStep_cases c succeeds
  generalize circuitStep c succeeds = c' at hs
  cases hs with
  | succeeded => exact fun hopen => absurd rfl hopen
  | counted b hclosed hstate => exact fun hopen => absurd hstate hopen
  | tripped => exact fun _ => .inl hclock
  | kept b hother => exact h.same (fun _ => hother) rfl

theorem circuitEvent_wrap_clock (c : Circuit) : (circuitEvent c .wrap).1.clock = c.clock := by
  have hr := circuitEvent_wrap c
  generalize circuitEvent c .wrap = r at hr
  cases hr <;> rfl

theorem circuitStep_clock (c : Circuit) (succeeds : Bool) : (circuitStep c succeeds).clock = c.clock := by
  have hs := circuitStep_cases c succeeds
  generalize circuitStep c succeeds = c' at hs
  cases hs <;> rfl

end

/-! What the process may rely on. -/

namespace CampayProcess

/-- The token had been asked for by then, and lasts for five minutes more; if it is one that lasts
for less than six minutes, it lasts for a minute less than its lifetime. -/
def TokenLive (s : CampayProcess) (token : String) (at_ : Time) : Prop :=
  ∃ i ∈ s.issued, i.token = token ∧ i.requestedAt ≤ at_ ∧
    at_ + min 300 (i.lifetimeSec - 60) * 1000 < i.requestedAt + i.lifetimeSec * 1000

/-- Campay said so to a request that was sent at `since` or later, and nothing starts in between
the breaker's opening and the end of the cool-down. -/
structure Backed (s : CampayProcess) (result : CampayResult) (since : Time) : Prop where
  heard : ∃ sentAt, (sentAt, result) ∈ s.heard ∧ since ≤ sentAt
  clock : since ≤ s.circuit.clock
  gap : s.circuit.Gap since

/-- Less than a minute old when the call came in; and only a balance that need not be fetched is
older than the call. -/
def Recent (op : CampayOp) (calledAt since : Time) : Prop :=
  calledAt < since + BALANCE_TTL_MS ∧ (op ≠ .getBalance false → calledAt ≤ since)

structure Sound (s : CampayProcess) : Prop where
  token : ∀ token, s.token = some token → ∃ i ∈ s.issued, i.token = token ∧ i.requestedAt ≤ s.circuit.clock ∧
    s.tokenExpiresAt = i.requestedAt + max 60 (i.lifetimeSec - 300) * 1000
  balance : ∀ xaf, s.balanceXAF = some xaf → s.Backed (.balance xaf) s.balanceFetchedAt
  sent : ∀ r ∈ s.sent, s.TokenLive r.token r.calledAt

/-- What never goes back. -/
structure Grows (s s' : CampayProcess) : Prop where
  clock : s.circuit.clock ≤ s'.circuit.clock
  issued : ∀ i ∈ s.issued, i ∈ s'.issued
  heard : ∀ r ∈ s.heard, r ∈ s'.heard
  gap : ∀ at_, at_ ≤ s.circuit.clock → s.circuit.Gap at_ → s'.circuit.Gap at_

variable {s s' : CampayProcess} {op : CampayOp} {token : String} {at_ since : Time} {result : CampayResult}

theorem Grows.same (hcircuit : s'.circuit = s.circuit) (hissued : ∀ i ∈ s.issued, i ∈ s'.issued)
    (hheard : ∀ r ∈ s.heard, r ∈ s'.heard) : Grows s s' :=
  ⟨hcircuit ▸ le_rfl, hissued, hheard, fun _ _ h => hcircuit ▸ h⟩

theorem Grows.of_circuit {c : Circuit} (hclock : s.circuit.clock ≤ c.clock)
    (hgap : ∀ at_, at_ ≤ s.circuit.clock → s.circuit.Gap at_ → c.Gap at_) : Grows s { s with circuit := c } :=
  ⟨hclock, fun _ h => h, fun _ h => h, hgap⟩

theorem TokenLive.grow (h : s.TokenLive token at_) (hs : Grows s s') : s'.TokenLive token at_ := by
  obtain ⟨i, hi, hlive⟩ := h
  exact ⟨i, hs.issued i hi, hlive⟩

theorem Backed.grow (h : s.Backed result since) (hs : Grows s s') : s'.Backed result since := by
  obtain ⟨sentAt, hheard, hsince⟩ := h.heard
  exact ⟨⟨sentAt, hs.heard _ hheard, hsince⟩, h.clock.trans hs.clock, hs.gap since h.clock h.gap⟩

/-- A state with the same token, balance and requests. -/
theorem Sound.grow (h : s.Sound) (hs : Grows s s') (htoken : s'.token = s.token)
    (hexpires : s'.tokenExpiresAt = s.tokenExpiresAt) (hbalance : s'.balanceXAF = s.balanceXAF)
    (hfetched : s'.balanceFetchedAt = s.balanceFetchedAt) (hsent : s'.sent = s.sent) : s'.Sound where
  token := fun token hsome => by
    obtain ⟨i, hi, heq, hle, hend⟩ := h.token token (htoken ▸ hsome)
    exact ⟨i, hs.issued i hi, heq, hle.trans hs.clock, hexpires.trans hend⟩
  balance := fun xaf hsome => by
    rw [hfetched]
    exact (h.balance xaf (hbalance ▸ hsome)).grow hs
  sent := fun r hr => (h.sent r (hsent ▸ hr)).grow hs

/-- The margin of getToken is what is left of a lifetime. -/
theorem margin (l : ℚ) : max 60 (l - 300) = l - min 300 (l - 60) := by
  rcases le_total 360 l with h | h
  · rw [max_eq_right (by linarith), min_eq_left (by linarith)]
  · rw [max_eq_left (by linarith), min_eq_right (by linarith)]
    ring

theorem Sound.token_live (h : s.Sound) (htoken : s.token = some token) (hlive : (at_ : ℚ) < s.tokenExpiresAt)
    (hnow : s.circuit.clock ≤ at_) : s.TokenLive token at_ := by
  obtain ⟨i, hi, heq, hle, hend⟩ := h.token token htoken
  refine ⟨i, hi, heq, hle.trans hnow, ?_⟩
  rw [hend, margin] at hlive
  linarith

/-- A token just brought. -/
theorem tokenLive_keepToken (requestedAt : Time) (token : String) (expires_in : Option ℚ) :
    (s.keepToken requestedAt token expires_in).TokenLive token requestedAt := by
  refine ⟨⟨token, requestedAt, expires_in.getD 3600⟩, by simp [keepToken], rfl, le_rfl, ?_⟩
  have hmin : min 300 (expires_in.getD 3600 - 60) ≤ expires_in.getD 3600 - 60 := min_le_right _ _
  simp only
  linarith

end CampayProcess

open CampayProcess

/-- What a call has to show at each of its stages. -/
def CampayCall.Shows (s : CampayProcess) : CampayCall → Prop
  | .authenticating _ entry => entry.startedAt ≤ s.circuit.clock
  | .authorized _ entry token => entry.startedAt ≤ s.circuit.clock ∧ s.TokenLive token entry.startedAt
  | .requested _ entry sentAt => entry.startedAt ≤ sentAt ∧ sentAt ≤ s.circuit.clock
  | .settled op entry (.ok result) => ∃ since, s.Backed result since ∧ Recent op entry.startedAt since
  | .done op calledAt (.ok result) => ∃ since, s.Backed result since ∧ Recent op calledAt since
  | .settled _ _ (.error _) | .done _ _ (.error _) => True

section

variable {s s' : CampayProcess} {t t' u : CampayCall} {entry : RunningCall}

theorem CampayCall.Shows.grow (h : u.Shows s) (hs : Grows s s') : u.Shows s' := by
  cases u with
  | authenticating op entry => exact h.trans hs.clock
  | authorized op entry token => exact ⟨h.1.trans hs.clock, h.2.grow hs⟩
  | requested op entry sentAt => exact ⟨h.1, h.2.trans hs.clock⟩
  | settled op entry outcome =>
    cases outcome with
    | error err => trivial
    | ok result =>
      obtain ⟨since, hbacked, hrecent⟩ := h
      exact ⟨since, hbacked.grow hs, hrecent⟩
  | done op calledAt outcome =>
    cases outcome with
    | error err => trivial
    | ok result =>
      obtain ⟨since, hbacked, hrecent⟩ := h
      exact ⟨since, hbacked.grow hs, hrecent⟩

theorem recent_self (op : CampayOp) (calledAt : Time) : Recent op calledAt calledAt :=
  ⟨Nat.lt_add_of_pos_right (by decide), fun _ => le_rfl⟩

theorem CampayMove.grows (h : CampayMove s t s' t') : Grows s s' := by
  cases h with
  | failed op err hentry => exact .same rfl (fun _ h => h) fun _ h => h
  | authenticated => exact .same rfl (fun _ hi => List.mem_append_left _ hi) fun _ h => h
  | sent => exact .same rfl (fun _ h => h) fun _ h => h
  | answered => exact .same rfl (fun _ h => h) fun _ hr => List.mem_append_left _ hr
  | balance => exact .same rfl (fun _ h => h) fun _ hr => List.mem_append_left _ hr
  | wrapped op entry outcome =>
    exact .of_circuit (circuitStep_clock _ _).ge fun _ hclock hgap => hgap.step hclock _

/-- An answer to a request that was sent after the call. -/
theorem backed_hear {sentAt calledAt : Time} {result : CampayResult} (hsent : calledAt ≤ sentAt)
    (hclock : calledAt ≤ s.circuit.clock) (hgap : s.circuit.Gap calledAt) : (s.hear sentAt result).Backed result calledAt :=
  ⟨⟨sentAt, by simp [hear], hsent⟩, hclock, hgap⟩

theorem CampayMove.sound (h : CampayMove s t s' t') (hs : s.Sound) (ht : t.Shows s)
    (hgap : ∀ entry, t.entry = some entry → s.circuit.Gap entry.startedAt) : s'.Sound ∧ t'.Shows s' := by
  have hgrows := h.grows
  cases h with
  | failed op err hentry => exact ⟨hs, trivial⟩
  | authenticated op entry token expires_in =>
    refine ⟨⟨fun token' htoken => ?_, fun xaf hxaf => (hs.balance xaf hxaf).grow hgrows,
      fun r hr => (hs.sent r hr).grow hgrows⟩, ht, tokenLive_keepToken _ _ _⟩
    obtain rfl := Option.some.inj htoken
    exact ⟨⟨token, entry.startedAt, expires_in.getD 3600⟩, by simp [keepToken], rfl, ht, rfl⟩
  | sent op entry token =>
    refine ⟨⟨hs.token, fun xaf hxaf => (hs.balance xaf hxaf).grow hgrows, fun r hr => ?_⟩, ht.1, le_rfl⟩
    rcases List.mem_append.1 hr with hr | hr
    · exact (hs.sent r hr).grow hgrows
    · obtain rfl := List.mem_singleton.1 hr
      exact ht.2.grow hgrows
  | answered op entry sentAt result =>
    refine ⟨hs.grow hgrows rfl rfl rfl rfl rfl, entry.startedAt, ?_, recent_self op _⟩
    exact backed_hear ht.1 (ht.1.trans ht.2) (hgap entry rfl)
  | balance op entry sentAt xaf =>
    have hbacked : (s.hear sentAt (.balance xaf)).Backed (.balance xaf) entry.startedAt :=
      backed_hear ht.1 (ht.1.trans ht.2) (hgap entry rfl)
    have hkept : ((s.hear sentAt (.balance xaf)).keepBalance xaf entry.startedAt).Backed (.balance xaf) entry.startedAt :=
      ⟨hbacked.heard, hbacked.clock, hbacked.gap⟩
    refine ⟨⟨hs.token, fun xaf' hxaf' => ?_,
      fun r hr => (hs.sent r hr).grow hgrows⟩, entry.startedAt, hkept, recent_self op _⟩
    obtain rfl := Option.some.inj hxaf'
    exact hkept
  | wrapped op entry outcome =>
    refine ⟨hs.grow hgrows rfl rfl rfl rfl rfl, ?_⟩
    cases outcome with
    | error err => trivial
    | ok result =>
      obtain ⟨since, hbacked, hrecent⟩ := ht
      exact ⟨since, hbacked.grow hgrows, hrecent⟩

/-- A call that comes in, from the cache or not. -/
theorem Begun.shows {op : CampayOp} (h : Begun s op entry t) (hs : s.Sound) (hnow : entry.startedAt = s.circuit.clock) :
    t.Shows s := by
  cases h with
  | unconfigured err => trivial
  | authenticating => exact hnow.le
  | authorized token htoken hlive => exact ⟨hnow.le, hs.token_live htoken hlive hnow.ge⟩
  | cached xaf hop hxaf hfresh =>
    exact ⟨s.balanceFetchedAt, hs.balance xaf hxaf, lt_add_of_tsub_lt_left hfresh, fun hnot => absurd hop hnot⟩

theorem CampayEvent.sound (n : CampayEvent) (hs : s.Sound) :
    Grows s (campayEvent s n).1 ∧ (campayEvent s n).1.Sound ∧ ∀ t ∈ (campayEvent s n).2, t.Shows (campayEvent s n).1 := by
  cases n with
  | tick elapsed =>
    have hgrows : Grows s { s with circuit := { s.circuit with clock := s.circuit.clock + elapsed } } :=
      .of_circuit (Nat.le_add_right _ _) fun _ _ hgap => hgap
    exact ⟨hgrows, hs.grow hgrows rfl rfl rfl rfl rfl, List.forall_mem_nil _⟩
  | call op =>
    obtain ⟨hcircuit, -⟩ := campayEvent_call s op
    have hgrows : Grows s (campayEvent s (.call op)).1 := by
      rw [hcircuit]
      exact .of_circuit (circuitEvent_wrap_clock _).ge fun _ _ hgap => hgap.wrap
    have hsound : (campayEvent s (.call op)).1.Sound := by
      rw [hcircuit] at hgrows ⊢
      exact hs.grow hgrows rfl rfl rfl rfl rfl
    refine ⟨hgrows, hsound, fun t ht => ?_⟩
    simp only [campayEvent] at ht hgrows ⊢
    cases henter : s.circuit.breaker.enter s.circuit.clock with
    | none =>
      simp only [henter, List.mem_singleton] at ht
      subst ht
      trivial
    | some b =>
      simp only [henter, List.mem_singleton] at ht hgrows ⊢
      subst ht
      exact ((begun op _).shows hs rfl).grow hgrows

end

/-- In every run what is kept is sound and every call can show what it has to. -/
theorem campay_sound {configured : Bool} {now : Time} {q : Pool CampayProcess CampayCall}
    (h : campayMachine.Reach anyMove ⟨.start configured now, []⟩ q) :
    q.shared.Sound ∧ ∀ t ∈ q.threads, t.Shows q.shared := by
  refine h.stable (I := CampayProcess.Sound) (L := fun s t => t.Shows s) ⟨nofun, nofun, List.forall_mem_nil _⟩
    (List.forall_mem_nil _) ?_ ?_
  · intro s us n s' ts _ hs _ hev
    obtain ⟨rfl, rfl⟩ := campayMachine_event hev
    obtain ⟨hgrows, hsound, hfresh⟩ := n.sound hs
    exact ⟨hsound, hfresh, fun u hu => hu.grow hgrows⟩
  · intro s us vs t e s' ts hr hs ht _ hst
    obtain ⟨t', rfl, hmove⟩ := campayMachine_step hst
    obtain ⟨as, htimely, has⟩ := campay_timely hr
    have hgap : ∀ entry, t.entry = some entry → s.circuit.Gap entry.startedAt := fun entry hentry =>
      htimely.gap (has.mem_iff.2 (List.mem_filterMap.2 ⟨t, by simp, hentry⟩))
    obtain ⟨hsound, hshows⟩ := hmove.sound hs ht hgap
    exact ⟨hsound, List.forall_mem_singleton.2 hshows, fun u hu => hu.grow hmove.grows⟩

section

variable {configured : Bool} {now : Time} {q : Pool CampayProcess CampayCall} {op : CampayOp}

/-- Whatever the calls of the process do at the same time, a call that succeeds brings what Campay
answered to a request less than a minute older than the call; and only getBalance without
forceRefresh ever brings an answer to a request from before the call. -/
theorem campay_answer_recent (h : campayMachine.Reach anyMove ⟨.start configured now, []⟩ q) {calledAt : Time}
    {result : CampayResult} (ht : .done op calledAt (.ok result) ∈ q.threads) :
    ∃ sentAt, (sentAt, result) ∈ q.shared.heard ∧ calledAt < sentAt + BALANCE_TTL_MS ∧
      (op ≠ .getBalance false → calledAt ≤ sentAt) := by
  obtain ⟨since, hbacked, hrecent, hforced⟩ := (campay_sound h).2 _ ht
  obtain ⟨sentAt, hheard, hsince⟩ := hbacked.heard
  exact ⟨sentAt, hheard, hrecent.trans_le (Nat.add_le_add_right hsince _), fun hop => (hforced hop).trans hsince⟩

/-- A success that closes the breaker, of a call that came in since the breaker had left CLOSED,
is Campay's answer to a request sent after the cool-down: a balance may be kept for as long as the
cool-down lasts and no longer, so the breaker is never closed by the cache. -/
theorem breaker_closed_by_campay {s s' : CampayProcess} {us vs ts : List CampayCall} {t : CampayCall} {e : CampayAnswer}
    (h : campayMachine.Reach anyMove ⟨.start configured now, []⟩ ⟨s, us ++ t :: vs⟩)
    (hst : campayMachine.step s t e = some (s', ts)) (hopen : s.circuit.breaker.state ≠ closed)
    (hclosed : s'.circuit.breaker.state = closed) :
    ∃ op entry result, t = .settled op entry (.ok result) ∧
      (s.circuit.isTrial entry → ∃ sentAt, (sentAt, result) ∈ s.heard ∧ s.circuit.trippedAt + OPEN_DURATION_MS ≤ sentAt) := by
  obtain ⟨t', rfl, hmove⟩ := campayMachine_step hst
  cases hmove with
  | wrapped op entry outcome =>
    cases outcome with
    | error err =>
      have hcases := circuitStep_cases s.circuit false
      change (circuitStep s.circuit false).breaker.state = closed at hclosed
      generalize circuitStep s.circuit false = c at hcases hclosed
      cases hcases with
      | counted b hwas => exact absurd hwas hopen
      | tripped b hwas => exact absurd hwas hopen
      | kept b hother hstate => exact absurd (hstate.symm.trans hclosed) (by decide)
    | ok result =>
      refine ⟨op, entry, result, rfl, fun htrial => ?_⟩
      obtain ⟨as, htimely, has⟩ := campay_timely h
      have hentry : entry ∈ as := has.mem_iff.2 (List.mem_filterMap.2 ⟨_, List.mem_append_right _ (.head _), rfl⟩)
      have hcooled := htimely.cooled entry hentry (by simpa [Circuit.isTrial] using htrial) hopen
      obtain ⟨since, hbacked, hrecent, -⟩ := (campay_sound h).2 _ (List.mem_append_right _ (.head _))
      obtain ⟨sentAt, hheard, hsince⟩ := hbacked.heard
      refine ⟨sentAt, hheard, ?_⟩
      rcases hbacked.gap hopen with hbefore | hafter
      · -- older than the opening, it would have been too old for the call
        have hold : since + BALANCE_TTL_MS ≤ entry.startedAt := (Nat.add_le_add_right hbefore _).trans hcooled
        exact absurd hrecent (not_lt.2 hold)
      · exact hafter.trans hsince
  | _ => exact absurd hclosed hopen

end

/-! Runs of that kind. -/

def balanceAnswer (xaf : ℚ) : CampayAnswer := .balance 200 { total_balance := some (some xaf) }

def tokenAnswer (lifetimeSec : ℚ) : CampayAnswer := .token 200 "" { token := some "t", expires_in := some lifetimeSec }

/-- A balance is fetched, and a second call gets it from the cache 59999 ms later. -/
def secondBalance : List (Act CampayEvent CampayAnswer) :=
  [.event (.call (.getBalance false)), .step 0 (tokenAnswer 3600), .step 0 .go, .step 0 (balanceAnswer 5000),
    .step 0 .go, .event (.tick 59999), .event (.call (.getBalance false)), .step 0 .go]

def secondAnswered : List CampayCall → Bool
  | .done (.getBalance false) 59999 (.ok (.balance 5000)) :: _ => true
  | _ => false

theorem balance_from_cache :
    ∃ q, campayMachine.Reach anyMove ⟨.start true 0, []⟩ q ∧ q.shared.sent.length = 1 ∧
      ∃ sentAt, (sentAt, .balance 5000) ∈ q.shared.heard ∧ 59999 < sentAt + BALANCE_TTL_MS ∧
        (CampayOp.getBalance false ≠ .getBalance false → 59999 ≤ sentAt) := by
  obtain ⟨⟨s, ts⟩, hq, ht⟩ := Machine.reach_of_test campayMachine anyMove (fun _ _ _ => true) (fun _ _ _ _ => trivial)
    ⟨.start true 0, []⟩ secondBalance
    (fun q => q.shared.sent.length == 1 && secondAnswered q.threads) (by decide +kernel)
  simp only [secondAnswered, Bool.and_eq_true, beq_iff_eq] at ht
  obtain ⟨hsent, ht⟩ := ht
  split at ht
  next us => exact ⟨_, hq, hsent, campay_answer_recent hq (.head us)⟩
  · cases ht

/-- A balance is kept, the breaker opens, and the call that closes it a minute later has to ask again. -/
def fiveTimeouts : List (Act CampayEvent CampayAnswer) :=
  secondBalance.take 5 ++
    (List.replicate THRESHOLD_FAILURES
      [.event (.call (.getBalance true)), .step 0 .go, .step 0 (.threw "timeout"), .step 0 .go]).flatten

/-- The newest call has its answer, and will tell the breaker. -/
def trialAnswered (circuit : Circuit) : List CampayCall → Bool
  | .settled (.getBalance false) entry (.ok (.balance 7000)) :: _ => circuit.isTrial entry
  | _ => false

theorem balance_asked_again :
    ∃ s us, campayMachine.Reach anyMove ⟨.start true 0, []⟩ ⟨s, us⟩ ∧ s.circuit.breaker.state = halfOpen ∧
      s.balanceFetchedAt = 60000 ∧ ∃ sentAt, (sentAt, .balance 7000) ∈ s.heard ∧ s.circuit.trippedAt + OPEN_DURATION_MS ≤ sentAt := by
  obtain ⟨⟨s, ts⟩, hq, ht⟩ := Machine.reach_of_test campayMachine anyMove (fun _ _ _ => true) (fun _ _ _ _ => trivial)
    ⟨.start true 0, []⟩
    (fiveTimeouts ++ [.event (.tick 60000), .event (.call (.getBalance false)), .step 0 .go, .step 0 (balanceAnswer 7000)])
    (fun q => q.shared.circuit.breaker.state == halfOpen && q.shared.balanceFetchedAt == 60000 &&
      trialAnswered q.shared.circuit q.threads) (by decide +kernel)
  simp only [trialAnswered, Bool.and_eq_true, beq_iff_eq] at ht
  obtain ⟨⟨hhalf, hfetched⟩, ht⟩ := ht
  split at ht
  next entry us =>
    have hreach : campayMachine.Reach anyMove ⟨.start true 0, []⟩
        ⟨s, [] ++ .settled (.getBalance false) entry (.ok (.balance 7000)) :: us⟩ := hq
    have hclosed : (circuitStep s.circuit true).breaker.state = closed := by rw [circuitStep_true]
    obtain ⟨op, entry', result, hcall, hbacked⟩ := breaker_closed_by_campay (e := .go) hreach rfl (by simp [hhalf]) hclosed
    obtain ⟨rfl, rfl, hresult⟩ := CampayCall.settled.inj hcall
    obtain rfl := Except.ok.inj hresult
    exact ⟨s, _, hq, hhalf, hfetched, hbacked ht⟩
  · cases ht

end ChopNow
