import ChopNow.Lib.Inbox
import ChopNow.Proofs.PayoutStep

/-! The transfer handler is an inbox: the dedup table files a terminal callback,
the row is looked up by its reference, and the guarded update is the effect. -/

namespace ChopNow

open Interleave

/-- The row that carries `ref` is PAID or FAILED. -/
def PayoutWorld.inbox (ref : Reference) (w : PayoutWorld) : Inbox.State where
  stored := w.payout.campayRef == some ref
  taken := hasEvent w.dedup .transfer ref
  applied := w.payout.campayRef == some ref && w.payout.status != .inFlight
  first := (reports ref w.transfers).getLast?.map fun _ => true

def PayoutThread.task : PayoutThread → Option Inbox.Task
  | .transfer (.done _) => none
  | .transfer _ => some .write
  | .webhook (.received _) => some (.receive true)
  | .webhook (.first ..) => some (.look true)
  | .webhook (.found ..) => some .apply
  | _ => none

/-- Only terminal callbacks for `ref` arrive, one outcome is reported, and no statement fails. -/
def transferRelayed (ref : Reference) (st : CampayStatus) : Guard PayoutWorld PayoutThread PayoutEvent Reply :=
  fun _ _ m =>
    match m with
    | .event (.callback payload) => payload.Settles ref st
    | .event (.tick _) => True
    | .event _ | .step _ (.fail _) => False
    | _ => True

/-- What callbacks that agree with `st` make of the row. -/
def CampayStatus.payoutStatus (st : CampayStatus) : PayoutStatus := if st.isSuccess then .paid else .failed

@[simp] theorem Payout.settle_campayRef (p : Payout) (payload : CampayWebhookPayload) (now : Time) :
    (p.settle payload now).campayRef = p.campayRef := by
  unfold settle
  split <;> rfl

theorem Payout.settle_status {p : Payout} {payload : CampayWebhookPayload} {now : Time} {st : CampayStatus}
    (h : payload.status.isSuccess = st.isSuccess) : (p.settle payload now).status = st.payoutStatus := by
  unfold settle CampayStatus.payoutStatus
  rw [h]
  split <;> rfl

def TransferInv (ref : Reference) (st : CampayStatus) (w : PayoutWorld) : Prop :=
  w.payout.campayRef = some ref → w.payout.status = .inFlight ∨ w.payout.status = st.payoutStatus

def TransferLocal (ref : Reference) (st : CampayStatus) (w : PayoutWorld) : PayoutThread → Prop
  | .transfer (.called) | .transfer (.candidate ..) => w.payout.campayRef ≠ some ref
  | .transfer (.locked ..) | .transfer (.accepted _) | .transfer (.caught ..) =>
    w.payout.campayRef ≠ some ref ∧ w.payout.status = .inFlight
  | .webhook (.received payload) => payload.Settles ref st
  | .webhook (.first payload r _) => r = ref ∧ payload.Settles ref st
  | .webhook (.found payload r _) => r = ref ∧ payload.Settles ref st ∧ w.payout.campayRef = some ref
  | _ => True

def PayoutThread.sending : PayoutThread → Bool
  | .transfer (.done _) | .webhook _ => false
  | .transfer _ => true

def OneSender (t u : PayoutThread) : Prop := ¬(t.sending = true ∧ u.sending = true)

theorem OneSender.symm {t u : PayoutThread} (h : OneSender t u) : OneSender u t := fun hu => h hu.symm

section

variable {ref : Reference} {st : CampayStatus} {w w' : PayoutWorld} {us ts : List PayoutThread}
  {t t' : PayoutThread} {e : Reply}

/-- The sender's assertion is about columns that only the sender writes while the
reference is not on the row. -/
theorem TransferLocal.frame {u : PayoutThread} (h : TransferLocal ref st w u)
    (href : w'.payout.campayRef = w.payout.campayRef ∨ u.sending = false ∧ w.payout.campayRef ≠ some ref)
    (hstatus : w.payout.campayRef ≠ some ref → u.sending = true →
      w.payout.status = .inFlight → w'.payout.status = .inFlight) :
    TransferLocal ref st w' u := by
  cases u with
  | transfer t =>
    cases t with
    | done outcome => trivial
    | called | candidate => exact fun h' => h ((href.resolve_right (by simp [PayoutThread.sending])) ▸ h')
    | locked | accepted | caught =>
      have hsame := href.resolve_right (by simp [PayoutThread.sending])
      exact ⟨hsame ▸ h.1, hstatus h.1 rfl h.2⟩
  | webhook t =>
    cases t with
    | found payload r now =>
      rcases href with hsame | ⟨-, hne⟩
      · exact ⟨h.1, h.2.1, hsame ▸ h.2.2⟩
      · exact absurd h.2.2 hne
    | _ => exact h

abbrev TransferMoved (ref : Reference) (st : CampayStatus) (us : List PayoutThread) (w' : PayoutWorld)
    (ts : List PayoutThread) : Prop :=
  Moved (TransferInv ref st) (TransferLocal ref st) OneSender us w' ts

theorem transfer_moved (hI : TransferInv ref st w) (hL : TransferLocal ref st w t)
    (hus : ∀ u ∈ us, TransferLocal ref st w u ∧ OneSender t u) (hok : transferRelayed ref st w us (.step t e))
    (h : PayoutMove w t e w' t') : TransferMoved ref st us w' [t'] := by
  -- most steps leave the row alone
  have hquiet : ∀ {w' t'}, w'.payout = w.payout → TransferLocal ref st w t' →
      (t'.sending = true → t.sending = true) → TransferMoved ref st us w' [t'] := by
    intro w' t' hp ht hs
    have hkeep : ∀ {u}, TransferLocal ref st w u → TransferLocal ref st w' u := fun hu =>
      hu.frame (.inl (by rw [hp])) (fun _ _ h => by rwa [hp])
    refine .one ?_ (hkeep ht) fun u hu => ⟨hkeep (hus u hu).1, fun hx => (hus u hu).2 ⟨hs hx.1, hx.2⟩⟩
    intro href
    rw [hp] at href ⊢
    exact hI href
  -- a sender's write finds no other sender
  have hwrite : ∀ {w'}, t.sending = true → TransferInv ref st w' → w.payout.campayRef ≠ some ref →
      ∀ u ∈ us, u.sending = false ∧ TransferLocal ref st w' u := by
    intro w' ht hI' hne u hu
    have hs : u.sending = false := by
      by_contra hn
      exact (hus u hu).2 ⟨ht, by simpa using hn⟩
    exact ⟨hs, (hus u hu).1.frame (.inr ⟨hs, hne⟩) fun _ hx => by simp [hs] at hx⟩
  cases h with
  | calledOff | skipped | swallowed | hookKeyless | hookEarly | hookDuplicate | hookMissed | hookLate | hookThrown
  | hookRecorded => exact hquiet rfl trivial nofun
  | unstored => exact hok.elim
  | candidate due => exact hquiet rfl hL fun _ => rfl
  | accepted fresh => exact hquiet rfl hL fun _ => rfl
  | refused | lost => exact hquiet rfl hL fun _ => rfl
  | @hookFirst payload r key terminal first =>
    refine hquiet rfl ⟨?_, hL⟩ nofun
    simpa [CampayWebhookPayload.key, hL.reference] using key.symm
  | hookFound hmatch due => exact hquiet rfl ⟨hL.1, hL.2, hL.1 ▸ hmatch⟩ nofun
  | locked due =>
    have hI' : TransferInv ref st
        { w with payout := { w.payout with status := .inFlight, sentAt := some w.clock } } := fun _ => .inl rfl
    refine .one hI' ⟨hL, rfl⟩ fun u hu => ?_
    obtain ⟨hs, hu⟩ := hwrite rfl hI' hL u hu
    exact ⟨hu, fun hx => by simp [hs] at hx⟩
  | @onReference r =>
    have hI' : TransferInv ref st
        { w with payout := { w.payout with campayRef := some r }, transfers := store r w.transfers } :=
      fun _ => .inl hL.2
    refine .one hI' trivial fun u hu => ?_
    obtain ⟨hs, hu⟩ := hwrite rfl hI' hL.1 u hu
    exact ⟨hu, fun hx => by simp [hs] at hx⟩
  | @onFail issued reason =>
    have hI' : TransferInv ref st
        { w with payout := { w.payout with status := .failed, failureReason := some reason } } :=
      fun href => absurd href hL.1
    refine .one hI' trivial fun u hu => ?_
    obtain ⟨hs, hu⟩ := hwrite rfl hI' hL.1 u hu
    exact ⟨hu, fun hx => by simp [hs] at hx⟩
  | @hookSettled payload r now result due =>
    refine .one (fun _ => .inr (Payout.settle_status hL.2.1.agrees)) trivial fun u hu => ⟨?_, nofun⟩
    exact (hus u hu).1.frame (.inl (Payout.settle_campayRef ..)) fun hne => absurd hL.2.2 hne

theorem transfer_arrival {n : PayoutEvent} (hI : TransferInv ref st w) (hus : ∀ u ∈ us, TransferLocal ref st w u)
    (hok : transferRelayed ref st w us (.event n)) (h : PayoutArrival w n w' ts) :
    TransferMoved ref st us w' ts := by
  cases h with
  | tick => exact .zero hI fun u hu => (hus u hu).frame (.inl rfl) fun _ _ h => h
  | sweep | retried | markedPaid => exact hok.elim
  | callback href hissued =>
    exact .one hI hok fun u hu => ⟨(hus u hu).frame (.inl rfl) fun _ _ h => h, nofun⟩

/-! The simulation. -/

variable {as : List Inbox.Task}

theorem transfer_matched (hL : TransferLocal ref st w t) (hok : transferRelayed ref st w us (.step t e))
    (hA : ∀ a ∈ t.task, Inbox.Local (w.inbox ref) a) (h : PayoutMove w t e w' t') :
    Matched Inbox.machine Inbox.onlyGood as (w.inbox ref) t.task.toList (w'.inbox ref)
      ([t'].filterMap PayoutThread.task) := by
  -- an unsettled row that carries the reference is in flight
  have hopen : w.payout.campayRef = some ref → (w.inbox ref).applied = false → w.payout.status = .inFlight := by
    intro href happlied
    simpa [PayoutWorld.inbox, href] using happlied
  cases h with
  | calledOff | skipped => exact .step (e := false) trivial rfl
  | candidate | refused => exact .stutter
  | unstored | swallowed | hookThrown => exact hok.elim
  | locked due =>
    have hne : w.payout.campayRef ≠ some ref := hL
    have hunset : (w.payout.campayRef == some ref) = false := by simpa using hne
    simp only [PayoutWorld.inbox, hunset, Bool.false_and]
    exact .stutter
  | @accepted netXAF momoPhone r fresh | @lost netXAF momoPhone r reason fresh =>
    have hreports : reports ref (w.transfers ++ [{ reference := r, amountXAF := netXAF }]) =
        reports ref w.transfers := reports_append _ _ rfl
    simp only [PayoutWorld.inbox, hreports]
    exact .stutter
  | @onReference r =>
    have hunset : (w.payout.campayRef == some ref) = false := by simpa using hL.1
    refine .step (e := r == ref) trivial ?_
    cases hr : r == ref <;> simp_all [Inbox.machine, PayoutWorld.inbox, reports_store, PayoutThread.task, hL.2]
  | onFail =>
    have hunset : (w.payout.campayRef == some ref) = false := by simpa using hL.1
    refine .step (e := false) trivial ?_
    simp [Inbox.machine, PayoutWorld.inbox, hunset, PayoutThread.task]
  | hookKeyless key => simp [CampayWebhookPayload.key, hL.reference] at key
  | hookEarly early => simpa [early.1, early.2] using hL.terminal
  | @hookDuplicate payload r key dup =>
    obtain rfl : ref = r := by simpa [CampayWebhookPayload.key, hL.reference] using key
    refine .step (e := true) trivial ?_
    simp [Inbox.machine, PayoutWorld.inbox, dup, PayoutThread.task]
  | @hookFirst payload r key terminal first =>
    obtain rfl : ref = r := by simpa [CampayWebhookPayload.key, hL.reference] using key
    have hfiled : hasEvent (w.dedup ++ [⟨.transfer, ref, payload, none⟩]) .transfer ref = true := by simp [hasEvent]
    refine .step (e := true) trivial ?_
    simp [Inbox.machine, PayoutWorld.inbox, first, hfiled, PayoutThread.task]
  | hookFound hmatch due =>
    rw [hL.1] at hmatch
    refine .step (e := true) trivial ?_
    simp [Inbox.machine, PayoutWorld.inbox, hmatch, PayoutThread.task]
  | hookMissed miss =>
    rw [hL.1] at miss
    have hunset : (w.payout.campayRef == some ref) = false := by
      rw [beq_eq_false_iff_ne]
      intro href
      exact miss.elim (absurd href) (absurd (hopen href (hA (.look true) rfl).2))
    refine .step (e := true) trivial ?_
    simp [Inbox.machine, PayoutWorld.inbox, hunset, PayoutThread.task]
  | @hookSettled payload r now result due =>
    refine .step (e := true) trivial ?_
    have hclosed : st.payoutStatus != .inFlight := by
      unfold CampayStatus.payoutStatus
      split <;> rfl
    simp [Inbox.machine, PayoutWorld.inbox, hL.2.2, Payout.settle_status hL.2.1.agrees, hclosed, PayoutThread.task]
  | hookLate late =>
    have hflight := hopen hL.2.2 (hA .apply rfl).2.1
    exact absurd hflight late
  | hookRecorded =>
    simp only [PayoutWorld.inbox, hasEvent_recordResult]
    exact .stutter

end

/-- The row waits for `ref`, of which nothing has been heard. -/
structure PayoutWorld.Awaiting (w : PayoutWorld) (ref : Reference) : Prop where
  unset : w.payout.campayRef ≠ some ref
  filed : hasEvent w.dedup .transfer ref = false
  unheard : reports ref w.transfers = []

section

variable {ref : Reference} {st : CampayStatus} {w : PayoutWorld} {p q : Pool PayoutWorld PayoutThread}

theorem transfer_reach (h₀ : w.Awaiting ref)
    (h : payoutMachine.Reach (transferRelayed ref st) ⟨w, [.transfer .called]⟩ q) :
    Sat (TransferInv ref st) (TransferLocal ref st) OneSender q.shared q.threads := by
  refine h.sat (fun _ _ => OneSender.symm) ⟨fun href => absurd href h₀.unset, ?_, List.pairwise_singleton _ _⟩ ?_ ?_
  · intro t ht
    obtain rfl := List.mem_singleton.1 ht
    exact h₀.unset
  · intro x us n x' ts _ hI hus hok hev
    exact transfer_arrival hI hus hok (payoutEvent_cases hev)
  · intro x us vs t e x' ts _ hI hL hus hok hst
    obtain ⟨t', rfl, hs⟩ := payoutStep_cases hst
    exact transfer_moved hI hL hus hok hs

theorem PayoutWorld.Awaiting.start (h₀ : w.Awaiting ref) :
    Inbox.Start ⟨w.inbox ref, [PayoutThread.transfer .called].filterMap PayoutThread.task⟩ where
  taken := h₀.filed
  applied := by simp [PayoutWorld.inbox, h₀.unset]
  first := by simp [PayoutWorld.inbox, h₀.unheard]
  threads := by simp [PayoutWorld.inbox, h₀.unset, PayoutThread.task]

theorem transfer_simulates (h₀ : w.Awaiting ref) :
    Simulates payoutMachine Inbox.machine (transferRelayed ref st) Inbox.onlyGood (PayoutWorld.inbox ref)
      PayoutThread.task ⟨w, [.transfer .called]⟩ := by
  refine ⟨Inbox.onlyGood_unordered, ?_, ?_⟩
  · intro x us n x' ts as _ _ _ hok hev
    cases payoutEvent_cases hev with
    | tick => exact .stutter
    | sweep | retried | markedPaid => exact hok.elim
    | @callback payload r href hissued =>
      obtain rfl : r = ref := Option.some.inj (href.symm.trans hok.reference)
      refine .event (n := true) rfl ?_
      simp only [Inbox.machine, PayoutWorld.inbox, reports_report _ _ hissued, List.getLast?_cons]
      cases reports r x.transfers |>.getLast? <;> rfl
  · intro x us vs t e x' ts as hr hra has hok hst
    obtain ⟨t', rfl, hs⟩ := payoutStep_cases hst
    have hL := (transfer_reach h₀ hr).locals t (by simp)
    refine transfer_matched hL hok (fun a ha => ?_) hs
    exact (Inbox.sat h₀.start hra).locals a (has.mem_iff.2 (List.mem_append_left _ (by simpa using ha)))

/-- A handler that has filed its callback and not yet acted on it. -/
def PayoutThread.handling : PayoutThread → Bool
  | .webhook (.first ..) | .webhook (.found ..) => true
  | _ => false

/-- The dedup row is used up, the row is still open and no handler is going to close it. -/
structure TransferMissed (ref : Reference) (p : Pool PayoutWorld PayoutThread) : Prop where
  filed : hasEvent p.shared.dedup .transfer ref = true
  open_ : p.shared.payout.status = .inFlight
  through : ∀ t ∈ p.threads, t.handling = false

/-- The worker stores `ref` by the time `p`; by the time `q` another callback for it is through. -/
structure TransferOutrun (w : PayoutWorld) (ref : Reference) (st : CampayStatus) (p q : Pool PayoutWorld PayoutThread) :
    Prop where
  awaiting : w.Awaiting ref
  before : payoutMachine.Reach (transferRelayed ref st) ⟨w, [.transfer .called]⟩ p
  stored : p.shared.payout.campayRef = some ref
  after : payoutMachine.Reach (transferRelayed ref st) p q
  done : ∀ t ∈ q.threads, t.isDone = true
  redelivered : (reports ref p.shared.transfers).length < (reports ref q.shared.transfers).length

theorem transferMissed_iff (hstored : p.shared.payout.campayRef = some ref) :
    TransferMissed ref p ↔ (p.shared.inbox ref).taken = true ∧ (p.shared.inbox ref).applied = false ∧
      ∀ t ∈ p.threads, ∀ a ∈ t.task, Inbox.Task.active a = false := by
  have htask : ∀ t : PayoutThread, t.handling = false ↔ ∀ a ∈ t.task, Inbox.Task.active a = false := by
    intro t
    cases t <;> rename_i t <;> cases t <;> simp [PayoutThread.handling, PayoutThread.task, Inbox.Task.active]
  have hopen : (p.shared.inbox ref).applied = false ↔ p.shared.payout.status = .inFlight := by
    simp [PayoutWorld.inbox, hstored]
  rw [hopen]
  constructor
  · rintro ⟨filed, open_, through⟩
    exact ⟨filed, open_, fun t ht => (htask t).1 (through t ht)⟩
  · rintro ⟨filed, open_, through⟩
    exact ⟨filed, open_, fun t ht => (htask t).2 (through t ht)⟩

theorem transfer_closed_iff (h : TransferOutrun w ref st p q) :
    q.shared.payout.status = st.payoutStatus ↔ ¬ TransferMissed ref p := by
  have hstored : (p.shared.inbox ref).stored = true := by simp [PayoutWorld.inbox, h.stored]
  have hidle : q.threads.filterMap PayoutThread.task = [] := by
    rw [List.filterMap_eq_nil_iff]
    intro t ht
    have := h.done t ht
    cases t <;> rename_i t <;> cases t <;> simp_all [PayoutThread.isDone, PayoutThread.task]
  have hne : reports ref q.shared.transfers ≠ [] := List.ne_nil_of_length_pos (by have := h.redelivered; omega)
  have hfirst : (q.shared.inbox ref).first.isSome := by simp [PayoutWorld.inbox, hne]
  have hsim := @transfer_simulates _ st _ h.awaiting
  have hiff := Inbox.applied_iff hsim h.awaiting.start h.before hstored h.after hidle hfirst
  have hend : q.shared.payout.campayRef = some ref := by
    simpa [PayoutWorld.inbox] using Inbox.still_stored hsim h.before hstored h.after
  have hclosed : st.payoutStatus ≠ .inFlight := by
    unfold CampayStatus.payoutStatus
    split <;> nofun
  have happlied : q.shared.payout.status = st.payoutStatus ↔ (q.shared.inbox ref).applied = true := by
    have hrow := (transfer_reach h.awaiting (h.before.trans h.after)).shared hend
    simp only [PayoutWorld.inbox, hend, BEq.rfl, Bool.true_and, bne_iff_ne]
    exact ⟨fun hs => hs ▸ hclosed, fun hs => hrow.resolve_left hs⟩
  rw [happlied, hiff, transferMissed_iff h.stored]

end

end ChopNow
