import ChopNow.Proofs.Collect

/-! One charge per order. The attempt between its lock and its write is alone, and
everything that Campay accepted before it has failed. -/

namespace ChopNow

open Interleave

/-- Campay does not contradict itself about a reference. -/
def singleOutcome : Guard World CollectThread CollectEvent Reply := fun w _ m =>
  match m with
  | .event (.callback payload) => ∀ c ∈ w.collects, payload.reference = some c.reference →
      (payload.status.isFailure = true → .successful ∉ c.reported) ∧
        (payload.status = .successful → c.reportedFailed = false)
  | _ => True

/-- Between the lock and the write that stores the reference. -/
def CollectThread.asking : CollectThread → Bool
  | .momo (.locked ..) | .momo (.accepted ..) => true
  | _ => false

/-- The lock is its own until it stores the reference or releases the lock. -/
def CollectThread.holdsLock : CollectThread → Bool
  | .momo (.caught _) => true
  | t => t.asking

/-- No attempt outlives the lock it holds, and the order is as it was read when the lock
is taken. What Campay takes is answered, and the write that stores the reference lands. -/
def locksInTime : Guard World CollectThread CollectEvent Reply := fun w us m =>
  match m with
  | .event (.tick elapsed) => (∃ u ∈ us, u.holdsLock = true) → ∀ expiry ∈ w.payLock, w.clock + elapsed < expiry
  | .step (.momo (.checked order _)) .ok => (setNX w.payLock w.clock (PAY_LOCK_TTL_SECONDS * 1000)).isSome →
      w.order.status = order.status ∧ w.order.paymentStatus = order.paymentStatus
  | .step (.momo (.locked ..)) (.lost ..) => False
  | .step (.momo (.accepted ..)) (.fail _) => False
  | _ => True

abbrev chargesAlone : Guard World CollectThread CollectEvent Reply := singleOutcome.and locksInTime

/-! Whoever holds the lock is alone with it. -/

def World.PayLocked (w : World) : Prop := ∃ expiry, w.payLock = some expiry ∧ w.clock < expiry

def HolderLocal (w : World) (t : CollectThread) : Prop := t.holdsLock = true → w.PayLocked

def HolderApart (t u : CollectThread) : Prop := ¬(t.holdsLock = true ∧ u.holdsLock = true)

section

variable {w w' : World} {us ts : List CollectThread} {t : CollectThread} {e : Reply}

abbrev HolderMoved (us : List CollectThread) (w' : World) (ts : List CollectThread) : Prop :=
  Moved (fun _ => True) HolderLocal HolderApart us w' ts

/-- The lock and the clock stay, and nobody new holds the lock. -/
theorem HolderMoved.quiet (hL : HolderLocal w t) (hus : ∀ u ∈ us, HolderLocal w u ∧ HolderApart t u)
    (hlock : w'.payLock = w.payLock) (hclock : w'.clock = w.clock)
    (hts : ∀ t' ∈ ts, t'.holdsLock = true → ts = [t'] ∧ t.holdsLock = true) : HolderMoved us w' ts := by
  have hkeep : w.PayLocked → w'.PayLocked := fun ⟨expiry, held, live⟩ => ⟨expiry, hlock.trans held, hclock ▸ live⟩
  refine ⟨trivial, fun t' ht hh => hkeep (hL (hts t' ht hh).2), fun u hu hh => hkeep ((hus u hu).1 hh), ?_, ?_⟩
  · match ts with
    | [] => exact .nil
    | [_] => exact List.pairwise_singleton _ _
    | a :: b :: ts =>
      have hnone : ∀ t' ∈ a :: b :: ts, t'.holdsLock = false := fun t' ht => by
        by_contra hh
        simpa using (hts t' ht (by simpa using hh)).1
      exact List.pairwise_of_forall_mem_list fun t' ht _ _ => Exclusive.idle CollectThread.holdsLock (hnone t' ht)
  · exact fun t' ht u hu hh => (hus u hu).2 ⟨(hts t' ht hh.1).2, hh.2⟩

theorem holder_moved (hL : HolderLocal w t) (hus : ∀ u ∈ us, HolderLocal w u ∧ HolderApart t u)
    (h : CollectMove w t e w' ts) : HolderMoved us w' ts := by
  cases h with
  | @momoLocked order payerPhone expiry free =>
    -- a lock that can be taken is nobody's
    obtain ⟨hfree, rfl⟩ := setNX_some free
    have hnone : ∀ u ∈ us, u.holdsLock = false := fun u hu => by
      by_contra hh
      obtain ⟨expiry, held, live⟩ := (hus u hu).1 (by simpa using hh)
      exact absurd (hfree expiry held) (not_le.2 live)
    refine .one trivial (fun _ => ⟨_, rfl, ?_⟩) fun u hu => ⟨fun hh => ?_, fun hh => ?_⟩
    · exact Nat.lt_add_of_pos_right (by decide)
    · simp [hnone u hu] at hh
    · simp [hnone u hu] at hh
  | momoReleased =>
    refine .one trivial nofun fun u hu => ⟨fun hh => absurd ⟨rfl, hh⟩ (hus u hu).2, fun hh => nomatch hh.1⟩
  | momoAccepted | momoRefused | momoLost | momoThrown => exact .quiet hL hus rfl rfl (by simp [CollectThread.holdsLock, CollectThread.asking])
  | paid h => cases h <;> exact .quiet hL hus rfl rfl (by simp [CollectThread.holdsLock, CollectThread.asking])
  | _ => exact .quiet hL hus rfl rfl (by simp [CollectThread.holdsLock, CollectThread.asking])

theorem holder_arrival {n : CollectEvent} (hus : ∀ u ∈ us, HolderLocal w u) (hok : locksInTime w us (.event n))
    (h : CollectArrival w n w' ts) : HolderMoved us w' ts := by
  cases h with
  | tick =>
    refine .zero trivial fun u hu hh => ?_
    obtain ⟨expiry, held, -⟩ := hus u hu hh
    exact ⟨expiry, held, hok ⟨u, hu, hh⟩ expiry held⟩
  | write | refundQueued | refundSettled => exact .zero trivial hus
  | initiateMomo | callback => exact .one trivial nofun fun u hu => ⟨hus u hu, fun hh => nomatch hh.1⟩

end

theorem holder_reach {w : World} {q : Pool World CollectThread} (h : collectMachine.Reach chargesAlone ⟨w, []⟩ q) :
    Sat (fun _ => True) HolderLocal HolderApart q.shared q.threads :=
  h.sat (fun _ _ => Exclusive.symm CollectThread.holdsLock) ⟨trivial, by simp, .nil⟩
    (fun _ _ _ _ _ _ _ hus hok hev => holder_arrival hus hok.2 (collectEvent_cases hev))
    (fun _ _ _ _ _ _ _ _ _ hL hus _ hst => holder_moved hL hus (collectStep_cases hst))

/-- The lock that can be taken is nobody's. -/
theorem nobody_asking {w : World} {us : List CollectThread} {t : CollectThread} {expiry ttl : Time}
    (h : Sat (fun _ => True) HolderLocal HolderApart w us) (free : setNX w.payLock w.clock ttl = some expiry)
    (ht : t ∈ us) : t.asking = false := by
  by_contra ha
  have hholds : t.holdsLock = true := by
    cases t with
    | momo t => cases t <;> simp_all [CollectThread.holdsLock, CollectThread.asking]
    | _ => simp [CollectThread.asking] at ha
  obtain ⟨e, held, live⟩ := h.locals t ht hholds
  exact absurd ((setNX_some free).1 e held) (not_le.2 live)

def ChargeInv (w : World) : Prop := ∀ c ∈ w.collects, c.reportedFailed = true → .successful ∉ c.reported

/-- The lookup lets an order through that is PENDING and not paid for now. -/
theorem checkPayable_ok {order : Order} {userId : UserId} (h : checkPayable order userId = .ok ()) :
    order.status = .pending ∧ order.paymentStatus ≠ .processing := by
  unfold checkPayable at h
  split_ifs at h with _ _ hstatus hprocessing
  exact ⟨by simpa [PAYABLE_STATUSES] using hstatus, hprocessing⟩

def ChargeLocal (w : World) : CollectThread → Prop
  | .momo (.checked order _) => order.status = .pending ∧ order.paymentStatus ≠ .processing
  | .momo (.locked ..) => w.order.paymentStatus.idle = true ∧ SettledBut none w.collects
  | .momo (.accepted _ _ ref) => w.order.paymentStatus.idle = true ∧ SettledBut (some ref) w.collects
  | _ => True

def ChargeApart (t u : CollectThread) : Prop := ¬(t.asking = true ∧ u.asking = true)

theorem ChargeApart.symm {t u : CollectThread} (h : ChargeApart t u) : ChargeApart u t :=
  Exclusive.symm CollectThread.asking h

theorem ChargeApart.idle {t u : CollectThread} (h : t.asking = false) : ChargeApart t u :=
  Exclusive.idle CollectThread.asking h

theorem ChargeApart.of {t t' u : CollectThread} (h : ChargeApart t u) (ht : t'.asking = false ∨ t.asking = true) :
    ChargeApart t' u :=
  Exclusive.of CollectThread.asking h ht

section

variable {w w' : World} {us ts : List CollectThread} {t : CollectThread} {e : Reply}

theorem ChargeLocal.frame {u : CollectThread} (h : ChargeLocal w u)
    (hidle : u.asking = true → w.order.paymentStatus.idle = true → w'.order.paymentStatus.idle = true)
    (hsettled : u.asking = true → ∀ ref, SettledBut ref w.collects → SettledBut ref w'.collects) :
    ChargeLocal w' u := by
  cases u with
  | momo t =>
    cases t with
    | checked => exact h
    | locked | accepted => exact ⟨hidle rfl h.1, hsettled rfl _ h.2⟩
    | _ => trivial
  | _ => trivial

abbrev ChargeMoved (us : List CollectThread) (w' : World) (ts : List CollectThread) : Prop :=
  Moved ChargeInv ChargeLocal ChargeApart us w' ts

theorem ChargeMoved.quiet {t' : CollectThread} (hI : ChargeInv w)
    (hus : ∀ u ∈ us, ChargeLocal w u ∧ ChargeApart t u) (hcollects : w'.collects = w.collects)
    (hidle : w.order.paymentStatus.idle = true → w'.order.paymentStatus.idle = true) (ht : ChargeLocal w' t')
    (hasking : t'.asking = false ∨ t.asking = true) : ChargeMoved us w' [t'] := by
  refine .one ?_ ht fun u hu => ⟨?_, (hus u hu).2.of hasking⟩
  · rwa [ChargeInv, hcollects]
  · exact (hus u hu).1.frame (fun _ => hidle) fun _ _ hs => by rwa [hcollects]

theorem SettledBut.append {ref : Reference} {amountXAF : ℤ} {txns : List CampayTxn} (h : SettledBut none txns) :
    SettledBut (some ref) (txns ++ [{ reference := ref, amountXAF }]) := by
  intro r hr hne
  rcases List.mem_append.1 hr with hr | hr
  · exact h r hr nofun
  · simp_all

theorem charge_moved (hC : CollectInv w.collectView) (hI : ChargeInv w) (hT : CollectLocal w.collectView t)
    (hL : ChargeLocal w t) (hus : ∀ u ∈ us, ChargeLocal w u ∧ ChargeApart t u)
    (hok : locksInTime w us (.step t e))
    (halone : ∀ {expiry}, setNX w.payLock w.clock (PAY_LOCK_TTL_SECONDS * 1000) = some expiry →
      ∀ u ∈ us, u.asking = false)
    (hheld : ∀ c ∈ w.collects, c.stored = true ∨ ∃ u ∈ t :: us, u.asking = true)
    (h : CollectMove w t e w' ts) : ChargeMoved us w' ts := by
  cases h with
  | momoChecked payable => exact .quiet hI hus rfl id (checkPayable_ok payable) (.inl rfl)
  | momoLost => exact hok.elim
  | momoRejected | momoBusy | momoThrown | momoReleased | momoStuck | momoRefused
  | hookKeyless | hookFirst | hookDuplicate | hookSerialised | hookLocked | hookMissed | hookFailing | hookIgnored
  | hookRecorded | hookThrown =>
    exact .quiet hI hus rfl id trivial (.inl rfl)
  | @momoLocked order payerPhone expiry free =>
    obtain ⟨hstatus, hpayment⟩ := hok (by simp [free])
    have halone := halone free
    have hpending : w.order.status = .pending := hstatus.trans hL.1
    have hprocessing : w.order.paymentStatus ≠ .processing := hpayment ▸ hL.2
    -- the order is payable: nothing is awaited, and no money has come in
    have hidle : w.order.paymentStatus.idle = true := by
      by_contra hn
      rcases PaymentStatus.idle_eq_false.1 (by simpa using hn) with hp | hr
      · exact hprocessing hp
      · exact hC.left hr hpending
    have hsettled : SettledBut none w.collects := by
      intro c hc _
      by_contra hf
      rcases hheld c hc with hs | ⟨u, hu, ha⟩
      · have hbusy := (hC.current c hc hs (by simpa using hf)).2
        exact absurd (hidle.symm.trans hbusy) (by decide)
      · rcases List.mem_cons.1 hu with rfl | hu
        · cases ha
        · exact absurd (ha.symm.trans (halone u hu)) (by decide)
    refine .one hI ⟨hidle, hsettled⟩ fun u hu => ⟨(hus u hu).1.frame (fun _ => id) fun _ _ => id, fun ha => ?_⟩
    exact absurd (ha.2.symm.trans (halone u hu)) (by decide)
  | @momoAccepted order payerPhone phone ref fresh =>
    refine .one (fun c hc hf => ?_) ⟨hL.1, hL.2.append⟩ fun u hu => ⟨?_, (hus u hu).2.of (.inr rfl)⟩
    · rcases List.mem_append.1 hc with hc | hc
      · exact hI c hc hf
      · obtain rfl := List.mem_singleton.1 hc
        intro h
        cases h
    · exact (hus u hu).1.frame (fun _ => id) fun ha => absurd ⟨rfl, ha⟩ (hus u hu).2
  | @momoStored order payerPhone ref =>
    refine .one (fun c hc hf => ?_) trivial fun u hu => ⟨?_, .idle rfl⟩
    · obtain ⟨u, hu, rfl⟩ := mem_store.1 hc
      rw [CampayTxn.keep_reported]
      exact hI u hu (by simpa using hf)
    · exact (hus u hu).1.frame (fun ha => absurd ⟨rfl, ha⟩ (hus u hu).2) fun ha => absurd ⟨rfl, ha⟩ (hus u hu).2
  | hookSucceeded found status =>
    refine ⟨hI, ?_, fun u hu => (hus u hu).1, List.pairwise_pair.2 (.idle rfl), ?_⟩
    · simp only [List.mem_cons, List.not_mem_nil, or_false, forall_eq_or_imp, forall_eq]
      exact ⟨trivial, trivial⟩
    · simp only [List.mem_cons, List.not_mem_nil, or_false, forall_eq_or_imp, forall_eq]
      exact ⟨fun _ _ => .idle rfl, fun _ _ => .idle rfl⟩
  | hookFailed => exact .quiet hI hus rfl (fun _ => rfl) trivial (.inl rfl)
  | paid h =>
    cases h with
    | already | lost | job | thrown | read => exact .quiet hI hus rfl id trivial (.inl rfl)
    | booked =>
      -- the booked payment was awaited, so nobody is asking for another
      refine .quiet hI hus rfl (fun hidle => ?_) trivial (.inl rfl)
      have hstatus : w.order.paymentStatus = .processing := hT.1.processing
      simp [hstatus, PaymentStatus.idle] at hidle

theorem charge_arrival {n : CollectEvent} (hI : ChargeInv w) (hus : ∀ u ∈ us, ChargeLocal w u)
    (hok : singleOutcome w us (.event n)) (h : CollectArrival w n w' ts) : ChargeMoved us w' ts := by
  cases h with
  | tick => exact .zero hI fun u hu => (hus u hu).frame (fun _ => id) fun _ _ => id
  | @write x order h =>
    have hsame : order.paymentStatus = w.order.paymentStatus := by rw [OrderWrite.apply_eq h]
    exact .zero hI fun u hu => (hus u hu).frame (fun _ hi => hsame ▸ hi) fun _ _ => id
  | refundQueued h | refundSettled h =>
    exact .zero hI fun u hu => (hus u hu).frame (fun _ hi => by simp [h, PaymentStatus.idle] at hi) fun _ _ => id
  | initiateMomo => exact .one hI trivial fun u hu => ⟨hus u hu, .idle rfl⟩
  | @callback payload ref href hissued =>
    refine .one (fun c hc hf hs => ?_) trivial fun u hu => ⟨?_, .idle rfl⟩
    · obtain ⟨u, hu, rfl⟩ := mem_report.1 hc
      rw [CampayTxn.hear_reportedFailed, Bool.or_eq_true, Bool.and_eq_true, decide_eq_true_eq] at hf
      rw [CampayTxn.hear_reported] at hs
      by_cases hur : u.reference = ref
      · have hone := hok u hu (href.trans (congrArg some hur.symm))
        rw [if_pos hur] at hs
        rcases hf with ⟨-, hf⟩ | hf <;> rcases List.mem_cons.1 hs with hs | hs
        · rw [← hs] at hf
          cases hf
        · exact hone.1 hf hs
        · exact absurd (hf.symm.trans (hone.2 hs.symm)) (by decide)
        · exact hI u hu hf hs
      · rw [if_neg hur] at hs
        exact hI u hu (hf.resolve_left fun h => hur h.1) hs
    · exact (hus u hu).frame (fun _ => id) fun _ _ hs => hs.report ref _

end

/-- A collect that is not stored yet is in the hands of the attempt that will. -/
theorem stored_or_asking {w : World} {q : Pool World CollectThread} (h₀ : w.collects = [])
    (h : collectMachine.Reach chargesAlone ⟨w, []⟩ q) {c : CampayTxn} (hc : c ∈ q.shared.collects) :
    c.stored = true ∨ ∃ u ∈ q.threads, u.asking = true := by
  have hkept := h.kept (P := fun x => ∀ r ∈ x.collects, r.reference = c.reference → r.stored = true)
    (W := fun t => ∃ order phone, t = .momo (.accepted order phone c.reference)) (.inl (by simp [h₀])) ?_ ?_
  · rcases hkept with hP | ⟨u, hu, order, phone, rfl⟩
    · exact .inl (hP c hc rfl)
    · exact .inr ⟨_, hu, rfl⟩
  · intro x us n x' ts _ hP _ hev
    cases collectEvent_cases hev with
    | tick | write | refundQueued | refundSettled | initiateMomo => exact .inl hP
    | callback href =>
      refine .inl fun r hr href => ?_
      obtain ⟨u, hu, rfl⟩ := mem_report.1 hr
      rw [CampayTxn.hear_stored]
      exact hP u hu (by simpa using href)
  · intro x us vs t e x' ts _ hPW hok hst
    cases collectStep_cases hst with
    | momoRejected | momoChecked | momoBusy | momoLocked | momoRefused | momoReleased | momoStuck
    | hookKeyless | hookFirst | hookDuplicate | hookSerialised | hookLocked | hookMissed | hookSucceeded
    | hookFailing | hookIgnored | hookFailed | hookRecorded | hookThrown =>
      exact .inl (hPW.resolve_right (by simp))
    | @momoAccepted order payerPhone phone ref fresh =>
      by_cases href : ref = c.reference
      · exact .inr ⟨_, .head _, order, phone, by rw [href]⟩
      · refine .inl fun r hr hrc => ?_
        rcases List.mem_append.1 hr with hr | hr
        · exact hPW.resolve_right (by simp) r hr hrc
        · obtain rfl := List.mem_singleton.1 hr
          exact absurd hrc href
    | @momoStored order payerPhone ref =>
      refine .inl fun r hr hrc => ?_
      obtain ⟨u, hu, rfl⟩ := mem_store.1 hr
      rw [CampayTxn.keep_reference] at hrc
      rw [CampayTxn.keep_stored, Bool.or_eq_true, decide_eq_true_eq]
      rcases hPW with hP | ⟨_, _, heq⟩
      · exact .inr (hP u hu hrc)
      · cases heq
        exact .inl hrc
    | momoThrown | momoLost => exact hok.2.elim
    | paid h =>
      have hP := hPW.resolve_right (by simp)
      cases h <;> exact .inl hP

theorem charge_reach {w : World} {q : Pool World CollectThread} (h₀ : w.Uncollected)
    (h : collectMachine.Reach chargesAlone ⟨w, []⟩ q) :
    Sat (fun x => CollectInv x.collectView ∧ ChargeInv x)
      (fun x t => CollectLocal x.collectView t ∧ ChargeLocal x t) (fun t u => CollectApart t u ∧ ChargeApart t u)
      q.shared q.threads := by
  refine h.sat (fun _ _ hX => ⟨hX.1.symm, hX.2.symm⟩) ⟨⟨h₀.inv, by simp [ChargeInv, h₀.collects]⟩, by simp, .nil⟩
    ?_ ?_
  · intro x us n x' ts _ hI hus hok hev
    have hc := collectEvent_cases hev
    exact (collect_arrival hI.1 (fun u hu => (hus u hu).1) hc).and
      (charge_arrival hI.2 (fun u hu => (hus u hu).2) hok.1 hc)
  · intro x us vs t e x' ts hr hI hL hus hok hst
    have hc := collectStep_cases hst
    have hidle : writesIdle x (us ++ vs) (.step t e) := by
      unfold writesIdle
      split
      · next heq =>
        cases heq
        exact hL.2.1
      · trivial
    have hheld : ∀ c ∈ x.collects, c.stored = true ∨ ∃ u ∈ t :: (us ++ vs), u.asking = true := fun c hc => by
      refine (stored_or_asking h₀.collects hr hc).imp id fun ⟨u, hu, ha⟩ => ⟨u, ?_, ha⟩
      simpa [or_left_comm] using hu
    have halone : ∀ {expiry}, setNX x.payLock x.clock (PAY_LOCK_TTL_SECONDS * 1000) = some expiry →
        ∀ u ∈ us ++ vs, u.asking = false := fun free u hu =>
      nobody_asking (holder_reach hr) free (mem_middle.2 (.inr hu))
    exact (collect_moved hI.1 hL.1 (fun u hu => ⟨(hus u hu).1.1, (hus u hu).2.1⟩) hidle hc).and
      (charge_moved hI.1 hI.2 hL.1 hL.2 (fun u hu => ⟨(hus u hu).1.2, (hus u hu).2.2⟩) hok.2 halone hheld hc)

/-- The next step of who holds the lock is to ask Campay for a collect: every
earlier one has failed. The next step of who has its answer is to write the row:
it is not PAID. And the payment is booked at most once. -/
structure ChargedOnce (q : Pool World CollectThread) : Prop where
  asked : ∀ order phone, .momo (.locked order phone) ∈ q.threads →
    ∀ c ∈ q.shared.collects, c.reportedFailed = true ∧ .successful ∉ c.reported
  unpaid : ∀ order phone ref, .momo (.accepted order phone ref) ∈ q.threads →
    q.shared.order.paymentStatus ≠ .paid
  booked : paymentRows q.shared.order.id q.shared.ledger = [] ∨
    paymentRows q.shared.order.id q.shared.ledger = paymentPair q.shared.order.totalXAF

/-- While no attempt outlives its lock, the lock is taken on the order as it was read, and
no accepted reference is lost, the order is charged once. -/
theorem order_charged_once {w : World} {q : Pool World CollectThread} (h₀ : w.Uncollected)
    (h : collectMachine.Reach chargesAlone ⟨w, []⟩ q) : ChargedOnce q := by
  have hS := charge_reach h₀ h
  refine ⟨fun order phone ht c hc => ?_, fun order phone ref ht hpaid => ?_, ?_⟩
  · have hf := (hS.locals _ ht).2.2 c hc nofun
    exact ⟨hf, hS.shared.2 c hc hf⟩
  · have hidle := (hS.locals _ ht).2.1
    simp [hpaid, PaymentStatus.idle] at hidle
  · have hrows := hS.shared.1.rows
    split at hrows
    · exact .inr hrows
    · exact .inl hrows

def CollectThread.isLocked : CollectThread → Bool
  | .momo (.locked ..) => true
  | _ => false

theorem CollectThread.isLocked_iff {t : CollectThread} :
    t.isLocked = true ↔ ∃ order payerPhone, t = .momo (.locked order payerPhone) := by
  unfold CollectThread.isLocked
  split <;> simp_all

def quietCampay (_ : World) (_ : List CollectThread) : Move CollectThread CollectEvent Reply → Bool
  | .event (.callback _) => false
  | _ => true

theorem singleOutcome_of_quiet {w : World} {us : List CollectThread} {m : Move CollectThread CollectEvent Reply}
    (h : quietCampay w us m = true) : singleOutcome w us m := by
  unfold singleOutcome
  split
  · cases h
  · trivial

/-- Campay takes longer than the lock lives: the next attempt asks while the first
is outstanding. -/
theorem order_may_be_charged_twice :
    ¬ ∀ (w : World) (q : Pool World CollectThread), w.Uncollected →
      collectMachine.Reach singleOutcome ⟨w, []⟩ q → ChargedOnce q := by
  intro h
  obtain ⟨q, hq, ht⟩ := Machine.reach_of_test collectMachine singleOutcome
    quietCampay (fun _ _ _ => singleOutcome_of_quiet) ⟨.start exampleOrder, []⟩
    ([.event (.initiateMomo 1 "+237670000001"), .step 0 .ok, .step 0 .ok, .step 0 (.accepted 7),
      .event (.tick 30000), .event (.initiateMomo 1 "+237670000001"), .step 0 .ok, .step 0 .ok])
    (fun q => q.threads.any CollectThread.isLocked &&
      q.shared.collects.any fun c => !c.reportedFailed) (by decide +kernel)
  simp only [Bool.and_eq_true, List.any_eq_true, Bool.not_eq_true'] at ht
  obtain ⟨⟨t, ht, hlocked⟩, c, hc, hf⟩ := ht
  obtain ⟨order, phone, rfl⟩ := CollectThread.isLocked_iff.1 hlocked
  have := ((h _ q ⟨rfl, rfl, rfl, fun _ => rfl, rfl, rfl⟩ hq).asked order phone ht c hc).1
  exact absurd (this.symm.trans hf) (by decide)

def chargesAloneB (w : World) (us : List CollectThread) : Move CollectThread CollectEvent Reply → Bool
  | .event (.callback payload) => w.collects.all fun c =>
      payload.reference != some c.reference || c.reported.isEmpty
  | .event (.tick _) => us.all fun u => !u.holdsLock
  | .step (.momo (.checked order _)) .ok => w.order.status == order.status &&
      w.order.paymentStatus == order.paymentStatus
  | .step _ (.fail _) | .step _ (.lost ..) => false
  | _ => true

theorem chargesAlone_of_bool {w : World} {us : List CollectThread} {m : Move CollectThread CollectEvent Reply}
    (h : chargesAloneB w us m = true) : chargesAlone w us m := by
  unfold chargesAloneB at h
  split at h
  · simp only [List.all_eq_true, Bool.or_eq_true, bne_iff_ne, ne_eq, List.isEmpty_iff] at h
    refine ⟨fun c hc href => ?_, trivial⟩
    simp [(h c hc).resolve_left (not_not.2 href), CampayTxn.reportedFailed]
  · simp only [List.all_eq_true, Bool.not_eq_true'] at h
    refine ⟨trivial, fun hholds => ?_⟩
    obtain ⟨u, hu, hh⟩ := hholds
    simp [h u hu] at hh
  · simp only [Bool.and_eq_true, beq_iff_eq] at h
    exact ⟨trivial, fun _ => h⟩
  · cases h
  · cases h
  · refine ⟨?_, ?_⟩
    · unfold singleOutcome
      split <;> simp_all
    · unfold locksInTime
      split <;> simp_all

/-- A first attempt fails and the order is charged by the second. -/
theorem second_attempt_charged :
    ∃ q, collectMachine.Reach chargesAlone ⟨.start exampleOrder, []⟩ q ∧ ChargedOnce q ∧
      q.shared.order.paymentStatus = .paid := by
  obtain ⟨q, hq, ht⟩ := Machine.reach_of_test collectMachine chargesAlone
    chargesAloneB (fun _ _ _ => chargesAlone_of_bool) ⟨.start exampleOrder, []⟩
    ([.event (.initiateMomo 1 "+237670000001"), .step 0 .ok, .step 0 .ok, .step 0 (.accepted 7), .step 0 .ok,
      .event (.callback { status := .failed, reference := some 7 }), .step 0 .ok, .step 0 .ok, .step 0 .ok,
      .step 0 .ok, .step 0 .ok, .event (.tick 30000), .event (.initiateMomo 1 "+237670000001"), .step 0 .ok,
      .step 0 .ok, .step 0 (.accepted 8), .step 0 .ok,
      .event (.callback { status := .successful, reference := some 8 }), .step 0 .ok, .step 0 .ok, .step 0 .ok,
      .step 0 .ok, .step 1 .ok, .step 0 .ok])
    (fun q => q.shared.order.paymentStatus == .paid) (by decide +kernel)
  exact ⟨q, hq, order_charged_once ⟨rfl, rfl, rfl, fun _ => rfl, rfl, rfl⟩ hq, by simpa using ht⟩

end ChopNow
