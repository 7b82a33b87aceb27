import ChopNow.Lib.Table
import ChopNow.Proofs.BooksStep
import ChopNow.Spec.Cashout

/-! A cashout request is resolved once. Three calls read its status and later write by
id alone; as long as no two of them are between the two at a write, a request leaves
PENDING_APPROVAL once, and an approved one has the one payout its approval created. -/

namespace ChopNow

open Interleave Table

/-- Two requests of one vendor wait at once. -/
def BothPending (r q : VendorCashoutRequest) : Prop :=
  r.status = .pendingApproval ∧ q.status = .pendingApproval ∧ r.vendorId = q.vendorId

/-- The payout of an approved request is the one that its approval created. -/
structure ApprovedBy (s : Cashier) (r : VendorCashoutRequest) (p : Payout) : Prop where
  mem : p ∈ s.books.payouts
  payoutId : r.payoutId = some p.id
  party : p.party = .vendor r.vendorId
  once : s.approvals.filter (fun a => a.1 == r.id) = [(r.id, p.id)]

structure CashoutsResolved (s : Cashier) : Prop where
  pending : s.books.cashouts.Pairwise fun r q => ¬ BothPending r q
  rejected : ∀ r ∈ s.books.cashouts, r.status = .rejected → r.payoutId = none
  approved : ∀ r ∈ s.books.cashouts, r.status = .approved →
    ∃ p, ApprovedBy s r p ∧ ∀ q ∈ s.books.payouts, q.id = p.id → q = p
  created : ∀ a ∈ s.approvals, ∀ r ∈ s.books.cashouts, r.id = a.1 → r.status = .approved ∧ r.payoutId = some a.2

/-- What was resolved stays as it was resolved. -/
def StaysResolved (b b' : Books) : Prop :=
  ∀ r ∈ b.cashouts, r.status ≠ .pendingApproval →
    ∃ r' ∈ b'.cashouts, r'.id = r.id ∧ r'.status = r.status ∧ r'.payoutId = r.payoutId

/-- The request still waits. -/
def Books.Waits (b : Books) (request : RequestId) : Prop :=
  ∀ r ∈ b.cashouts, r.id = request → r.status = .pendingApproval

/-- The request and the vendor that a scheduler works for. -/
def Scheduler.cashout : Scheduler → Option (RequestId × VendorId)
  | .readBalance (.cashout request _ vendor _) | .countDisputes (.cashout request _ vendor _) _
  | .readLastPayout (.cashout request _ vendor _) _ | .findExisting (.cashout request _ vendor _) ..
  | .transact (.cashout request _ vendor _) .. => some (request, vendor)
  | _ => none

def CashoutThread.cashout : CashoutThread → Option (RequestId × VendorId)
  | .schedule t => t.cashout
  | _ => none

/-- The request that the call has checked, and not written to yet. -/
def CashoutThread.resolves : CashoutThread → Option RequestId
  | .schedule t => t.cashout.map Prod.fst
  | .reject (.checked id ..) => some id
  | _ => none

/-- The vendor whose requests the call has checked, without having created one yet. -/
def CashoutThread.asks : CashoutThread → Option VendorId
  | .request (.unrivalled vendor) => some vendor.id
  | .request (.priced vendorId ..) => some vendorId
  | _ => none

/-- A write lands while no other call for the same request, or for a new one of the same
vendor, is between its check and its write. -/
def writesAlone : Guard Cashier CashoutThread CashoutEvent Reply := fun s us m =>
  match m with
  | .step (.schedule (.transact (.cashout request adminUserId vendor momoPhone) balance periodStart periodEnd)) .ok =>
    (∃ b', s.books.commitPayout (.cashout request adminUserId vendor momoPhone) balance periodStart periodEnd =
      .ok b') → ∀ u ∈ us, u.resolves ≠ some request
  | .step (.reject (.checked request ..)) .ok => ∀ u ∈ us, u.resolves ≠ some request
  | .step (.request (.priced vendorId ..)) .ok => ∀ u ∈ us, u.asks ≠ some vendorId
  | _ => True

structure CashoutInv (s : Cashier) : Prop where
  requests : Numbered VendorCashoutRequest.id s.books.cashouts
  payouts : Numbered Payout.id s.books.payouts
  unpaid : ∀ r ∈ s.books.cashouts, r.status ≠ .approved → r.payoutId = none
  pending : s.books.cashouts.Pairwise fun r q => ¬ BothPending r q
  approved : ∀ r ∈ s.books.cashouts, r.status = .approved → ∃ p, ApprovedBy s r p
  created : ∀ a ∈ s.approvals, ∃ r ∈ s.books.cashouts, r.id = a.1 ∧ r.status = .approved ∧ r.payoutId = some a.2

/-- What a call has checked still holds. The vendor is the request's own. -/
structure CashoutLocal (s : Cashier) (t : CashoutThread) : Prop where
  waits : ∀ request ∈ t.resolves, s.books.Waits request
  free : ∀ vendorId ∈ t.asks, s.books.hasPendingRequest vendorId = false
  owner : ∀ a ∈ t.cashout, ∃ r ∈ s.books.cashouts, r.id = a.1 ∧ r.vendorId = a.2

/-! The three rows that are written. -/

def VendorCashoutRequest.approve (r : VendorCashoutRequest) (adminUserId : UserId) (p : Payout) : VendorCashoutRequest :=
  { r with
    status := .approved
    approvedAt := some p.periodEnd
    approvedByUserId := some adminUserId
    payoutId := some p.id }

def VendorCashoutRequest.reject (r : VendorCashoutRequest) (adminUserId : UserId) (reason : String) (now : Time) :
    VendorCashoutRequest :=
  { r with
    status := .rejected
    rejectedAt := some now
    rejectionReason := some reason
    approvedByUserId := some adminUserId }

section

variable {s s' : Cashier} {b b' : Books} {e : Reply}

theorem commitPayout_cashout {request : RequestId} {adminUserId : UserId} {vendor : VendorId} {momoPhone : Phone}
    {balance : PartyBalance} {periodStart periodEnd : Time}
    (h : b.commitPayout (.cashout request adminUserId vendor momoPhone) balance periodStart periodEnd = .ok b') :
    b'.cashouts = b.cashouts.map fun r => if r.id = request then
      r.approve adminUserId ((PayoutJob.cashout request adminUserId vendor momoPhone).row b.payouts.length balance
        periodStart periodEnd) else r := by
  simp only [Books.commitPayout, bind, Except.bind] at h
  split at h
  · cases h
  next created hcreated =>
  split at h
  · cases h
  next booked hbooked =>
  obtain ⟨-, rfl⟩ := Books.createPayout_ok_iff.1 hcreated
  obtain ⟨-, id, -, rfl⟩ := Books.record_ok_iff.1 hbooked
  unfold Books.approveRequest at h
  split at h
  · obtain rfl := Except.ok.inj h
    rfl
  · cases h

theorem commitPayout_cron {job : PayoutJob} {balance : PartyBalance} {periodStart periodEnd : Time}
    (hjob : job.sweptAt.isSome) (h : b.commitPayout job balance periodStart periodEnd = .ok b') :
    b'.cashouts = b.cashouts := by
  simp only [Books.commitPayout, bind, Except.bind, pure, Except.pure] at h
  split at h
  · cases h
  next created hcreated =>
  split at h
  · cases h
  next booked hbooked =>
  obtain ⟨-, rfl⟩ := Books.createPayout_ok_iff.1 hcreated
  obtain ⟨-, id, -, rfl⟩ := Books.record_ok_iff.1 hbooked
  cases job with
  | cashout request adminUserId vendor momoPhone => cases hjob
  | _ =>
    obtain rfl := Except.ok.inj h
    rfl

theorem commitOrder_cashouts {x : OrderTx} (h : b.commitOrder x = .ok b') : b'.cashouts = b.cashouts := by
  unfold Books.commitOrder at h
  split at h
  · cases h
  split at h
  · cases h
  · obtain rfl := Except.ok.inj h
    rfl

/-- No event touches a request. -/
theorem booksEvent_cashouts (b : Books) (n : BooksEvent) : (booksEvent b n).1.cashouts = b.cashouts := by
  cases n with
  | order x =>
    simp only [booksEvent, Books.transaction, BooksTx.commit]
    split
    · rfl
    · exact commitOrder_cashouts ‹_›
  | _ => rfl

theorem booksEvent_samePayouts (b : Books) (n : BooksEvent) (h : Numbered Payout.id b.payouts) :
    Numbered Payout.id (booksEvent b n).1.payouts ∧ ∀ p ∈ b.payouts, ∃ p' ∈ (booksEvent b n).1.payouts, SamePayout p p' := by
  rcases booksEvent_payouts b n with hp | ⟨id, x, rfl⟩
  · rw [hp]
    exact ⟨h, fun p hp => ⟨p, hp, .refl p⟩⟩
  · refine ⟨h.map fun p => ?_, fun p hp => writePayout_keeps hp id x⟩
    split
    · exact (x.apply_same p b.clock).id
    · rfl

theorem ApprovedBy.keep {r : VendorCashoutRequest} {p p' : Payout} (h : ApprovedBy s r p)
    (hp' : p' ∈ s'.books.payouts) (hsame : SamePayout p p') (ha : s'.approvals = s.approvals) : ApprovedBy s' r p' where
  mem := hp'
  payoutId := by rw [h.payoutId, hsame.id]
  party := hsame.party.trans h.party
  once := by rw [ha, h.once, hsame.id]

/-- Payouts may be added or change their status. -/
theorem CashoutInv.keep (h : CashoutInv s) (hc : s'.books.cashouts = s.books.cashouts) (ha : s'.approvals = s.approvals)
    (hn : Numbered Payout.id s'.books.payouts) (hp : ∀ p ∈ s.books.payouts, ∃ p' ∈ s'.books.payouts, SamePayout p p') :
    CashoutInv s' where
  requests := by rw [hc]; exact h.requests
  payouts := hn
  unpaid := by rw [hc]; exact h.unpaid
  pending := by rw [hc]; exact h.pending
  approved := by
    rw [hc]
    intro r hr hs
    obtain ⟨p, hpr⟩ := h.approved r hr hs
    obtain ⟨p', hp', hsame⟩ := hp p hpr.mem
    exact ⟨p', hpr.keep hp' hsame ha⟩
  created := by
    rw [hc, ha]
    exact h.created

theorem CashoutInv.resolved (h : CashoutInv s) : CashoutsResolved s where
  pending := h.pending
  rejected := fun r hr hs => h.unpaid r hr (by rw [hs]; decide)
  approved := fun r hr hs => by
    obtain ⟨p, hp⟩ := h.approved r hr hs
    exact ⟨p, hp, fun q hq hid => h.payouts.inj hq hp.mem hid⟩
  created := fun a ha r hr hid => by
    obtain ⟨q, hq, hqid, hs, hp⟩ := h.created a ha
    obtain rfl := h.requests.inj hr hq (hid.trans hqid.symm)
    exact ⟨hs, hp⟩

/-- A new request, where the vendor has none that waits. -/
theorem CashoutInv.create (h : CashoutInv s) {vendorId : VendorId} {balanceXAF : ℤ}
    (hfree : s.books.hasPendingRequest vendorId = false) :
    CashoutInv { s with books := s.books.createRequest vendorId balanceXAF } := by
  refine ⟨h.requests.append rfl, h.payouts, ?_, ?_, ?_, ?_⟩
  · intro r hr hs
    rcases List.mem_append.1 hr with hr | hr
    · exact h.unpaid r hr hs
    · obtain rfl := List.mem_singleton.1 hr
      rfl
  · refine List.pairwise_append.2 ⟨h.pending, List.pairwise_singleton _ _, fun r hr q hq hboth => ?_⟩
    obtain rfl := List.mem_singleton.1 hq
    have hwaits : s.books.hasPendingRequest vendorId = true :=
      List.any_eq_true.2 ⟨r, hr, by simpa using ⟨hboth.2.2, hboth.1⟩⟩
    rw [hfree] at hwaits
    cases hwaits
  · intro r hr hs
    rcases List.mem_append.1 hr with hr | hr
    · obtain ⟨p, hp⟩ := h.approved r hr hs
      exact ⟨p, hp.keep hp.mem (.refl p) rfl⟩
    · obtain rfl := List.mem_singleton.1 hr
      cases hs
  · intro a ha
    obtain ⟨r, hr, hrest⟩ := h.created a ha
    exact ⟨r, List.mem_append_left _ hr, hrest⟩

/-- An update that takes the waiting request somewhere else leaves no two waiting. -/
theorem pending_update {request : RequestId} {f : VendorCashoutRequest → VendorCashoutRequest}
    (h : b.cashouts.Pairwise fun r q => ¬ BothPending r q) (hf : ∀ r, (f r).status ≠ .pendingApproval) :
    (b.cashouts.map fun r => if r.id = request then f r else r).Pairwise fun r q => ¬ BothPending r q := by
  refine List.pairwise_map.2 (h.imp fun {r q} hrq hboth => ?_)
  by_cases hr : r.id = request
  · exact hf r (by simpa [hr] using hboth.1)
  · by_cases hq : q.id = request
    · exact hf q (by simpa [hq] using hboth.2.1)
    · rw [if_neg hr, if_neg hq] at hboth
      exact hrq hboth

/-- What has been approved is another request than one that still waits. -/
theorem CashoutInv.approved_before (h : CashoutInv s) {request : RequestId} (hwaits : s.books.Waits request)
    {a : RequestId × PayoutId} (ha : a ∈ s.approvals) :
    ∃ r ∈ s.books.cashouts, r.id = a.1 ∧ r.id ≠ request ∧ r.status = .approved ∧ r.payoutId = some a.2 := by
  obtain ⟨r, hr, hid, hs, hp⟩ := h.created a ha
  refine ⟨r, hr, hid, fun hwaiting => ?_, hs, hp⟩
  rw [hwaits r hr hwaiting] at hs
  cases hs

theorem CashoutInv.reject (h : CashoutInv s) {request : RequestId} {adminUserId : UserId} {reason : String}
    (hwaits : s.books.Waits request) :
    CashoutInv { s with books := s.books.rejectRequest request adminUserId reason } := by
  refine ⟨h.requests.map fun r => ?_, h.payouts, ?_, pending_update h.pending (f := fun r =>
    r.reject adminUserId reason s.books.clock) fun r => (by simp [VendorCashoutRequest.reject]), ?_, ?_⟩
  · split <;> rfl
  · intro r hr hs
    rcases mem_update VendorCashoutRequest.id (f := fun r => r.reject adminUserId reason s.books.clock) hr with
      ⟨hr, -⟩ | ⟨q, hq, hid, rfl⟩
    · exact h.unpaid r hr hs
    · exact h.unpaid q hq (by rw [hwaits q hq hid]; decide)
  · intro r hr hs
    rcases mem_update VendorCashoutRequest.id (f := fun r => r.reject adminUserId reason s.books.clock) hr with
      ⟨hr, -⟩ | ⟨q, hq, hid, rfl⟩
    · obtain ⟨p, hp⟩ := h.approved r hr hs
      exact ⟨p, hp.keep hp.mem (.refl p) rfl⟩
    · cases hs
  · intro a ha
    obtain ⟨r, hr, hid, hother, hs, hp⟩ := h.approved_before hwaits ha
    refine ⟨r, ?_, hid, hs, hp⟩
    have hmem := update_mem VendorCashoutRequest.id (k := request)
      (f := fun r => r.reject adminUserId reason s.books.clock) hr
    rwa [if_neg hother] at hmem

theorem CashoutInv.approve (h : CashoutInv s) {request : RequestId} {adminUserId : UserId} {vendor : VendorId}
    {momoPhone : Phone} {balance : PartyBalance} {periodStart periodEnd : Time}
    (hb : s.books.commitPayout (.cashout request adminUserId vendor momoPhone) balance periodStart periodEnd = .ok b')
    (hwaits : s.books.Waits request) (howner : ∃ r ∈ s.books.cashouts, r.id = request ∧ r.vendorId = vendor) :
    CashoutInv { books := b', approvals := s.approvals ++ [(request, s.books.payouts.length)] } := by
  have hc := commitPayout_ok hb
  have hcash := commitPayout_cashout hb
  set p := (PayoutJob.cashout request adminUserId vendor momoPhone).row s.books.payouts.length balance periodStart periodEnd
    with hp
  have hpmem : p ∈ b'.payouts := by
    rw [hc.payouts]
    exact List.mem_append_right _ (.head _)
  obtain ⟨row, hrow, hrowid, hrowvendor⟩ := howner
  refine ⟨?_, ?_, ?_, ?_, ?_, ?_⟩
  · rw [hcash]
    refine h.requests.map fun r => ?_
    split <;> rfl
  · rw [hc.payouts]
    exact h.payouts.append rfl
  · rw [hcash]
    intro r hr hs
    rcases mem_update VendorCashoutRequest.id (f := fun r => r.approve adminUserId p) hr with
      ⟨hr, -⟩ | ⟨q, -, -, rfl⟩
    · exact h.unpaid r hr hs
    · exact absurd rfl hs
  · rw [hcash]
    exact pending_update h.pending (f := fun r => r.approve adminUserId p) fun r => by simp [VendorCashoutRequest.approve]
  · rw [hcash]
    intro r hr hs
    rcases mem_update VendorCashoutRequest.id (f := fun r => r.approve adminUserId p) hr with
      ⟨hr, hother⟩ | ⟨q, hq, hid, rfl⟩
    · obtain ⟨p₀, hp₀⟩ := h.approved r hr hs
      refine ⟨p₀, by rw [hc.payouts]; exact List.mem_append_left _ hp₀.mem, hp₀.payoutId, hp₀.party, ?_⟩
      have hne : (request == r.id) = false := beq_false_of_ne (Ne.symm hother)
      simpa [List.filter_append, hne] using hp₀.once
    · obtain rfl := h.requests.inj hrow hq (hrowid.trans hid.symm)
      -- nothing has approved it before
      have hnone : s.approvals.filter (fun a => a.1 == row.id) = [] := by
        refine List.filter_eq_nil_iff.2 fun a ha heq => ?_
        obtain ⟨q, -, hqid, hother, -⟩ := h.approved_before hwaits ha
        exact hother (hqid.trans ((beq_iff_eq.1 heq).trans hid))
      refine ⟨p, hpmem, rfl, congrArg Party.vendor hrowvendor.symm, ?_⟩
      change (s.approvals ++ [(request, p.id)]).filter (fun a => a.1 == row.id) = [(row.id, p.id)]
      rw [List.filter_append, hnone]
      simp [hid]
  · rw [hcash]
    intro a ha
    rcases List.mem_append.1 ha with ha | ha
    · obtain ⟨r, hr, hid, hother, hs, hpid⟩ := h.approved_before hwaits ha
      have hmem := update_mem VendorCashoutRequest.id (k := request) (f := fun r => r.approve adminUserId p) hr
      rw [if_neg hother] at hmem
      exact ⟨r, hmem, hid, hs, hpid⟩
    · obtain rfl := List.mem_singleton.1 ha
      have hmem := update_mem VendorCashoutRequest.id (k := request) (f := fun r => r.approve adminUserId p) hrow
      rw [if_pos hrowid] at hmem
      exact ⟨row.approve adminUserId p, hmem, hrowid, rfl, rfl⟩

/-! Steps. -/

/-- What a step of a scheduler does to the requests and the payouts. -/
inductive SchedulerEffect (b b' : Books) (t t' : Scheduler) : Prop
  | idle (hc : b'.cashouts = b.cashouts) (hp : b'.payouts = b.payouts)
      (ht : ∀ a ∈ t'.cashout, a ∈ t.cashout ∨
        ∃ r ∈ b.cashouts, r.id = a.1 ∧ r.vendorId = a.2 ∧ r.status = .pendingApproval)
  | cron {job : PayoutJob} {balance : PartyBalance} {periodStart periodEnd : Time}
      (ht : t = .transact job balance periodStart periodEnd) (hjob : job.sweptAt.isSome)
      (hb : b.commitPayout job balance periodStart periodEnd = .ok b') (ht' : t'.cashout = none)
  | approved {request : RequestId} {adminUserId : UserId} {vendor : VendorId} {momoPhone : Phone}
      {balance : PartyBalance} {periodStart periodEnd : Time}
      (ht : t = .transact (.cashout request adminUserId vendor momoPhone) balance periodStart periodEnd)
      (hb : b.commitPayout (.cashout request adminUserId vendor momoPhone) balance periodStart periodEnd = .ok b')
      (ht' : t'.cashout = none)

theorem readRequest_found {request : RequestId} {adminUserId : UserId} {t' : Scheduler}
    (h : Scheduler.step b (.readRequest request adminUserId) e = some (b', t')) :
    b' = b ∧ ∀ a ∈ t'.cashout, ∃ r ∈ b.cashouts, r.id = a.1 ∧ r.vendorId = a.2 ∧ r.status = .pendingApproval := by
  cases e with
  | ok =>
    simp only [Scheduler.step] at h
    split at h
    · cases h
      exact ⟨rfl, by simp [Scheduler.cashout]⟩
    next r hfound =>
    split at h
    · cases h
      exact ⟨rfl, by simp [Scheduler.cashout]⟩
    next hpending =>
    split at h <;> cases h
    · exact ⟨rfl, by simp [Scheduler.cashout]⟩
    · next vendor hvendor =>
      have hid : r.id = request := by simpa using List.find?_some hfound
      have hv : vendor.id = r.vendorId := by simpa using List.find?_some hvendor
      refine ⟨rfl, fun a ha => ?_⟩
      obtain rfl := Option.some.inj ha
      exact ⟨r, List.mem_of_find?_eq_some hfound, hid, hv.symm, not_not.1 hpending⟩
  | fail reason =>
    cases h
    exact ⟨rfl, by simp [Scheduler.cashout]⟩
  | _ => cases h

theorem scheduler_effect {t t' : Scheduler} (h : t.step b e = some (b', t')) : SchedulerEffect b b' t t' := by
  cases schedulerMove_of_step h with
  | requested =>
    obtain ⟨-, ht⟩ := readRequest_found h
    exact .idle rfl rfl fun a ha => .inr (ht a ha)
  | @readBalance job next _ hnext =>
    refine .idle rfl rfl fun a ha => .inl ?_
    rcases hnext with rfl | rfl <;> cases job <;> exact ha
  | @sweepPeriod job balance createdAt scheduledFor _ hswept =>
    exact .idle rfl rfl fun a ha => .inl (by cases job <;> exact ha)
  | @cashoutPeriod job balance createdAt _ hswept =>
    exact .idle rfl rfl fun a ha => .inl (by cases job <;> exact ha)
  | undisputed job balance => exact .idle rfl rfl fun a ha => .inl (by cases job <;> exact ha)
  | unscheduled job balance => exact .idle rfl rfl fun a ha => .inl (by cases job <;> exact ha)
  | finish | eligible => exact .idle rfl rfl fun a ha => by cases ha
  | @schedule job balance periodStart periodEnd b' outcome hb =>
    cases job with
    | cashout request adminUserId vendor momoPhone => exact .approved rfl hb rfl
    | _ => exact .cron rfl rfl hb rfl

theorem cashout_of_step {t : CashoutThread} {ts : List CashoutThread} (h : cashoutMachine.step s t e = some (s', ts)) :
    ∃ t', ts = [t'] ∧ cashoutStep s t e = some (s', t') := by
  obtain ⟨⟨s₁, t'⟩, ht, hp⟩ := Option.map_eq_some_iff.1 h
  obtain ⟨rfl, rfl⟩ := Prod.mk.inj hp
  exact ⟨t', rfl, ht⟩

/-- What the step of a request's call has checked, or written. -/
theorem request_effect {t t' : RequestVendorCashout} (h : t.step b e = some (b', t')) :
    (b' = b ∧ ∀ v ∈ (CashoutThread.request t').asks,
      v ∈ (CashoutThread.request t).asks ∨ b.hasPendingRequest v = false) ∨
      ∃ vendorId balanceXAF isTrusted, t = .priced vendorId balanceXAF isTrusted ∧ e = .ok ∧
        b' = b.createRequest vendorId balanceXAF ∧ (CashoutThread.request t').asks = none := by
  have hidle : ∀ {u : RequestVendorCashout}, (CashoutThread.request u).asks = none →
      b = b ∧ ∀ v ∈ (CashoutThread.request u).asks,
        v ∈ (CashoutThread.request t).asks ∨ b.hasPendingRequest v = false := by
    intro u hu
    refine ⟨rfl, fun v hv => ?_⟩
    rw [hu] at hv
    cases hv
  cases e with
  | ok =>
    cases t with
    | priced vendorId balanceXAF isTrusted =>
      obtain ⟨rfl, rfl⟩ := Prod.mk.inj (Option.some.inj h)
      exact .inr ⟨_, _, _, rfl, rfl, rfl, rfl⟩
    | called vendorId =>
      simp only [RequestVendorCashout.step] at h
      repeat' split at h
      all_goals
        obtain ⟨rfl, rfl⟩ := Prod.mk.inj (Option.some.inj h)
        exact .inl (hidle rfl)
    | eligible vendor =>
      simp only [RequestVendorCashout.step] at h
      split at h <;> obtain ⟨rfl, rfl⟩ := Prod.mk.inj (Option.some.inj h)
      · exact .inl (hidle rfl)
      · next hfree =>
        refine .inl ⟨rfl, fun v hv => .inr ?_⟩
        obtain rfl := Option.some.inj hv
        exact Bool.not_eq_true _ ▸ hfree
    | unrivalled vendor =>
      simp only [RequestVendorCashout.step] at h
      split at h <;> obtain ⟨rfl, rfl⟩ := Prod.mk.inj (Option.some.inj h)
      · exact .inl (hidle rfl)
      · exact .inl ⟨rfl, fun v hv => .inl hv⟩
    | done result => cases h
  | fail reason =>
    cases t <;> simp only [RequestVendorCashout.step, Option.some.injEq, Prod.mk.injEq, reduceCtorEq] at h
    all_goals
      obtain ⟨rfl, rfl⟩ := h
      exact .inl (hidle rfl)
  | _ => cases t <;> simp [RequestVendorCashout.step] at h

theorem reject_effect {t t' : RejectCashoutRequest} (h : t.step b e = some (b', t')) :
    (b' = b ∧ ∀ a ∈ (CashoutThread.reject t').resolves, ∃ r ∈ b.cashouts, r.id = a ∧ r.status = .pendingApproval) ∨
      ∃ request adminUserId reason, t = .checked request adminUserId reason ∧ e = .ok ∧
        b' = b.rejectRequest request adminUserId reason ∧ (CashoutThread.reject t').resolves = none := by
  have hidle : ∀ {u : RejectCashoutRequest}, (CashoutThread.reject u).resolves = none →
      b = b ∧ ∀ a ∈ (CashoutThread.reject u).resolves, ∃ r ∈ b.cashouts, r.id = a ∧ r.status = .pendingApproval := by
    intro u hu
    refine ⟨rfl, fun a ha => ?_⟩
    rw [hu] at ha
    cases ha
  cases e with
  | ok =>
    cases t with
    | called request adminUserId reason =>
      simp only [RejectCashoutRequest.step] at h
      split at h
      · obtain ⟨rfl, rfl⟩ := Prod.mk.inj (Option.some.inj h)
        exact .inl (hidle rfl)
      next r hfound =>
      split at h <;> obtain ⟨rfl, rfl⟩ := Prod.mk.inj (Option.some.inj h)
      · exact .inl (hidle rfl)
      · next hpending =>
        refine .inl ⟨rfl, fun a ha => ?_⟩
        obtain rfl := Option.some.inj ha
        exact ⟨r, List.mem_of_find?_eq_some hfound, by simpa using List.find?_some hfound, not_not.1 hpending⟩
    | checked request adminUserId reason =>
      obtain ⟨rfl, rfl⟩ := Prod.mk.inj (Option.some.inj h)
      exact .inr ⟨_, _, _, rfl, rfl, rfl, rfl⟩
    | done result => cases h
  | fail reason =>
    cases t <;> simp only [RejectCashoutRequest.step, Option.some.injEq, Prod.mk.injEq, reduceCtorEq] at h
    all_goals
      obtain ⟨rfl, rfl⟩ := h
      exact .inl (hidle rfl)
  | _ => cases t <;> simp [RejectCashoutRequest.step] at h

/-! Rows are never deleted, and keep their vendor. -/

/-- Every request is still there, of the same vendor. -/
def KeepsRequests (b b' : Books) : Prop :=
  ∀ r ∈ b.cashouts, ∃ r' ∈ b'.cashouts, r'.id = r.id ∧ r'.vendorId = r.vendorId

theorem KeepsRequests.of_eq (h : b'.cashouts = b.cashouts) : KeepsRequests b b' := fun r hr =>
  ⟨r, h ▸ hr, rfl, rfl⟩

theorem KeepsRequests.update {request : RequestId} {f : VendorCashoutRequest → VendorCashoutRequest}
    (h : b'.cashouts = b.cashouts.map fun r => if r.id = request then f r else r)
    (hf : ∀ r, (f r).id = r.id ∧ (f r).vendorId = r.vendorId) : KeepsRequests b b' := by
  intro r hr
  rw [h]
  refine ⟨_, update_mem VendorCashoutRequest.id (k := request) (f := f) hr, ?_⟩
  split
  · exact hf r
  · exact ⟨rfl, rfl⟩

theorem KeepsRequests.owner {u : CashoutThread} (hk : KeepsRequests s.books s'.books) (h : CashoutLocal s u) :
    ∀ a ∈ u.cashout, ∃ r ∈ s'.books.cashouts, r.id = a.1 ∧ r.vendorId = a.2 := by
  intro a ha
  obtain ⟨r, hr, hid, hv⟩ := h.owner a ha
  obtain ⟨r', hr', hid', hv'⟩ := hk r hr
  exact ⟨r', hr', hid'.trans hid, hv'.trans hv⟩

theorem CashoutLocal.of_eq {u : CashoutThread} (h : CashoutLocal s u) (hc : s'.books.cashouts = s.books.cashouts) :
    CashoutLocal s' u where
  waits := fun request hu => by
    rw [Books.Waits, hc]
    exact h.waits request hu
  free := fun vendorId hu => by
    rw [Books.hasPendingRequest, hc]
    exact h.free vendorId hu
  owner := (KeepsRequests.of_eq hc).owner h

/-- One request leaves PENDING_APPROVAL, and the call has not checked that one. -/
theorem CashoutLocal.update {u : CashoutThread} {request : RequestId} {f : VendorCashoutRequest → VendorCashoutRequest}
    (h : CashoutLocal s u) (hc : s'.books.cashouts = s.books.cashouts.map fun r => if r.id = request then f r else r)
    (hf : ∀ r, (f r).id = r.id ∧ (f r).vendorId = r.vendorId ∧ (f r).status ≠ .pendingApproval)
    (hother : u.resolves ≠ some request) : CashoutLocal s' u where
  waits := fun checked hu r hr hid => by
    rw [hc] at hr
    rcases mem_update VendorCashoutRequest.id (f := f) hr with ⟨hr, -⟩ | ⟨q, -, hq, rfl⟩
    · exact h.waits checked hu r hr hid
    · obtain rfl := hq.symm.trans ((hf q).1.symm.trans hid)
      exact absurd hu hother
  free := fun vendorId hu => by
    have hfree := h.free vendorId hu
    simp only [Books.hasPendingRequest, List.any_eq_false, Bool.and_eq_true, beq_iff_eq, not_and] at hfree ⊢
    intro r hr hv
    rw [hc] at hr
    rcases mem_update VendorCashoutRequest.id (f := f) hr with ⟨hr, -⟩ | ⟨q, -, -, rfl⟩
    · exact hfree r hr hv
    · exact (hf q).2.2
  owner := (KeepsRequests.update hc fun r => ⟨(hf r).1, (hf r).2.1⟩).owner h

theorem CashoutLocal.create {u : CashoutThread} {vendorId : VendorId} {balanceXAF : ℤ} (h : CashoutLocal s u)
    (hother : u.asks ≠ some vendorId) :
    CashoutLocal { s with books := s.books.createRequest vendorId balanceXAF } u where
  waits := fun request hu r hr hid => by
    rcases List.mem_append.1 hr with hr | hr
    · exact h.waits request hu r hr hid
    · obtain rfl := List.mem_singleton.1 hr
      rfl
  free := fun other hu => by
    have hfree := h.free other hu
    have hne : vendorId ≠ other := fun heq => hother (heq ▸ hu)
    simp only [Books.hasPendingRequest, Books.createRequest, List.any_append, Bool.or_eq_false_iff]
    exact ⟨hfree, by simp [hne]⟩
  owner := fun a ha => by
    obtain ⟨r, hr, hrest⟩ := h.owner a ha
    exact ⟨r, List.mem_append_left _ hr, hrest⟩

/-- A request that was found pending waits. -/
theorem CashoutInv.waits (h : CashoutInv s) {request : RequestId}
    (hfound : ∃ r ∈ s.books.cashouts, r.id = request ∧ r.status = .pendingApproval) : s.books.Waits request := by
  obtain ⟨r, hr, hid, hpending⟩ := hfound
  intro q hq hqid
  obtain rfl := h.requests.inj hq hr (hqid.trans hid.symm)
  exact hpending

/-- A thread that has checked nothing. -/
theorem CashoutLocal.idle {u : CashoutThread} (hrequest : u.resolves = none) (hvendor : u.asks = none)
    (hcashout : u.cashout = none) : CashoutLocal s u := by
  refine ⟨fun a h => ?_, fun a h => ?_, fun a h => ?_⟩
  · rw [hrequest] at h
    cases h
  · rw [hvendor] at h
    cases h
  · rw [hcashout] at h
    cases h

theorem CashoutLocal.scheduler {t : Scheduler} (h : t.cashout = none) : CashoutLocal s (.schedule t) :=
  .idle (Option.map_eq_none_iff.2 h) rfl h

theorem approval_idle {t : Scheduler} (hp : b'.payouts = b.payouts) : t.approval b b' = [] := by
  unfold Scheduler.approval
  split
  · rw [hp, if_neg (lt_irrefl _)]
  · rfl

/-- A transaction that has created its payout was not refused. -/
theorem transact_ok {job : PayoutJob} {balance : PartyBalance} {periodStart periodEnd : Time} {p : Payout}
    {t' : Scheduler} (h : Scheduler.step b (.transact job balance periodStart periodEnd) e = some (b', t'))
    (hp : b'.payouts = b.payouts ++ [p]) : e = .ok := by
  cases e with
  | ok => rfl
  | fail reason =>
    obtain ⟨rfl, -⟩ := Prod.mk.inj (Option.some.inj h)
    simp at hp
  | _ => cases h

theorem cashout_step {us : List CashoutThread} {t t' : CashoutThread} (hI : CashoutInv s) (hL : CashoutLocal s t)
    (hus : ∀ u ∈ us, CashoutLocal s u) (hok : writesAlone s us (.step t e)) (h : cashoutStep s t e = some (s', t')) :
    CashoutInv s' ∧ CashoutLocal s' t' ∧ ∀ u ∈ us, CashoutLocal s' u := by
  cases t with
  | schedule t =>
    obtain ⟨⟨b', v⟩, ht, hp⟩ := Option.map_eq_some_iff.1 h
    obtain ⟨rfl, rfl⟩ := Prod.mk.inj hp
    cases scheduler_effect ht with
    | idle hc hp hcash =>
      refine ⟨hI.keep hc (by simp [approval_idle hp]) (by rw [hp]; exact hI.payouts) fun p hmem =>
        ⟨p, by rw [hp]; exact hmem, .refl p⟩, CashoutLocal.of_eq (s := s) ⟨fun request hr => ?_, fun _ hv => ?_, fun a ha => ?_⟩ hc,
        fun u hu => (hus u hu).of_eq hc⟩
      · obtain ⟨a, ha, rfl⟩ := Option.map_eq_some_iff.1 hr
        rcases hcash a ha with hmine | ⟨r, hr, hid, -, hpending⟩
        · exact hL.waits a.1 (Option.map_eq_some_iff.2 ⟨a, hmine, rfl⟩)
        · exact hI.waits ⟨r, hr, hid, hpending⟩
      · cases hv
      · rcases hcash a ha with hmine | ⟨r, hr, hid, hv, -⟩
        · exact hL.owner a hmine
        · exact ⟨r, hr, hid, hv⟩
    | @cron job balance periodStart periodEnd hj hjob hb hnone =>
      subst hj
      have hc := commitPayout_ok hb
      have hcash := commitPayout_cron hjob hb
      have happroval : Scheduler.approval s.books b' (.transact job balance periodStart periodEnd) = [] := by
        cases job with
        | cashout request adminUserId vendor momoPhone => cases hjob
        | _ => rfl
      exact ⟨hI.keep hcash (by simp [happroval]) (by rw [hc.payouts]; exact hI.payouts.append rfl) fun p hmem =>
        ⟨p, by rw [hc.payouts]; exact List.mem_append_left _ hmem, .refl p⟩, .scheduler hnone,
        fun u hu => (hus u hu).of_eq hcash⟩
    | @approved request adminUserId vendor momoPhone balance periodStart periodEnd hj hb hnone =>
      subst hj
      have hc := commitPayout_ok hb
      obtain rfl := transact_ok ht hc.payouts
      have hlen : s.books.payouts.length < b'.payouts.length := by
        rw [hc.payouts]
        simp
      have happroval : Scheduler.approval s.books b' (.transact (.cashout request adminUserId vendor momoPhone) balance
          periodStart periodEnd) = [(request, s.books.payouts.length)] := if_pos hlen
      rw [happroval]
      refine ⟨hI.approve hb (hL.waits request rfl) (hL.owner _ rfl), .scheduler hnone, fun u hu => ?_⟩
      exact (hus u hu).update (commitPayout_cashout hb) (fun r => ⟨rfl, rfl, by simp [VendorCashoutRequest.approve]⟩)
        (hok ⟨b', hb⟩ u hu)
  | request t =>
    obtain ⟨⟨b', v⟩, ht, hp⟩ := Option.map_eq_some_iff.1 h
    obtain ⟨rfl, rfl⟩ := Prod.mk.inj hp
    rcases request_effect ht with ⟨rfl, hfree⟩ | ⟨vendorId, balanceXAF, isTrusted, rfl, rfl, rfl, hnone⟩
    · refine ⟨hI, ⟨(by rintro _ ⟨⟩), fun vendorId hv => ?_, (by rintro _ ⟨⟩)⟩, hus⟩
      exact (hfree vendorId hv).elim (hL.free vendorId) id
    · exact ⟨hI.create (hL.free vendorId rfl), .idle rfl hnone rfl, fun u hu => (hus u hu).create (hok u hu)⟩
  | reject t =>
    obtain ⟨⟨b', v⟩, ht, hp⟩ := Option.map_eq_some_iff.1 h
    obtain ⟨rfl, rfl⟩ := Prod.mk.inj hp
    rcases reject_effect ht with ⟨rfl, hfound⟩ | ⟨request, adminUserId, reason, rfl, rfl, rfl, hnone⟩
    · exact ⟨hI, ⟨fun request hr => hI.waits (hfound request hr), (by rintro _ ⟨⟩), (by rintro _ ⟨⟩)⟩, hus⟩
    · refine ⟨hI.reject (hL.waits request rfl), .idle hnone rfl rfl, fun u hu => ?_⟩
      exact (hus u hu).update (f := fun r => r.reject adminUserId reason s.books.clock) rfl
        (fun r => ⟨rfl, rfl, by simp [VendorCashoutRequest.reject]⟩) (hok u hu)

theorem StaysResolved.of_eq (h : b'.cashouts = b.cashouts) : StaysResolved b b' := fun r hr _ =>
  ⟨r, h ▸ hr, rfl, rfl, rfl⟩

theorem StaysResolved.trans {b₁ b₂ b₃ : Books} (h : StaysResolved b₁ b₂) (h' : StaysResolved b₂ b₃) :
    StaysResolved b₁ b₃ := by
  intro r hr hs
  obtain ⟨r₂, hr₂, hid, hstatus, hpayout⟩ := h r hr hs
  obtain ⟨r₃, hr₃, hid', hstatus', hpayout'⟩ := h' r₂ hr₂ (hstatus ▸ hs)
  exact ⟨r₃, hr₃, hid'.trans hid, hstatus'.trans hstatus, hpayout'.trans hpayout⟩

/-- The one row that changes was waiting. -/
theorem StaysResolved.update {request : RequestId} {f : VendorCashoutRequest → VendorCashoutRequest}
    (h : b'.cashouts = b.cashouts.map fun r => if r.id = request then f r else r) (hwaits : b.Waits request) :
    StaysResolved b b' := by
  intro r hr hs
  have hmem := update_mem VendorCashoutRequest.id (k := request) (f := f) hr
  rw [if_neg fun hid => hs (hwaits r hr hid), ← h] at hmem
  exact ⟨r, hmem, rfl, rfl, rfl⟩

theorem cashout_stays {t t' : CashoutThread} (hL : CashoutLocal s t)
    (h : cashoutStep s t e = some (s', t')) : StaysResolved s.books s'.books := by
  cases t with
  | schedule t =>
    obtain ⟨⟨b', u⟩, ht, hp⟩ := Option.map_eq_some_iff.1 h
    obtain ⟨rfl, rfl⟩ := Prod.mk.inj hp
    cases scheduler_effect ht with
    | idle hc => exact .of_eq hc
    | cron _ hjob hb => exact .of_eq (commitPayout_cron hjob hb)
    | @approved request _ _ _ _ _ _ hj hb =>
      subst hj
      obtain rfl := transact_ok ht (commitPayout_ok hb).payouts
      exact .update (commitPayout_cashout hb) (hL.waits request rfl)
  | request t =>
    obtain ⟨⟨b', u⟩, ht, hp⟩ := Option.map_eq_some_iff.1 h
    obtain ⟨rfl, rfl⟩ := Prod.mk.inj hp
    rcases request_effect ht with ⟨rfl, -⟩ | ⟨vendorId, balanceXAF, isTrusted, rfl, rfl, rfl, -⟩
    · exact .of_eq rfl
    · exact fun r hr _ => ⟨r, List.mem_append_left _ hr, rfl, rfl, rfl⟩
  | reject t =>
    obtain ⟨⟨b', u⟩, ht, hp⟩ := Option.map_eq_some_iff.1 h
    obtain ⟨rfl, rfl⟩ := Prod.mk.inj hp
    rcases reject_effect ht with ⟨rfl, -⟩ | ⟨request, adminUserId, reason, rfl, rfl, rfl, -⟩
    · exact .of_eq rfl
    · exact .update (f := fun r => r.reject adminUserId reason s.books.clock) rfl (hL.waits request rfl)

theorem cashout_arrival {n : CashoutEvent} (hI : CashoutInv s) :
    CashoutInv (cashoutEvent s n).1 ∧ (∀ t ∈ (cashoutEvent s n).2, CashoutLocal (cashoutEvent s n).1 t) ∧
      (cashoutEvent s n).1.books.cashouts = s.books.cashouts := by
  cases n with
  | books n =>
    obtain ⟨hn, hsame⟩ := booksEvent_samePayouts s.books n hI.payouts
    refine ⟨hI.keep (booksEvent_cashouts s.books n) rfl hn hsame, fun t ht => ?_, booksEvent_cashouts s.books n⟩
    obtain ⟨u, hu, rfl⟩ := List.mem_map.1 ht
    have hnone : u.cashout = none := by
      cases n <;> simp only [booksEvent, List.mem_singleton, List.not_mem_nil] at hu <;> subst hu <;> rfl
    exact .scheduler hnone
  | requestVendorCashout vendorId => exact ⟨hI, fun t ht => List.mem_singleton.1 ht ▸ .idle rfl rfl rfl, rfl⟩
  | rejectCashoutRequest request adminUserId reason =>
    exact ⟨hI, fun t ht => List.mem_singleton.1 ht ▸ .idle rfl rfl rfl, rfl⟩

theorem cashout_reach {b₀ : Books} (hcashouts : b₀.cashouts = []) (hpayouts : b₀.payouts = [])
    {q : Pool Cashier CashoutThread} (h : cashoutMachine.Reach writesAlone ⟨⟨b₀, []⟩, []⟩ q) :
    CashoutInv q.shared ∧ ∀ t ∈ q.threads, CashoutLocal q.shared t := by
  refine h.invariant (J := fun s us => CashoutInv s ∧ ∀ u ∈ us, CashoutLocal s u) ⟨?_, by simp⟩ ?_ ?_
  · refine ⟨?_, ?_, ?_, ?_, ?_, ?_⟩ <;> simp [hcashouts, hpayouts, Numbered.nil]
  · rintro s us n s' ts _ ⟨hI, hus⟩ _ hev
    obtain ⟨rfl, rfl⟩ := Prod.mk.inj (Option.some.inj hev)
    obtain ⟨hI', hts, hc⟩ := cashout_arrival (n := n) hI
    refine ⟨hI', fun u hu => ?_⟩
    exact (List.mem_append.1 hu).elim (hts u) fun hu => (hus u hu).of_eq hc
  · rintro s us vs t e s' ts _ ⟨hI, hus⟩ hok hst
    obtain ⟨t', rfl, ht⟩ := cashout_of_step hst
    obtain ⟨hmine, hothers⟩ := forall_middle.1 hus
    obtain ⟨hI', hmine', hothers'⟩ := cashout_step hI hmine hothers hok ht
    exact ⟨hI', List.forall_mem_cons.2 ⟨hmine', hothers'⟩⟩

end

/-- While no two calls overlap between check and write, every request is resolved at most
once, and stays so. -/
theorem cashout_resolved_once {b₀ : Books} (hcashouts : b₀.cashouts = []) (hpayouts : b₀.payouts = [])
    {p q : Pool Cashier CashoutThread} (hp : cashoutMachine.Reach writesAlone ⟨⟨b₀, []⟩, []⟩ p)
    (hq : cashoutMachine.Reach writesAlone p q) :
    CashoutsResolved q.shared ∧ StaysResolved p.shared.books q.shared.books := by
  refine ⟨(cashout_reach hcashouts hpayouts (hp.trans hq)).1.resolved, ?_⟩
  refine hq.invariant (J := fun s _ => StaysResolved p.shared.books s.books) (.of_eq rfl) ?_ ?_
  · intro s us n s' ts _ hI _ hev
    obtain ⟨rfl, rfl⟩ := Prod.mk.inj (Option.some.inj hev)
    refine hI.trans (.of_eq ?_)
    cases n with
    | books n => exact booksEvent_cashouts s.books n
    | _ => rfl
  · intro s us vs t e s' ts hr hI hok hst
    obtain ⟨t', -, ht⟩ := cashout_of_step hst
    have hmine := (forall_middle.1 (cashout_reach hcashouts hpayouts (hp.trans hr)).2).1
    exact hI.trans (cashout_stays hmine ht)

/-- The books' day before the vendor asks for its 1800. -/
def cashoutDay : List (Act CashoutEvent Reply) := [
  .event (.books (.order (.payment exampleOrder ⟨900, some "+237677000001"⟩ 1))),
  .event (.books (.serve 1 (.write .acceptOrder))),
  .event (.books (.serve 1 (.write (.assignRider 1)))),
  .event (.books (.serve 1 .pickUp)),
  .event (.books (.order (.delivery pickedUpOrder ⟨200, 650, 550⟩ 2)))]

/-- The vendor asks once. -/
def cashoutAsked : List (Act CashoutEvent Reply) :=
  cashoutDay ++ [.event (.requestVendorCashout 1), .step 0 .ok, .step 0 .ok, .step 0 .ok, .step 0 .ok]

/-- A vendor asks twice at once; an admin rejects what another is approving. -/
theorem racing_cashouts :
    (¬ ∀ (b₀ : Books) (q : Pool Cashier CashoutThread), b₀.cashouts = [] → b₀.payouts = [] →
      cashoutMachine.Reach anyMove ⟨⟨b₀, []⟩, []⟩ q →
      q.shared.books.cashouts.Pairwise fun r q => ¬ BothPending r q) ∧
    (¬ ∀ (b₀ : Books) (q : Pool Cashier CashoutThread), b₀.cashouts = [] → b₀.payouts = [] →
      cashoutMachine.Reach anyMove ⟨⟨b₀, []⟩, []⟩ q →
      ∀ r ∈ q.shared.books.cashouts, r.status = .rejected → r.payoutId = none) ∧
    ¬ ∀ (b₀ : Books) (p q : Pool Cashier CashoutThread), b₀.cashouts = [] → b₀.payouts = [] →
      cashoutMachine.Reach anyMove ⟨⟨b₀, []⟩, []⟩ p → cashoutMachine.Reach anyMove p q →
      StaysResolved p.shared.books q.shared.books := by
  refine ⟨fun h => ?_, fun h => ?_, fun h => ?_⟩
  · obtain ⟨q, hq, ht⟩ := Machine.reach_of_test cashoutMachine anyMove (fun _ _ _ => true) (fun _ _ _ _ => trivial)
      ⟨⟨exampleBooks, []⟩, []⟩
      (cashoutDay ++ [.event (.requestVendorCashout 1), .step 0 .ok, .step 0 .ok,
        .event (.requestVendorCashout 1), .step 0 .ok, .step 0 .ok, .step 0 .ok, .step 0 .ok, .step 1 .ok, .step 0 .ok])
      (fun q => q.shared.books.cashouts.map (fun r => (r.status, r.vendorId)) ==
        [(.pendingApproval, 1), (.pendingApproval, 1)])
      (by decide +kernel)
    have hpending := h exampleBooks q rfl rfl hq
    have hrows : q.shared.books.cashouts.map (fun r => (r.status, r.vendorId)) =
        [(.pendingApproval, 1), (.pendingApproval, 1)] := by simpa using ht
    have hmap : (q.shared.books.cashouts.map fun r => (r.status, r.vendorId)).Pairwise fun a b =>
        ¬(a.1 = .pendingApproval ∧ b.1 = .pendingApproval ∧ a.2 = b.2) := List.pairwise_map.2 hpending
    rw [hrows] at hmap
    simp at hmap
  · obtain ⟨q, hq, ht⟩ := Machine.reach_of_test cashoutMachine anyMove (fun _ _ _ => true) (fun _ _ _ _ => trivial)
      ⟨⟨exampleBooks, []⟩, []⟩
      (cashoutAsked ++ [.event (.books (.approveCashoutRequest 0 9)), .step 0 .ok,
        .event (.rejectCashoutRequest 0 9 "duplicate"), .step 0 .ok,
        .step 1 .ok, .step 0 .ok, .step 0 .ok, .step 0 .ok, .step 1 .ok])
      (fun q => q.shared.books.cashouts.any fun r => r.status == .rejected && r.payoutId.isSome)
      (by decide +kernel)
    obtain ⟨r, hr, htest⟩ := List.any_eq_true.1 ht
    simp only [Bool.and_eq_true, beq_iff_eq] at htest
    rw [h exampleBooks q rfl rfl hq r hr htest.1] at htest
    exact absurd htest.2 (by simp)
  · obtain ⟨p, q, hp, hq, ht⟩ := Machine.reach_of_stop cashoutMachine anyMove (fun _ _ _ => true)
      (fun _ _ _ _ => trivial) ⟨⟨exampleBooks, []⟩, []⟩
      (cashoutAsked ++ [.event (.books (.approveCashoutRequest 0 9)), .step 0 .ok,
        .event (.rejectCashoutRequest 0 9 "duplicate"), .step 0 .ok, .step 0 .ok])
      [.step 1 .ok, .step 0 .ok, .step 0 .ok, .step 0 .ok]
      (fun p q => p.shared.books.cashouts.any (fun r => r.status == .rejected) &&
        q.shared.books.cashouts.all fun r => r.status == .approved)
      (by decide +kernel)
    obtain ⟨hrejected, happroved⟩ := Bool.and_eq_true_iff.1 ht
    obtain ⟨r, hr, hs⟩ := List.any_eq_true.1 hrejected
    have hstatus : r.status = .rejected := by simpa using hs
    obtain ⟨r', hr', -, hs', -⟩ := h exampleBooks p q rfl rfl hp hq r hr (by rw [hstatus]; decide)
    have happ : r'.status = .approved := by simpa using List.all_eq_true.1 happroved r' hr'
    rw [happ, hstatus] at hs'
    cases hs'

def writesAloneB (_ : Cashier) (us : List CashoutThread) (m : Move CashoutThread CashoutEvent Reply) : Bool :=
  match m with
  | .step (.schedule (.transact (.cashout request ..) ..)) _ | .step (.reject (.checked request ..)) _ =>
    us.all fun u => u.resolves != some request
  | .step (.request (.priced vendorId ..)) _ => us.all fun u => u.asks != some vendorId
  | _ => true

theorem writesAlone_of_bool {s : Cashier} {us : List CashoutThread} {m : Move CashoutThread CashoutEvent Reply}
    (h : writesAloneB s us m = true) : writesAlone s us m := by
  unfold writesAlone
  split
  · exact fun _ => by simpa [writesAloneB] using h
  · simpa [writesAloneB] using h
  · simpa [writesAloneB] using h
  · trivial

/-- One request, rejected; another, approved. -/
theorem cashouts_resolved_in_turn :
    ∃ p q, cashoutMachine.Reach writesAlone ⟨⟨exampleBooks, []⟩, []⟩ p ∧ cashoutMachine.Reach writesAlone p q ∧
      q.shared.approvals = [(1, 0)] ∧ q.shared.books.cashouts.map (·.status) = [.rejected, .approved] ∧
      CashoutsResolved q.shared ∧ StaysResolved p.shared.books q.shared.books := by
  obtain ⟨p, q, hp, hq, ht⟩ := Machine.reach_of_stop cashoutMachine writesAlone writesAloneB
    (fun _ _ _ => writesAlone_of_bool) ⟨⟨exampleBooks, []⟩, []⟩
    (cashoutAsked ++ [.event (.rejectCashoutRequest 0 9 "duplicate"), .step 0 .ok, .step 0 .ok])
    [.event (.requestVendorCashout 1), .step 0 .ok, .step 0 .ok, .step 0 .ok, .step 0 .ok,
      .event (.books (.approveCashoutRequest 1 9)), .step 0 .ok, .step 0 .ok, .step 0 .ok, .step 0 .ok, .step 0 .ok]
    (fun _ q => q.shared.approvals == [(1, 0)] && q.shared.books.cashouts.map (·.status) == [.rejected, .approved])
    (by decide +kernel)
  simp only [Bool.and_eq_true, beq_iff_eq] at ht
  exact ⟨p, q, hp, hq, ht.1, ht.2, cashout_resolved_once rfl rfl hp hq⟩

end ChopNow
