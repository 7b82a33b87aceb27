import ChopNow.Proofs.Balance
import ChopNow.Proofs.Breakdown
import ChopNow.Proofs.PayoutPeriods

/-! Orders are tagged with the payout that pays for them, and one column serves the vendors'
payouts and the riders'. The tags of a payout are its orders as long as no other payout has
tagged them, and its amount is what they earned as long as it is the vendor's first. -/

namespace ChopNow

open Interleave Tally

/-- `gt: periodStart, lte: periodEnd`. -/
def between (periodStart periodEnd t : Time) : Bool := decide (periodStart < t) && decide (t ≤ periodEnd)

def Party.serves : Party → Order → Bool
  | .vendor v, o => o.vendorId == v
  | .rider r, o => o.riderId == some r

def Payout.window (p : Payout) : Time → Bool := between p.periodStart p.periodEnd

/-- An order of the party that was delivered in the payout's period. -/
def Payout.holds (p : Payout) (o : Order) : Bool := p.party.serves o && o.deliveredIn p.window

/-- What the orders tagged with a payout earned the vendor. -/
def taggedXAF (id : PayoutId) (orders : List Order) : ℤ :=
  tally (fun o => o.payoutId == some id) (fun o => o.subtotalXAF - o.commissionXAF.getD 0) orders

/-- The tags explain the payouts. -/
structure Books.TagsExplain (b : Books) : Prop where
  tags : ∀ p ∈ b.payouts, ∀ o ∈ b.orders, o.payoutId = some p.id ↔ p.holds o = true
  net : ∀ p ∈ b.payouts, ∀ vendor, p.party = .vendor vendor → p.netXAF =
    taggedXAF p.id b.orders - b.penaltiesXAF vendor p.window + compensationsXAF vendor p.window b.ledger

/-- A payout of the party for this period meets no other: no order in it is tagged, and a
vendor's is its first, with nothing booked since the period's end. -/
structure Books.Apart (b : Books) (party : Party) (periodStart periodEnd : Time) : Prop where
  untagged : ∀ o ∈ b.orders, party.serves o = true → o.deliveredIn (between periodStart periodEnd) = true → o.payoutId = none
  first : ∀ vendor, party = .vendor vendor → ∀ p ∈ b.payouts, p.party ≠ party
  quiet : ∀ vendor, party = .vendor vendor → b.quietSince party periodEnd

/-- Whole calls; and where a payout's transaction goes through, the payout is apart from the
others. -/
def payoutsApart : Guard Books Scheduler BooksCall Reply := fun b us m =>
  wholeCalls b us m ∧
    match m with
    | .step (.transact job _ periodStart periodEnd) .ok =>
      b.payoutOf job.party periodStart = none → b.Apart job.party periodStart periodEnd
    | _ => True

/-! The invariant. -/

structure TagsInv (opened : Time) (b : Books) : Prop where
  agreed : Agreed opened b
  joined : ∀ party t, b.createdAt party = some t → t < opened
  ended : ∀ p ∈ b.payouts, p.periodEnd < b.clock
  tagged : ∀ o ∈ b.orders, ∀ id, o.payoutId = some id → ∃ p ∈ b.payouts, p.id = id
  tags : ∀ p ∈ b.payouts, ∀ o ∈ b.orders, o.payoutId = some p.id ↔ p.holds o = true
  debited : ∀ vendor, (∀ p ∈ b.payouts, p.party ≠ .vendor vendor) → ∀ window,
    bookedXAF .vendorPayable vendor .vendorPayout window b.ledger = 0
  net : ∀ p ∈ b.payouts, ∀ vendor, p.party = .vendor vendor → p.netXAF =
    -(bookedXAF .vendorPayable vendor .orderDelivered p.window b.ledger +
      bookedXAF .vendorPayable vendor .penaltyApplied p.window b.ledger +
      bookedXAF .vendorPayable vendor .adjustment p.window b.ledger)

def Scheduler.ends : Scheduler → Option Time
  | .checkKyc _ _ scheduledFor => some scheduledFor
  | .readBalance job | .countDisputes job _ | .readLastPayout job _ => job.sweptAt
  | .findExisting _ _ _ periodEnd | .transact _ _ _ periodEnd => some periodEnd
  | _ => none

def Scheduler.hasRead : Scheduler → Option (PayoutJob × PartyBalance)
  | .countDisputes job balance | .readLastPayout job balance | .findExisting job balance _ _ | .transact job balance _ _ =>
    some (job, balance)
  | _ => none

def Scheduler.starts : Scheduler → Option (Party × Time)
  | .findExisting job _ periodStart _ | .transact job _ periodStart _ => some (job.party, periodStart)
  | _ => none

/-- What the scheduler at work has read is still so, and its period has ended. -/
structure TagsLocal (opened : Time) (b : Books) (t : Scheduler) : Prop where
  inv : TagsInv opened b
  ends : ∀ periodEnd ∈ t.ends, periodEnd < b.clock
  hasRead : ∀ r ∈ t.hasRead, r.2 = b.balance r.1.party
  starts : ∀ r ∈ t.starts, ∃ joined, b.createdAt r.1 = some joined ∧ r.2 = (b.cutoff r.1).getD joined

section

variable {opened now : Time} {b b' : Books} {o o' : Order} {p p' : Payout} {vendor : VendorId} {rows : Ledger}

/-! Orders and payouts that stay as they are. -/

theorem SameDelivery.holds (h : SameDelivery o o') (p : Payout) : p.holds o' = p.holds o := by
  unfold Payout.holds Order.deliveredIn
  by_cases hd : o.status = .delivered
  · obtain ⟨hrider, hdeliveredAt, -⟩ := h.still hd
    have hserves : p.party.serves o' = p.party.serves o := by
      cases p.party <;> simp only [Party.serves, h.vendorId, hrider]
    rw [hserves, hdeliveredAt, hd, h.delivered.2 hd]
  · have hd' : o'.status ≠ .delivered := fun hd' => hd (h.delivered.1 hd')
    simp only [beq_eq_false_iff_ne.2 hd, beq_eq_false_iff_ne.2 hd', Bool.false_and, Bool.and_false]

theorem SamePayout.window (h : SamePayout p p') : p'.window = p.window := by
  rw [Payout.window, h.periodStart, h.periodEnd, Payout.window]

theorem SamePayout.holds (h : SamePayout p p') (o : Order) : p'.holds o = p.holds o := by
  rw [Payout.holds, h.window, h.party, Payout.holds]

theorem between_of_lt {periodStart periodEnd t : Time} (h : periodEnd < t) : between periodStart periodEnd t = false := by
  simp [between, h]

/-- An order that is delivered later. -/
theorem holds_deliverAt (h : p.periodEnd < now) : p.holds (o.deliverAt now) = false := by
  simp [Payout.holds, Order.deliveredIn, Order.deliverAt, Payout.window, between_of_lt h]

theorem holds_open (h : o.status ≠ .delivered) : p.holds o = false := by
  rw [Payout.holds, Order.deliveredIn, beq_eq_false_iff_ne.2 h, Bool.false_and, Bool.and_false]

/-- What is booked after a payout's period does not count in it. -/
theorem booked_later {account : LedgerAccount} {eventType : LedgerEventType} (h : ∀ e ∈ rows, p.periodEnd < e.createdAt) :
    bookedXAF account vendor eventType p.window rows = 0 :=
  tally_eq_zero fun e he hp => by simp [Payout.window, between_of_lt (h e he)] at hp

theorem booked_congr {account : LedgerAccount} {eventType : LedgerEventType} {window window' : Time → Bool} {l : Ledger}
    (h : ∀ e ∈ l, e.vendorId = some vendor → window e.createdAt = window' e.createdAt) :
    bookedXAF account vendor eventType window l = bookedXAF account vendor eventType window' l := by
  refine tally_congr fun e he => ?_
  by_cases hvendor : e.vendorId = some vendor
  · rw [h e he hvendor]
  · simp [hvendor]

/-- Every move but a payout's transaction: tags and periods hold what they held. -/
structure StillTagged (b b' : Books) : Prop where
  clock : b.clock ≤ b'.clock
  createdAt : ∀ party, b'.createdAt party = b.createdAt party
  orders : ∀ o' ∈ b'.orders, ∃ o ∈ b.orders, o'.payoutId = o.payoutId ∧ ∀ p : Payout, p.periodEnd < b.clock → p.holds o' = p.holds o
  payouts : ∃ f : Payout → Payout, b'.payouts = b.payouts.map f ∧ ∀ p, SamePayout p (f p)
  ledger : ∃ rows, b'.ledger = b.ledger ++ rows ∧ (∀ e ∈ rows, e.createdAt = b.clock) ∧
    ∀ vendor window, bookedXAF .vendorPayable vendor .vendorPayout window rows = 0

theorem TagsInv.still (h : TagsInv opened b) (hs : StillTagged b b') (hagreed : Agreed opened b') : TagsInv opened b' := by
  obtain ⟨f, hpayouts, hf⟩ := hs.payouts
  obtain ⟨rows, hledger, hnow, hpaid⟩ := hs.ledger
  have hmem : ∀ p' ∈ b'.payouts, ∃ p ∈ b.payouts, SamePayout p p' := by
    rw [hpayouts]
    intro p' hp'
    obtain ⟨p, hp, rfl⟩ := List.mem_map.1 hp'
    exact ⟨p, hp, hf p⟩
  have hkept : ∀ p ∈ b.payouts, f p ∈ b'.payouts := fun p hp => hpayouts ▸ List.mem_map_of_mem hp
  refine ⟨hagreed, fun party t ht => h.joined party t (hs.createdAt party ▸ ht), fun p' hp' => ?_, fun o' ho' id hid => ?_,
    fun p' hp' o' ho' => ?_, fun vendor hnone window => ?_, fun p' hp' vendor hparty => ?_⟩
  · obtain ⟨p, hp, hsame⟩ := hmem p' hp'
    rw [hsame.periodEnd]
    exact (h.ended p hp).trans_le hs.clock
  · obtain ⟨o, ho, htag, -⟩ := hs.orders o' ho'
    obtain ⟨p, hp, rfl⟩ := h.tagged o ho id (htag ▸ hid)
    exact ⟨f p, hkept p hp, (hf p).id⟩
  · obtain ⟨p, hp, hsame⟩ := hmem p' hp'
    obtain ⟨o, ho, htag, hholds⟩ := hs.orders o' ho'
    rw [htag, hsame.id, hsame.holds, hholds p (h.ended p hp)]
    exact h.tags p hp o ho
  · rw [hledger, bookedXAF_append, hpaid, add_zero]
    exact h.debited vendor (fun p hp hparty => hnone (f p) (hkept p hp) ((hf p).party.trans hparty)) window
  · obtain ⟨p, hp, hsame⟩ := hmem p' hp'
    have hlater : ∀ e ∈ rows, p.periodEnd < e.createdAt := fun e he => (hnow e he).symm ▸ h.ended p hp
    rw [hsame.netXAF, hsame.window, hledger, bookedXAF_append, bookedXAF_append, bookedXAF_append, booked_later hlater,
      booked_later hlater, booked_later hlater, add_zero, add_zero, add_zero]
    exact h.net p hp vendor (hsame.party ▸ hparty)

theorem KeptRows.holds (h : KeptRows opened (·.payoutId) b b') :
    ∀ o' ∈ b'.orders, ∃ o ∈ b.orders, o'.payoutId = o.payoutId ∧ ∀ p : Payout, p.periodEnd < b.clock → p.holds o' = p.holds o := by
  obtain ⟨f, horders, hf⟩ := h.rows
  rw [horders]
  intro o' ho'
  obtain ⟨o, ho, rfl⟩ := List.mem_map.1 ho'
  exact ⟨o, ho, (hf o ho).2.1, fun p _ => (hf o ho).1.holds p⟩

theorem StillTagged.of_account (h : AccountStep opened b b') (hlength : b'.payouts.length = b.payouts.length)
    (hpayouts : ∃ f : Payout → Payout, b'.payouts = b.payouts.map f ∧ ∀ p, SamePayout p (f p))
    (hcreatedAt : ∀ party, b'.createdAt party = b.createdAt party) : StillTagged b b' := by
  cases h with
  | @kept rows orders ledger other now penalties =>
    exact ⟨orders.clock, hcreatedAt, orders.holds, hpayouts, rows, ledger, fun e he => (now e he).1, fun vendor window =>
      bookedXAF_untagged fun e he => (other e he).1⟩
  | @delivered o snapshot row picked rider bill orders ledger penalties clock =>
    refine ⟨clock ▸ Nat.le_succ _, hcreatedAt, ?_, hpayouts, _, ledger, fun e he => createdAt_of_mem_rows he, fun vendor window =>
      booked_other (by simp [deliveryInput])⟩
    rw [orders]
    intro o' ho'
    obtain ⟨r, hr, rfl⟩ := List.mem_map.1 ho'
    split
    · refine ⟨o, row, rfl, fun p hp => ?_⟩
      rw [holds_deliverAt hp, holds_open (by simp [picked])]
    · exact ⟨r, hr, rfl, fun _ _ => rfl⟩
  | penalised orders fresh penalties ledger clock =>
    exact ⟨orders.clock, hcreatedAt, orders.holds, hpayouts, _, ledger, fun e he => createdAt_of_mem_rows he,
      fun vendor window => booked_other (by simp [penaltyInput])⟩
  | compensated orders positive ledger penalties clock =>
    exact ⟨orders.clock, hcreatedAt, orders.holds, hpayouts, _, ledger, fun e he => createdAt_of_mem_rows he,
      fun vendor window => booked_other (by simp [compensationInput])⟩
  | paid positive committed =>
    rw [(commitPayout_ok committed).payouts] at hlength
    simp at hlength

/-! A payout's transaction. -/

/-- Where none of its orders is tagged, a payout covers what it holds. -/
theorem covers_of_untagged (h : p.holds o = true → o.payoutId = none) : p.covers o = p.holds o := by
  have hwindow : (fun t => decide (p.periodStart < t ∧ t ≤ p.periodEnd)) = p.window := by
    funext t
    rw [Payout.window, between, Bool.decide_and]
  cases hparty : p.party with
  | vendor v =>
    have hcovers : p.covers o = (p.holds o && o.payoutId.isNone) := by
      simp only [Payout.covers, Payout.holds, hparty, Party.serves, Order.deliveredIn, hwindow, Bool.and_assoc]
    rw [hcovers]
    cases hholds : p.holds o with
    | false => rfl
    | true => rw [h hholds, Option.isNone_none, Bool.and_true]
  | rider r => simp only [Payout.covers, Payout.holds, hparty, Party.serves, Order.deliveredIn, hwindow]

theorem holds_tagged (id : Option PayoutId) : p.holds { o with payoutId := id } = p.holds o := by
  cases hparty : p.party <;> simp only [Payout.holds, hparty, Party.serves, Order.deliveredIn]

theorem payoutInput_debited (description : String) (id : EventId) (window : Time → Bool) (h : p.party ≠ .vendor vendor) :
    bookedXAF .vendorPayable vendor .vendorPayout window ((payoutInput p description).rows id now) = 0 := by
  refine tally_eq_zero fun e he hp => ?_
  obtain ⟨entry, hentry, rfl⟩ := List.mem_map.1 he
  simp only [payoutInput, List.mem_cons, List.not_mem_nil, or_false] at hentry
  rcases hentry with rfl | rfl <;> cases hparty : p.party <;>
    simp_all [Party.account, Party.vendorId]

/-- A vendor's first balance is all that it ever earned, less its penalties. -/
theorem TagsInv.firstBalance (h : TagsInv opened b) (hfirst : ∀ q ∈ b.payouts, q.party ≠ .vendor vendor)
    {joined periodEnd : Time} (hjoined : b.createdAt (.vendor vendor) = some joined)
    (hquiet : b.quietSince (.vendor vendor) periodEnd) : (b.getVendorBalance vendor).balanceXAF =
    -(bookedXAF .vendorPayable vendor .orderDelivered (between joined periodEnd) b.ledger +
      bookedXAF .vendorPayable vendor .penaltyApplied (between joined periodEnd) b.ledger +
      bookedXAF .vendorPayable vendor .adjustment (between joined periodEnd) b.ledger) := by
  have hcutoff : b.cutoff (.vendor vendor) = none := cutoff_eq_none_iff.2 fun q hq hparty => absurd hparty (hfirst q hq)
  have hwindow : ∀ e ∈ b.ledger, e.vendorId = some vendor →
      b.since (.vendor vendor) e.createdAt = between joined periodEnd e.createdAt := by
    intro e he howns
    have hlate : joined < e.createdAt := (h.joined _ _ hjoined).trans_le (h.agreed.stamped e he).1
    rw [Books.since, hcutoff, between, decide_eq_true hlate, decide_eq_true (hquiet e he (beq_iff_eq.2 howns))]
    rfl
  have hbalance := h.agreed.told.balance vendor (b.since (.vendor vendor))
  rw [h.debited vendor hfirst, add_zero, ← payableSince_eq, booked_congr hwindow, booked_congr hwindow,
    booked_congr hwindow] at hbalance
  rw [← hbalance]
  rfl

section

variable {job : PayoutJob} {balance : PartyBalance} {periodStart periodEnd : Time}

/-- The orders after a payout's transaction. -/
theorem mem_commitPayout (hcommit : b.commitPayout job balance periodStart periodEnd = .ok b') (ho' : o' ∈ b'.orders) :
    ∃ o ∈ b.orders,
      (job.row b.payouts.length balance periodStart periodEnd).covers o = true ∧
          o' = { o with payoutId := some b.payouts.length } ∨
        (job.row b.payouts.length balance periodStart periodEnd).covers o = false ∧ o' = o := by
  rw [commitPayout_orders hcommit] at ho'
  obtain ⟨o, ho, rfl⟩ := List.mem_map.1 ho'
  refine ⟨o, ho, ?_⟩
  cases hcov : (job.row b.payouts.length balance periodStart periodEnd).covers o with
  | true => exact .inl ⟨rfl, if_pos rfl⟩
  | false => exact .inr ⟨rfl, if_neg Bool.false_ne_true⟩

theorem mem_payouts (hcommit : b.commitPayout job balance periodStart periodEnd = .ok b') :
    p ∈ b'.payouts ↔ p ∈ b.payouts ∨ p = job.row b.payouts.length balance periodStart periodEnd := by
  rw [(commitPayout_ok hcommit).payouts, List.mem_append, List.mem_singleton]

theorem Books.Apart.covers (h : b.Apart job.party periodStart periodEnd) (ho : o ∈ b.orders) :
    (job.row b.payouts.length balance periodStart periodEnd).covers o =
      (job.row b.payouts.length balance periodStart periodEnd).holds o :=
  covers_of_untagged fun hholds => by
    obtain ⟨hserves, hdelivered⟩ := (Bool.and_eq_true _ _).mp hholds
    exact h.untagged o ho hserves hdelivered

theorem TagsInv.tags_paid (h : TagsInv opened b) (hcommit : b.commitPayout job balance periodStart periodEnd = .ok b')
    (hapart : b.Apart job.party periodStart periodEnd) :
    ∀ p ∈ b'.payouts, ∀ o' ∈ b'.orders, o'.payoutId = some p.id ↔ p.holds o' = true := by
  have hknown : ∀ q ∈ b.payouts, q.id ≠ b.payouts.length := fun q hq => (h.agreed.mirrored.payoutIds q hq).ne
  intro p hp o' ho'
  obtain ⟨o, ho, ⟨hcov, rfl⟩ | ⟨hcov, rfl⟩⟩ := mem_commitPayout hcommit ho'
  · rw [holds_tagged]
    have hholds := hapart.covers ho ▸ hcov
    rcases (mem_payouts hcommit).1 hp with hp | rfl
    · refine ⟨fun htag => absurd (Option.some.inj htag).symm (hknown p hp), fun hold => ?_⟩
      -- an order of an older payout is tagged with it
      have htag := (h.tags p hp o ho).2 hold
      obtain ⟨hserves, hdelivered⟩ := (Bool.and_eq_true _ _).mp hholds
      rw [hapart.untagged o ho hserves hdelivered] at htag
      cases htag
    · exact ⟨fun _ => hholds, fun _ => rfl⟩
  · rcases (mem_payouts hcommit).1 hp with hp | rfl
    · exact h.tags p hp o' ho
    · refine ⟨fun htag => ?_, fun hholds => ?_⟩
      · obtain ⟨q, hq, hqid⟩ := h.tagged o' ho _ htag
        exact absurd hqid (hknown q hq)
      · rw [← hapart.covers ho, hcov] at hholds
        cases hholds

/-- A payout's entries fall behind every period. -/
theorem net_paid (hcommit : b.commitPayout job balance periodStart periodEnd = .ok b') (hended : p.periodEnd < b.clock)
    (account : LedgerAccount) (eventType : LedgerEventType) :
    bookedXAF account vendor eventType p.window b'.ledger = bookedXAF account vendor eventType p.window b.ledger := by
  rw [(commitPayout_ok hcommit).ledger, bookedXAF_append]
  exact add_eq_left.2 (booked_later fun e he => by rwa [createdAt_of_mem_rows he])

theorem TagsInv.paid {joined : Time} (h : TagsInv opened b)
    (hcommit : b.commitPayout job balance periodStart periodEnd = .ok b') (hpositive : 0 < balance.balanceXAF)
    (hapart : b.Apart job.party periodStart periodEnd) (hend : periodEnd < b.clock)
    (hbalance : balance = b.balance job.party)
    (hjoined : b.createdAt job.party = some joined) (hstart : periodStart = (b.cutoff job.party).getD joined) :
    TagsInv opened b' := by
  have hc := commitPayout_ok hcommit
  have hmoves : b.Moves b' := by
    have hmoves := Books.Moves.transact (b := b) (.payout job balance periodStart periodEnd)
    simpa only [Books.transaction, BooksTx.commit, hcommit] using hmoves
  have hclock : b.clock < b'.clock := hc.clock ▸ Nat.lt_succ_self _
  have hended : ∀ p ∈ b'.payouts, p.periodEnd < b.clock := fun p hp => by
    rcases (mem_payouts hcommit).1 hp with hp | rfl
    · exact h.ended p hp
    · exact hend
  refine ⟨h.agreed.paid hpositive hcommit (h.agreed.mirrored.moves hmoves), fun party t ht => ?_, fun p hp => ?_,
    fun o' ho' id hid => ?_, h.tags_paid hcommit hapart, fun vendor hnone window => ?_, fun p hp vendor hparty => ?_⟩
  · exact h.joined party t (hmoves.createdAt party ▸ ht)
  · exact (hended p hp).trans hclock
  · obtain ⟨o, ho, ⟨-, rfl⟩ | ⟨-, rfl⟩⟩ := mem_commitPayout hcommit ho'
    · obtain rfl := Option.some.inj hid
      exact ⟨_, (mem_payouts hcommit).2 (.inr rfl), rfl⟩
    · obtain ⟨p, hp, hpid⟩ := h.tagged o' ho id hid
      exact ⟨p, (mem_payouts hcommit).2 (.inl hp), hpid⟩
  · rw [hc.ledger, bookedXAF_append, payoutInput_debited _ _ _ (hnone _ ((mem_payouts hcommit).2 (.inr rfl))), add_zero]
    exact h.debited vendor (fun p hp => hnone p ((mem_payouts hcommit).2 (.inl hp))) window
  · rw [net_paid hcommit (hended p hp), net_paid hcommit (hended p hp), net_paid hcommit (hended p hp)]
    rcases (mem_payouts hcommit).1 hp with hp | rfl
    · exact h.net p hp vendor hparty
    · have hvendor : job.party = .vendor vendor := hparty
      rw [hvendor] at hbalance hjoined hstart
      have hfirst := hapart.first vendor hvendor
      have hquiet := hapart.quiet vendor hvendor
      rw [hvendor] at hfirst hquiet
      have hcutoff : b.cutoff (.vendor vendor) = none := cutoff_eq_none_iff.2 fun q hq hq' => absurd hq' (hfirst q hq)
      obtain rfl : periodStart = joined := by rw [hstart, hcutoff, Option.getD_none]
      change balance.balanceXAF = _
      rw [hbalance]
      exact h.firstBalance hfirst hjoined hquiet

end

/-! Steps and runs. -/

theorem TagsInv.later (h : TagsInv opened b) (elapsed : Time) : TagsInv opened { b with clock := b.clock + elapsed } :=
  h.still ⟨Nat.le_add_right _ _, fun party => by cases party <;> rfl, fun o ho => ⟨o, ho, rfl, fun _ _ => rfl⟩,
    ⟨id, by simp, .refl⟩, [], by simp, by simp, fun _ _ => rfl⟩
    (h.agreed.step (.quiet rfl rfl rfl (Nat.le_add_right _ _) h.agreed.rows) (h.agreed.mirrored.moves (.tick elapsed)))

theorem TagsInv.event {call : BooksCall} {n : BooksEvent} (h : TagsInv opened b) (hcall : call.event b = some n) :
    TagsInv opened (booksEvent b n).1 := by
  have hmoves := booksEvent_moves b n
  have hstep := event_account h.agreed.ids h.agreed.rows hcall
  have hpayouts : ∃ f : Payout → Payout, (booksEvent b n).1.payouts = b.payouts.map f ∧ ∀ p, SamePayout p (f p) := by
    rcases booksEvent_payouts b n with hp | ⟨id, x, rfl⟩
    · exact ⟨id, by rw [hp, List.map_id], .refl⟩
    · refine ⟨_, rfl, fun p => ?_⟩
      split
      · exact x.apply_same p b.clock
      · exact .refl p
  have hlength : (booksEvent b n).1.payouts.length = b.payouts.length := by
    obtain ⟨f, hf, -⟩ := hpayouts
    rw [hf, List.length_map]
  exact h.still (.of_account hstep hlength hpayouts hmoves.createdAt) (h.agreed.step hstep (h.agreed.mirrored.moves hmoves))

/-- A call that starts has read nothing but the clock. -/
theorem TagsInv.arrive {call : BooksCall} {n : BooksEvent} (h : TagsInv opened b) (hcall : call.event b = some n) :
    ∀ t ∈ (booksEvent b n).2, TagsLocal opened (booksEvent b n).1 t := by
  intro t ht
  refine ⟨h.event hcall, fun periodEnd hend => ?_, fun r hr => ?_, fun r hr => ?_⟩
  all_goals cases n <;> simp only [booksEvent, List.not_mem_nil, List.mem_singleton] at ht <;> subst ht
  case tryScheduleVendorPayout | tryScheduleRiderPayout =>
    simp only [Scheduler.ends, PayoutJob.sweptAt, Option.mem_def, Option.some.injEq] at hend
    subst hend
    exact Nat.lt_succ_of_le (Nat.sub_le _ _)
  all_goals simp [Scheduler.ends, Scheduler.hasRead, Scheduler.starts] at *

/-- Between two steps of the scheduler at work only its own transaction changes the books. -/
theorem TagsLocal.step {t t' : Scheduler} (h : TagsLocal opened b t) (hpositive : t.positive) (hmove : SchedulerMove b t b' t')
    (hapart : ∀ job balance periodStart periodEnd, t = .transact job balance periodStart periodEnd →
      (∃ outcome, t' = .done outcome ∧ b.commitPayout job balance periodStart periodEnd = .ok b') →
      b.Apart job.party periodStart periodEnd) : TagsLocal opened b' t' := by
  cases hmove with
  | finish outcome => exact ⟨h.inv, by simp [Scheduler.ends], by simp [Scheduler.hasRead], by simp [Scheduler.starts]⟩
  | eligible rider momoPhone scheduledFor => exact ⟨h.inv, h.ends, by simp [Scheduler.hasRead], by simp [Scheduler.starts]⟩
  | requested request adminUserId vendor momoPhone =>
    exact ⟨h.inv, by simp [Scheduler.ends, PayoutJob.sweptAt], by simp [Scheduler.hasRead], by simp [Scheduler.starts]⟩
  | readBalance hpos hnext =>
    rcases hnext with rfl | rfl
    · exact ⟨h.inv, h.ends, by simp [Scheduler.hasRead], by simp [Scheduler.starts]⟩
    · exact ⟨h.inv, h.ends, by simp [Scheduler.hasRead], by simp [Scheduler.starts]⟩
  | undisputed job balance => exact ⟨h.inv, h.ends, h.hasRead, by simp [Scheduler.starts]⟩
  | @sweepPeriod job balance createdAt scheduledFor hcreated hswept =>
    refine ⟨h.inv, ?_, h.hasRead, ?_⟩
    · have hends := h.ends
      simpa only [Scheduler.ends, hswept] using hends
    · simp only [Scheduler.starts, Option.mem_def, Option.some.injEq, forall_eq']
      exact ⟨createdAt, hcreated, rfl⟩
  | @cashoutPeriod job balance createdAt hcreated hswept =>
    refine ⟨h.inv.later 1, ?_, h.hasRead, ?_⟩
    · simp only [Scheduler.ends, Option.mem_def, Option.some.injEq, forall_eq']
      exact Nat.lt_succ_self _
    · simp only [Scheduler.starts, Option.mem_def, Option.some.injEq, forall_eq']
      exact ⟨createdAt, hcreated, rfl⟩
  | unscheduled job balance periodStart periodEnd => exact ⟨h.inv, h.ends, h.hasRead, h.starts⟩
  | @schedule job balance periodStart periodEnd b' outcome hcommit =>
    have hend := h.ends periodEnd rfl
    obtain ⟨joined, hjoined, hstart⟩ := h.starts (job.party, periodStart) rfl
    have hinv := h.inv.paid hcommit hpositive (hapart _ _ _ _ rfl ⟨outcome, rfl, hcommit⟩) hend
      (h.hasRead (job, balance) rfl) hjoined hstart
    exact ⟨hinv, by simp [Scheduler.ends], by simp [Scheduler.hasRead], by simp [Scheduler.starts]⟩

/-- The condition is asked for where the transaction goes through. -/
theorem apart_of_step {us : List Scheduler} {t t' : Scheduler} {e : Reply} (hok : payoutsApart b us (.step t e))
    (hst : t.step b e = some (b', t')) : ∀ job balance periodStart periodEnd, t = .transact job balance periodStart periodEnd →
      (∃ outcome, t' = .done outcome ∧ b.commitPayout job balance periodStart periodEnd = .ok b') →
      b.Apart job.party periodStart periodEnd := by
  rintro job balance periodStart periodEnd rfl ⟨outcome, -, hcommit⟩
  have hc := commitPayout_ok hcommit
  cases e with
  | ok => exact hok.2 (payoutOf_none_iff.2 fun p hp hparty hstart => hc.fresh p hp ⟨hparty, hstart⟩)
  | fail reason =>
    obtain ⟨rfl, -⟩ := Prod.mk.inj (Option.some.inj hst)
    exact absurd hc.clock (Nat.succ_ne_self _).symm
  | accepted ref => cases hst
  | refused reason => cases hst
  | lost ref reason => cases hst

theorem TagsInv.explain (h : TagsInv opened b) : b.TagsExplain := by
  refine ⟨h.tags, fun p hp vendor hparty => ?_⟩
  have htagged : taggedXAF p.id b.orders = subtotalsXAF vendor p.window b.orders - commissionsXAF vendor p.window b.orders := by
    rw [taggedXAF, subtotalsXAF, commissionsXAF, ← tally_sub]
    refine tally_congr fun o ho => ?_
    have hsold : p.holds o = o.soldBy vendor p.window := by
      rw [Payout.holds, hparty]
      rfl
    have hiff : (o.payoutId == some p.id) = o.soldBy vendor p.window := by
      rw [← hsold, Bool.eq_iff_iff, beq_iff_eq]
      exact h.tags p hp o ho
    rw [hiff]
  rw [htagged, ← h.agreed.fined, compensationsXAF, h.net p hp vendor hparty, h.agreed.sold]
  ring

end

/-- While payouts keep apart, the tags explain them. -/
theorem tags_explain (b₀ : Books) (h₀ : b₀.Fresh) (hjoined : ∀ party t, b₀.createdAt party = some t → t < b₀.clock)
    (q : Pool Books Scheduler) (h : callsMachine.Reach payoutsApart ⟨b₀, []⟩ q) : q.shared.TagsExplain := by
  have hstart : TagsInv b₀.clock b₀ :=
    ⟨h₀.agreed, hjoined, by simp [h₀.payouts], fun o ho id hid => by simp [(h₀.orders o ho).2.2] at hid, by simp [h₀.payouts],
      fun vendor _ window => by rw [h₀.ledger]; rfl, by simp [h₀.payouts]⟩
  have hturn : InTurn Scheduler.busy (TagsInv b₀.clock) (fun b t => TagsLocal b₀.clock b t ∧ t.positive) q.shared q.threads := by
    have hone : ∀ {b : Books} {t : Scheduler}, TagsLocal b₀.clock b t → t.positive →
        InTurn Scheduler.busy (TagsInv b₀.clock) (fun b t => TagsLocal b₀.clock b t ∧ t.positive) b [t] := by
      intro b t hL hpos
      cases hbusy : t.busy with
      | false => exact .of_idle (by simpa using hbusy) hL.inv
      | true => exact .inr ⟨t, by simp [hbusy], hL, hpos⟩
    refine h.inTurn ?_ (.of_idle (by simp) hstart) ?_ ?_ ?_
    · intro b t e ht
      cases t with
      | done outcome => cases e <;> rfl
      | _ => cases ht
    · intro b us call b' ts hok hev _ hI
      obtain ⟨n, hn, rfl, rfl⟩ := callsMachine_event hev
      have harrive := hI.arrive hn
      have hfresh := booksEvent_fresh b n
      cases hts : (booksEvent b n).2 with
      | nil => exact .of_idle (by simp) (hI.event hn)
      | cons t rest =>
        rw [hts] at harrive hfresh
        have hnil : rest = [] := by cases n <;> simp [booksEvent] at hts <;> exact hts.2
        rw [hnil]
        exact hone (harrive t (.head _)) (hfresh t (.head _))
    · intro b us call b' ts t hok hev ht hbusy _
      have hdone := hok.1 t ht
      simp [Scheduler.busy, hdone] at hbusy
    · rintro b us t e b' ts hok hst ⟨hL, hpos⟩
      obtain ⟨⟨b₁, t'⟩, hst', hr⟩ := Option.map_eq_some_iff.1 hst
      cases hr
      have hmove := schedulerMove_of_step hst'
      exact hone (hL.step hpos hmove (apart_of_step hok hst')) (hmove.positive_next hpos)
  rcases hturn with ⟨-, hI⟩ | ⟨t, -, hL, -⟩
  · exact hI.explain
  · exact hL.inv.explain

/-! The rider is paid first. -/

/-- Both orders of rider 1, and the payouts that are scheduled for them. -/
def riderThenVendor : List (Act BooksCall Reply) :=
  servedCalls 1 ++ servedCalls 2 ++
  [.event (.tryScheduleRiderPayout 1 "+237677000002" 0), .step 0 .ok, .step 0 .ok, .step 0 .ok, .step 0 .ok, .step 0 .ok,
    .event (.tryScheduleVendorPayout 1 "+237677000001" 0), .step 0 .ok, .step 0 .ok, .step 0 .ok, .step 0 .ok, .step 0 .ok]

theorem fresh_threeOrders : threeOrders.Fresh :=
  fresh_of_orders (by decide) (by
    simp only [List.mem_cons, List.not_mem_nil, or_false, forall_eq_or_imp, forall_eq]
    have hrate : 0 ≤ exampleOrder.commissionRate := by
      simp only [exampleOrder]
      norm_num
    exact ⟨⟨exampleOrder_placed, hrate, rfl⟩,
      ⟨⟨rfl, rfl, rfl, exampleOrder_placed.subtotal_min, exampleOrder_placed.fee_min, rfl⟩, hrate, rfl⟩,
      ⟨rfl, rfl, rfl, exampleOrder_placed.subtotal_min, exampleOrder_placed.fee_min, rfl⟩, hrate, rfl⟩)

theorem joined_threeOrders : ∀ party t, threeOrders.createdAt party = some t → t < threeOrders.clock := by
  have hrows : (∀ v ∈ threeOrders.vendors, v.createdAt < threeOrders.clock) ∧
      ∀ r ∈ threeOrders.riders, r.createdAt < threeOrders.clock := by decide
  intro party t ht
  cases party with
  | vendor v =>
    obtain ⟨row, hrow, rfl⟩ := Option.map_eq_some_iff.1 ht
    exact hrows.1 row (List.mem_of_find?_eq_some hrow)
  | rider r =>
    obtain ⟨row, hrow, rfl⟩ := Option.map_eq_some_iff.1 ht
    exact hrows.2 row (List.mem_of_find?_eq_some hrow)

/-- The vendor's payout finds its orders tagged. -/
theorem rider_tags_first : ¬ ∀ b₀ : Books, b₀.Fresh → (∀ party t, b₀.createdAt party = some t → t < b₀.clock) →
    ∀ q, callsMachine.Reach wholeCalls ⟨b₀, []⟩ q → q.shared.TagsExplain := by
  intro h
  obtain ⟨q, hq, ht⟩ := Machine.reach_of_test callsMachine wholeCalls wholeCallsB (fun _ _ _ => wholeCalls_of_bool)
    ⟨threeOrders, []⟩ riderThenVendor
    (fun q => q.shared.payouts.any fun p => q.shared.orders.any fun o =>
      p.holds o && !decide (o.payoutId = some p.id)) (by decide +kernel)
  obtain ⟨p, hp, ht⟩ := List.any_eq_true.1 ht
  obtain ⟨o, ho, ht⟩ := List.any_eq_true.1 ht
  obtain ⟨hholds, htag⟩ := (Bool.and_eq_true _ _).mp ht
  have htagged := ((h _ fresh_threeOrders joined_threeOrders q hq).tags p hp o ho).2 hholds
  simp [htagged] at htag

def payoutsApartB (b : Books) (us : List Scheduler) (m : Move Scheduler BooksCall Reply) : Bool :=
  wholeCallsB b us m &&
    match m with
    | .step (.transact job _ periodStart periodEnd) .ok =>
      (b.orders.all fun o => decide (job.party.serves o = true → o.deliveredIn (between periodStart periodEnd) = true →
        o.payoutId = none)) && b.payouts.isEmpty && b.ledger.all fun e => decide (e.createdAt ≤ periodEnd)
    | _ => true

theorem payoutsApart_of_bool {b : Books} {us : List Scheduler} {m : Move Scheduler BooksCall Reply}
    (h : payoutsApartB b us m = true) : payoutsApart b us m := by
  obtain ⟨hwhole, hrest⟩ := (Bool.and_eq_true _ _).mp h
  refine ⟨wholeCalls_of_bool hwhole, ?_⟩
  split at hrest
  · intro _
    simp only [Bool.and_eq_true] at hrest
    obtain ⟨⟨huntagged, hempty⟩, hquiet⟩ := hrest
    refine ⟨fun o ho => of_decide_eq_true (List.all_eq_true.1 huntagged o ho), fun vendor _ p hp => ?_,
      fun vendor _ e he _ => of_decide_eq_true (List.all_eq_true.1 hquiet e he)⟩
    rw [List.isEmpty_iff.1 hempty] at hp
    cases hp
  · trivial

/-- The vendor is paid for its first order, and another is delivered afterwards. -/
theorem first_payout_explained : ∃ q, callsMachine.Reach payoutsApart ⟨threeOrders, []⟩ q ∧
    q.shared.payouts.map (·.netXAF) = [1800] ∧ q.shared.TagsExplain := by
  obtain ⟨q, hq, ht⟩ := Machine.reach_of_test callsMachine payoutsApart payoutsApartB (fun _ _ _ => payoutsApart_of_bool)
    ⟨threeOrders, []⟩ (servedCalls 1 ++ [.event (.tryScheduleVendorPayout 1 "+237677000001" 0), .step 0 .ok, .step 0 .ok,
      .step 0 .ok, .step 0 .ok, .step 0 .ok] ++ servedCalls 2)
    (fun q => decide (q.shared.payouts.map (·.netXAF) = [1800])) (by decide +kernel)
  exact ⟨q, hq, of_decide_eq_true ht, tags_explain _ fresh_threeOrders joined_threeOrders q hq⟩

end ChopNow
