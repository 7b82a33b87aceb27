import ChopNow.Proofs.VendorAccount

/-! The columns of a vendor's payout, next to what the schema says they are. The gross is
solved for from the other three, and two of these are read from entries that do not say what
they are read for. -/

namespace ChopNow

open Interleave Tally

/-- Since the end of the party's last payout. -/
def Books.since (b : Books) (party : Party) (t : Time) : Bool :=
  match b.cutoff party with
  | none => true
  | some cutoff => decide (cutoff < t)

/-- The breakdown is what the orders, the penalties and the compensations add up to. -/
structure Books.TrueBreakdown (b : Books) (vendor : VendorId) : Prop where
  gross : (b.getVendorBalance vendor).grossXAF = subtotalsXAF vendor (b.since (.vendor vendor)) b.orders
  commission : (b.getVendorBalance vendor).commissionXAF = commissionsXAF vendor (b.since (.vendor vendor)) b.orders
  penalty : (b.getVendorBalance vendor).penaltyXAF = b.penaltiesXAF vendor (b.since (.vendor vendor))
  adjustments : (b.getVendorBalance vendor).adjustmentsXAF = compensationsXAF vendor (b.since (.vendor vendor)) b.ledger
  net : (b.getVendorBalance vendor).balanceXAF = (b.getVendorBalance vendor).grossXAF -
    (b.getVendorBalance vendor).commissionXAF - (b.getVendorBalance vendor).penaltyXAF +
    (b.getVendorBalance vendor).adjustmentsXAF

/-- An entry of the vendor's account since the last payout. -/
def Books.recent (b : Books) (vendor : VendorId) (e : LedgerEntry) : Bool :=
  e.account == .vendorPayable && e.vendorId == some vendor && b.since (.vendor vendor) e.createdAt

/-- Since the last payout the vendor has delivered without commission only, was compensated
for nothing and was paid nothing. -/
structure Books.Plain (b : Books) (vendor : VendorId) : Prop where
  commission : ∀ o ∈ b.orders, o.soldBy vendor (b.since (.vendor vendor)) = true → o.commissionXAF = some 0
  compensation : ∀ e ∈ b.ledger, b.recent vendor e = true → e.eventType ≠ .adjustment
  payout : ∀ e ∈ b.ledger, b.recent vendor e = true → e.eventType ≠ .vendorPayout

section

variable {opened : Time} {b : Books} {vendor : VendorId}

theorem isAfter_cutoff (party : Party) (e : LedgerEntry) : isAfter (b.cutoff party) e = b.since party e.createdAt := by
  unfold isAfter Books.since
  cases b.cutoff party <;> rfl

theorem revenueSince_eq (eventType : LedgerEventType) : b.revenueSince (.vendor vendor) eventType =
    -bookedXAF .platformRevenue vendor eventType (b.since (.vendor vendor)) b.ledger := by
  refine congrArg Neg.neg (tally_congr fun e _ => ?_)
  simp only [isAfter_cutoff, Party.owns]
  cases e.account == LedgerAccount.platformRevenue <;> cases e.vendorId == some vendor <;>
    cases e.eventType == eventType <;> cases b.since (.vendor vendor) e.createdAt <;> rfl

theorem payableSince_eq : b.sumSince (.vendor vendor) .vendorPayable (fun _ => true) =
    tally (fun e => e.account == .vendorPayable && e.vendorId == some vendor && b.since (.vendor vendor) e.createdAt)
      (·.amountXAF) b.ledger :=
  tally_congr fun e _ => by
    simp only [isAfter_cutoff, Party.owns, Bool.and_true, ← Bool.and_assoc]

/-- What getVendorBalance really computes. -/
theorem Agreed.vendorBalance (h : Agreed opened b) (vendor : VendorId) :
    (b.getVendorBalance vendor).balanceXAF =
        subtotalsXAF vendor (b.since (.vendor vendor)) b.orders - commissionsXAF vendor (b.since (.vendor vendor)) b.orders -
          b.penaltiesXAF vendor (b.since (.vendor vendor)) + compensationsXAF vendor (b.since (.vendor vendor)) b.ledger -
          bookedXAF .vendorPayable vendor .vendorPayout (b.since (.vendor vendor)) b.ledger ∧
      (b.getVendorBalance vendor).commissionXAF = 0 ∧
      (b.getVendorBalance vendor).penaltyXAF = b.penaltiesXAF vendor (b.since (.vendor vendor)) ∧
      (b.getVendorBalance vendor).adjustmentsXAF = -compensationsXAF vendor (b.since (.vendor vendor)) b.ledger := by
  have hbalance := h.told.balance vendor (b.since (.vendor vendor))
  rw [h.sold, h.fined, ← payableSince_eq] at hbalance
  refine ⟨?_, ?_, ?_, ?_⟩
  · change -b.sumSince (.vendor vendor) .vendorPayable (fun _ => true) = _
    rw [hbalance, compensationsXAF]
    ring
  · change b.revenueSince (.vendor vendor) .orderDelivered = 0
    rw [revenueSince_eq, h.told.untagged, neg_zero]
  · change b.revenueSince (.vendor vendor) .penaltyApplied = _
    rw [revenueSince_eq, h.told.fines, h.fined, neg_neg]
  · change b.revenueSince (.vendor vendor) .adjustment = _
    rw [revenueSince_eq, h.told.adjustments, compensationsXAF]

/-- The gross is solved for. -/
theorem vendorGross_eq (b : Books) (vendor : VendorId) : (b.getVendorBalance vendor).grossXAF =
    (b.getVendorBalance vendor).balanceXAF + (b.getVendorBalance vendor).commissionXAF +
      (b.getVendorBalance vendor).penaltyXAF - (b.getVendorBalance vendor).adjustmentsXAF := rfl

theorem Agreed.breakdown_iff (h : Agreed opened b) (vendor : VendorId) : b.TrueBreakdown vendor ↔
    commissionsXAF vendor (b.since (.vendor vendor)) b.orders = 0 ∧
      compensationsXAF vendor (b.since (.vendor vendor)) b.ledger = 0 ∧
      bookedXAF .vendorPayable vendor .vendorPayout (b.since (.vendor vendor)) b.ledger = 0 := by
  obtain ⟨hbalance, hcommission, hpenalty, hadjustments⟩ := h.vendorBalance vendor
  have hgross := vendorGross_eq b vendor
  constructor
  · rintro ⟨hg, hc, -, ha, -⟩
    omega
  · rintro ⟨hc, ha, hp⟩
    exact ⟨by omega, by omega, hpenalty, by omega, by omega⟩

/-! Sums that vanish. -/

theorem Agreed.commissions_zero_iff (h : Agreed opened b) (window : Time → Bool) :
    commissionsXAF vendor window b.orders = 0 ↔
      ∀ o ∈ b.orders, o.soldBy vendor window = true → o.commissionXAF = some 0 := by
  have hsome : ∀ o ∈ b.orders, o.soldBy vendor window = true → ∃ c, o.commissionXAF = some c ∧ 0 ≤ c := by
    intro o ho hsold
    simp only [Order.soldBy, Order.deliveredIn, Bool.and_eq_true, beq_iff_eq] at hsold
    obtain ⟨-, hne, -⟩ := (h.rows o ho).delivered hsold.2.1
    obtain ⟨c, hc⟩ := Option.ne_none_iff_exists'.1 hne
    exact ⟨c, hc, ((h.rows o ho).commission c hc).1⟩
  rw [commissionsXAF, tally_eq_zero_iff fun o ho hsold => ?_]
  · refine forall₃_congr fun o ho hsold => ?_
    obtain ⟨c, hc, -⟩ := hsome o ho hsold
    simp [hc]
  · obtain ⟨c, hc, hnonneg⟩ := hsome o ho hsold
    simpa [hc] using hnonneg

theorem recent_other_iff {eventType : LedgerEventType} :
    (∀ e ∈ b.ledger, (e.account == .vendorPayable && e.vendorId == some vendor && e.eventType == eventType &&
      b.since (.vendor vendor) e.createdAt) = false) ↔
    ∀ e ∈ b.ledger, b.recent vendor e = true → e.eventType ≠ eventType := by
  refine forall₂_congr fun e _ => ?_
  unfold Books.recent
  cases e.account == LedgerAccount.vendorPayable <;> cases e.vendorId == some vendor <;>
    cases b.since (.vendor vendor) e.createdAt <;> simp

theorem Agreed.compensations_zero_iff (h : Agreed opened b) :
    compensationsXAF vendor (b.since (.vendor vendor)) b.ledger = 0 ↔
      ∀ e ∈ b.ledger, b.recent vendor e = true → e.eventType ≠ .adjustment := by
  rw [compensationsXAF, bookedXAF, ← tally_neg, tally_eq_zero_iff_of_pos fun e he hp => ?_, recent_other_iff]
  simp only [Bool.and_eq_true, beq_iff_eq] at hp
  obtain ⟨⟨⟨haccount, -⟩, htype⟩, -⟩ := hp
  have hsort := h.told.sorts e he haccount
  simp only [htype, reduceCtorEq, false_and, true_and, or_false, false_or] at hsort
  omega

theorem Agreed.payouts_zero_iff (h : Agreed opened b) :
    bookedXAF .vendorPayable vendor .vendorPayout (b.since (.vendor vendor)) b.ledger = 0 ↔
      ∀ e ∈ b.ledger, b.recent vendor e = true → e.eventType ≠ .vendorPayout := by
  rw [bookedXAF, tally_eq_zero_iff_of_pos fun e he hp => ?_, recent_other_iff]
  simp only [Bool.and_eq_true, beq_iff_eq] at hp
  obtain ⟨⟨⟨haccount, -⟩, htype⟩, -⟩ := hp
  have hsort := h.told.sorts e he haccount
  simpa only [htype, reduceCtorEq, false_and, true_and, or_false, false_or] using hsort

end

/-- The breakdown is true if and only if it has no commission, no compensation and no earlier
payout to tell of. -/
theorem breakdown_true_iff (b₀ : Books) (h₀ : b₀.Fresh) (q : Pool Books Scheduler)
    (h : callsMachine.Reach wholeCalls ⟨b₀, []⟩ q) (vendor : VendorId) :
    q.shared.TrueBreakdown vendor ↔ q.shared.Plain vendor := by
  have hb := (agreed_reach h₀ h).1
  rw [hb.breakdown_iff, hb.commissions_zero_iff, hb.compensations_zero_iff, hb.payouts_zero_iff]
  exact ⟨fun ⟨hc, ha, hp⟩ => ⟨hc, ha, hp⟩, fun h => ⟨h.commission, h.compensation, h.payout⟩⟩

/-- Books with one order, at the commission rate `rate`. -/
def booksAtRate (rate : ℚ) : Books := { exampleBooks with orders := [{ exampleOrder with commissionRate := rate }] }

theorem fresh_booksAtRate {rate : ℚ} (h : 0 ≤ rate) : (booksAtRate rate).Fresh :=
  fresh_of_orders (by simp) (by
    simp only [List.mem_singleton, forall_eq]
    exact ⟨⟨rfl, rfl, rfl, exampleOrder_placed.subtotal_min, exampleOrder_placed.fee_min, rfl⟩, h, rfl⟩)

/-- Of a commission of 200 the columns say nothing. -/
theorem commission_untold : ¬ ∀ b₀ : Books, b₀.Fresh → ∀ q, callsMachine.Reach wholeCalls ⟨b₀, []⟩ q →
    ∀ vendor, q.shared.TrueBreakdown vendor := by
  intro h
  obtain ⟨q, hq, ht⟩ := Machine.reach_of_test callsMachine wholeCalls wholeCallsB (fun _ _ _ => wholeCalls_of_bool)
    ⟨booksAtRate (1 / 10), []⟩ (servedCalls 1)
    (fun q => decide (commissionsXAF 1 (q.shared.since (.vendor 1)) q.shared.orders = 200)) (by decide +kernel)
  have hfresh : (booksAtRate (1 / 10)).Fresh := fresh_booksAtRate (by norm_num)
  have hzero := ((agreed_reach hfresh hq).1.breakdown_iff 1).1 (h _ hfresh q hq 1)
  rw [of_decide_eq_true ht] at hzero
  cases hzero.1

/-- Where there is no commission they are right. -/
theorem free_vendor_told : ∃ q, callsMachine.Reach wholeCalls ⟨booksAtRate 0, []⟩ q ∧
    (q.shared.getVendorBalance 1).balanceXAF = 2000 ∧ q.shared.TrueBreakdown 1 := by
  obtain ⟨q, hq, ht⟩ := Machine.reach_of_test callsMachine wholeCalls wholeCallsB (fun _ _ _ => wholeCalls_of_bool)
    ⟨booksAtRate 0, []⟩ (servedCalls 1)
    (fun q => decide ((q.shared.getVendorBalance 1).balanceXAF = 2000 ∧
      (q.shared.orders.all fun o => decide (o.commissionXAF = some 0)) = true ∧
      (q.shared.ledger.all fun e => decide (e.eventType ≠ .adjustment ∧ e.eventType ≠ .vendorPayout)) = true))
    (by decide +kernel)
  obtain ⟨hbalance, horders, hledger⟩ := of_decide_eq_true ht
  refine ⟨q, hq, hbalance, (breakdown_true_iff _ (fresh_booksAtRate le_rfl) q hq 1).2 ⟨?_, ?_, ?_⟩⟩
  · exact fun o ho _ => of_decide_eq_true (List.all_eq_true.1 horders o ho)
  · exact fun e he _ => (of_decide_eq_true (List.all_eq_true.1 hledger e he)).1
  · exact fun e he _ => (of_decide_eq_true (List.all_eq_true.1 hledger e he)).2

end ChopNow
