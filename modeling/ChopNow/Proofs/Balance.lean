import ChopNow.Proofs.Journal

/-! Is a balance the ledger position? The window of getVendorBalance drops what the
last payout covered, but not the debit of that payout. -/

namespace ChopNow

open Interleave Tally

/-- Minus the sum of all the party's entries. -/
def owedXAF (party : Party) (ledger : Ledger) : ℤ := -balanceOf party.account party.owns ledger

/-- The same over the entries up to a moment. -/
def owedUpTo (party : Party) (t : Time) (ledger : Ledger) : ℤ :=
  -balanceOf party.account (fun e => party.owns e && decide (e.createdAt ≤ t)) ledger

theorem balance_of_cutoff_none {b : Books} {party : Party} (h : b.cutoff party = none) :
    (b.balance party).balanceXAF = owedXAF party b.ledger := by
  rw [balance_eq, Books.sumSince, owedXAF, h]
  simp [isAfter]

theorem balance_of_cutoff_some {b : Books} {party : Party} {t : Time} (h : b.cutoff party = some t) :
    (b.balance party).balanceXAF = owedXAF party b.ledger - owedUpTo party t b.ledger := by
  have hsplit := tally_split (fun e => e.account == party.account && party.owns e)
    (fun e => decide (e.createdAt ≤ t)) (·.amountXAF) b.ledger
  have hwindow : ∀ e : LedgerEntry, decide (t < e.createdAt) = !decide (e.createdAt ≤ t) := fun e => by
    rw [← decide_not]
    exact decide_eq_decide.2 not_le.symm
  simp only [balance_eq, Books.sumSince, owedXAF, owedUpTo, balanceOf, h, isAfter, Bool.and_true, hwindow,
    ← Bool.and_assoc] at hsplit ⊢
  omega

theorem balance_eq_iff_upTo {b : Books} {party : Party} : (b.balance party).balanceXAF = owedXAF party b.ledger ↔
    ∀ t, b.cutoff party = some t → owedUpTo party t b.ledger = 0 := by
  cases hc : b.cutoff party with
  | none => simp [balance_of_cutoff_none hc]
  | some t =>
    rw [balance_of_cutoff_some hc]
    simp only [Option.some.injEq, forall_eq']
    omega

/-- Later entries do not count. -/
theorem owedUpTo_append {party : Party} {t : Time} {ledger rows : Ledger} (h : ∀ e ∈ rows, t < e.createdAt) :
    owedUpTo party t (ledger ++ rows) = owedUpTo party t ledger := by
  have hnone : balanceOf party.account (fun e => party.owns e && decide (e.createdAt ≤ t)) rows = 0 :=
    tally_eq_zero fun e he hp => by
      simp only [Bool.and_eq_true, decide_eq_true_eq] at hp
      exact absurd hp.2.2 (h e he).not_ge
  rw [owedUpTo, balanceOf_append, hnone, add_zero, owedUpTo]

/-- Nothing of the party's was booked after `t`. -/
def Books.quietSince (b : Books) (party : Party) (t : Time) : Prop :=
  ∀ e ∈ b.ledger, party.owns e = true → e.createdAt ≤ t

theorem Books.quietSince.owed {b : Books} {party : Party} {t : Time} (h : b.quietSince party t) :
    owedUpTo party t b.ledger = owedXAF party b.ledger := by
  unfold owedUpTo owedXAF balanceOf
  refine congrArg Neg.neg (tally_congr fun e he => ?_)
  cases howns : party.owns e with
  | false => simp [howns]
  | true => simp [howns, h e he howns]

/-- The cutoff is the end of some payout that is paid or on its way. -/
theorem mem_of_cutoff {b : Books} {party : Party} {t : Time} (h : b.cutoff party = some t) :
    ∃ p ∈ b.payouts, p.party = party ∧ p.isSettling = true ∧ p.periodEnd = t := by
  obtain ⟨p, hp, rfl⟩ := List.mem_map.1 (List.max?_mem h)
  rw [List.mem_filter, Bool.and_eq_true, decide_eq_true_iff] at hp
  exact ⟨p, hp.1, hp.2.1, hp.2.2, rfl⟩

theorem cutoff_eq_none_iff {b : Books} {party : Party} :
    b.cutoff party = none ↔ ∀ p ∈ b.payouts, p.party = party → p.isSettling = false := by
  rw [Books.cutoff, List.max?_eq_none_iff, List.map_eq_nil_iff, List.filter_eq_nil_iff]
  simp

/-! One call at a time. -/

/-- Events wait until every scheduler is done. -/
def sequential : Guard Books Scheduler BooksEvent Reply := fun _ us m =>
  match m with
  | .event _ => ∀ u ∈ us, u.isDone = true
  | .step .. => True

/-- When a cron gets to a party, nothing of the party's has been booked since the sweep started. -/
def sweptInTime : Guard Books Scheduler BooksEvent Reply := fun b _ m =>
  match m with
  | .event (.tryScheduleVendorPayout vendor _ elapsed) => b.quietSince (.vendor vendor) (b.clock - elapsed)
  | .event (.tryScheduleRiderPayout rider _ elapsed) => b.quietSince (.rider rider) (b.clock - elapsed)
  | _ => True

/-- Entries are older than the clock, and when a payout's period ended money was owed. -/
structure Funded (b : Books) : Prop where
  stamped : ∀ e ∈ b.ledger, e.createdAt < b.clock
  ended : ∀ p ∈ b.payouts, p.periodEnd < b.clock
  owed : ∀ p ∈ b.payouts, 0 < owedUpTo p.party p.periodEnd b.ledger

theorem Funded.balance_le {b : Books} (h : Funded b) (party : Party) :
    (b.balance party).balanceXAF ≤ owedXAF party b.ledger := by
  cases hc : b.cutoff party with
  | none => rw [balance_of_cutoff_none hc]
  | some t =>
    obtain ⟨p, hp, rfl, -, rfl⟩ := mem_of_cutoff hc
    have := h.owed p hp
    rw [balance_of_cutoff_some hc]
    omega

theorem Funded.balance_eq_iff {b : Books} (h : Funded b) (party : Party) :
    (b.balance party).balanceXAF = owedXAF party b.ledger ↔
      ∀ p ∈ b.payouts, p.party = party → p.isSettling = false := by
  rw [← cutoff_eq_none_iff]
  cases hc : b.cutoff party with
  | none => simp [balance_of_cutoff_none hc]
  | some t =>
    obtain ⟨p, hp, rfl, -, rfl⟩ := mem_of_cutoff hc
    have := h.owed p hp
    rw [balance_of_cutoff_some hc]
    simp only [reduceCtorEq, iff_false]
    omega

/-- All the entries of the party fall into a period that ends at `t`. -/
def Covered (b : Books) (party : Party) (t : Time) : Prop := t < b.clock ∧ b.quietSince party t

/-- What a scheduler knows while nobody else moves. -/
def Scheduler.Knows (b : Books) : Scheduler → Prop
  | .checkKyc rider _ scheduledFor => Covered b (.rider rider) scheduledFor
  | .readRequest .. => True
  | .readBalance job => ∀ t ∈ job.sweptAt, Covered b job.party t
  | .countDisputes job _ | .readLastPayout job _ =>
    (∀ t ∈ job.sweptAt, Covered b job.party t) ∧ 0 < owedXAF job.party b.ledger
  | .findExisting job _ _ periodEnd | .transact job _ _ periodEnd =>
    Covered b job.party periodEnd ∧ 0 < owedXAF job.party b.ledger
  | .done _ => True

theorem Funded.quiet {b b' : Books} (h : Funded b) (hledger : b'.ledger = b.ledger)
    (hpayouts : ∀ p' ∈ b'.payouts, ∃ p ∈ b.payouts, SamePayout p p') (hclock : b.clock ≤ b'.clock) : Funded b' := by
  refine ⟨fun e he => ?_, fun p' hp' => ?_, fun p' hp' => ?_⟩
  · rw [hledger] at he
    exact (h.stamped e he).trans_le hclock
  · obtain ⟨p, hp, hs⟩ := hpayouts p' hp'
    rw [hs.periodEnd]
    exact (h.ended p hp).trans_le hclock
  · obtain ⟨p, hp, hs⟩ := hpayouts p' hp'
    rw [hs.party, hs.periodEnd, hledger]
    exact h.owed p hp

theorem Funded.booked {b b' : Books} (h : Funded b) {input : RecordTransactionInput} {id : EventId}
    (hledger : b'.ledger = b.ledger ++ input.rows id b.clock) (hclock : b'.clock = b.clock + 1)
    (hnew : ∀ p ∈ b'.payouts, p ∈ b.payouts ∨ p.periodEnd < b.clock ∧ 0 < owedUpTo p.party p.periodEnd b.ledger) :
    Funded b' := by
  have hlater : ∀ {t}, t < b.clock → ∀ e ∈ input.rows id b.clock, t < e.createdAt := fun ht e he => by
    rwa [createdAt_of_mem_rows he]
  have hfacts : ∀ p ∈ b'.payouts, p.periodEnd < b.clock ∧ 0 < owedUpTo p.party p.periodEnd b.ledger := fun p hp =>
    (hnew p hp).elim (fun hp => ⟨h.ended p hp, h.owed p hp⟩) fun hp => hp
  refine ⟨fun e he => ?_, fun p hp => ?_, fun p hp => ?_⟩
  · rw [hledger] at he
    rcases List.mem_append.1 he with he | he
    · rw [hclock]
      exact (h.stamped e he).trans (Nat.lt_succ_self _)
    · rw [createdAt_of_mem_rows he, hclock]
      exact Nat.lt_succ_self _
  · rw [hclock]
    exact (hfacts p hp).1.trans (Nat.lt_succ_self _)
  · rw [hledger, owedUpTo_append (hlater (hfacts p hp).1)]
    exact (hfacts p hp).2

/-- What is not a payout transaction keeps the books funded. -/
theorem Funded.event {b : Books} (h : Funded b) (n : BooksEvent) : Funded (booksEvent b n).1 := by
  rcases booksEvent_payouts b n with hp | ⟨id, x, rfl⟩
  · obtain ⟨hclock, hl | ⟨hnext, input, id, -, hl⟩⟩ := booksEvent_ledger b n
    · exact h.quiet hl (fun p hmem => ⟨p, hp ▸ hmem, .refl p⟩) hclock
    · exact h.booked hl hnext fun p hmem => .inl (hp ▸ hmem)
  · exact h.quiet rfl (fun _ => mem_writePayout) le_rfl

theorem SchedulerMove.funded {b b' : Books} {t t' : Scheduler} (h : SchedulerMove b t b' t') (hb : Funded b)
    (ht : t.Knows b) : Funded b' ∧ t'.Knows b' := by
  cases h with
  | finish outcome => exact ⟨hb, trivial⟩
  | eligible rider momoPhone scheduledFor => exact ⟨hb, fun t h => by cases h; exact ht⟩
  | requested => exact ⟨hb, nofun⟩
  | @readBalance job next hpos hnext =>
    have howed := hpos.trans_le (hb.balance_le job.party)
    refine ⟨hb, ?_⟩
    rcases hnext with rfl | rfl <;> exact ⟨ht, howed⟩
  | undisputed | unscheduled => exact ⟨hb, ht⟩
  | sweepPeriod balance hcreated hswept => exact ⟨hb, ht.1 _ hswept, ht.2⟩
  | cashoutPeriod balance hcreated hswept =>
    refine ⟨hb.quiet rfl (fun p hp => ⟨p, hp, .refl p⟩) (Nat.le_succ _), ⟨Nat.lt_succ_self _, ?_⟩, ht.2⟩
    exact fun e he _ => (hb.stamped e he).le
  | @schedule job balance periodStart periodEnd b' outcome hb' =>
    have hc := commitPayout_ok hb'
    refine ⟨hb.booked hc.ledger hc.clock fun p hp => ?_, trivial⟩
    rw [hc.payouts] at hp
    rcases List.mem_append.1 hp with hp | hp
    · exact .inl hp
    · obtain rfl := List.mem_singleton.1 hp
      exact .inr ⟨ht.1.1, ht.1.2.owed ▸ ht.2⟩

theorem Scheduler.knows_of_isDone {b : Books} {t : Scheduler} (h : t.isDone = true) : t.Knows b := by
  cases t with
  | done outcome => trivial
  | _ => cases h

theorem booksEvent_knows {b : Books} {us : List Scheduler} {n : BooksEvent} (hok : sweptInTime b us (.event n)) :
    ∀ t ∈ (booksEvent b n).2, t.Knows (booksEvent b n).1 := by
  have hpast : ∀ elapsed, b.clock - elapsed < b.clock + 1 := fun elapsed => Nat.lt_succ_of_le (Nat.sub_le _ _)
  cases n with
  | tryScheduleVendorPayout vendor momoPhone elapsed =>
    simp only [booksEvent, List.mem_singleton, forall_eq]
    rintro t ht
    obtain rfl := Option.some.inj ht
    exact ⟨hpast elapsed, hok⟩
  | tryScheduleRiderPayout rider momoPhone elapsed =>
    simp only [booksEvent, List.mem_singleton, forall_eq]
    exact ⟨hpast elapsed, hok⟩
  | approveCashoutRequest request adminUserId => simp [booksEvent, Scheduler.Knows]
  | _ => simp [booksEvent]

theorem funded_of_reach {b₀ : Books} {q : Pool Books Scheduler} (hledger : b₀.ledger = []) (hpayouts : b₀.payouts = [])
    (h : booksMachine.Reach (sequential.and sweptInTime) ⟨b₀, []⟩ q) : Funded q.shared := by
  have hstart : Funded b₀ := ⟨by simp [hledger], by simp [hpayouts], by simp [hpayouts]⟩
  refine (h.sat (I := Funded) (L := fun b t => t.Knows b) (X := fun t u => t.isDone = true ∨ u.isDone = true)
    (fun _ _ => Or.symm) ⟨hstart, by simp, .nil⟩ ?_ ?_).shared
  · intro b us n b' ts _ hb hus hok hev
    obtain ⟨rfl, rfl⟩ := booksMachine_event hev
    refine ⟨hb.event n, booksEvent_knows hok.2, fun u hu => Scheduler.knows_of_isDone (hok.1 u hu), ?_,
      fun t _ u hu => .inr (hok.1 u hu)⟩
    cases n <;> simp [booksEvent]
  · intro b us vs t e b' ts _ hb ht hus _ hst
    obtain ⟨t', rfl, hm⟩ := booksMachine_step hst
    have hundone : t.isDone = false := by
      cases t with
      | done outcome => cases e <;> cases hst
      | _ => rfl
    obtain ⟨hb', ht'⟩ := hm.funded hb ht
    have hothers : ∀ u ∈ us ++ vs, u.isDone = true := fun u hu => by
      rcases (hus u hu).2 with hd | hd
      · rw [hundone] at hd
        cases hd
      · exact hd
    exact .one hb' ht' fun u hu => ⟨Scheduler.knows_of_isDone (hothers u hu), .inr (hothers u hu)⟩

/-- A balance is the ledger position exactly while no payout of the party is on its way or paid, or
nothing was owed up to where the latest of them ends. Where the crons find nothing booked since
their sweep started, something was owed, and only the first is left. -/
theorem balance_is_owed_iff (party : Party) :
    (∀ b : Books, (b.balance party).balanceXAF = owedXAF party b.ledger ↔
      ∀ t, b.cutoff party = some t → owedUpTo party t b.ledger = 0) ∧
    ∀ (b₀ : Books) (q : Pool Books Scheduler), b₀.ledger = [] → b₀.payouts = [] →
      booksMachine.Reach (sequential.and sweptInTime) ⟨b₀, []⟩ q →
      ((q.shared.balance party).balanceXAF = owedXAF party q.shared.ledger ↔
        ∀ p ∈ q.shared.payouts, p.party = party → p.isSettling = false) :=
  ⟨fun _ => balance_eq_iff_upTo, fun _ _ hledger hpayouts h => (funded_of_reach hledger hpayouts h).balance_eq_iff party⟩

def sequentialB (_ : Books) (us : List Scheduler) : Move Scheduler BooksEvent Reply → Bool
  | .event _ => us.all Scheduler.isDone
  | .step .. => true

theorem sequential_of_sequentialB (b : Books) (us : List Scheduler) (m : Move Scheduler BooksEvent Reply)
    (h : sequentialB b us m = true) : sequential b us m := by
  cases m with
  | event n => exact List.all_eq_true.1 h
  | step t e => trivial

/-- Once the payout of 1800 is on its way nothing is owed, and the balance reads -1800. -/
theorem paid_vendor_reads_minus : ∃ q, booksMachine.Reach sequential ⟨exampleBooks, []⟩ q ∧
    owedXAF (.vendor 1) q.shared.ledger = 0 ∧ (q.shared.getVendorBalance 1).balanceXAF = -1800 := by
  obtain ⟨q, hq, ht⟩ := booksMachine.reach_of_test sequential sequentialB sequential_of_sequentialB
    ⟨exampleBooks, []⟩ (payoutDay ++ [.event (.payout 0 .lockRow)])
    (fun q => decide (owedXAF (.vendor 1) q.shared.ledger = 0 ∧ (q.shared.getVendorBalance 1).balanceXAF = -1800))
    (by decide +kernel)
  exact ⟨q, hq, of_decide_eq_true ht⟩

def sweptInTimeB (b : Books) (_ : List Scheduler) : Move Scheduler BooksEvent Reply → Bool
  | .event (.tryScheduleVendorPayout _ _ elapsed) | .event (.tryScheduleRiderPayout _ _ elapsed) =>
    b.ledger.all fun e => decide (e.createdAt ≤ b.clock - elapsed)
  | _ => true

theorem sweptInTime_of_bool (b : Books) (us : List Scheduler) (m : Move Scheduler BooksEvent Reply)
    (h : sweptInTimeB b us m = true) : sweptInTime b us m := by
  unfold sweptInTime
  split
  · exact fun e he _ => of_decide_eq_true (List.all_eq_true.1 h e he)
  · exact fun e he _ => of_decide_eq_true (List.all_eq_true.1 h e he)
  · trivial

/-- After the payout is scheduled, the balance is still the position. -/
theorem scheduled_vendor_reads_owed : ∃ q, booksMachine.Reach (sequential.and sweptInTime) ⟨exampleBooks, []⟩ q ∧
    q.shared.payouts.length = 1 ∧ (q.shared.balance (.vendor 1)).balanceXAF = owedXAF (.vendor 1) q.shared.ledger := by
  obtain ⟨q, hq, ht⟩ := booksMachine.reach_of_test (sequential.and sweptInTime)
    (fun b us m => sequentialB b us m && sweptInTimeB b us m)
    (fun b us m h => ⟨sequential_of_sequentialB b us m (Bool.and_eq_true_iff.1 h).1,
      sweptInTime_of_bool b us m (Bool.and_eq_true_iff.1 h).2⟩) ⟨exampleBooks, []⟩ payoutDay
    (fun q => decide (q.shared.payouts.length = 1 ∧
      ∀ p ∈ q.shared.payouts, p.party = .vendor 1 → p.isSettling = false)) (by decide +kernel)
  obtain ⟨hlength, hunsettled⟩ := of_decide_eq_true ht
  exact ⟨q, hq, hlength, ((balance_is_owed_iff (.vendor 1)).2 _ q rfl rfl hq).2 hunsettled⟩

/-- The order is delivered while the sweep runs: its payout is on its way, and the balance reads
the 0 that is owed. -/
theorem late_sweep_reads_owed : ∃ q, booksMachine.Reach sequential ⟨exampleBooks, []⟩ q ∧
    (q.shared.payouts.any (·.isSettling) = true ∧ owedXAF (.vendor 1) q.shared.ledger = 0) ∧
      (q.shared.getVendorBalance 1).balanceXAF = 0 := by
  obtain ⟨q, hq, ht⟩ := booksMachine.reach_of_test sequential sequentialB sequential_of_sequentialB
    ⟨exampleBooks, []⟩ (deliveryDay ++ [.event (.tryScheduleVendorPayout 1 "+237677000001" 2)] ++
      List.replicate 5 (.step 0 .ok) ++ [.event (.payout 0 .lockRow)])
    (fun q => decide ((q.shared.payouts.any (·.isSettling) = true ∧ owedXAF (.vendor 1) q.shared.ledger = 0) ∧
      (q.shared.getVendorBalance 1).balanceXAF = 0)) (by decide +kernel)
  exact ⟨q, hq, of_decide_eq_true ht⟩

end ChopNow
