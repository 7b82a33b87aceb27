import ChopNow.Lib.Mirror
import ChopNow.Proofs.Journal

/-! The journal and the payout and penalty rows are two pictures of one history. -/

namespace ChopNow

open Interleave Mirror

/-- What a row of a pair says. -/
def LedgerEntry.brief (e : LedgerEntry) : LedgerEventType × LedgerAccount × ℤ := (e.eventType, e.account, e.amountXAF)

def Payout.pair (p : Payout) : List (LedgerEventType × LedgerAccount × ℤ) :=
  match p.party with
  | .vendor _ => [(.vendorPayout, .vendorPayable, p.netXAF), (.vendorPayout, .campayFloat, -p.netXAF)]
  | .rider _ => [(.riderPayout, .riderPayable, p.netXAF), (.riderPayout, .campayFloat, -p.netXAF)]

def VendorPenalty.pair (v : VendorPenalty) : List (LedgerEventType × LedgerAccount × ℤ) :=
  [(.penaltyApplied, .vendorPayable, v.amountXAF), (.penaltyApplied, .platformRevenue, -v.amountXAF)]

def VendorPenalty.eventId (v : VendorPenalty) : EventId := .penalty v.id

def EventId.isPenalty : EventId → Bool
  | .penalty _ => true
  | _ => false

theorem payout_kind (p : Payout) : p.eventId.isPayout = true ∧ p.eventId.isPenalty = false := by
  unfold Payout.eventId
  cases p.party <;> exact ⟨rfl, rfl⟩

theorem payoutInput_brief (p : Payout) (description : String) (id : EventId) (now : Time) :
    ((payoutInput p description).rows id now).map LedgerEntry.brief = p.pair := by
  unfold RecordTransactionInput.rows payoutInput Payout.pair
  cases p.party <;> rfl

theorem SamePayout.pair {p p' : Payout} (h : SamePayout p p') : p'.pair = p.pair := by
  simp only [Payout.pair, h.party, h.netXAF]

/-- One pair for each row, and none without a row. -/
structure Mirrored (b : Books) : Prop where
  payouts : Mirrors LedgerEntry.eventId LedgerEntry.brief EventId.isPayout Payout.eventId Payout.pair b.payouts b.ledger
  payoutIds : ∀ p ∈ b.payouts, p.id < b.payouts.length
  penalties : Mirrors LedgerEntry.eventId LedgerEntry.brief EventId.isPenalty VendorPenalty.eventId VendorPenalty.pair
    b.penalties b.ledger
  penaltyIds : ∀ v ∈ b.penalties, v.id = v.orderId

theorem Mirrored.paid {b b' : Books} {job : PayoutJob} {balance : PartyBalance} {periodStart periodEnd : Time}
    (h : Mirrored b) (hc : PayoutCommitted b job balance periodStart periodEnd b') : Mirrored b' := by
  set p := job.row b.payouts.length balance periodStart periodEnd with hp
  have hrows : ∀ {input : RecordTransactionInput} {now e}, e ∈ input.rows p.eventId now → e.eventId = p.eventId :=
    eventId_of_mem_rows
  have hfresh : p.eventId ∉ b.payouts.map Payout.eventId := by
    intro hmem
    obtain ⟨q, hq, heq⟩ := List.mem_map.1 hmem
    have hsame : q.id = b.payouts.length := by
      unfold Payout.eventId at heq
      cases hqp : q.party <;> cases hpp : p.party <;> simp_all [PayoutJob.row]
    exact absurd (h.payoutIds q hq) (hsame ▸ lt_irrefl _)
  refine ⟨?_, ?_, ?_, ?_⟩
  · rw [hc.payouts, hc.ledger]
    exact h.payouts.append_row (payout_kind p).1 hfresh (fun e he => hrows he) (payoutInput_brief ..)
  · rw [hc.payouts]
    intro q hq
    rw [List.length_append, List.length_singleton]
    rcases List.mem_append.1 hq with hq | hq
    · exact (h.payoutIds q hq).trans (Nat.lt_succ_self _)
    · obtain rfl := List.mem_singleton.1 hq
      exact Nat.lt_succ_self _
  · rw [hc.penalties, hc.ledger]
    exact h.penalties.append_other (fun _ => rfl) fun e he => by rw [hrows he]; exact (payout_kind p).2
  · rw [hc.penalties]
    exact h.penaltyIds

theorem Mirrored.penalised {b b' : Books} {row : Order} {penaltyXAF : ℤ} (h : Mirrored b)
    (hfresh : ∀ v ∈ b.penalties, v.orderId ≠ row.id)
    (hpenalties : b'.penalties = b.penalties ++ [⟨row.id, row.vendorId, row.id, penaltyXAF⟩])
    (hledger : b'.ledger = b.ledger ++ (penaltyInput row penaltyXAF).rows (.penalty row.id) b.clock)
    (hpayouts : b'.payouts = b.payouts) : Mirrored b' := by
  refine ⟨?_, ?_, ?_, ?_⟩
  · rw [hpayouts, hledger]
    exact h.payouts.append_other (fun p => (payout_kind p).1) fun e he => by rw [eventId_of_mem_rows he]; rfl
  · rw [hpayouts]
    exact h.payoutIds
  · rw [hpenalties, hledger]
    refine h.penalties.append_row rfl ?_ (fun e he => eventId_of_mem_rows he) rfl
    intro hmem
    obtain ⟨v, hv, heq⟩ := List.mem_map.1 hmem
    exact hfresh v hv ((h.penaltyIds v hv).symm.trans (by simpa [VendorPenalty.eventId] using heq))
  · rw [hpenalties]
    intro v hv
    rcases List.mem_append.1 hv with hv | hv
    · exact h.penaltyIds v hv
    · obtain rfl := List.mem_singleton.1 hv
      rfl

theorem Mirrored.moves {b b' : Books} (h : Mirrored b) (hm : b.Moves b') : Mirrored b' := by
  cases hm.journal with
  | quiet hl hp hv => exact ⟨by rw [hl, hp]; exact h.payouts, by rw [hp]; exact h.payoutIds,
      by rw [hl, hv]; exact h.penalties, by rw [hv]; exact h.penaltyIds⟩
  | status id x hb' =>
    subst hb'
    have hsame : ∀ p : Payout, SamePayout p (if p.id = id then x.apply p b.clock else p) := fun p => by
      split
      · exact x.apply_same p b.clock
      · exact .refl p
    refine ⟨h.payouts.rewrite (fun p => (hsame p).eventId) fun p => (hsame p).pair, ?_, h.penalties, h.penaltyIds⟩
    intro p' hp'
    obtain ⟨p, hp, hs⟩ := mem_writePayout hp'
    simpa [Books.writePayout, hs.id] using h.payoutIds p hp
  | @booked input id hv hid hm hl hp hpen hc =>
    have hkinds : id.isPayout = false ∧ id.isPenalty = false := by cases id <;> first | exact ⟨rfl, rfl⟩ | cases hm
    refine ⟨?_, by rw [hp]; exact h.payoutIds, ?_, by rw [hpen]; exact h.penaltyIds⟩
    · rw [hp, hl]
      exact h.payouts.append_other (fun p => (payout_kind p).1) fun e he => by rw [eventId_of_mem_rows he, hkinds.1]
    · rw [hpen, hl]
      exact h.penalties.append_other (fun _ => rfl) fun e he => by rw [eventId_of_mem_rows he, hkinds.2]
  | penalised hv hfresh hpen hl hp hc => exact h.penalised hfresh hpen hl hp
  | paid hc => exact h.paid (commitPayout_ok hc)

theorem Mirrored.start {b : Books} (hledger : b.ledger = []) (hpayouts : b.payouts = []) (hpenalties : b.penalties = []) :
    Mirrored b := by
  refine ⟨?_, by simp [hpayouts], ?_, by simp [hpenalties]⟩
  · rw [hpayouts, hledger]
    exact .nil
  · rw [hpenalties, hledger]
    exact .nil

/-! What is there stays. -/

structure Later (b b' : Books) : Prop where
  ledger : ∃ rows, b'.ledger = b.ledger ++ rows
  payouts : ∀ p ∈ b.payouts, ∃ p' ∈ b'.payouts, SamePayout p p'
  penalties : ∀ v ∈ b.penalties, v ∈ b'.penalties

theorem Later.refl (b : Books) : Later b b :=
  ⟨⟨[], (List.append_nil _).symm⟩, fun p hp => ⟨p, hp, .refl p⟩, fun _ hv => hv⟩

theorem Later.trans {b b' b'' : Books} (h : Later b b') (h' : Later b' b'') : Later b b'' := by
  refine ⟨?_, fun p hp => ?_, fun v hv => h'.penalties v (h.penalties v hv)⟩
  · obtain ⟨rows, hrows⟩ := h.ledger
    obtain ⟨rows', hrows'⟩ := h'.ledger
    exact ⟨rows ++ rows', by rw [hrows', hrows, List.append_assoc]⟩
  · obtain ⟨p', hp', hs⟩ := h.payouts p hp
    obtain ⟨p'', hp'', hs'⟩ := h'.payouts p' hp'
    exact ⟨p'', hp'', hs'.id.trans hs.id, hs'.party.trans hs.party, hs'.periodStart.trans hs.periodStart,
      hs'.periodEnd.trans hs.periodEnd, hs'.netXAF.trans hs.netXAF⟩

theorem Books.Moves.later {b b' : Books} (h : b.Moves b') : Later b b' := by
  have hsame : b'.payouts = b.payouts → ∀ p ∈ b.payouts, ∃ p' ∈ b'.payouts, SamePayout p p' := fun hp p hmem =>
    ⟨p, hp ▸ hmem, .refl p⟩
  have hledger : ∃ rows, b'.ledger = b.ledger ++ rows := by
    rcases h.journal.ledger with hl | ⟨input, id, -, -, hl⟩
    · exact ⟨[], by rw [hl, List.append_nil]⟩
    · exact ⟨_, hl⟩
  refine ⟨hledger, ?_, ?_⟩
  · cases h.journal with
    | quiet _ hp => exact hsame hp
    | status id x hb' =>
      subst hb'
      exact fun p hp => writePayout_keeps hp id x
    | booked _ _ _ _ hp => exact hsame hp
    | penalised _ _ _ _ hp => exact hsame hp
    | paid hc =>
      intro p hp
      exact ⟨p, by rw [(commitPayout_ok hc).payouts]; exact List.mem_append_left _ hp, .refl p⟩
  · intro v hv
    cases h.journal with
    | quiet _ _ hpen => rwa [hpen]
    | status id x hb' => rwa [hb']
    | booked _ _ _ _ _ hpen => rwa [hpen]
    | penalised _ _ hpen => rw [hpen]; exact List.mem_append_left _ hv
    | paid hc => rwa [(commitPayout_ok hc).penalties]

/-! Payouts are of positive amounts: the balance was checked when it was read. -/

def Scheduler.positive : Scheduler → Prop
  | .countDisputes _ balance | .readLastPayout _ balance | .findExisting _ balance _ _ | .transact _ balance _ _ =>
    0 < balance.balanceXAF
  | _ => True

def Books.positive (b : Books) : Prop := ∀ p ∈ b.payouts, 0 < p.netXAF

theorem Books.positive.writePayout {b : Books} (h : b.positive) (id : PayoutId) (x : PayoutWrite) :
    (b.writePayout id x).positive := by
  intro p' hp'
  obtain ⟨p, hp, hs⟩ := mem_writePayout hp'
  rw [hs.netXAF]
  exact h p hp

theorem SchedulerMove.positive_next {b b' : Books} {t t' : Scheduler} (h : SchedulerMove b t b' t') (ht : t.positive) :
    t'.positive := by
  cases h with
  | readBalance hpos hnext => rcases hnext with rfl | rfl <;> exact hpos
  | undisputed | unscheduled | sweepPeriod | cashoutPeriod => exact ht
  | schedule | finish | eligible | requested => trivial

theorem SchedulerMove.positive {b b' : Books} {t t' : Scheduler} (h : SchedulerMove b t b' t') (hb : b.positive)
    (ht : t.positive) : b'.positive ∧ t'.positive := by
  refine ⟨?_, h.positive_next ht⟩
  cases h with
  | schedule outcome hc =>
    intro p hp
    rw [(commitPayout_ok hc).payouts] at hp
    rcases List.mem_append.1 hp with hp | hp
    · exact hb p hp
    · obtain rfl := List.mem_singleton.1 hp
      exact ht
  | _ => exact hb

theorem booksEvent_fresh (b : Books) (n : BooksEvent) : ∀ t ∈ (booksEvent b n).2, t.positive := by
  cases n <;> simp [booksEvent, Scheduler.positive]

theorem positive_of_reach {b₀ : Books} {q : Pool Books Scheduler} {ok : Guard Books Scheduler BooksEvent Reply}
    (hpayouts : b₀.payouts = []) (h : booksMachine.Reach ok ⟨b₀, []⟩ q) : q.shared.positive := by
  have hstart : b₀.positive := by simp [Books.positive, hpayouts]
  refine (h.sat (I := Books.positive) (L := fun _ t => t.positive) (X := fun _ _ => True) (fun _ _ _ => trivial)
    ⟨hstart, by simp, .nil⟩ ?_ ?_).shared
  · intro b us n b' ts _ hb hus _ hev
    obtain ⟨rfl, rfl⟩ := booksMachine_event hev
    refine ⟨?_, booksEvent_fresh b n, hus, ?_, fun _ _ _ _ => trivial⟩
    · rcases booksEvent_payouts b n with hp | ⟨id, x, rfl⟩
      · simpa only [Books.positive, hp] using hb
      · exact hb.writePayout id x
    · exact List.pairwise_of_forall fun _ _ => trivial
  · intro b us vs t e b' ts _ hb ht hus _ hst
    obtain ⟨t', rfl, hm⟩ := booksMachine_step hst
    obtain ⟨hb', ht'⟩ := hm.positive hb ht
    exact .one hb' ht' fun u hu => ⟨(hus u hu).1, trivial⟩

/-! Whole runs. -/

theorem later_of_reach {p q : Pool Books Scheduler} {ok : Guard Books Scheduler BooksEvent Reply}
    (h : booksMachine.Reach ok p q) : Later p.shared q.shared ∧ (Mirrored p.shared → Mirrored q.shared) := by
  refine h.invariant (J := fun b _ => Later p.shared b ∧ (Mirrored p.shared → Mirrored b)) ⟨.refl _, fun h => h⟩ ?_ ?_
  · intro b us n b' ts _ hb _ hev
    obtain ⟨rfl, rfl⟩ := booksMachine_event hev
    have hm := booksEvent_moves b n
    exact ⟨hb.1.trans hm.later, fun h => (hb.2 h).moves hm⟩
  · intro b us vs t e b' ts _ hb _ hst
    obtain ⟨t', -, hm⟩ := booksMachine_step hst
    exact ⟨hb.1.trans hm.moves.later, fun h => (hb.2 h).moves hm.moves⟩

/-- In every reachable state each payout and each penalty has its pair in the journal
and nothing else has one; later the pair is still the same. -/
theorem journal_mirrors_rows {b₀ : Books} {q r : Pool Books Scheduler} (hledger : b₀.ledger = [])
    (hpayouts : b₀.payouts = []) (hpenalties : b₀.penalties = []) (hq : booksMachine.Reach anyMove ⟨b₀, []⟩ q)
    (hr : booksMachine.Reach anyMove q r) :
    Mirrored q.shared ∧ (∀ p ∈ q.shared.payouts, 0 < p.netXAF) ∧
      (∀ p ∈ q.shared.payouts, (∃ p' ∈ r.shared.payouts, SamePayout p p') ∧
        rowsOf LedgerEntry.eventId p.eventId r.shared.ledger = rowsOf LedgerEntry.eventId p.eventId q.shared.ledger) ∧
      ∀ v ∈ q.shared.penalties, v ∈ r.shared.penalties ∧
        rowsOf LedgerEntry.eventId v.eventId r.shared.ledger = rowsOf LedgerEntry.eventId v.eventId q.shared.ledger := by
  have hmirrored := (later_of_reach hq).2 (.start hledger hpayouts hpenalties)
  obtain ⟨hlater, hkeep⟩ := later_of_reach hr
  have hmirrored' := hkeep hmirrored
  obtain ⟨rows, hrows⟩ := hlater.ledger
  refine ⟨hmirrored, positive_of_reach hpayouts hq, fun p hp => ?_, fun v hv => ?_⟩
  · obtain ⟨p', hp', hs⟩ := hlater.payouts p hp
    refine ⟨⟨p', hp', hs⟩, ?_⟩
    have hpaired := hmirrored'.payouts
    rw [hrows] at hpaired ⊢
    exact hmirrored.payouts.still hp hpaired hp' hs.eventId hs.pair
  · have hv' := hlater.penalties v hv
    refine ⟨hv', ?_⟩
    have hpaired := hmirrored'.penalties
    rw [hrows] at hpaired ⊢
    exact hmirrored.penalties.still hv hpaired hv' rfl rfl

/-- A payout is scheduled, sent, refused and sent again. -/
theorem retried_payout_keeps_pair : ∃ q r, booksMachine.Reach anyMove ⟨exampleBooks, []⟩ q ∧
    booksMachine.Reach anyMove q r ∧ q.shared.payouts.map Payout.netXAF = [1800] ∧
    r.shared.payouts.map (·.status) = [.inFlight] ∧ Mirrored q.shared ∧
    ∀ p ∈ q.shared.payouts, rowsOf LedgerEntry.eventId p.eventId r.shared.ledger =
      rowsOf LedgerEntry.eventId p.eventId q.shared.ledger := by
  obtain ⟨q, r, hq, hr, ht⟩ := booksMachine.reach_of_stop anyMove (fun _ _ _ => true) (fun _ _ _ _ => trivial)
    ⟨exampleBooks, []⟩ payoutDay [.event (.payout 0 .lockRow), .event (.payout 0 (.onFail "refused")),
      .event (.payout 0 .retryPayout), .event (.payout 0 .lockRow)]
    (fun q r => decide (q.shared.payouts.map Payout.netXAF = [1800] ∧
      r.shared.payouts.map (·.status) = [.inFlight])) (by decide +kernel)
  obtain ⟨hnet, hstatus⟩ := of_decide_eq_true ht
  obtain ⟨hmirrored, -, hkept, -⟩ := journal_mirrors_rows rfl rfl rfl hq hr
  exact ⟨q, r, hq, hr, hnet, hstatus, hmirrored, fun p hp => (hkept p hp).2⟩

end ChopNow
