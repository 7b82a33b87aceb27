import ChopNow.Spec.Finance

/-! What one transaction, and one step of a payout scheduler, does to the books. -/

namespace ChopNow

open Interleave

/-! Transactions. -/

theorem Books.record_ok_iff {b b' : Books} {input : RecordTransactionInput} :
    b.record input = .ok b' ↔ validate input = .ok () ∧ ∃ id, input.eventId = some id ∧
      b' = { b with ledger := b.ledger ++ input.rows id b.clock, clock := b.clock + 1 } := by
  unfold Books.record
  cases h : recordTransaction b.ledger b.clock input with
  | error err =>
    refine ⟨nofun, fun ⟨hv, id, hid, _⟩ => ?_⟩
    have := (recordTransaction_ok_iff b.ledger _ b.clock input).2 ⟨hv, id, hid, rfl⟩
    rw [h] at this
    cases this
  | ok ledger =>
    obtain ⟨hv, id, hid, rfl⟩ := (recordTransaction_ok_iff _ _ _ _).1 h
    simp [hv, hid, eq_comm]

theorem Books.createPayout_ok_iff {b b' : Books} {p : Payout} :
    b.createPayout p = .ok b' ↔
      (∀ q ∈ b.payouts, ¬(q.party = p.party ∧ q.periodStart = p.periodStart)) ∧
        b' = { b with payouts := b.payouts ++ [p] } := by
  unfold Books.createPayout
  split
  · next h =>
    obtain ⟨q, hq, hsame⟩ := List.any_eq_true.1 h
    exact ⟨nofun, fun h' => absurd (of_decide_eq_true hsame) (h'.1 q hq)⟩
  · next h =>
    rw [Bool.not_eq_true, List.any_eq_false] at h
    have hfresh : ∀ q ∈ b.payouts, ¬(q.party = p.party ∧ q.periodStart = p.periodStart) := fun q hq hs =>
      h q hq (decide_eq_true hs)
    exact ⟨fun h => ⟨hfresh, (Except.ok.inj h).symm⟩, fun h => by rw [h.2]⟩

/-- What a payout transaction leaves behind. -/
structure PayoutCommitted (b : Books) (job : PayoutJob) (balance : PartyBalance) (periodStart periodEnd : Time)
    (b' : Books) : Prop where
  fresh : ∀ q ∈ b.payouts, ¬(q.party = job.party ∧ q.periodStart = periodStart)
  sound : ∀ description, validate (payoutInput (job.row b.payouts.length balance periodStart periodEnd) description) =
    .ok ()
  payouts : b'.payouts = b.payouts ++ [job.row b.payouts.length balance periodStart periodEnd]
  ledger : b'.ledger = b.ledger ++
    (payoutInput (job.row b.payouts.length balance periodStart periodEnd)
      (job.description (job.row b.payouts.length balance periodStart periodEnd))).rows
        (job.row b.payouts.length balance periodStart periodEnd).eventId b.clock
  penalties : b'.penalties = b.penalties
  vendors : b'.vendors = b.vendors
  riders : b'.riders = b.riders
  clock : b'.clock = b.clock + 1

theorem payoutInput_sound_iff (p : Payout) (description : String) :
    validate (payoutInput p description) = .ok () ↔ p.netXAF ≠ 0 := by
  constructor
  · intro h
    obtain ⟨-, -, hsound, -⟩ := (validate_ok_iff _).1 h
    exact (hsound _ (.head _)).nonzero
  · intro h
    have htype : (payoutInput p description).eventType ≠ .adjustment := by
      simp only [payoutInput]
      cases p.party <;> nofun
    refine (validate_ok_iff _).2 ⟨rfl, le_rfl, ?_, by simp [payoutInput]⟩
    simp only [payoutInput, List.mem_cons, List.not_mem_nil, or_false, forall_eq_or_imp, forall_eq]
    exact ⟨⟨h, by simp [LedgerEntryInput.isOrphan], fun ht => absurd ht htype⟩,
      neg_ne_zero.2 h, by simp [LedgerEntryInput.isOrphan], fun ht => absurd ht htype⟩

theorem commitPayout_ok {b b' : Books} {job : PayoutJob} {balance : PartyBalance} {periodStart periodEnd : Time}
    (h : b.commitPayout job balance periodStart periodEnd = .ok b') :
    PayoutCommitted b job balance periodStart periodEnd b' := by
  simp only [Books.commitPayout, bind, Except.bind, pure, Except.pure] at h
  split at h
  · cases h
  next created hcreated =>
  split at h
  · cases h
  next booked hbooked =>
  obtain ⟨hfresh, rfl⟩ := Books.createPayout_ok_iff.1 hcreated
  obtain ⟨hsound, id, hid, rfl⟩ := Books.record_ok_iff.1 hbooked
  obtain rfl := Option.some.inj hid
  have hnet := (payoutInput_sound_iff _ _).1 hsound
  have hdone : ∀ {cashouts orders}, PayoutCommitted b job balance periodStart periodEnd
      { b with
        payouts := b.payouts ++ [job.row b.payouts.length balance periodStart periodEnd]
        ledger := b.ledger ++
          (payoutInput (job.row b.payouts.length balance periodStart periodEnd)
            (job.description (job.row b.payouts.length balance periodStart periodEnd))).rows
              (job.row b.payouts.length balance periodStart periodEnd).eventId b.clock
        clock := b.clock + 1
        cashouts, orders } :=
    ⟨hfresh, fun _ => (payoutInput_sound_iff _ _).2 hnet, rfl, rfl, rfl, rfl, rfl, rfl⟩
  split at h
  · unfold Books.approveRequest at h
    split at h
    · obtain rfl := Except.ok.inj h
      exact hdone
    · cases h
  · obtain rfl := Except.ok.inj h
    exact hdone

/-- Event ids that belong to a row of their own: a payout or a penalty. -/
def EventId.mirrorsRow : EventId → Bool
  | .vendorPayout _ | .riderPayout _ | .penalty _ => true
  | _ => false

def EventId.isPayout : EventId → Bool
  | .vendorPayout _ | .riderPayout _ => true
  | _ => false

/-- The transaction books a penalty on this vendor. -/
def OrderTx.fines (x : OrderTx) (vendor : VendorId) : Prop :=
  match x with
  | .preOrderCancel order _ _ => order.vendorId = vendor
  | _ => False

instance (x : OrderTx) (vendor : VendorId) : Decidable (x.fines vendor) := by
  unfold OrderTx.fines
  cases x <;> infer_instance

/-- What a transaction on an order does besides writing the order. -/
inductive OrderTxEffect (x : OrderTx) (w w' : World) : Prop
  | idle : w'.ledger = w.ledger → w'.penalty = w.penalty → OrderTxEffect x w w'
  | booked {input : RecordTransactionInput} {id : EventId} : validate input = .ok () → input.eventId = some id →
      id.mirrorsRow = false → w'.ledger = w.ledger ++ input.rows id w.clock → w'.penalty = w.penalty →
      OrderTxEffect x w w'
  | penalised {row : Order} {penaltyXAF : ℤ} : row.id = x.orderId → x.fines row.vendorId →
      validate (penaltyInput row penaltyXAF) = .ok () →
      w.penalty = none → w'.penalty = some ⟨row.id, row.vendorId, row.id, penaltyXAF⟩ →
      w'.ledger = w.ledger ++ (penaltyInput row penaltyXAF).rows (.penalty row.id) w.clock →
      OrderTxEffect x w w'

theorem OrderTxEffect.of_book {x : OrderTx} {w w' : World} {row : Order} {input : RecordTransactionInput}
    (hid : ∀ id, input.eventId = some id → id.mirrorsRow = false) (h : w.book row input = .ok w') :
    OrderTxEffect x w w' := by
  obtain ⟨hv, id, hin, rfl⟩ := World.book_ok_iff.1 h
  exact .booked hv hin (hid id hin) rfl rfl

/-- The two transactions whose count of zero is no error. -/
theorem OrderTxEffect.of_bookIf {x : OrderTx} {w w' : World} {guard : Bool} {row : Order}
    {input : RecordTransactionInput} (hid : ∀ id, input.eventId = some id → id.mirrorsRow = false)
    (h : ((w.bookIf guard row input).map (·.getD w)).mapError OrderError.ledger = .ok w') : OrderTxEffect x w w' := by
  cases hb : w.bookIf guard row input with
  | error err => simp [hb, Except.map, Except.mapError] at h
  | ok landed =>
    simp only [hb, Except.map, Except.mapError, Except.ok.injEq] at h
    cases landed with
    | none => exact .idle (by simp [← h]) (by simp [← h])
    | some landed =>
      obtain rfl : landed = w' := by simpa using h
      exact .of_book hid (World.bookIf_some_iff.1 hb).2

theorem orderTx_ok {x : OrderTx} {w w' : World} (h : x.commit w = .ok w') : OrderTxEffect x w w' := by
  cases x with
  | payment order payload now => exact .of_bookIf (fun id hid => by cases hid; rfl) h
  | delivery order snapshot now =>
    exact .of_book (fun id hid => by cases hid; rfl) (World.bookOrThrow_ok_iff.1 h).2
  | preOrderCancel order note now =>
    simp only [OrderTx.commit, commitPreOrderCancel] at h
    split at h
    · cases h
    split at h
    · cases h
    next hpenalty =>
    obtain ⟨hv, id, hid, rfl⟩ := World.book_ok_iff.1 (World.bookOrThrow_ok_iff.1 h).2
    obtain rfl := Option.some.inj hid
    exact .penalised rfl rfl hv (by simpa using hpenalty) rfl rfl
  | refundInitiated order totalXAF ref =>
    simp only [OrderTx.commit, commitRefund] at h
    cases hb : w.book { w.order with refundCampayRef := some ref } (refundInitiatedInput w.order totalXAF) with
    | error err => simp [hb, Except.mapError] at h
    | ok landed =>
      simp only [hb, Except.mapError, Except.ok.injEq] at h
      subst h
      exact .of_book (fun id hid => by cases hid; rfl) hb
  | refundSettled order now => exact .of_bookIf (fun id hid => by cases hid; rfl) h
  | riderFraud order input action now =>
    simp only [OrderTx.commit, commitRiderFraud] at h
    split at h
    · exact .of_book (fun id hid => by cases hid; rfl) (World.bookOrThrow_ok_iff.1 h).2
    · split at h
      · obtain rfl := Except.ok.inj h
        exact .idle rfl rfl
      · cases h

/-- A transaction that fines nobody new leaves the penalties. -/
theorem commitOrder_penalties {b b' : Books} {x : OrderTx} (h : b.commitOrder x = .ok b') :
    ∀ v ∈ b'.penalties, v ∈ b.penalties ∨ x.fines v.vendorId := by
  unfold Books.commitOrder at h
  split at h
  · cases h
  next order hfound =>
  split at h
  · cases h
  next w hw =>
  obtain rfl := Except.ok.inj h
  intro v hv
  simp only [Books.putOrder] at hv
  split at hv
  · exact .inl hv
  next hnone =>
  have hnone : (b.orderWorld order).penalty = none := by simpa [Books.orderWorld] using hnone
  refine (List.mem_append.1 hv).imp_right fun hv => ?_
  have hv : w.penalty = some v := by simpa using hv
  cases orderTx_ok hw with
  | idle _ hp | booked _ _ _ _ hp => simp [hp, hnone] at hv
  | penalised _ hfines _ _ hp =>
    rw [hp] at hv
    obtain rfl := Option.some.inj hv
    exact hfines

/-- What a move of the books does to the journal and to the rows it mirrors. -/
inductive JournalStep (b b' : Books) : Prop
  | quiet : b'.ledger = b.ledger → b'.payouts = b.payouts → b'.penalties = b.penalties → b.clock ≤ b'.clock →
      JournalStep b b'
  | status (id : PayoutId) (x : PayoutWrite) : b' = b.writePayout id x → JournalStep b b'
  | booked {input : RecordTransactionInput} {id : EventId} : validate input = .ok () → input.eventId = some id →
      id.mirrorsRow = false → b'.ledger = b.ledger ++ input.rows id b.clock → b'.payouts = b.payouts →
      b'.penalties = b.penalties → b'.clock = b.clock + 1 → JournalStep b b'
  | penalised {row : Order} {penaltyXAF : ℤ} : validate (penaltyInput row penaltyXAF) = .ok () →
      (∀ v ∈ b.penalties, v.orderId ≠ row.id) →
      b'.penalties = b.penalties ++ [⟨row.id, row.vendorId, row.id, penaltyXAF⟩] →
      b'.ledger = b.ledger ++ (penaltyInput row penaltyXAF).rows (.penalty row.id) b.clock →
      b'.payouts = b.payouts → b'.clock = b.clock + 1 → JournalStep b b'
  | paid {job : PayoutJob} {balance : PartyBalance} {periodStart periodEnd : Time} :
      b.commitPayout job balance periodStart periodEnd = .ok b' → JournalStep b b'

theorem commitOrder_ok {b b' : Books} {x : OrderTx} (h : b.commitOrder x = .ok b') : JournalStep b b' := by
  unfold Books.commitOrder at h
  split at h
  · cases h
  next order hfound =>
  have hid : order.id = x.orderId := by simpa using List.find?_some hfound
  split at h
  · cases h
  next w hw =>
  obtain rfl := Except.ok.inj h
  have hpenalties : ∀ {v}, w.penalty = v → v = (b.orderWorld order).penalty →
      (b.putOrder order w).penalties = b.penalties := by
    rintro v hv rfl
    simp only [Books.orderWorld] at hv
    unfold Books.putOrder
    rw [hv]
    cases b.penalties.find? fun p => p.orderId == order.id <;> simp
  cases orderTx_ok hw with
  | idle hl hp => exact .quiet hl rfl (hpenalties hp rfl) (Nat.le_succ _)
  | booked hv hin hm hl hp => exact .booked hv hin hm hl rfl (hpenalties hp rfl) rfl
  | @penalised row penaltyXAF hrow _ hv hnone hsome hl =>
    have hfresh : ∀ v ∈ b.penalties, v.orderId ≠ row.id := by
      intro v hmem heq
      simpa [hid, hrow ▸ heq] using List.find?_eq_none.1 hnone v hmem
    refine .penalised hv hfresh ?_ hl rfl rfl
    have hnone' : b.penalties.find? (fun p => p.orderId == order.id) = none := hnone
    simp [Books.putOrder, hnone', hsome]

theorem Books.Moves.journal {b b' : Books} (h : b.Moves b') : JournalStep b b' := by
  cases h with
  | transact x =>
    unfold Books.transaction
    split
    · exact .quiet rfl rfl rfl le_rfl
    next b' hb' =>
    cases x with
    | order x => exact commitOrder_ok hb'
    | payout job balance periodStart periodEnd => exact .paid hb'
  | order id x => exact .quiet rfl rfl rfl le_rfl
  | status id x => exact .status id x rfl
  | tick elapsed => exact .quiet rfl rfl rfl (Nat.le_add_right _ _)

/-- Every move at most adds a validated transaction to the journal. -/
theorem JournalStep.ledger {b b' : Books} (h : JournalStep b b') :
    b'.ledger = b.ledger ∨ ∃ input id, validate input = .ok () ∧ input.eventId = some id ∧
      b'.ledger = b.ledger ++ input.rows id b.clock := by
  cases h with
  | quiet hl => exact .inl hl
  | status id x hb' => exact .inl (by rw [hb']; rfl)
  | booked hv hid _ hl => exact .inr ⟨_, _, hv, hid, hl⟩
  | penalised hv _ _ hl => exact .inr ⟨_, _, hv, rfl, hl⟩
  | paid hb' =>
    have hc := commitPayout_ok hb'
    exact .inr ⟨_, _, hc.sound _, rfl, hc.ledger⟩

/-! Steps of a scheduler. -/

/-- When a sweep started, for the two that have one. -/
def PayoutJob.sweptAt : PayoutJob → Option Time
  | .vendorCron _ _ scheduledFor | .riderCron _ _ scheduledFor => some scheduledFor
  | .cashout .. => none

/-- A scheduler moves on, or is finished. -/
inductive SchedulerMove (b : Books) : Scheduler → Books → Scheduler → Prop
  | finish {t : Scheduler} (outcome : ScheduleOutcome) : SchedulerMove b t b (.done outcome)
  | eligible (rider : RiderId) (momoPhone : Phone) (scheduledFor : Time) :
      SchedulerMove b (.checkKyc rider momoPhone scheduledFor) b (.readBalance (.riderCron rider momoPhone scheduledFor))
  | requested (request : RequestId) (adminUserId : UserId) (vendor : VendorId) (momoPhone : Phone) :
      SchedulerMove b (.readRequest request adminUserId) b (.readBalance (.cashout request adminUserId vendor momoPhone))
  | readBalance {job : PayoutJob} {next : Scheduler} : 0 < (b.balance job.party).balanceXAF →
      (next = .countDisputes job (b.balance job.party) ∨ next = .readLastPayout job (b.balance job.party)) →
      SchedulerMove b (.readBalance job) b next
  | undisputed (job : PayoutJob) (balance : PartyBalance) :
      SchedulerMove b (.countDisputes job balance) b (.readLastPayout job balance)
  | sweepPeriod {job : PayoutJob} (balance : PartyBalance) {createdAt scheduledFor : Time} :
      b.createdAt job.party = some createdAt → job.sweptAt = some scheduledFor →
      SchedulerMove b (.readLastPayout job balance) b
        (.findExisting job balance ((b.cutoff job.party).getD createdAt) scheduledFor)
  | cashoutPeriod {job : PayoutJob} (balance : PartyBalance) {createdAt : Time} :
      b.createdAt job.party = some createdAt → job.sweptAt = none →
      SchedulerMove b (.readLastPayout job balance) { b with clock := b.clock + 1 }
        (.transact job balance ((b.cutoff job.party).getD createdAt) b.clock)
  | unscheduled (job : PayoutJob) (balance : PartyBalance) (periodStart periodEnd : Time) :
      SchedulerMove b (.findExisting job balance periodStart periodEnd) b (.transact job balance periodStart periodEnd)
  | schedule {job : PayoutJob} {balance : PartyBalance} {periodStart periodEnd : Time} {b' : Books}
      (outcome : ScheduleOutcome) : b.commitPayout job balance periodStart periodEnd = .ok b' →
      SchedulerMove b (.transact job balance periodStart periodEnd) b' (.done outcome)

theorem checkBalance_ok {job : PayoutJob} {balanceXAF : ℤ} (h : job.checkBalance balanceXAF = .ok ()) :
    0 < balanceXAF := by
  cases job with
  | vendorCron vendor momoPhone scheduledFor =>
    simp only [PayoutJob.checkBalance] at h
    split at h <;> [cases h; omega]
  | riderCron rider momoPhone scheduledFor =>
    simp only [PayoutJob.checkBalance] at h
    split at h <;> [cases h; omega]
  | cashout request adminUserId vendor momoPhone =>
    simp only [PayoutJob.checkBalance] at h
    split at h
    · cases h
    · next hmin =>
      simp only [MIN_CASHOUT_XAF] at hmin
      omega

theorem schedulerMove_of_step {b b' : Books} {t t' : Scheduler} {e : Reply} (h : t.step b e = some (b', t')) :
    SchedulerMove b t b' t' := by
  cases e with
  | fail reason => cases t <;> cases h <;> exact .finish _
  | accepted ref => cases t <;> cases h
  | refused reason => cases t <;> cases h
  | lost ref reason => cases t <;> cases h
  | ok =>
    cases t with
    | checkKyc rider momoPhone scheduledFor =>
      simp only [Scheduler.step] at h
      split at h
      · cases h
        exact .finish _
      split at h <;> cases h
      · exact .eligible ..
      · exact .finish _
    | readRequest request adminUserId =>
      simp only [Scheduler.step] at h
      split at h
      · cases h
        exact .finish _
      split at h
      · cases h
        exact .finish _
      split at h <;> cases h
      · exact .finish _
      · exact .requested ..
    | readBalance job =>
      simp only [Scheduler.step] at h
      split at h
      · cases h
        exact .finish _
      next hchecked =>
      have hpos := checkBalance_ok hchecked
      split at h <;> cases h
      · exact .readBalance hpos (.inr rfl)
      · exact .readBalance hpos (.inl rfl)
    | countDisputes job balance =>
      cases job with
      | riderCron rider momoPhone scheduledFor => cases h
      | _ =>
        simp only [Scheduler.step] at h
        split at h <;> cases h
        · exact .finish _
        · exact .undisputed ..
    | readLastPayout job balance =>
      simp only [Scheduler.step] at h
      split at h
      · cases h
        exact .finish _
      next hcreated =>
      cases job <;> cases h
      · exact .sweepPeriod _ hcreated rfl
      · exact .sweepPeriod _ hcreated rfl
      · exact .cashoutPeriod _ hcreated rfl
    | findExisting job balance periodStart periodEnd =>
      simp only [Scheduler.step] at h
      split at h <;> cases h
      · exact .finish _
      · exact .unscheduled ..
    | transact job balance periodStart periodEnd =>
      simp only [Scheduler.step] at h
      split at h <;> cases h
      · exact .finish _
      · next hcommitted => exact .schedule _ hcommitted
    | done outcome => cases h

theorem booksMachine_step {b b' : Books} {t : Scheduler} {e : Reply} {ts : List Scheduler}
    (h : booksMachine.step b t e = some (b', ts)) : ∃ t', ts = [t'] ∧ SchedulerMove b t b' t' := by
  obtain ⟨⟨b₁, t'⟩, hst, hr⟩ := Option.map_eq_some_iff.1 h
  cases hr
  exact ⟨t', rfl, schedulerMove_of_step hst⟩

theorem booksMachine_event {b b' : Books} {n : BooksEvent} {ts : List Scheduler}
    (h : booksMachine.event b n = some (b', ts)) : b' = (booksEvent b n).1 ∧ ts = (booksEvent b n).2 :=
  Prod.mk.inj (Option.some.inj h).symm

theorem SchedulerMove.moves {b b' : Books} {t t' : Scheduler} (h : SchedulerMove b t b' t') : b.Moves b' := by
  cases h with
  | cashoutPeriod => exact .tick 1
  | @schedule job balance periodStart periodEnd b' outcome hb' =>
    have hmoves := Books.Moves.transact (b := b) (.payout job balance periodStart periodEnd)
    simpa only [Books.transaction, BooksTx.commit, hb'] using hmoves
  | _ => exact .tick 0

theorem booksEvent_moves (b : Books) (n : BooksEvent) : b.Moves (booksEvent b n).1 := by
  cases n with
  | tick elapsed => exact .tick elapsed
  | order x => exact .transact (.order x)
  | serve id x => exact .order id x
  | payout id x => exact .status id x
  | tryScheduleVendorPayout vendor momoPhone elapsed => exact .tick 1
  | tryScheduleRiderPayout rider momoPhone elapsed => exact .tick 1
  | approveCashoutRequest request adminUserId => exact .tick 0

/-! What never changes in a payout's row. -/

structure SamePayout (p p' : Payout) : Prop where
  id : p'.id = p.id
  party : p'.party = p.party
  periodStart : p'.periodStart = p.periodStart
  periodEnd : p'.periodEnd = p.periodEnd
  netXAF : p'.netXAF = p.netXAF

theorem SamePayout.refl (p : Payout) : SamePayout p p := ⟨rfl, rfl, rfl, rfl, rfl⟩

theorem SamePayout.eventId {p p' : Payout} (h : SamePayout p p') : p'.eventId = p.eventId := by
  simp only [Payout.eventId, h.id, h.party]

theorem PayoutWrite.apply_same (x : PayoutWrite) (p : Payout) (now : Time) : SamePayout p (x.apply p now) := by
  cases x with
  | lockRow =>
    simp only [PayoutWrite.apply]
    split <;> exact ⟨rfl, rfl, rfl, rfl, rfl⟩
  | onReference ref => exact ⟨rfl, rfl, rfl, rfl, rfl⟩
  | onFail reason => exact ⟨rfl, rfl, rfl, rfl, rfl⟩
  | settle payload =>
    simp only [PayoutWrite.apply, Payout.settle]
    split <;> [split; skip] <;> exact ⟨rfl, rfl, rfl, rfl, rfl⟩
  | retryPayout =>
    simp only [PayoutWrite.apply, Payout.retry]
    split <;> exact ⟨rfl, rfl, rfl, rfl, rfl⟩
  | manualMarkPaid campayRef note =>
    simp only [PayoutWrite.apply, Payout.manualMarkPaid]
    split <;> exact ⟨rfl, rfl, rfl, rfl, rfl⟩

theorem mem_writePayout {b : Books} {id : PayoutId} {x : PayoutWrite} {p' : Payout}
    (h : p' ∈ (b.writePayout id x).payouts) : ∃ p ∈ b.payouts, SamePayout p p' := by
  obtain ⟨p, hp, rfl⟩ := List.mem_map.1 h
  refine ⟨p, hp, ?_⟩
  split
  · exact x.apply_same p b.clock
  · exact .refl p

theorem writePayout_keeps {b : Books} {p : Payout} (h : p ∈ b.payouts) (id : PayoutId) (x : PayoutWrite) :
    ∃ p' ∈ (b.writePayout id x).payouts, SamePayout p p' := by
  refine ⟨_, List.mem_map_of_mem h, ?_⟩
  split
  · exact x.apply_same p b.clock
  · exact .refl p

theorem commitOrder_payouts {b b' : Books} {x : OrderTx} (h : b.commitOrder x = .ok b') : b'.payouts = b.payouts := by
  unfold Books.commitOrder at h
  split at h
  · cases h
  split at h
  · cases h
  · obtain rfl := Except.ok.inj h
    rfl

/-- No event creates a payout. -/
theorem booksEvent_payouts (b : Books) (n : BooksEvent) :
    (booksEvent b n).1.payouts = b.payouts ∨ ∃ id x, n = .payout id x := by
  cases n with
  | order x =>
    left
    simp only [booksEvent, Books.transaction, BooksTx.commit]
    split
    · rfl
    · exact commitOrder_payouts ‹_›
  | payout id x => exact .inr ⟨id, x, rfl⟩
  | _ => exact .inl rfl

/-- Whom an event fines. -/
theorem booksEvent_penalties (b : Books) (n : BooksEvent) :
    ∀ v ∈ (booksEvent b n).1.penalties, v ∈ b.penalties ∨ ∃ x, n = .order x ∧ x.fines v.vendorId := by
  cases n with
  | order x =>
    intro v hv
    simp only [booksEvent, Books.transaction, BooksTx.commit] at hv
    split at hv
    · exact .inl hv
    next hcommit => exact (commitOrder_penalties hcommit v hv).imp_right fun hf => ⟨x, rfl, hf⟩
  | _ => exact fun _ => .inl

/-- What an event may journal, other than a payout. -/
theorem booksEvent_ledger (b : Books) (n : BooksEvent) :
    b.clock ≤ (booksEvent b n).1.clock ∧ ((booksEvent b n).1.ledger = b.ledger ∨
      (booksEvent b n).1.clock = b.clock + 1 ∧ ∃ (input : RecordTransactionInput) (id : EventId), id.isPayout = false ∧
        (booksEvent b n).1.ledger = b.ledger ++ input.rows id b.clock) := by
  cases (booksEvent_moves b n).journal with
  | quiet hl _ _ hc => exact ⟨hc, .inl hl⟩
  | status id x hb' =>
    rw [hb']
    exact ⟨le_rfl, .inl rfl⟩
  | @booked input id hv hid hm hl _ _ hc =>
    have hkind : id.isPayout = false := by cases id <;> first | rfl | cases hm
    exact ⟨hc ▸ Nat.le_succ _, .inr ⟨hc, _, _, hkind, hl⟩⟩
  | penalised _ _ _ hl _ hc => exact ⟨hc ▸ Nat.le_succ _, .inr ⟨hc, _, _, rfl, hl⟩⟩
  | paid hb' =>
    have hlength := congrArg List.length (commitPayout_ok hb').payouts
    rcases booksEvent_payouts b n with hp | ⟨id, x, rfl⟩
    · simp [hp] at hlength
    · simp [booksEvent, Books.writePayout] at hlength

/-! What the schedulers read. -/

theorem balance_eq (b : Books) (party : Party) :
    (b.balance party).balanceXAF = -b.sumSince party party.account fun _ => true := by
  cases party <;> rfl

theorem payoutOf_none_iff {b : Books} {party : Party} {periodStart : Time} : b.payoutOf party periodStart = none ↔
    ∀ p ∈ b.payouts, p.party = party → p.periodStart ≠ periodStart := by
  simp [Books.payoutOf]

theorem punish_createdAt (x : OrderTx) (riders : List Rider) (id : RiderId) :
    ((x.punish riders).find? fun row => row.id == id).map (·.createdAt) =
      (riders.find? fun row => row.id == id).map (·.createdAt) := by
  cases x with
  | riderFraud order input action now =>
    simp only [OrderTx.punish, List.find?_map, Option.map_map]
    have hkept : ∀ r : Rider, ∀ r', r' = (if order.riderId = some r.id then action.apply r else r) →
        r'.id = r.id ∧ r'.createdAt = r.createdAt := by
      rintro r _ rfl
      split
      · cases action <;> exact ⟨rfl, rfl⟩
      · exact ⟨rfl, rfl⟩
    have hid : ∀ r : Rider, (if order.riderId = some r.id then action.apply r else r).id = r.id := fun r =>
      (hkept r _ rfl).1
    have hcreated : ∀ r : Rider, (if order.riderId = some r.id then action.apply r else r).createdAt = r.createdAt :=
      fun r => (hkept r _ rfl).2
    simp only [Function.comp_def, hid, hcreated]
  | _ => rfl

/-- No move touches when a party joined. -/
theorem Books.Moves.createdAt {b b' : Books} (h : b.Moves b') (party : Party) :
    b'.createdAt party = b.createdAt party := by
  cases h with
  | transact x =>
    unfold Books.transaction
    split
    · rfl
    next b' hb' =>
    cases x with
    | order x =>
      simp only [BooksTx.commit, Books.commitOrder] at hb'
      split at hb'
      · cases hb'
      split at hb'
      · cases hb'
      obtain rfl := Except.ok.inj hb'
      cases party with
      | vendor v => rfl
      | rider r => exact punish_createdAt x b.riders r
    | payout job balance periodStart periodEnd =>
      have hc := commitPayout_ok hb'
      cases party with
      | vendor v => simp only [Books.createdAt, hc.vendors]
      | rider r => simp only [Books.createdAt, hc.riders]
  | order id x => cases party <;> rfl
  | status id x => cases party <;> rfl
  | tick elapsed => cases party <;> rfl

end ChopNow
