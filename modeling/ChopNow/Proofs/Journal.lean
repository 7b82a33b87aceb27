import Mathlib.Logic.Relation
import ChopNow.Proofs.BooksStep

/-! The journal balances after every transaction, and a transaction whose entries
are refused leaves no trace. -/

namespace ChopNow

open Tally

/-- What double entry promises of a journal. -/
structure Balanced (ledger : Ledger) : Prop where
  event : ∀ id, tally (fun e => e.eventId == id) (·.amountXAF) ledger = 0
  total : (ledger.map (·.amountXAF)).sum = 0
  nonzero : ∀ e ∈ ledger, e.amountXAF ≠ 0
  linked : ∀ e ∈ ledger, e.isOrphan = false

theorem Balanced.nil : Balanced [] := ⟨fun _ => rfl, rfl, by simp, by simp⟩

theorem sum_rows (input : RecordTransactionInput) (id : EventId) (now : Time) :
    ((input.rows id now).map (·.amountXAF)).sum = (input.entries.map (·.amountXAF)).sum := by
  simp [RecordTransactionInput.rows, Function.comp_def]

theorem eventId_of_mem_rows {input : RecordTransactionInput} {id : EventId} {now : Time} {e : LedgerEntry}
    (h : e ∈ input.rows id now) : e.eventId = id := by
  obtain ⟨entry, -, rfl⟩ := List.mem_map.1 h
  rfl

theorem createdAt_of_mem_rows {input : RecordTransactionInput} {id : EventId} {now : Time} {e : LedgerEntry}
    (h : e ∈ input.rows id now) : e.createdAt = now := by
  obtain ⟨entry, -, rfl⟩ := List.mem_map.1 h
  rfl

/-- All rows of a transaction carry its event id, or none does. -/
theorem tally_rows (input : RecordTransactionInput) (id event : EventId) (now : Time) :
    tally (fun e => e.eventId == event) (·.amountXAF) (input.rows id now) =
      if id = event then (input.entries.map (·.amountXAF)).sum else 0 := by
  rw [← sum_rows input id now]
  split
  · next h =>
    have hall : (input.rows id now).filter (fun e => e.eventId == event) = input.rows id now :=
      List.filter_eq_self.2 fun e he => by simp [eventId_of_mem_rows he, h]
    rw [tally, hall]
  · next h => exact tally_eq_zero fun e he hev => absurd ((eventId_of_mem_rows he).symm.trans (by simpa using hev)) h

theorem Balanced.append {ledger : Ledger} {input : RecordTransactionInput} (h : Balanced ledger)
    (hv : validate input = .ok ()) (id : EventId) (now : Time) : Balanced (ledger ++ input.rows id now) := by
  obtain ⟨-, -, hsound, hsum⟩ := (validate_ok_iff input).1 hv
  have hrows : ∀ e ∈ input.rows id now, e.amountXAF ≠ 0 ∧ e.isOrphan = false := by
    intro e he
    obtain ⟨entry, hentry, rfl⟩ := List.mem_map.1 he
    exact ⟨(hsound entry hentry).nonzero, (hsound entry hentry).linked⟩
  refine ⟨fun event => ?_, ?_, ?_, ?_⟩
  · rw [tally_append, h.event, tally_rows, hsum, ite_self, add_zero]
  · rw [List.map_append, List.sum_append, h.total, sum_rows, hsum, add_zero]
  · exact fun e he => (List.mem_append.1 he).elim (h.nonzero e) fun he => (hrows e he).1
  · exact fun e he => (List.mem_append.1 he).elim (h.linked e) fun he => (hrows e he).2

theorem Balanced.moves {b b' : Books} (h : Balanced b.ledger) (hm : b.Moves b') : Balanced b'.ledger := by
  rcases hm.journal.ledger with hl | ⟨input, id, hv, -, hl⟩
  · rwa [hl]
  · rw [hl]
    exact h.append hv id b.clock

/-! Refused entries. -/

/-- The entries that the transaction books, if it gets that far. -/
def OrderTx.input (order : Order) : OrderTx → Option RecordTransactionInput
  | .payment row _ _ => some (paymentInput row)
  | .delivery row snapshot _ => some (deliveryInput row snapshot)
  | .preOrderCancel row _ _ => some (penaltyInput row (preOrderPenaltyXAF row.totalXAF))
  | .refundInitiated _ totalXAF _ => some (refundInitiatedInput order totalXAF)
  | .refundSettled row _ => some (refundSettledInput row)
  | .riderFraud row input _ _ =>
    if vendorCompensationXAF row input > 0 then some (compensationInput row (vendorCompensationXAF row input)) else none

def BooksTx.input (b : Books) : BooksTx → Option RecordTransactionInput
  | .order x => (b.orders.find? fun o => o.id == x.orderId).bind fun order => x.input order
  | .payout job balance periodStart periodEnd =>
    let payout := job.row b.payouts.length balance periodStart periodEnd
    some (payoutInput payout (job.description payout))

theorem World.book_of_refused {w : World} {order : Order} {input : RecordTransactionInput} {err : LedgerError}
    (h : validate input = .error err) : w.book order input = .error err := by
  simp [World.book, recordTransaction, h]

theorem World.bookIf_of_refused {w : World} {guard : Bool} {order : Order} {input : RecordTransactionInput}
    {err : LedgerError} (h : validate input = .error err) :
    w.bookIf guard order input = .error err ∨ w.bookIf guard order input = .ok none := by
  cases guard
  · exact .inr rfl
  · exact .inl (by simp [World.bookIf, World.book_of_refused h, Except.map])

/-- An order's transaction whose entries are refused fails, or changes nothing. -/
theorem orderTx_of_refused {x : OrderTx} {w : World} {input : RecordTransactionInput} {err : LedgerError}
    (hx : x.input w.order = some input) (h : validate input = .error err) :
    (∃ e, x.commit w = .error e) ∨ x.commit w = .ok w ∧ ∀ riders, x.punish riders = riders := by
  have hcounted : ∀ guard order, (∃ e, ((w.bookIf guard order input).map (·.getD w)).mapError OrderError.ledger =
      .error e) ∨ ((w.bookIf guard order input).map (·.getD w)).mapError OrderError.ledger = .ok w := by
    intro guard order
    rcases @World.bookIf_of_refused _ guard _ _ _ h with hb | hb
    · exact .inl ⟨.ledger err, by rw [hb]; rfl⟩
    · exact .inr (by rw [hb]; rfl)
  have hthrown : ∀ (w' : World) guard order, ∃ e, w'.bookOrThrow guard order input = .error e := by
    intro w' guard order
    rcases @World.bookIf_of_refused w' guard _ _ _ h with hb | hb
    · exact ⟨.ledger err, by rw [World.bookOrThrow, hb]⟩
    · exact ⟨.orderStateChanged, by rw [World.bookOrThrow, hb]⟩
  cases x with
  | payment row payload now =>
    obtain rfl := Option.some.inj hx
    exact (hcounted _ _).imp_right fun hok => ⟨hok, fun _ => rfl⟩
  | delivery row snapshot now =>
    obtain rfl := Option.some.inj hx
    exact .inl (hthrown _ _ _)
  | preOrderCancel row note now =>
    obtain rfl := Option.some.inj hx
    left
    simp only [OrderTx.commit, commitPreOrderCancel]
    split
    · exact ⟨_, rfl⟩
    split
    · exact ⟨_, rfl⟩
    · exact hthrown _ _ _
  | refundInitiated order totalXAF ref =>
    obtain rfl := Option.some.inj hx
    exact .inl ⟨.ledger err, by simp [OrderTx.commit, commitRefund, World.book_of_refused h, Except.mapError]⟩
  | refundSettled row now =>
    obtain rfl := Option.some.inj hx
    exact (hcounted _ _).imp_right fun hok => ⟨hok, fun _ => rfl⟩
  | riderFraud row fraud action now =>
    simp only [OrderTx.input] at hx
    split at hx
    · next hpos =>
      obtain rfl := Option.some.inj hx
      simp only [OrderTx.commit, commitRiderFraud, hpos, ↓reduceIte]
      exact .inl (hthrown _ _ _)
    · cases hx

/-- Nothing was written. -/
structure SameRows (b b' : Books) : Prop where
  ledger : b'.ledger = b.ledger
  orders : ∀ id, b'.orderRow id = b.orderRow id
  payouts : b'.payouts = b.payouts
  penalties : b'.penalties = b.penalties
  cashouts : b'.cashouts = b.cashouts
  riders : b'.riders = b.riders

theorem SameRows.refl (b : Books) : SameRows b b := ⟨rfl, fun _ => rfl, rfl, rfl, rfl, rfl⟩

/-- Writing back the row that was found. -/
theorem find_putBack {orders : List Order} {order : Order} {id : OrderId}
    (h : orders.find? (fun o => o.id == order.id) = some order) :
    (orders.map fun o => if o.id = order.id then order else o).find? (fun o => o.id == id) =
      orders.find? fun o => o.id == id := by
  by_cases hid : id = order.id
  · subst hid
    rw [h]
    induction orders with
    | nil => simp at h
    | cons o os ih =>
      by_cases ho : o.id = order.id
      · simp [ho]
      · rw [List.find?_cons_of_neg (by simpa using ho)] at h
        simpa [ho] using ih h
  · clear h
    induction orders with
    | nil => rfl
    | cons o os ih =>
      by_cases ho : o.id = order.id
      · simp only [List.map_cons, ho, ↓reduceIte]
        rw [List.find?_cons_of_neg (by simpa using Ne.symm hid), ih,
          List.find?_cons_of_neg (by simpa [ho] using Ne.symm hid)]
      · simp only [List.map_cons, ho, ↓reduceIte, List.find?_cons, ih]

theorem sameRows_of_putBack {b : Books} {order : Order} {x : OrderTx}
    (h : b.orders.find? (fun o => o.id == order.id) = some order)
    (hriders : x.punish b.riders = b.riders) :
    SameRows b { b.putOrder order (b.orderWorld order) with
      riders := x.punish (b.putOrder order (b.orderWorld order)).riders } where
  ledger := rfl
  orders := fun _ => find_putBack h
  payouts := rfl
  penalties := by
    simp only [Books.putOrder, Books.orderWorld]
    cases b.penalties.find? fun p => p.orderId == order.id <;> simp
  cashouts := rfl
  riders := hriders

theorem sameRows_of_refused {b : Books} {x : BooksTx} {input : RecordTransactionInput} {err : LedgerError}
    (hx : x.input b = some input) (h : validate input = .error err) : SameRows b (b.transaction x) := by
  cases x with
  | order x =>
    simp only [Books.transaction, BooksTx.commit, Books.commitOrder]
    obtain ⟨order, hfound, hx⟩ := Option.bind_eq_some_iff.1 hx
    simp only [hfound]
    rcases orderTx_of_refused (w := b.orderWorld order) hx h with ⟨e, he⟩ | ⟨hok, hriders⟩
    · simpa only [he] using SameRows.refl b
    · simp only [hok]
      have hid : order.id = x.orderId := by simpa using List.find?_some hfound
      exact sameRows_of_putBack (hid ▸ hfound) (hriders b.riders)
  | payout job balance periodStart periodEnd =>
    obtain rfl := Option.some.inj hx
    have hthrows : ∃ e, b.commitPayout job balance periodStart periodEnd = .error e := by
      cases hc : b.commitPayout job balance periodStart periodEnd with
      | error e => exact ⟨e, rfl⟩
      | ok b' =>
        rw [(commitPayout_ok hc).sound] at h
        cases h
    obtain ⟨e, he⟩ := hthrows
    simpa only [Books.transaction, BooksTx.commit, he] using SameRows.refl b

/-- Whatever the writers are called with and in whichever order their transactions
land, the journal balances, and refused entries take the whole transaction with them. -/
theorem journal_balances {b₀ b : Books} (hstart : b₀.ledger = []) (h : Relation.ReflTransGen Books.Moves b₀ b) :
    Balanced b.ledger ∧ ∀ x input err, x.input b = some input → validate input = .error err →
      SameRows b (b.transaction x) := by
  refine ⟨?_, fun _ _ _ => sameRows_of_refused⟩
  induction h with
  | refl => exact hstart ▸ .nil
  | tail _ hm ih => exact ih.moves hm

/-- A payout of nothing is refused after a payment was booked. -/
theorem paid_books_balance : let b := exampleBooks.transaction (.order (.payment exampleOrder ⟨900, none⟩ 1))
    b.ledger.length = 2 ∧ Balanced b.ledger ∧
      SameRows b (b.transaction (.payout (.vendorCron 1 "+237677000001" 5) ⟨0, 0, 0, 0, 0⟩ 0 5)) := by
  have h := @journal_balances exampleBooks _ rfl
    (.tail .refl (.transact (.order (.payment exampleOrder ⟨900, none⟩ 1))))
  exact ⟨by decide +kernel, h.1, h.2 _ _ .zeroAmount rfl (by decide +kernel)⟩

end ChopNow
