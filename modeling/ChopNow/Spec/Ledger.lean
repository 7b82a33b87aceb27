import ChopNow.Lib.Tally
import ChopNow.Spec.Schema

/-! LedgerService: the append-only journal and the checks every transaction
passes before its rows are written. Amounts are integers here, so the check on
`Number.isInteger` has nothing to refuse. -/

namespace ChopNow

open Tally

/-- The event ids of the callers. Each is a template around a row's id, so two
ids of different shapes never meet; a penalty's id is used bare. -/
inductive EventId
  | payment (o : OrderId)
  | delivery (o : OrderId)
  | refundInitiated (o : OrderId)
  | refundSettled (o : OrderId)
  | riderFraudVendorCompensation (o : OrderId)
  | vendorPayout (p : PayoutId)
  | riderPayout (p : PayoutId)
  | penalty (p : PenaltyId)
  deriving DecidableEq, Repr

structure LedgerEntryInput where
  account : LedgerAccount
  amountXAF : ℤ
  orderId : Option OrderId := none
  vendorId : Option VendorId := none
  riderId : Option RiderId := none
  payoutId : Option PayoutId := none
  refundId : Option ℕ := none
  description : Option String := none
  deriving Repr

structure RecordTransactionInput where
  eventId : Option EventId
  eventType : LedgerEventType
  entries : List LedgerEntryInput

/-- `model LedgerEntry`. -/
structure LedgerEntry extends LedgerEntryInput where
  eventId : EventId
  eventType : LedgerEventType
  createdAt : Time
  deriving Repr

abbrev Ledger := List LedgerEntry

/-- The `code` of the ConflictException that `validate` throws. -/
inductive LedgerError
  | eventIdRequired
  | tooFewEntries
  | zeroAmount
  | entryOrphan
  | adjustmentMissingDescription
  | unbalanced (sum : ℤ)
  deriving DecidableEq, Repr

def LedgerError.message : LedgerError → String
  | .eventIdRequired => "eventId must be provided"
  | .tooFewEntries => "a transaction must have at least two entries (debit + credit)"
  | .zeroAmount => "amountXAF must be non-zero"
  | .entryOrphan => "each entry must reference at least one of: order, vendor, rider, payout, refund"
  | .adjustmentMissingDescription => "ADJUSTMENT entries require a description"
  | .unbalanced sum => s!"entries must sum to zero (got {sum})"

/-- No foreign key is set. -/
def LedgerEntryInput.isOrphan (e : LedgerEntryInput) : Bool :=
  e.orderId.isNone && e.vendorId.isNone && e.riderId.isNone && e.payoutId.isNone &&
    e.refundId.isNone

/-- `!entry.description`: absent or empty. -/
def LedgerEntryInput.lacksDescription (e : LedgerEntryInput) : Bool :=
  match e.description with
  | none => true
  | some d => d == ""

/-- The body of the loop in `validate`. -/
def checkEntry (eventType : LedgerEventType) (e : LedgerEntryInput) : Except LedgerError Unit :=
  if e.amountXAF = 0 then .error .zeroAmount
  else if e.isOrphan then .error .entryOrphan
  else if eventType = .adjustment ∧ e.lacksDescription then .error .adjustmentMissingDescription
  else .ok ()

/-- The loop: the first entry that fails ends it, and the amounts add up. -/
def checkEntries (eventType : LedgerEventType) : List LedgerEntryInput → Except LedgerError ℤ
  | [] => .ok 0
  | e :: es =>
    match checkEntry eventType e with
    | .error err => .error err
    | .ok () => (checkEntries eventType es).map (e.amountXAF + ·)

def validate (input : RecordTransactionInput) : Except LedgerError Unit :=
  if input.eventId.isNone then .error .eventIdRequired
  else if input.entries.length < 2 then .error .tooFewEntries
  else
    match checkEntries input.eventType input.entries with
    | .error err => .error err
    | .ok sum => if sum ≠ 0 then .error (.unbalanced sum) else .ok ()

def RecordTransactionInput.rows (input : RecordTransactionInput) (id : EventId) (now : Time) : Ledger :=
  input.entries.map fun e => { e with eventId := id, eventType := input.eventType, createdAt := now }

def recordTransaction (ledger : Ledger) (now : Time) (input : RecordTransactionInput) :
    Except LedgerError Ledger :=
  match validate input, input.eventId with
  | .error err, _ => .error err
  | .ok (), none => .error .eventIdRequired
  | .ok (), some id => .ok (ledger ++ input.rows id now)

/-! What `validate` accepts. -/

/-- An entry the loop lets through. -/
structure LedgerEntryInput.Sound (eventType : LedgerEventType) (e : LedgerEntryInput) : Prop where
  nonzero : e.amountXAF ≠ 0
  linked : e.isOrphan = false
  described : eventType = .adjustment → e.lacksDescription = false

theorem checkEntry_ok_iff (eventType : LedgerEventType) (e : LedgerEntryInput) :
    checkEntry eventType e = .ok () ↔ e.Sound eventType := by
  unfold checkEntry
  split
  · next h => exact ⟨nofun, fun h' => absurd h h'.nonzero⟩
  split
  · next h => exact ⟨nofun, fun h' => by simp [h'.linked] at h⟩
  split
  · next h => exact ⟨nofun, fun h' => by simp [h'.described h.1] at h⟩
  · next h₀ h₁ h₂ =>
    refine ⟨fun _ => ⟨h₀, by simpa using h₁, fun ht => ?_⟩, fun _ => rfl⟩
    simpa [ht] using h₂

theorem checkEntries_ok_iff (eventType : LedgerEventType) (es : List LedgerEntryInput) (sum : ℤ) :
    checkEntries eventType es = .ok sum ↔
      (∀ e ∈ es, e.Sound eventType) ∧ (es.map (·.amountXAF)).sum = sum := by
  induction es generalizing sum with
  | nil => simp [checkEntries]
  | cons e es ih =>
    simp only [checkEntries]
    cases he : checkEntry eventType e with
    | error err =>
      have hne : ¬ e.Sound eventType := fun h => by
        rw [← checkEntry_ok_iff, he] at h
        cases h
      simp [hne]
    | ok u =>
      have hs : e.Sound eventType := (checkEntry_ok_iff _ _).1 he
      cases hes : checkEntries eventType es with
      | error err =>
        have hne : ¬ ∀ e ∈ es, e.Sound eventType := fun h => by
          have := (ih _).2 ⟨h, rfl⟩
          rw [hes] at this
          cases this
        simp only [Except.map, reduceCtorEq, List.mem_cons, forall_eq_or_imp, false_iff]
        exact fun h => hne h.1.2
      | ok rest =>
        have hr := (ih rest).1 hes
        simp only [Except.map, Except.ok.injEq, List.mem_cons, forall_eq_or_imp, List.map_cons,
          List.sum_cons, hs, hr.2, true_and]
        exact ⟨fun h => ⟨hr.1, h⟩, fun h => h.2⟩

theorem validate_ok_iff (input : RecordTransactionInput) :
    validate input = .ok () ↔ input.eventId.isSome ∧ 2 ≤ input.entries.length ∧
      (∀ e ∈ input.entries, e.Sound input.eventType) ∧
      (input.entries.map (·.amountXAF)).sum = 0 := by
  unfold validate
  cases hid : input.eventId with
  | none => simp
  | some id =>
    simp only [Option.isNone_some, Bool.false_eq_true, ↓reduceIte, Option.isSome_some, true_and]
    split
    · next h => exact ⟨nofun, fun h' => by omega⟩
    · next h =>
      cases hes : checkEntries input.eventType input.entries with
      | error err =>
        refine ⟨nofun, fun h' => ?_⟩
        rw [(checkEntries_ok_iff _ _ _).2 h'.2] at hes
        cases hes
      | ok sum =>
        obtain ⟨hs, hsum⟩ := (checkEntries_ok_iff _ _ _).1 hes
        simp only [hsum]
        by_cases h0 : sum = 0
        · simpa [h0] using ⟨by omega, hs⟩
        · simp [h0]

/-- A transaction is booked exactly when it is sound, and then only adds its rows. -/
theorem recordTransaction_ok_iff (ledger ledger' : Ledger) (now : Time) (input : RecordTransactionInput) :
    recordTransaction ledger now input = .ok ledger' ↔
      validate input = .ok () ∧ ∃ id, input.eventId = some id ∧ ledger' = ledger ++ input.rows id now := by
  unfold recordTransaction
  cases hv : validate input with
  | error err => simp
  | ok u =>
    cases hid : input.eventId with
    | none => simp
    | some id => simp [eq_comm]

/-- The sum of one account over the rows that pass `p`. -/
def balanceOf (account : LedgerAccount) (p : LedgerEntry → Bool) (ledger : Ledger) : ℤ :=
  tally (fun e => e.account == account && p e) (·.amountXAF) ledger

@[simp] theorem balanceOf_append (account : LedgerAccount) (p : LedgerEntry → Bool) (l m : Ledger) :
    balanceOf account p (l ++ m) = balanceOf account p l + balanceOf account p m :=
  tally_append ..

end ChopNow
