import ChopNow.Spec.Books

/-! PayoutEscalationService: the failed and stuck money movements that an admin is shown. -/

namespace ChopNow

def STALE_IN_FLIGHT_MINUTES : ℕ := 30

inductive EscalationKind
  | vendorPayout
  | riderPayout
  | refund
  deriving DecidableEq, Repr

inductive EscalationStatus
  | payout (status : PayoutStatus)
  | staleRefund
  deriving DecidableEq, Repr

/-- `id` is a payout's or an order's, `contextId` a vendor's, a rider's or an order's. -/
structure EscalationItem where
  kind : EscalationKind
  id : ℕ
  status : EscalationStatus
  netXAF : ℤ
  momoPhone : Option Phone
  failureReason : Option String
  scheduledFor : Option Time
  sentAt : Option Time
  ageMinutes : ℤ
  contextId : ℕ
  deriving Repr

/-- `lt: staleThreshold`, for a date of `since`. -/
def isStale (now since : Time) : Bool := decide (since + STALE_IN_FLIGHT_MINUTES * 60000 < now)

def Payout.isEscalated (p : Payout) (now : Time) : Bool :=
  p.status == .failed || p.status == .inFlight && p.sentAt.any (isStale now)

/-- The `where` of the refunds. -/
def Order.isStaleRefund (o : Order) (now : Time) : Bool :=
  o.paymentStatus == .refundPending && o.refundCampayRef.isSome && o.refundInitiatedAt.any (isStale now) &&
    o.refundedAt.isNone

theorem Order.isStaleRefund_iff {o : Order} {now : Time} :
    o.isStaleRefund now = true ↔ o.paymentStatus = .refundPending ∧ o.refundCampayRef.isSome ∧
      (∃ t, o.refundInitiatedAt = some t ∧ isStale now t = true) ∧ o.refundedAt = none := by
  simp only [Order.isStaleRefund, Bool.and_eq_true, beq_iff_eq, Option.any_eq_true, Option.isNone_iff_eq_none, and_assoc]

/-- `Math.floor((now - since) / 60_000)`. -/
def ageMinutes (now since : Time) : ℤ := ((now : ℤ) - since) / 60000

def Payout.escalation (p : Payout) (now : Time) : EscalationItem where
  kind := match p.party with
    | .vendor _ => .vendorPayout
    | .rider _ => .riderPayout
  id := p.id
  status := .payout p.status
  netXAF := p.netXAF
  momoPhone := some p.momoPhone
  failureReason := p.failureReason
  scheduledFor := some p.scheduledFor
  sentAt := p.sentAt
  ageMinutes := ageMinutes now (p.sentAt.getD p.scheduledFor)
  contextId := match p.party with
    | .vendor v => v
    | .rider r => r

def Order.escalation (o : Order) (now : Time) : EscalationItem where
  kind := .refund
  id := o.id
  status := .staleRefund
  netXAF := o.totalXAF
  momoPhone := o.payerPhone
  failureReason := o.refundFailureReason
  scheduledFor := o.refundInitiatedAt
  sentAt := o.refundInitiatedAt
  ageMinutes := (o.refundInitiatedAt.map (ageMinutes now)).getD 0
  contextId := o.id

/-- `orderBy … asc`. -/
def oldestFirst {α : Type} (key : α → Time) (rows : List α) : List α := rows.mergeSort fun x y => decide (key x ≤ key y)

def listEscalations (payouts : List Payout) (orders : List Order) (now : Time) : List EscalationItem :=
  let failed := payouts.filter (·.isEscalated now)
  let vendorFailed := oldestFirst (·.scheduledFor) (failed.filter (·.party.vendorId.isSome))
  let riderFailed := oldestFirst (·.scheduledFor) (failed.filter (·.party.riderId.isSome))
  let staleRefunds := oldestFirst (·.refundInitiatedAt.getD 0) (orders.filter (·.isStaleRefund now))
  let items := vendorFailed.map (·.escalation now) ++ riderFailed.map (·.escalation now) ++
    staleRefunds.map (·.escalation now)
  items.mergeSort fun a b => decide (b.ageMinutes ≤ a.ageMinutes)

/-- Who is on the list, whatever its order. -/
theorem mem_listEscalations {payouts : List Payout} {orders : List Order} {now : Time} {item : EscalationItem} :
    item ∈ listEscalations payouts orders now ↔
      (∃ p ∈ payouts, p.isEscalated now = true ∧ p.escalation now = item) ∨
        ∃ o ∈ orders, o.isStaleRefund now = true ∧ o.escalation now = item := by
  have hparty : ∀ p : Payout, p.party.vendorId.isSome = true ∨ p.party.riderId.isSome = true := fun p => by
    cases p.party <;> simp [Party.vendorId, Party.riderId]
  simp only [listEscalations, oldestFirst, List.mem_mergeSort, List.mem_append, List.mem_map, List.mem_filter]
  constructor
  · rintro ((⟨p, ⟨⟨hp, he⟩, -⟩, rfl⟩ | ⟨p, ⟨⟨hp, he⟩, -⟩, rfl⟩) | ⟨o, ⟨ho, hs⟩, rfl⟩)
    · exact .inl ⟨p, hp, he, rfl⟩
    · exact .inl ⟨p, hp, he, rfl⟩
    · exact .inr ⟨o, ho, hs, rfl⟩
  · rintro (⟨p, hp, he, rfl⟩ | ⟨o, ho, hs, rfl⟩)
    · exact .inl ((hparty p).imp (fun hv => ⟨p, ⟨⟨hp, he⟩, hv⟩, rfl⟩) fun hr => ⟨p, ⟨⟨hp, he⟩, hr⟩, rfl⟩)
    · exact .inr ⟨o, ⟨ho, hs⟩, rfl⟩

end ChopNow
