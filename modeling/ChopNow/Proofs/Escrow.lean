import ChopNow.Proofs.OrderStep

/-! The escrow of one order: funded once, then released at most once, to the
vendor and the rider or back to the customer. -/

namespace ChopNow

open Interleave Tally

/-- The escrow rows of an order, oldest first: what moved and by how much. -/
def escrowRows (id : OrderId) (ledger : Ledger) : List (LedgerEventType × ℤ) :=
  (ledger.filter fun e => e.account == .customerEscrow && e.orderId == some id).map
    fun e => (e.eventType, e.amountXAF)

theorem escrowRows_append (id : OrderId) (l m : Ledger) :
    escrowRows id (l ++ m) = escrowRows id l ++ escrowRows id m := by
  simp [escrowRows]

/-- The columns that escrow depends on. -/
structure EscrowView where
  id : OrderId
  totalXAF : ℤ
  status : OrderStatus
  paymentStatus : PaymentStatus
  snapshot : Option Snapshot
  ledger : Ledger

def World.escrowView (w : World) : EscrowView where
  id := w.order.id
  totalXAF := w.order.totalXAF
  status := w.order.status
  paymentStatus := w.order.paymentStatus
  snapshot := w.order.snapshot
  ledger := w.ledger

abbrev EscrowView.rows (v : EscrowView) : List (LedgerEventType × ℤ) := escrowRows v.id v.ledger

def EscrowView.refundBooked (v : EscrowView) : Bool := v.ledger.any fun e => e.eventId == .refundInitiated v.id

/-- Where the escrow of an order can be. -/
inductive EscrowPhase (v : EscrowView) : Prop
  | empty (rows : v.rows = []) (unpaid : v.paymentStatus.received = false)
  | held (rows : v.rows = [(.paymentReceived, -v.totalXAF)]) (paid : v.paymentStatus.received = true)
  | delivered (rows : v.rows = [(.paymentReceived, -v.totalXAF), (.orderDelivered, v.totalXAF)])
      (status : v.status = .delivered) (paid : v.paymentStatus = .paid)
  | returned (rows : v.rows = [(.paymentReceived, -v.totalXAF), (.refundIssued, v.totalXAF)])
      (refunding : v.paymentStatus.refunding = true) (booked : v.refundBooked = true)

structure EscrowInv (v : EscrowView) : Prop where
  phase : EscrowPhase v
  cancelled : v.paymentStatus.refunding = true → v.status = .cancelled
  snapshot : v.snapshot.isSome → v.paymentStatus.received = true

/-- A row read earlier is still right about what never changes. -/
def EscrowView.Carries (v : EscrowView) (order : Order) : Prop := order.id = v.id ∧ order.totalXAF = v.totalXAF

def EscrowLocal (v : EscrowView) : OrderThread → Prop
  | .paid (.read _ order _) => v.Carries order
  | .deliver (.checked order _ _) => v.Carries order ∧ v.paymentStatus.received = true
  | .fraud (.checked order _ _) => order.paymentStatus = .paid → v.paymentStatus.received = true
  | .refund (.candidate totalXAF _) | .refund (.locked totalXAF _) | .refund (.accepted totalXAF _) =>
    totalXAF = v.totalXAF ∧ v.paymentStatus.refunding = true
  | _ => True

theorem EscrowLocal.frame {v v' : EscrowView} {u : OrderThread} (h : EscrowLocal v u) (hid : v'.id = v.id)
    (htotal : v'.totalXAF = v.totalXAF)
    (hreceived : v.paymentStatus.received = true → v'.paymentStatus.received = true)
    (hrefunding : v.paymentStatus.refunding = true → v'.paymentStatus.refunding = true) : EscrowLocal v' u := by
  have hcarries : ∀ order, v.Carries order → v'.Carries order :=
    fun order ho => ⟨ho.1.trans hid.symm, ho.2.trans htotal.symm⟩
  have hdue : ∀ total : ℤ, total = v.totalXAF ∧ v.paymentStatus.refunding = true →
      total = v'.totalXAF ∧ v'.paymentStatus.refunding = true :=
    fun total ho => ⟨ho.1.trans htotal.symm, hrefunding ho.2⟩
  cases u with
  | paid t =>
    cases t with
    | read payload order now => exact hcarries _ h
    | _ => trivial
  | deliver t =>
    cases t with
    | checked order snapshot now => exact ⟨hcarries _ h.1, hreceived h.2⟩
    | _ => trivial
  | fraud t =>
    cases t with
    | checked order input now => exact fun hp => hreceived (h hp)
    | _ => trivial
  | refund t =>
    cases t with
    | candidate totalXAF payerPhone => exact hdue _ h
    | locked totalXAF payerPhone => exact hdue _ h
    | accepted totalXAF ref => exact hdue _ h
    | _ => trivial
  | _ => trivial

/-- Rows that leave the escrow alone keep its phase. -/
theorem EscrowPhase.append {v : EscrowView} {rows : Ledger} (h : EscrowPhase v) (hrows : escrowRows v.id rows = []) :
    EscrowPhase { v with ledger := v.ledger ++ rows } := by
  have hr : { v with ledger := v.ledger ++ rows }.rows = v.rows := by
    simp [EscrowView.rows, escrowRows_append, hrows]
  cases h with
  | empty h unpaid => exact .empty (hr.trans h) unpaid
  | held h paid => exact .held (hr.trans h) paid
  | delivered h status paid => exact .delivered (hr.trans h) status paid
  | returned h refunding booked =>
    refine .returned (hr.trans h) refunding ?_
    simp only [EscrowView.refundBooked, List.any_append, Bool.or_eq_true] at booked ⊢
    exact .inl booked

/-- Outside the two closed phases the status and a paid payment status are free. -/
theorem EscrowPhase.move {v : EscrowView} (h : EscrowPhase v) (status : OrderStatus)
    (paymentStatus : PaymentStatus) (hreceived : paymentStatus.received = v.paymentStatus.received)
    (hrefunding : v.paymentStatus.refunding = true → paymentStatus.refunding = true)
    (hdelivered : v.status = .delivered → v.paymentStatus = .paid → status = .delivered ∧ paymentStatus = .paid) :
    EscrowPhase { v with status, paymentStatus } := by
  cases h with
  | empty h unpaid => exact .empty h (hreceived.trans unpaid)
  | held h paid => exact .held h (hreceived.trans paid)
  | delivered h hs hp =>
    obtain ⟨hs', hp'⟩ := hdelivered hs hp
    exact .delivered h hs' hp'
  | returned h refunding booked => exact .returned h (hrefunding refunding) booked

/-! Each move. -/

section

variable {w w' : World} {us : List OrderThread} {t t' : OrderThread} {e : Reply}

abbrev EscrowMoved (us : List OrderThread) (w' : World) (ts : List OrderThread) : Prop :=
  Moved (fun w => EscrowInv w.escrowView) (fun w => EscrowLocal w.escrowView) (fun _ _ => True) us w' ts

/-- A step that changes none of the columns. -/
theorem EscrowMoved.quiet (hI : EscrowInv w.escrowView) (hus : ∀ u ∈ us, EscrowLocal w.escrowView u)
    (hv : w'.escrowView = w.escrowView) (ht : EscrowLocal w.escrowView t') : EscrowMoved us w' [t'] := by
  refine .one ?_ ?_ fun u hu => ⟨?_, trivial⟩
  · rwa [hv]
  · rwa [hv]
  · rw [hv]
    exact hus u hu

end

end ChopNow
