import Mathlib.Data.Rat.Defs

/-! The rows of prisma/schema.prisma that the modelled services read or write.
Ids are numbers, a `Date` is its milliseconds, and a Campay reference and an
order code live in one type because the collect webhook compares both. -/

namespace ChopNow

abbrev UserId := ℕ
abbrev VendorId := ℕ
abbrev RiderId := ℕ
abbrev OrderId := ℕ
abbrev ItemId := ℕ
abbrev CouponId := ℕ
abbrev PayoutId := ℕ
abbrev PenaltyId := ℕ
abbrev RequestId := ℕ
abbrev Reference := ℕ
abbrev Time := ℕ
abbrev Phone := String

inductive OrderStatus
  | pending | confirmed | accepted | inPrep | readyPickup | pickedUp | delivered
  | cancelled | refused | expired
  deriving DecidableEq, Repr

inductive PaymentMethod
  | mtnMomo | orangeMoney
  deriving DecidableEq, Repr

inductive PaymentStatus
  | pending | processing | paid | failed | refundPending | refunded
  deriving DecidableEq, Repr

/-- The money of this order has come in. -/
def PaymentStatus.received (s : PaymentStatus) : Bool := s == .paid || s == .refundPending || s == .refunded

/-- It is on its way back, or has gone back. -/
def PaymentStatus.refunding (s : PaymentStatus) : Bool := s == .refundPending || s == .refunded

inductive VendorType
  | informal | semiFormal | restaurant
  deriving DecidableEq, Repr

inductive VendorStatus
  | pendingReview | correctionRequested | active | suspended | rejected
  deriving DecidableEq, Repr

inductive CouponType
  | freeDelivery | fixedAmountOff
  deriving DecidableEq, Repr

inductive CouponStatus
  | active | disabled
  deriving DecidableEq, Repr

inductive LedgerAccount
  | customerEscrow | vendorPayable | riderPayable | platformRevenue | platformReserve
  | campayFloat | refundPayable
  deriving DecidableEq, Repr

inductive LedgerEventType
  | paymentReceived | orderDelivered | refundIssued | vendorPayout | riderPayout
  | penaltyApplied | adjustment
  deriving DecidableEq, Repr

inductive PayoutStatus
  | pending | inFlight | paid | failed | cancelled
  deriving DecidableEq, Repr

inductive CashoutRequestStatus
  | pendingApproval | approved | rejected | cancelled
  deriving DecidableEq, Repr

inductive CampayWebhookEventType
  | collect | transfer | refund
  deriving DecidableEq, Repr

/-- The columns of `model Vendor` that money and orders depend on. -/
structure Vendor where
  id : VendorId
  type : VendorType := .informal
  status : VendorStatus
  isOpen : Bool
  acceptsPreOrders : Bool
  commissionRate : ℚ
  momoPhone : Phone
  createdAt : Time
  deriving Repr

/-- `model Item`; the menu DTOs admit no price below 100. -/
structure Item where
  id : ItemId
  vendorId : VendorId
  name : String
  priceXAF : ℤ
  isAvailable : Bool
  isInStock : Bool
  price_min : 100 ≤ priceXAF

structure Coupon where
  id : CouponId
  code : String
  type : CouponType
  valueXAF : ℤ
  status : CouponStatus
  validFrom : Option Time
  validUntil : Option Time
  minSubtotalXAF : Option ℤ
  firstOrderOnly : Bool
  maxRedemptions : Option ℕ
  redemptionCount : ℕ
  deriving Repr

/-- `model CouponRedemption`; the schema makes `(couponId, userId)` unique. -/
structure CouponRedemption where
  couponId : CouponId
  userId : UserId
  orderId : OrderId
  appliedDiscountXAF : ℤ
  originalDeliveryFeeXAF : ℤ
  deriving Repr

/-- `model Order`. The three snapshots stay empty until the payment is booked. -/
structure Order where
  id : OrderId
  code : Reference
  userId : UserId
  vendorId : VendorId
  status : OrderStatus
  subtotalXAF : ℤ
  deliveryFeeXAF : ℤ
  discountXAF : ℤ
  couponCode : Option String
  totalXAF : ℤ
  commissionRate : ℚ
  commissionXAF : Option ℤ
  riderShareXAF : Option ℤ
  platformFeeXAF : Option ℤ
  payoutId : Option PayoutId
  paymentMethod : PaymentMethod
  paymentStatus : PaymentStatus
  paymentReference : Option Reference
  payerPhone : Option Phone
  pickupCode : ℕ
  deliveryCode : ℕ
  refusalReason : Option String
  riderId : Option RiderId
  placedAt : Time
  paidAt : Option Time
  acceptedAt : Option Time
  refusedAt : Option Time
  preparedAt : Option Time
  assignedAt : Option Time
  pickedUpAt : Option Time
  deliveredAt : Option Time
  cancelledAt : Option Time
  refundInitiatedAt : Option Time
  refundCampayRef : Option Reference
  refundedAt : Option Time
  refundFailureReason : Option String
  acceptanceDeadlineAt : Option Time
  scheduledFor : Option Time
  idempotencyKey : Option String
  deriving Repr

/-- `model VendorPenalty`; the schema makes `orderId` unique. -/
structure VendorPenalty where
  id : PenaltyId
  vendorId : VendorId
  orderId : OrderId
  amountXAF : ℤ
  deriving Repr

/-- Who is paid out. -/
inductive Party
  | vendor (id : VendorId)
  | rider (id : RiderId)
  deriving DecidableEq, Repr

/-- `model VendorPayout` and `model RiderPayout`; a rider's has no commission and
no penalty. The schema makes `(party, periodStart)` unique. -/
structure Payout where
  id : PayoutId
  party : Party
  periodStart : Time
  periodEnd : Time
  grossXAF : ℤ
  commissionXAF : ℤ := 0
  penaltyXAF : ℤ := 0
  adjustmentsXAF : ℤ
  netXAF : ℤ
  momoPhone : Phone
  campayRef : Option Reference := none
  status : PayoutStatus := .pending
  failureReason : Option String := none
  scheduledFor : Time
  sentAt : Option Time := none
  paidAt : Option Time := none
  deriving Repr

/-- The statuses the handlers compare with, after `toUpperCase` where they call
it; `pending` stands for every other text, and for none. -/
inductive CampayStatus
  | successful | success | paid | failed | cancelled | pending
  deriving DecidableEq, Repr

/-- `FAILED` or `CANCELLED`. -/
def CampayStatus.isFailure (s : CampayStatus) : Bool := s == .failed || s == .cancelled

/-- What the transfer and refund handlers call succeeded. -/
def CampayStatus.isSuccess (s : CampayStatus) : Bool := s == .successful || s == .success || s == .paid

@[simp] theorem CampayStatus.not_isFailure {s : CampayStatus} (h : s.isSuccess = true) : s.isFailure = false := by
  cases s <;> simp_all [isFailure, isSuccess]

structure CampayWebhookPayload where
  status : CampayStatus
  reference : Option Reference
  external_reference : Option Reference := none
  phone_number : Option Phone := none
  failure_reason : Option String := none
  deriving Repr

/-- The reference that the handlers file a callback under. -/
def CampayWebhookPayload.key (p : CampayWebhookPayload) : Option Reference := p.reference <|> p.external_reference

/-- `model CampayWebhookEvent`; the schema makes `(eventType, reference)` unique. -/
structure CampayWebhookEvent where
  eventType : CampayWebhookEventType
  reference : Reference
  payload : CampayWebhookPayload
  result : Option String
  deriving Repr

end ChopNow
