import ChopNow.Lib.Interleave
import ChopNow.Lib.Simulation
import ChopNow.Lib.Inbox
import ChopNow.Lib.Tally
import ChopNow.Lib.Mirror
import ChopNow.Lib.Handover
import ChopNow.Lib.Race
import ChopNow.Lib.Table
import ChopNow.Lib.Periods
import ChopNow.Lib.InTurn
import ChopNow.Lib.TwoRuns
import ChopNow.Lib.Alone
import ChopNow.Lib.Chains
import ChopNow.Lib.Transaction
import ChopNow.Lib.Rounding
import ChopNow.Lib.Budget
import ChopNow.Lib.Quota
import ChopNow.Lib.Calendar
import ChopNow.Lib.Requests
import ChopNow.Spec.Schema
import ChopNow.Spec.Ledger
import ChopNow.Spec.World
import ChopNow.Spec.Creation
import ChopNow.Spec.Payment
import ChopNow.Spec.Fulfilment
import ChopNow.Spec.Refund
import ChopNow.Spec.Collect
import ChopNow.Spec.Payout
import ChopNow.Spec.Books
import ChopNow.Spec.Finance
import ChopNow.Spec.Webhook
import ChopNow.Spec.Lifecycle
import ChopNow.Spec.Dispatch
import ChopNow.Spec.Cashout
import ChopNow.Spec.Escalation
import ChopNow.Spec.Suspension
import ChopNow.Spec.Sessions
import ChopNow.Spec.Otp
import ChopNow.Spec.Checkout
import ChopNow.Spec.Api
import ChopNow.Spec.Breaker
import ChopNow.Spec.Sweep
import ChopNow.Spec.Menu
import ChopNow.Spec.Riders
import ChopNow.Spec.RateLimit
import ChopNow.Spec.AdminAuth
import ChopNow.Spec.Estimates
import ChopNow.Spec.Hours
import ChopNow.Spec.Tokens
import ChopNow.Proofs.Callbacks
import ChopNow.Proofs.OrderStep
import ChopNow.Proofs.Delivery
import ChopNow.Proofs.Escrow
import ChopNow.Proofs.RefundOnce
import ChopNow.Proofs.CollectStep
import ChopNow.Proofs.Collect
import ChopNow.Proofs.PaymentBooked
import ChopNow.Proofs.OneCharge
import ChopNow.Proofs.CollectInbox
import ChopNow.Proofs.CallbackStream
import ChopNow.Proofs.PayoutStep
import ChopNow.Proofs.PayoutOnce
import ChopNow.Proofs.TransferInbox
import ChopNow.Proofs.RefundInbox
import ChopNow.Proofs.Outrun
import ChopNow.Proofs.BooksStep
import ChopNow.Proofs.Journal
import ChopNow.Proofs.Mirror
import ChopNow.Proofs.Balance
import ChopNow.Proofs.PaidTwice
import ChopNow.Proofs.Redelivery
import ChopNow.Proofs.SignedFacts
import ChopNow.Proofs.LifecycleStep
import ChopNow.Proofs.OneDecision
import ChopNow.Proofs.Forward
import ChopNow.Proofs.Money
import ChopNow.Proofs.PaidFood
import ChopNow.Proofs.Notified
import ChopNow.Proofs.Settlement
import ChopNow.Proofs.FailedOrder
import ChopNow.Proofs.HonestRefund
import ChopNow.Proofs.Deferral
import ChopNow.Proofs.DecisionWindow
import ChopNow.Proofs.DispatchStep
import ChopNow.Proofs.OneRider
import ChopNow.Proofs.GivingUp
import ChopNow.Proofs.CashoutOnce
import ChopNow.Proofs.PayoutPeriods
import ChopNow.Proofs.Earnings
import ChopNow.Proofs.Tracked
import ChopNow.Proofs.Suspension
import ChopNow.Proofs.SessionStep
import ChopNow.Proofs.LoggedOut
import ChopNow.Proofs.RefreshRace
import ChopNow.Proofs.Rotation
import ChopNow.Proofs.Planted
import ChopNow.Proofs.OtpStep
import ChopNow.Proofs.OtpOnce
import ChopNow.Proofs.OtpLatest
import ChopNow.Proofs.CheckoutStep
import ChopNow.Proofs.FirstOrder
import ChopNow.Proofs.CouponAccounts
import ChopNow.Proofs.VendorAccount
import ChopNow.Proofs.Breakdown
import ChopNow.Proofs.PayoutTags
import ChopNow.Proofs.Views
import ChopNow.Proofs.HandoverCodes
import ChopNow.Proofs.Breaker
import ChopNow.Proofs.Probe
import ChopNow.Proofs.SweepStep
import ChopNow.Proofs.Overcommit
import ChopNow.Proofs.Outage
import ChopNow.Proofs.HeadOfLine
import ChopNow.Proofs.Payable
import ChopNow.Proofs.PreOrderCancel
import ChopNow.Proofs.SameKey
import ChopNow.Proofs.Preview
import ChopNow.Proofs.Split
import ChopNow.Proofs.Amounts
import ChopNow.Proofs.Checklist
import ChopNow.Proofs.RiderRows
import ChopNow.Proofs.AdminShort
import ChopNow.Proofs.PhoneLimit
import ChopNow.Proofs.AdminStep
import ChopNow.Proofs.RecoveryCodes
import ChopNow.Proofs.Enrollment
import ChopNow.Proofs.Lockout
import ChopNow.Proofs.OneSession
import ChopNow.Proofs.Estimates
import ChopNow.Proofs.OpenNow
import ChopNow.Lib.Json
import ChopNow.Spec.Audit
import ChopNow.Proofs.Redaction
import ChopNow.Spec.Push
import ChopNow.Proofs.PushCleanup
import ChopNow.Spec.RetryChain
import ChopNow.Proofs.Retries
import ChopNow.Lib.Encodings
import ChopNow.Spec.Envelope
import ChopNow.Proofs.SealedSecrets
import ChopNow.Lib.Turns
import ChopNow.Spec.Fleet
import ChopNow.Proofs.Fairness
import ChopNow.Lib.Batch
import ChopNow.Spec.PayoutSweep
import ChopNow.Proofs.SweepReport
import ChopNow.Proofs.PayoutSweep
import ChopNow.Lib.Inflight
import ChopNow.Spec.Addresses
import ChopNow.Proofs.Addresses
import ChopNow.Spec.CampayClient
import ChopNow.Proofs.CampayClient
import ChopNow.Lib.QueryString
import ChopNow.Spec.Voice
import ChopNow.Proofs.Voice
import ChopNow.Spec.Onboarding
import ChopNow.Proofs.Onboarding
import ChopNow.Spec.Notifications
import ChopNow.Proofs.Notifications
import ChopNow.Lib.Grouping
import ChopNow.Lib.Tenancy
import ChopNow.Proofs.Funnel
import ChopNow.Proofs.MenuService
import ChopNow.Proofs.Storefront
