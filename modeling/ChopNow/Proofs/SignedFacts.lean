import ChopNow.Proofs.OrderStep
import ChopNow.Spec.Webhook

/-! What a webhook request changes depends on its body alone. The guard verifies the
signature and throws the claims away. -/

namespace ChopNow

/-- The references that a dedup table has filed. -/
def filedKeys (dedup : List CampayWebhookEvent) : List (CampayWebhookEventType × Reference) :=
  dedup.map fun e => (e.eventType, e.reference)

@[simp] theorem filedKeys_recordResult (dedup : List CampayWebhookEvent) (ty : CampayWebhookEventType) (ref : Reference)
    (result : String) : filedKeys (recordResult dedup ty ref result) = filedKeys dedup := by
  simp only [filedKeys, recordResult, List.map_map]
  congr 1
  funext e
  simp only [Function.comp_apply]
  split <;> rfl

@[simp] theorem filedKeys_append (dedup : List CampayWebhookEvent) (e : CampayWebhookEvent) :
    filedKeys (dedup ++ [e]) = filedKeys dedup ++ [(e.eventType, e.reference)] := by
  simp [filedKeys]

/-- What counts as a change: the order, the journal and the references filed. -/
structure OrderChange where
  order : Order
  ledger : Ledger
  filed : List (CampayWebhookEventType × Reference)

def World.change (w : World) : OrderChange := ⟨w.order, w.ledger, filedKeys w.dedup⟩

structure PayoutChange where
  payout : Payout
  filed : List (CampayWebhookEventType × Reference)

def PayoutWorld.change (w : PayoutWorld) : PayoutChange := ⟨w.payout, filedKeys w.dedup⟩

/-! Collects. -/

/-- What handleWebhook reads off a body besides the reference. -/
inductive CollectFact
  | success (phone_number : Option Phone)
  | failure
  | other
  deriving DecidableEq

def CampayWebhookPayload.collectFact (p : CampayWebhookPayload) : CollectFact :=
  if p.status = .successful then .success p.phone_number else if p.status.isFailure then .failure else .other

def CampayWebhookPayload.collectFacts (p : CampayWebhookPayload) : Option (Reference × CollectFact) :=
  p.key.map fun ref => (ref, p.collectFact)

/-- The payment that a success books. -/
def bookedPayment (w : World) (ref : Reference) (phone_number : Option Phone) : Order × Ledger :=
  match commitPayment w w.order ⟨ref, phone_number⟩ w.clock with
  | .ok (some w') => (w'.order, w'.ledger)
  | _ => (w.order, w.ledger)

def settledCollect (w : World) (ref : Reference) : CollectFact → Order × Ledger
  | .success phone_number => if w.order.paymentStatus = .paid then (w.order, w.ledger) else bookedPayment w ref phone_number
  | .failure =>
    if w.order.paymentStatus = .paid then (w.order, w.ledger)
    else ({ w.order with paymentStatus := .failed }, w.ledger)
  | .other => (w.order, w.ledger)

def collectChange (w : World) : Option (Reference × CollectFact) → OrderChange
  | none => w.change
  | some (ref, fact) =>
    if hasEvent w.dedup .collect ref then w.change
    else
      let (order, ledger) :=
        if (setNX (w.hookLocks.lookup ref) w.clock (WEBHOOK_LOCK_TTL_SECONDS * 1000)).isSome ∧
            (w.order.code = ref ∨ w.order.paymentReference = some ref) then settledCollect w ref fact
        else (w.order, w.ledger)
      ⟨order, ledger, filedKeys w.dedup ++ [(.collect, ref)]⟩

theorem onPaymentSucceeded_change (w : World) (ref : Reference) (phone_number : Option Phone) :
    (onPaymentSucceeded w ⟨ref, phone_number⟩).change =
      ⟨(settledCollect w ref (.success phone_number)).1, (settledCollect w ref (.success phone_number)).2,
        filedKeys w.dedup⟩ := by
  by_cases hpaid : w.order.paymentStatus = .paid
  · simp [onPaymentSucceeded, drive, OnPaymentSucceeded.step, hpaid, settledCollect, World.change]
  · simp only [onPaymentSucceeded, drive, OnPaymentSucceeded.step, hpaid, ↓reduceIte, settledCollect, bookedPayment]
    cases hc : commitPayment w w.order ⟨ref, phone_number⟩ w.clock with
    | error err => rfl
    | ok landed =>
      cases landed with
      | none => rfl
      | some w' =>
        obtain ⟨-, id, -, rfl⟩ := World.book_ok_iff.1 (World.bookIf_some_iff.1 hc).2
        unfold World.announcePaid
        cases w.order.scheduledFor <;> rfl

theorem key_getD {p : CampayWebhookPayload} {ref : Reference} (h : p.key = some ref) : p.reference.getD ref = ref := by
  unfold CampayWebhookPayload.key at h
  cases hr : p.reference with
  | none => rfl
  | some r =>
    rw [hr] at h
    exact Option.some.inj h

/-- The dedup table and the lock play no part in the booking. -/
theorem settledCollect_filed (w : World) (dedup : List CampayWebhookEvent) (hookLocks : List (Reference × Time))
    (ref : Reference) (fact : CollectFact) : settledCollect { w with dedup, hookLocks } ref fact = settledCollect w ref fact := by
  cases fact with
  | success phone_number =>
    simp only [settledCollect, bookedPayment, commitPayment, World.bookIf, World.book]
    cases recordTransaction w.ledger w.clock (paymentInput w.order) <;>
      cases w.order.paymentStatus == .pending || w.order.paymentStatus == .processing <;> rfl
  | failure | other => rfl

theorem handleWebhook_change (w : World) (p : CampayWebhookPayload) :
    (handleWebhook w p).change = collectChange w p.collectFacts := by
  unfold CampayWebhookPayload.collectFacts
  cases hkey : p.key with
  | none => simp [handleWebhook, drive, CollectWebhook.step, hkey, collectChange]
  | some ref =>
    simp only [Option.map_some, collectChange]
    cases hfiled : hasEvent w.dedup .collect ref with
    | true => simp [handleWebhook, drive, CollectWebhook.step, hkey, markProcessed, hfiled]
    | false =>
    cases hlock : setNX (w.hookLocks.lookup ref) w.clock (WEBHOOK_LOCK_TTL_SECONDS * 1000) with
    | none => simp [handleWebhook, drive, CollectWebhook.step, hkey, markProcessed, hfiled, hlock, World.change]
    | some expiry =>
    by_cases hfound : w.order.code = ref ∨ w.order.paymentReference = some ref
    · have hstep : ∀ w₁ : World, w₁.change = ⟨(settledCollect w ref p.collectFact).1, (settledCollect w ref p.collectFact).2,
          filedKeys w.dedup ++ [(.collect, ref)]⟩ → ∀ result,
          World.change { w₁ with dedup := recordResult w₁.dedup .collect ref result } =
            ⟨(settledCollect w ref p.collectFact).1, (settledCollect w ref p.collectFact).2,
              filedKeys w.dedup ++ [(.collect, ref)]⟩ := fun w₁ h result => by
        rw [← h]
        simp [World.change]
      simp only [handleWebhook, drive, CollectWebhook.step, hkey, markProcessed, hfiled, hlock, hfound, Bool.false_eq_true,
        ↓reduceIte, Option.map_some, Option.elim_none, Option.isSome_some, true_and]
      by_cases hsuccess : p.status = .successful
      · have hfact : p.collectFact = .success p.phone_number := by simp [CampayWebhookPayload.collectFact, hsuccess]
        simp only [CollectWebhook.dispatch, hsuccess, Option.elim_some]
        refine hstep _ ?_ _
        rw [key_getD hkey, onPaymentSucceeded_change, settledCollect_filed, hfact]
        simp
      · by_cases hfailure : p.status.isFailure = true
        · have hfact : p.collectFact = .failure := by simp [CampayWebhookPayload.collectFact, hsuccess, hfailure]
          have hstatus : p.status = .failed ∨ p.status = .cancelled := by
            cases hs : p.status <;> simp_all [CampayStatus.isFailure]
          by_cases hpaid : w.order.paymentStatus = .paid <;> rcases hstatus with hs | hs <;>
            simp [CollectWebhook.dispatch, hs, hpaid, hfact, settledCollect, World.change]
        · have hfact : p.collectFact = .other := by simp [CampayWebhookPayload.collectFact, hsuccess, hfailure]
          cases hs : p.status <;>
            simp_all [CollectWebhook.dispatch, CampayStatus.isFailure, settledCollect, World.change]
    · simp [handleWebhook, drive, CollectWebhook.step, hkey, markProcessed, hfiled, hlock, hfound, World.change]

/-! Transfers and refunds. -/

/-- What the two handlers read off a body that is terminal: success, or the reason of the failure. -/
def CampayWebhookPayload.outcome (p : CampayWebhookPayload) : Option (Option String) :=
  if p.status.isSuccess then some none
  else if p.status.isFailure then some (some (p.failure_reason.getD "campay_reported_failure"))
  else none

def CampayWebhookPayload.outcomeFacts (p : CampayWebhookPayload) : Option (Reference × Option String) :=
  p.key.bind fun ref => p.outcome.map fun reason => (ref, reason)

/-- What an outcome writes: `none` is success. -/
def settledPayout (p : Payout) (now : Time) : Option String → Payout
  | none => { p with status := .paid, paidAt := some now }
  | some reason => { p with status := .failed, failureReason := some reason }

def transferChange (w : PayoutWorld) : Option (Reference × Option String) → PayoutChange
  | none => w.change
  | some (ref, reason) =>
    if hasEvent w.dedup .transfer ref then w.change
    else
      ⟨if w.payout.campayRef = some ref ∧ w.payout.status = .inFlight then settledPayout w.payout w.clock reason
        else w.payout, filedKeys w.dedup ++ [(.transfer, ref)]⟩

theorem outcome_cases (p : CampayWebhookPayload) :
    p.status.isSuccess = true ∧ p.outcome = some none ∨
      p.status.isSuccess = false ∧ p.status.isFailure = true ∧
        p.outcome = some (some (p.failure_reason.getD "campay_reported_failure")) ∨
      p.status.isSuccess = false ∧ p.status.isFailure = false ∧ p.outcome = none := by
  unfold CampayWebhookPayload.outcome
  cases p.status.isSuccess <;> cases p.status.isFailure <;> simp

theorem handleTransferWebhook_change (w : PayoutWorld) (p : CampayWebhookPayload) :
    (handleTransferWebhook w p).change = transferChange w p.outcomeFacts := by
  unfold CampayWebhookPayload.outcomeFacts
  cases hkey : p.key with
  | none => simp [handleTransferWebhook, drive, TransferWebhook.step, hkey, transferChange]
  | some ref =>
    simp only [Option.bind_some, handleTransferWebhook, drive, TransferWebhook.step, hkey]
    rcases outcome_cases p with ⟨hs, ho⟩ | ⟨hs, hf, ho⟩ | ⟨hs, hf, ho⟩
    · cases hfiled : hasEvent w.dedup .transfer ref with
      | true => simp [hs, ho, markProcessed, hfiled, transferChange]
      | false =>
        by_cases hfound : w.payout.campayRef = some ref <;> by_cases hflight : w.payout.status = .inFlight <;>
          simp [hs, ho, markProcessed, hfiled, transferChange, hfound, hflight, PayoutWorld.change, Payout.settle,
            settledPayout]
    · cases hfiled : hasEvent w.dedup .transfer ref with
      | true => simp [hs, hf, ho, markProcessed, hfiled, transferChange]
      | false =>
        by_cases hfound : w.payout.campayRef = some ref <;> by_cases hflight : w.payout.status = .inFlight <;>
          simp [hs, hf, ho, markProcessed, hfiled, transferChange, hfound, hflight, PayoutWorld.change, Payout.settle,
            settledPayout]
    · simp [hs, hf, ho, transferChange]

/-- The settlement that a success books. -/
def bookedSettlement (w : World) : Order × Ledger :=
  match commitSettlement w w.order w.clock with
  | .ok (some w') => (w'.order, w'.ledger)
  | _ => (w.order, w.ledger)

def settledRefund (w : World) : Option String → Order × Ledger
  | none => bookedSettlement w
  | some reason =>
    ({ w.order with refundCampayRef := none, refundInitiatedAt := none, refundFailureReason := some reason }, w.ledger)

def refundChange (w : World) : Option (Reference × Option String) → OrderChange
  | none => w.change
  | some (ref, reason) =>
    if hasEvent w.dedup .refund ref then w.change
    else
      let (order, ledger) :=
        if w.order.refundCampayRef = some ref ∧ w.order.paymentStatus = .refundPending then settledRefund w reason
        else (w.order, w.ledger)
      ⟨order, ledger, filedKeys w.dedup ++ [(.refund, ref)]⟩

theorem handleRefundWebhook_change (w : World) (p : CampayWebhookPayload) :
    (handleRefundWebhook w p).change = refundChange w p.outcomeFacts := by
  unfold CampayWebhookPayload.outcomeFacts
  cases hkey : p.key with
  | none => simp [handleRefundWebhook, drive, RefundWebhook.step, hkey, refundChange]
  | some ref =>
    simp only [Option.bind_some, handleRefundWebhook, drive, RefundWebhook.step, hkey]
    rcases outcome_cases p with ⟨hs, ho⟩ | ⟨hs, hf, ho⟩ | ⟨hs, hf, ho⟩
    · cases hfiled : hasEvent w.dedup .refund ref with
      | true => simp [hs, ho, markProcessed, hfiled, refundChange]
      | false =>
        by_cases hfound : w.order.refundCampayRef = some ref <;>
          by_cases hqueued : w.order.paymentStatus = .refundPending
        · simp only [hs, ho, markProcessed, hfiled, refundChange, hfound, hqueued, settledRefund, bookedSettlement,
            commitSettlement, World.bookIf, World.book, Option.map_some, Bool.false_eq_true, Bool.true_or, ↓reduceIte,
            and_self, BEq.rfl]
          cases recordTransaction w.ledger w.clock (refundSettledInput w.order) <;> simp [Except.map, World.change]
        all_goals
          simp [hs, ho, markProcessed, hfiled, refundChange, hfound, hqueued, World.change]
    · cases hfiled : hasEvent w.dedup .refund ref with
      | true => simp [hs, hf, ho, markProcessed, hfiled, refundChange]
      | false =>
        by_cases hfound : w.order.refundCampayRef = some ref <;>
          by_cases hqueued : w.order.paymentStatus = .refundPending <;>
          simp [hs, hf, ho, markProcessed, hfiled, refundChange, hfound, hqueued, World.change, settledRefund]
    · simp [hs, hf, ho, refundChange]

/-! Two bodies that differ in what is read off them differ in what they do somewhere. -/

/-- An order that waits for the collect `ref`. -/
def awaitingCollect (ref : Reference) : World :=
  World.start { exampleOrder with code := ref, paymentStatus := .processing }

/-- A payout that waits for the transfer `ref`. -/
def awaitingTransfer (ref : Reference) : PayoutWorld where
  payout := {
    id := 1, party := .vendor 1, periodStart := 0, periodEnd := 1, grossXAF := 2000, commissionXAF := 200,
    adjustmentsXAF := 0, netXAF := 1800, momoPhone := "+237677000001", campayRef := some ref, status := .inFlight,
    scheduledFor := 1 }
  dedup := []
  transfers := []
  clock := 2
  transfersEnabled := true

/-- An order that waits for the refund `ref`. -/
def awaitingRefund (ref : Reference) : World :=
  World.start { exampleOrder with paymentStatus := .refundPending, refundCampayRef := some ref }

theorem collectChange_filed {w : World} (h : w.dedup = []) (facts : Option (Reference × CollectFact)) :
    (collectChange w facts).filed = (facts.map fun f => (.collect, f.1)).toList := by
  rcases facts with _ | ⟨ref, fact⟩ <;> simp [collectChange, h, World.change, filedKeys, hasEvent]

theorem transferChange_filed {w : PayoutWorld} (h : w.dedup = []) (facts : Option (Reference × Option String)) :
    (transferChange w facts).filed = (facts.map fun f => (.transfer, f.1)).toList := by
  rcases facts with _ | ⟨ref, fact⟩ <;> simp [transferChange, h, PayoutWorld.change, filedKeys, hasEvent]

theorem refundChange_filed {w : World} (h : w.dedup = []) (facts : Option (Reference × Option String)) :
    (refundChange w facts).filed = (facts.map fun f => (.refund, f.1)).toList := by
  rcases facts with _ | ⟨ref, fact⟩ <;> simp [refundChange, h, World.change, filedKeys, hasEvent]

/-- What a fact makes of an order that waits for it. -/
def CollectFact.paymentStatus : CollectFact → PaymentStatus
  | .success _ => .paid
  | .failure => .failed
  | .other => .processing

def CollectFact.payerPhone : CollectFact → Option Phone
  | .success phone_number => phone_number
  | _ => none

theorem awaitingCollect_change (ref : Reference) (fact : CollectFact) :
    (collectChange (awaitingCollect ref) (some (ref, fact))).order.paymentStatus = fact.paymentStatus ∧
      (collectChange (awaitingCollect ref) (some (ref, fact))).order.payerPhone = fact.payerPhone := by
  have hchange : (collectChange (awaitingCollect ref) (some (ref, fact))).order =
      (settledCollect (awaitingCollect ref) ref fact).1 := by
    simp [collectChange, awaitingCollect, World.start, hasEvent, setNX]
  rw [hchange]
  cases fact with
  | success phone_number =>
    have hbooked : commitPayment (awaitingCollect ref) (awaitingCollect ref).order ⟨ref, phone_number⟩
        (awaitingCollect ref).clock = .ok (some _) :=
      World.bookIf_some_iff.2 ⟨rfl, World.book_ok_iff.2 ⟨payment_sound_iff.2 (by decide : (3000 : ℤ) ≠ 0), _, rfl, rfl⟩⟩
    have hunpaid : (awaitingCollect ref).order.paymentStatus ≠ .paid := by simp [awaitingCollect, World.start]
    simp only [settledCollect, if_neg hunpaid, bookedPayment, hbooked]
    cases phone_number <;> exact ⟨rfl, rfl⟩
  | failure | other => exact ⟨rfl, rfl⟩

theorem collect_facts_of_change {f f' : Option (Reference × CollectFact)}
    (h : ∀ w, collectChange w f = collectChange w f') : f = f' := by
  have hfiled := congrArg OrderChange.filed (h (World.start exampleOrder))
  rw [collectChange_filed rfl, collectChange_filed rfl] at hfiled
  rcases f with _ | ⟨ref, fact⟩ <;> rcases f' with _ | ⟨ref', fact'⟩
  · rfl
  · cases hfiled
  · cases hfiled
  · obtain rfl : ref = ref' := by simpa using hfiled
    have horder := congrArg OrderChange.order (h (awaitingCollect ref))
    obtain ⟨hstatus, hphone⟩ := awaitingCollect_change ref fact
    obtain ⟨hstatus', hphone'⟩ := awaitingCollect_change ref fact'
    rw [horder, hstatus'] at hstatus
    rw [horder, hphone'] at hphone
    cases fact <;> cases fact' <;> first | rfl | (cases hphone; rfl) | cases hstatus

theorem transfer_facts_of_change {f f' : Option (Reference × Option String)}
    (h : ∀ w, transferChange w f = transferChange w f') : f = f' := by
  have hfiled := congrArg PayoutChange.filed (h (awaitingTransfer 0))
  rw [transferChange_filed rfl, transferChange_filed rfl] at hfiled
  rcases f with _ | ⟨ref, reason⟩ <;> rcases f' with _ | ⟨ref', reason'⟩
  · rfl
  · cases hfiled
  · cases hfiled
  · obtain rfl : ref = ref' := by simpa using hfiled
    have hpayout := congrArg PayoutChange.payout (h (awaitingTransfer ref))
    simp only [transferChange, awaitingTransfer, hasEvent, List.any_nil, Bool.false_eq_true, ↓reduceIte, and_self] at hpayout
    cases reason <;> cases reason' <;> simp_all [settledPayout]

theorem refund_facts_of_change {f f' : Option (Reference × Option String)}
    (h : ∀ w, refundChange w f = refundChange w f') : f = f' := by
  have hfiled := congrArg OrderChange.filed (h (World.start exampleOrder))
  rw [refundChange_filed rfl, refundChange_filed rfl] at hfiled
  rcases f with _ | ⟨ref, reason⟩ <;> rcases f' with _ | ⟨ref', reason'⟩
  · rfl
  · cases hfiled
  · cases hfiled
  · obtain rfl : ref = ref' := by simpa using hfiled
    have horder := congrArg OrderChange.order (h (awaitingRefund ref))
    have hrow : ∀ reason, (refundChange (awaitingRefund ref) (some (ref, reason))).order =
        (settledRefund (awaitingRefund ref) reason).1 := fun reason => by
      simp [refundChange, awaitingRefund, World.start, hasEvent]
    have hbooked : commitSettlement (awaitingRefund ref) (awaitingRefund ref).order (awaitingRefund ref).clock =
        .ok (some _) :=
      World.bookIf_some_iff.2 ⟨rfl, World.book_ok_iff.2 ⟨settlement_sound (by decide : (3000 : ℤ) ≠ 0), _, rfl, rfl⟩⟩
    have hsuccess : (settledRefund (awaitingRefund ref) none).1.paymentStatus = .refunded := by
      simp only [settledRefund, bookedSettlement, hbooked]
    rw [hrow, hrow] at horder
    cases reason with
    | none =>
      cases reason' with
      | none => rfl
      | some text =>
        rw [horder] at hsuccess
        cases hsuccess
    | some text =>
      cases reason' with
      | none =>
        rw [← horder] at hsuccess
        cases hsuccess
      | some text' =>
        have hreason := congrArg Order.refundFailureReason horder
        simpa [settledRefund] using hreason

/-! The endpoints. -/

theorem receive_accepted {σ : Type} {verify : JwtVerify} {secret : Option String} {handle : σ → CampayWebhookPayload → σ}
    {req : WebhookRequest} (h : canActivate verify secret req = .ok ()) (w : σ) :
    receive verify secret handle w req = .ok (handle w req.body) := by
  simp [receive, h]

/-- The guard looks at the signature alone. -/
theorem canActivate_signature (verify : JwtVerify) (secret : Option String) {req req' : WebhookRequest}
    (h : req.signature = req'.signature) : canActivate verify secret req = canActivate verify secret req' := by
  simp [canActivate, h]

/-- Two bodies do the same to every order and every payout. -/
def ActsAlike {σ ρ : Type} (handle : σ → CampayWebhookPayload → σ) (change : σ → ρ) (p p' : CampayWebhookPayload) : Prop :=
  ∀ w, change (handle w p) = change (handle w p')

theorem collect_actsAlike_iff (p p' : CampayWebhookPayload) :
    ActsAlike handleWebhook World.change p p' ↔ p.collectFacts = p'.collectFacts := by
  simp only [ActsAlike, handleWebhook_change]
  exact ⟨collect_facts_of_change, fun h _ => by rw [h]⟩

theorem transfer_actsAlike_iff (p p' : CampayWebhookPayload) :
    ActsAlike handleTransferWebhook PayoutWorld.change p p' ↔ p.outcomeFacts = p'.outcomeFacts := by
  simp only [ActsAlike, handleTransferWebhook_change]
  exact ⟨transfer_facts_of_change, fun h _ => by rw [h]⟩

theorem refund_actsAlike_iff (p p' : CampayWebhookPayload) :
    ActsAlike handleRefundWebhook World.change p p' ↔ p.outcomeFacts = p'.outcomeFacts := by
  simp only [ActsAlike, handleRefundWebhook_change]
  exact ⟨refund_facts_of_change, fun h _ => by rw [h]⟩

/-- What the guard accepts carries claims that were signed. -/
theorem canActivate_signed {verify : JwtVerify} {secret : Option String} {req : WebhookRequest}
    (h : canActivate verify secret req = .ok ()) :
    ∃ signature key claims, req.signature = some signature ∧ secret = some key ∧ verify signature key = some claims := by
  unfold canActivate at h
  split at h
  · cases h
  · cases h
  next signature _ hsignature =>
    split at h
    next hverified =>
      cases secret with
      | none => cases hverified
      | some key =>
        simp only [verifyCampayJwtSignature, Bool.and_eq_true] at hverified
        obtain ⟨claims, hclaims⟩ := Option.isSome_iff_exists.1 hverified.2
        exact ⟨signature, key, claims, hsignature, rfl, hclaims⟩
    · cases h

/-- A request that the guard accepts carries signed claims, and it changes what these would change exactly
if its body says the same as they do where the handler looks; and two requests with one
signature change the same exactly if their bodies agree there. -/
theorem acts_on_signed_facts_iff {verify : JwtVerify} {secret : Option String} {req : WebhookRequest}
    (haccepted : canActivate verify secret req = .ok ()) :
    (∃ signature key claims, req.signature = some signature ∧ secret = some key ∧ verify signature key = some claims) ∧
    (∀ signature key claims, req.signature = some signature → secret = some key → verify signature key = some claims →
      (ActsAlike handleWebhook World.change req.body claims ↔ req.body.collectFacts = claims.collectFacts) ∧
      (ActsAlike handleTransferWebhook PayoutWorld.change req.body claims ↔
        req.body.outcomeFacts = claims.outcomeFacts) ∧
      (ActsAlike handleRefundWebhook World.change req.body claims ↔ req.body.outcomeFacts = claims.outcomeFacts)) ∧
    ∀ req' : WebhookRequest, req.signature = req'.signature →
      ((∀ w, (receive verify secret handleWebhook w req).map World.change =
          (receive verify secret handleWebhook w req').map World.change) ↔
        req.body.collectFacts = req'.body.collectFacts) ∧
      ((∀ w, (receive verify secret handleTransferWebhook w req).map PayoutWorld.change =
          (receive verify secret handleTransferWebhook w req').map PayoutWorld.change) ↔
        req.body.outcomeFacts = req'.body.outcomeFacts) ∧
      ((∀ w, (receive verify secret handleRefundWebhook w req).map World.change =
          (receive verify secret handleRefundWebhook w req').map World.change) ↔
        req.body.outcomeFacts = req'.body.outcomeFacts) := by
  refine ⟨canActivate_signed haccepted, fun _ _ claims _ _ _ => ⟨collect_actsAlike_iff _ claims, transfer_actsAlike_iff _ claims,
    refund_actsAlike_iff _ claims⟩, fun req' hsignature => ?_⟩
  have haccepted' : canActivate verify secret req' = .ok () := canActivate_signature verify secret hsignature ▸ haccepted
  simp only [receive_accepted haccepted, receive_accepted haccepted', Except.map, Except.ok.injEq]
  exact ⟨collect_actsAlike_iff _ _, transfer_actsAlike_iff _ _, refund_actsAlike_iff _ _⟩

/-! A token that Campay signed for the collect 8. -/

def signedCollect : CampayWebhookPayload := { status := .successful, reference := some 8 }

def exampleVerify : JwtVerify := fun signature key =>
  if signature = "token-8" ∧ key = "webhook-secret" then some signedCollect else none

/-- Sent again under the reference of another order, it marks that order paid. -/
theorem replayed_signature_pays_other :
    let req : WebhookRequest := ⟨some "token-8", { signedCollect with reference := some 7 }⟩
    canActivate exampleVerify (some "webhook-secret") req = .ok () ∧
      exampleVerify "token-8" "webhook-secret" = some signedCollect ∧
      (handleWebhook (awaitingCollect 7) signedCollect).order.paymentStatus = .processing ∧
      (receive exampleVerify (some "webhook-secret") handleWebhook (awaitingCollect 7) req).map (·.order.paymentStatus) =
        .ok .paid := by
  refine ⟨rfl, rfl, by decide +kernel, by decide +kernel⟩

/-- A request whose body is the signed one. -/
theorem honest_request_acts_on_claims :
    ActsAlike handleWebhook World.change signedCollect signedCollect ∧
      ActsAlike handleTransferWebhook PayoutWorld.change signedCollect signedCollect := by
  have h := (@acts_on_signed_facts_iff exampleVerify (some "webhook-secret")
    ⟨some "token-8", signedCollect⟩ rfl).2.1 "token-8" "webhook-secret" signedCollect rfl rfl rfl
  exact ⟨h.1.2 rfl, h.2.1.2 rfl⟩

end ChopNow
