import ChopNow.Spec.Collect
import ChopNow.Spec.Payout
import ChopNow.Spec.Refund

/-! The three webhook endpoints: CampayWebhookGuard and the handlers behind it, each
handler run to its end with nothing in between. `jwt.verify` is a parameter: the
claims it returns, or nothing where it throws. -/

namespace ChopNow

structure WebhookRequest where
  signature : Option String
  body : CampayWebhookPayload
  deriving Repr

/-- The claims mirror the payload. -/
abbrev JwtVerify := String → String → Option CampayWebhookPayload

def verifyCampayJwtSignature (verify : JwtVerify) (signatureJwt secret : Option String) : Bool :=
  match signatureJwt, secret with
  | some signatureJwt, some secret => signatureJwt != "" && secret != "" && (verify signatureJwt secret).isSome
  | _, _ => false

inductive Unauthorized
  | invalidSignature
  deriving DecidableEq, Repr

def canActivate (verify : JwtVerify) (secret : Option String) (req : WebhookRequest) : Except Unauthorized Unit :=
  match req.signature with
  | none | some "" => .error .invalidSignature
  | some signature => if verifyCampayJwtSignature verify (some signature) secret then .ok () else .error .invalidSignature

/-- `n` steps of a call in which every statement lands. -/
def drive {σ τ : Type} (step : σ → τ → Option (σ × τ)) : ℕ → σ → τ → σ
  | 0, w, _ => w
  | n + 1, w, t =>
    match step w t with
    | none => w
    | some (w', t') => drive step n w' t'

def onPaymentSucceeded (w : World) (payload : PaymentSucceeded) : World :=
  drive (fun w t => OnPaymentSucceeded.step w t .ok) 3 w (.called payload)

/-- The listener runs when the handler emits. -/
def handleWebhook (w : World) (payload : CampayWebhookPayload) : World :=
  drive (fun w t => (CollectWebhook.step w t .ok).map fun r => (r.2.2.elim r.1 (onPaymentSucceeded r.1), r.2.1)) 5 w
    (.received payload)

def handleTransferWebhook (w : PayoutWorld) (payload : CampayWebhookPayload) : PayoutWorld :=
  drive (fun w t => TransferWebhook.step w t .ok) 4 w (.received payload)

def handleRefundWebhook (w : World) (payload : CampayWebhookPayload) : World :=
  drive (fun w t => RefundWebhook.step w t .ok) 4 w (.received payload)

/-- An endpoint: the guard, then the handler on the body. -/
def receive {σ : Type} (verify : JwtVerify) (secret : Option String) (handle : σ → CampayWebhookPayload → σ) (w : σ)
    (req : WebhookRequest) : Except Unauthorized σ :=
  match canActivate verify secret req with
  | .error err => .error err
  | .ok () => .ok (handle w req.body)

end ChopNow
