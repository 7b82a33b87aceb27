import ChopNow.Spec.Api
import ChopNow.Spec.Push

/-! Order notifications: OrderNotificationsService puts a job into the queue for each event, and
OrderNotificationsProcessor works it, three times at most. -/

namespace ChopNow

open Interleave

inductive NotificationKind
  | vendorNewOrder | consumerOrderRefused
  deriving DecidableEq, Repr

/-- `vno:${orderId}` and `cor:${orderId}`. -/
abbrev NotificationJobId := NotificationKind × OrderId

/-- `reason` is of refusals only. -/
structure OrderNotificationJobData where
  kind : NotificationKind
  orderId : OrderId
  reason : String
  deriving DecidableEq, Repr

def OrderNotificationJobData.jobId (data : OrderNotificationJobData) : NotificationJobId := (data.kind, data.orderId)

def NOTIFICATION_ATTEMPTS : ℕ := 3

def NOTIFICATION_REMOVE_ON_FAIL : ℕ := 1000

/-! The texts. -/

structure NotifiedVendor where
  userId : UserId
  name : String
  whatsappPhone : String
  deriving DecidableEq, Repr

/-- An order with the columns and relations that the processor selects. -/
structure NotifiedOrder where
  id : OrderId
  code : String
  totalXAF : ℤ
  paymentMethod : PaymentMethod
  quantities : List ℤ
  vendor : NotifiedVendor
  userPhone : Option Phone
  deriving DecidableEq, Repr

/-- The digits in groups of three, from the right. -/
def groupThousands : List Char → List Char
  | a :: b :: c :: d :: rest => a :: b :: c :: '\u202F' :: groupThousands (d :: rest)
  | digits => digits

/-- `toLocaleString('fr-FR')` of an integer. -/
def toLocaleStringFr (n : ℤ) : String :=
  let digits := String.ofList (groupThousands (Nat.toDigits 10 n.natAbs).reverse).reverse
  if n < 0 then "-" ++ digits else digits

def NotifiedOrder.itemCount (order : NotifiedOrder) : ℤ := order.quantities.sum

def NotifiedOrder.paymentLabel (order : NotifiedOrder) : String :=
  if order.paymentMethod = .orangeMoney then "Payé via Orange Money" else "Payé via MTN MoMo"

def NotifiedOrder.summary (order : NotifiedOrder) : String :=
  s!"{order.itemCount} plat" ++ (if 1 < order.itemCount then "s" else "") ++
    s!" · {toLocaleStringFr order.totalXAF} FCFA · {order.paymentLabel}"

structure WebPushPayload where
  title : String
  body : String
  deepLink : String
  deriving DecidableEq, Repr

def NotifiedOrder.pushPayload (order : NotifiedOrder) : WebPushPayload where
  title := s!"🍲 Nouvelle commande {order.code}"
  body := order.summary
  deepLink := s!"/vendor/commande/{order.id}"

def NotifiedOrder.newOrderBody (order : NotifiedOrder) : String :=
  s!"🍲 Nouvelle commande {order.code}\n{order.summary}\n\n" ++
    s!"Tu as 60 secondes pour accepter :\ntchopnow.app/vendor/commande/{order.id}"

/-- `reason.split(':')`. -/
def splitReason (reason : String) : List (List Char) := reason.toList.splitOn ':'

def REASON_LABELS : List (String × String) :=
  [("ITEM_OUT_OF_STOCK", "Le plat commandé est épuisé."), ("CLOSED", "Le restaurant est actuellement fermé."),
    ("TOO_MANY_ORDERS", "Le restaurant est trop chargé pour le moment."),
    ("POWER_OUTAGE", "Le restaurant fait face à une coupure de courant."), ("OTHER", "Autre motif (voir détail dans l'app)."),
    (EXPIRED_REASON, "Le restaurant n'a pas répondu dans le temps imparti — il était probablement très occupé.")]

def reasonText (code : String) : String :=
  match REASON_LABELS.find? fun entry => entry.1 == code with
  | none => "La commande a été refusée."
  | some entry => entry.2

def humanizeReason (reason : String) : String :=
  match splitReason reason with
  | [] => reasonText ""
  | code :: rest =>
    let note := String.ofList (trim ([':'].intercalate rest))
    let label := reasonText (String.ofList (trim code))
    if note = "" then label else s!"{label} ({note})"

def NotifiedOrder.refusedBody (order : NotifiedOrder) (reason : String) : String :=
  s!"Bonjour 👋 Désolé, {order.vendor.name} n'a pas pu prendre ta commande {order.code}.\n" ++
    s!"{humanizeReason reason}\n" ++
    "Aucun montant débité. Tu peux réessayer avec un autre restaurant : tchopnow.app/restaurants 🍲"

/-! The queue and its worker. -/

/-- What has gone out: a notification that a push service took or refused, or a message that Twilio
made, whose answer came back or did not. -/
inductive Ping
  | push (subscription : PushSubscription) (payload : WebPushPayload) (taken : Bool)
  | whatsApp (toE164 body : String) (answered : Bool)
  deriving DecidableEq, Repr

/-- `serial` counts the jobs that were added, `pings` are what each has sent; the code keeps neither. -/
structure NotificationDb where
  push : PushDb
  orders : List NotifiedOrder
  waiting : List NotificationJobId
  failed : List NotificationJobId
  serial : ℕ
  pings : List (ℕ × Ping)

def NotificationDb.findOrder (db : NotificationDb) (orderId : OrderId) : Option NotifiedOrder :=
  db.orders.find? fun order => order.id == orderId

structure NotificationJob where
  serial : ℕ
  data : OrderNotificationJobData
  attemptsMade : ℕ
  deriving DecidableEq, Repr

/-- Where an attempt stands. A job that ends with nobody to reach is `skipped`. -/
inductive AttemptPoint
  | waits
  | findOrder
  | sendToUser (order : NotifiedOrder) (send : SendToUser)
  | sendWhatsApp (toE164 body : String)
  | completed (skipped : Bool)
  | failed
  deriving DecidableEq, Repr

structure JobRun where
  job : NotificationJob
  point : AttemptPoint
  deriving DecidableEq, Repr

inductive NotificationReply
  | ok
  | fail
  | push (reply : PushReply)
  /-- Twilio throws; it may have made the message all the same. -/
  | threw (made : Bool)
  deriving Repr

/-- `removeOnComplete`. -/
def NotificationDb.complete (db : NotificationDb) (t : JobRun) (skipped : Bool) : NotificationDb × JobRun :=
  ({ db with waiting := db.waiting.erase t.job.data.jobId }, { t with point := .completed skipped })

/-- An attempt that throws is made again, or the job goes into the failed lane. -/
def NotificationDb.retry (db : NotificationDb) (t : JobRun) : NotificationDb × JobRun :=
  let attemptsMade := t.job.attemptsMade + 1
  let job := { t.job with attemptsMade }
  if attemptsMade < NOTIFICATION_ATTEMPTS then (db, ⟨job, .waits⟩)
  else
    ({ db with
        waiting := db.waiting.erase t.job.data.jobId
        failed := (t.job.data.jobId :: db.failed).take NOTIFICATION_REMOVE_ON_FAIL },
      ⟨job, .failed⟩)

def NotificationDb.send (db : NotificationDb) (t : JobRun) (ping : Ping) : NotificationDb :=
  { db with pings := db.pings ++ [(t.job.serial, ping)] }

/-- The notification that the push service answers for. -/
def SendToUser.delivers (send : SendToUser) (order : NotifiedOrder) : PushReply → List Ping
  | .answered i answer =>
    match send with
    | .sending deliveries =>
      (deliveries[i]?.toList).map fun d => .push d.subscription order.pushPayload (answer == .fulfilled)
    | _ => []
  | _ => []

/-- `handleVendorNewOrder`, after the push. -/
def NotificationDb.afterPush (db : NotificationDb) (t : JobRun) (order : NotifiedOrder) : SendToUser → NotificationDb × JobRun
  | .threw => db.retry t
  | .done result =>
    if 0 < result.sent then db.complete t false
    else if order.vendor.whatsappPhone = "" then db.complete t true
    else (db, { t with point := .sendWhatsApp order.vendor.whatsappPhone order.newOrderBody })
  | send => (db, { t with point := .sendToUser order send })

def JobRun.step (db : NotificationDb) (t : JobRun) : NotificationReply → Option (NotificationDb × JobRun)
  | .ok =>
    match t.point with
    | .waits => some (db, { t with point := .findOrder })
    | .findOrder =>
      match t.job.data.kind, db.findOrder t.job.data.orderId with
      | _, none => some (db.complete t true)
      | .vendorNewOrder, some order => some (db, { t with point := .sendToUser order (.called order.vendor.userId) })
      | .consumerOrderRefused, some order =>
        match order.userPhone with
        | none | some "" => some (db.complete t true)
        | some phone => some (db, { t with point := .sendWhatsApp phone (order.refusedBody t.job.data.reason) })
    | .sendWhatsApp toE164 body => some ((db.send t (.whatsApp toE164 body true)).complete t false)
    | _ => none
  | .fail =>
    match t.point with
    | .findOrder => some (db.retry t)
    | _ => none
  | .push reply =>
    match t.point with
    | .sendToUser order send =>
      (send.step db.push reply).map fun r =>
        ({ db with push := r.1, pings := db.pings ++ (send.delivers order reply).map (Prod.mk t.job.serial) }).afterPush t order r.2
    | _ => none
  | .threw made =>
    match t.point with
    | .sendWhatsApp toE164 body =>
      some ((if made then db.send t (.whatsApp toE164 body false) else db).retry t)
    | _ => none

/-- A job whose id is there already is not added. -/
def NotificationDb.add (db : NotificationDb) (data : OrderNotificationJobData) (added : Bool) : NotificationDb × List JobRun :=
  if !added || db.waiting.contains data.jobId || db.failed.contains data.jobId then (db, [])
  else ({ db with waiting := data.jobId :: db.waiting, serial := db.serial + 1 }, [⟨⟨db.serial, data, 0⟩, .waits⟩])

end ChopNow
