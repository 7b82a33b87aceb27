import ChopNow.Lib.Interleave
import ChopNow.Spec.Schema

/-! Web Push: PushSubscriptionsService keeps a row for each device of a user, and
WebPushService sends to all of them and removes those whose endpoint is gone. -/

namespace ChopNow

open Interleave

abbrev SubscriptionId := ℕ
abbrev Endpoint := String
abbrev DeviceFingerprint := String

structure PushKeys where
  p256dh : String
  auth : String
  deriving DecidableEq, Repr

structure SubscribePushDto where
  endpoint : Endpoint
  keys : PushKeys
  deviceFingerprint : DeviceFingerprint
  deriving DecidableEq, Repr

structure PushSubscription where
  id : SubscriptionId
  userId : UserId
  deviceFingerprint : DeviceFingerprint
  endpoint : Endpoint
  keys : PushKeys
  deriving DecidableEq, Repr

/-- The table; `nextId` is the id that no row has had. `reported` are the endpoints that the push
service has answered 404 or 410 for; the code does not keep it. -/
structure PushDb where
  configured : Bool
  rows : List PushSubscription
  nextId : SubscriptionId
  reported : List Endpoint
  deriving DecidableEq, Repr

/-! PushSubscriptionsService. -/

/-- `where: { userId_deviceFingerprint }`. -/
def PushSubscription.isOf (row : PushSubscription) (userId : UserId) (dto : SubscribePushDto) : Bool :=
  row.userId == userId && row.deviceFingerprint == dto.deviceFingerprint

def PushSubscription.update (row : PushSubscription) (dto : SubscribePushDto) : PushSubscription :=
  { row with endpoint := dto.endpoint, keys := dto.keys }

def PushDb.upsert (db : PushDb) (userId : UserId) (dto : SubscribePushDto) : PushDb :=
  if db.rows.any fun row => row.isOf userId dto then
    { db with rows := db.rows.map fun row => if row.isOf userId dto then row.update dto else row }
  else
    { db with
      rows := db.rows ++ [⟨db.nextId, userId, dto.deviceFingerprint, dto.endpoint, dto.keys⟩]
      nextId := db.nextId + 1 }

def PushDb.deactivateByEndpoint (db : PushDb) (userId : UserId) (endpoint : Endpoint) : PushDb :=
  { db with rows := db.rows.filter fun row => !(row.userId == userId && row.endpoint == endpoint) }

def PushDb.deactivateById (db : PushDb) (id : SubscriptionId) : PushDb :=
  { db with rows := db.rows.filter fun row => row.id != id }

def PushDb.listForUser (db : PushDb) (userId : UserId) : List PushSubscription :=
  db.rows.filter fun row => row.userId == userId

/-! WebPushService. -/

/-- How the promise of `webpush.sendNotification` settles. -/
inductive PushAnswer
  | fulfilled
  | rejected (statusCode : Option ℕ)
  deriving DecidableEq, Repr

def PushAnswer.isGone : PushAnswer → Bool
  | .rejected (some statusCode) => statusCode == 404 || statusCode == 410
  | _ => false

structure Delivery where
  subscription : PushSubscription
  result : Option PushAnswer := none
  deriving DecidableEq, Repr

structure SendResult where
  sent : ℕ := 0
  deactivated : ℕ := 0
  deriving DecidableEq, Repr

inductive SendToUser
  | called (userId : UserId)
  | sending (deliveries : List Delivery)
  | settling (rest : List Delivery) (result : SendResult)
  | done (result : SendResult)
  | threw
  deriving DecidableEq, Repr

/-- A statement lands or throws, or the push service answers for one delivery. -/
inductive PushReply
  | ok
  | fail
  | answered (i : ℕ) (answer : PushAnswer)
  deriving Repr

def SendToUser.step (db : PushDb) : SendToUser → PushReply → Option (PushDb × SendToUser)
  | .called userId, .ok =>
    let subscriptions := db.listForUser userId
    some (db, if !db.configured || subscriptions.isEmpty then .done {}
      else .sending (subscriptions.map fun s => { subscription := s }))
  | .called _, .fail => some (db, .threw)
  | .sending deliveries, .answered i answer =>
    match deliveries[i]? with
    | some ⟨s, none⟩ =>
      some ({ db with reported := if answer.isGone then s.endpoint :: db.reported else db.reported },
        .sending (deliveries.set i ⟨s, some answer⟩))
    | _ => none
  -- `Promise.allSettled`
  | .sending deliveries, .ok => if deliveries.all fun d => d.result.isSome then some (db, .settling deliveries {}) else none
  | .settling [] result, .ok => some (db, .done result)
  | .settling (⟨s, some answer⟩ :: rest) result, reply =>
    match answer, reply with
    | .fulfilled, .ok => some (db, .settling rest { result with sent := result.sent + 1 })
    | .rejected status, .ok =>
      if (PushAnswer.rejected status).isGone then
        some (db.deactivateById s.id, .settling rest { result with deactivated := result.deactivated + 1 })
      else some (db, .settling rest result)
    -- a row that is gone already throws, and that is caught
    | .rejected status, .fail =>
      if (PushAnswer.rejected status).isGone then
        some (db, .settling rest { result with deactivated := result.deactivated + 1 })
      else none
    | _, _ => none
  | _, _ => none

/-! Calls, and the requests of the user's devices. -/

inductive PushCall
  | sendToUser (userId : UserId)
  | subscribe (userId : UserId) (dto : SubscribePushDto)
  | unsubscribe (userId : UserId) (endpoint : Endpoint)
  deriving Repr

def pushEvent (db : PushDb) : PushCall → PushDb × List SendToUser
  | .sendToUser userId => (db, [.called userId])
  | .subscribe userId dto => (db.upsert userId dto, [])
  | .unsubscribe userId endpoint => (db.deactivateByEndpoint userId endpoint, [])

def pushMachine : Machine PushDb SendToUser PushCall PushReply where
  event db call := some (pushEvent db call)
  step db t e := (t.step db e).map fun r => (r.1, [r.2])

end ChopNow
