import ChopNow.Proofs.PushCleanup
import ChopNow.Spec.Notifications

/-! What comes of a notification: one push or one WhatsApp message, and a second one only after a
message whose answer never came. -/

namespace ChopNow

open Interleave

/-! What has gone out. -/

/-- A push service took it. -/
def Ping.isTaken : Ping → Bool
  | .push _ _ taken => taken
  | .whatsApp .. => false

def Ping.isAnswered : Ping → Bool
  | .push .. => false
  | .whatsApp _ _ answered => answered

def Ping.isLost : Ping → Bool
  | .push .. => false
  | .whatsApp _ _ answered => !answered

def NotificationDb.pingsOf (db : NotificationDb) (serial : ℕ) : List Ping :=
  (db.pings.filter fun entry => entry.1 == serial).map Prod.snd

/-- It speaks of the job's order, to whoever the job is for. -/
inductive Ping.About (data : OrderNotificationJobData) : Ping → Prop
  | push {order : NotifiedOrder} {s : PushSubscription} {taken : Bool} (horder : order.id = data.orderId)
      (hkind : data.kind = .vendorNewOrder) (huser : s.userId = order.vendor.userId) :
      About data (.push s order.pushPayload taken)
  | newOrder {order : NotifiedOrder} {answered : Bool} (horder : order.id = data.orderId) (hkind : data.kind = .vendorNewOrder) :
      About data (.whatsApp order.vendor.whatsappPhone order.newOrderBody answered)
  | refused {order : NotifiedOrder} {phone : Phone} {answered : Bool} (horder : order.id = data.orderId)
      (hkind : data.kind = .consumerOrderRefused) (hphone : order.userPhone = some phone) :
      About data (.whatsApp phone (order.refusedBody data.reason) answered)

def Silent (pings : List Ping) : Prop := ∀ ping ∈ pings, ping.isTaken = false ∧ ping.isAnswered = false

/-- Pushes, or one message that Twilio answered for, after which nothing more was sent. -/
inductive Arrived (pings : List Ping) : Prop
  | push (hpush : ∃ ping ∈ pings, ping.isTaken = true) (hnone : ∀ ping ∈ pings, ping.isAnswered = false)
  | whatsApp {earlier : List Ping} {last : Ping} (heq : pings = earlier ++ [last]) (hsilent : Silent earlier)
      (hanswered : last.isAnswered = true)

def Delivery.reached (d : Delivery) : Bool := d.result == some .fulfilled

def SendToUser.reached : SendToUser → Bool
  | .sending deliveries => deliveries.any Delivery.reached
  | .settling rest result => 0 < result.sent || rest.any Delivery.reached
  | .done result => 0 < result.sent
  | _ => false

def SendToUser.To (userId : UserId) : SendToUser → Prop
  | .called user => user = userId
  | .sending deliveries => ∀ d ∈ deliveries, d.subscription.userId = userId
  | _ => True

/-- What the pings of a job are at each point of it. -/
def AttemptPoint.Tells (data : OrderNotificationJobData) (pings : List Ping) : AttemptPoint → Prop
  | .sendToUser order send => (order.id = data.orderId ∧ data.kind = .vendorNewOrder ∧ send.To order.vendor.userId) ∧
      (∀ ping ∈ pings, ping.isAnswered = false) ∧ ((∃ ping ∈ pings, ping.isTaken = true) ↔ send.reached = true)
  | .sendWhatsApp toE164 body => (∀ answered, Ping.About data (.whatsApp toE164 body answered)) ∧ Silent pings
  | .completed false => Arrived pings
  | _ => Silent pings

structure JobRun.Sound (db : NotificationDb) (t : JobRun) : Prop where
  known : t.job.serial < db.serial
  about : ∀ ping ∈ db.pingsOf t.job.serial, ping.About t.job.data
  lost : (db.pingsOf t.job.serial).countP Ping.isLost ≤ t.job.attemptsMade
  attempts : if t.point = .failed then t.job.attemptsMade = NOTIFICATION_ATTEMPTS else t.job.attemptsMade < NOTIFICATION_ATTEMPTS
  tells : t.point.Tells t.job.data (db.pingsOf t.job.serial)

section

variable {db db' : NotificationDb} {t t' u : JobRun} {e : NotificationReply} {data : OrderNotificationJobData}
  {pings : List Ping} {order : NotifiedOrder} {send send' : SendToUser} {push push' : PushDb} {reply : PushReply} {serial : ℕ}

theorem pingsOf_append (h : db'.pings = db.pings ++ pings.map (Prod.mk t.job.serial)) (serial : ℕ) :
    db'.pingsOf serial = db.pingsOf serial ++ if serial = t.job.serial then pings else [] := by
  simp only [NotificationDb.pingsOf, h, List.filter_append, List.map_append]
  congr 1
  split
  next heq =>
    subst heq
    simp [List.filter_map, Function.comp_def]
  next hne => simp [List.filter_map, Function.comp_def, Ne.symm hne]

/-- A step writes of its own job only. -/
structure JobRun.Wrote (db : NotificationDb) (t : JobRun) (db' : NotificationDb) (pings : List Ping) : Prop where
  serial : db'.serial = db.serial
  pings : db'.pings = db.pings ++ pings.map (Prod.mk t.job.serial)

theorem JobRun.Wrote.refl (db : NotificationDb) (t : JobRun) : t.Wrote db db [] := ⟨rfl, (List.append_nil _).symm⟩

theorem JobRun.Wrote.mine (h : t.Wrote db db' pings) : db'.pingsOf t.job.serial = db.pingsOf t.job.serial ++ pings := by
  rw [pingsOf_append h.pings, if_pos rfl]

theorem JobRun.Wrote.other (h : t.Wrote db db' pings) (hne : serial ≠ t.job.serial) : db'.pingsOf serial = db.pingsOf serial := by
  rw [pingsOf_append h.pings, if_neg hne, List.append_nil]

theorem JobRun.Wrote.complete (h : t.Wrote db db' pings) (skipped : Bool) : t.Wrote db (db'.complete t skipped).1 pings :=
  ⟨h.serial, h.pings⟩

theorem JobRun.Wrote.retry (h : t.Wrote db db' pings) : t.Wrote db (db'.retry t).1 pings := by
  unfold NotificationDb.retry
  dsimp only
  split <;> exact ⟨h.serial, h.pings⟩

/-! The push. -/

theorem Silent.append (h : Silent pings) {ping : Ping} (hpush : ping.isTaken = false) (hanswered : ping.isAnswered = false) :
    Silent (pings ++ [ping]) := by
  intro p hp
  rcases List.mem_append.1 hp with hp | hp
  · exact h p hp
  · obtain rfl := List.mem_singleton.1 hp
    exact ⟨hpush, hanswered⟩

/-- Whatever it has sent is about its order. -/
structure JobRun.Sent (db : NotificationDb) (t : JobRun) (pings : List Ping) : Prop where
  known : t.job.serial < db.serial
  about : ∀ ping ∈ pings, ping.About t.job.data
  again : t.job.attemptsMade < NOTIFICATION_ATTEMPTS

theorem JobRun.Sent.complete (h : t.Sent db (db'.pingsOf t.job.serial)) {skipped : Bool} (hserial : db'.serial = db.serial)
    (hlost : (db'.pingsOf t.job.serial).countP Ping.isLost ≤ t.job.attemptsMade)
    (htells : (AttemptPoint.completed skipped).Tells t.job.data (db'.pingsOf t.job.serial)) :
    (db'.complete t skipped).2.Sound (db'.complete t skipped).1 :=
  ⟨hserial ▸ h.known, h.about, hlost, by simpa [NotificationDb.complete] using h.again, htells⟩

theorem JobRun.Sent.retry (h : t.Sent db (db'.pingsOf t.job.serial)) (hserial : db'.serial = db.serial)
    (hlost : (db'.pingsOf t.job.serial).countP Ping.isLost ≤ t.job.attemptsMade + 1)
    (hsilent : Silent (db'.pingsOf t.job.serial)) : (db'.retry t).2.Sound (db'.retry t).1 := by
  have hknown : t.job.serial < db'.serial := hserial ▸ h.known
  unfold NotificationDb.retry
  dsimp only
  split
  next hmore => exact ⟨hknown, h.about, hlost, hmore, hsilent⟩
  next hlast => exact ⟨hknown, h.about, hlost, Nat.le_antisymm h.again (not_lt.1 hlast), hsilent⟩

theorem JobRun.Wrote.afterPush (h : t.Wrote db db' pings) (order : NotifiedOrder) (send : SendToUser) :
    t.Wrote db (db'.afterPush t order send).1 pings := by
  unfold NotificationDb.afterPush
  split
  · exact h.retry
  · split
    · exact h.complete false
    · split
      · exact h.complete true
      · exact h
  · exact h

theorem JobRun.Sound.sent (h : t.Sound db) (hpoint : t.point ≠ .failed) : t.Sent db (db.pingsOf t.job.serial) where
  known := h.known
  about := h.about
  again := by simpa [hpoint] using h.attempts

def NotificationDb.Counted (db : NotificationDb) : Prop := ∀ entry ∈ db.pings, entry.1 < db.serial

theorem NotificationDb.Counted.step (h : db.Counted) (ht : t.job.serial < db.serial) (hwrote : t.Wrote db db' pings) :
    db'.Counted := by
  intro entry hentry
  rw [hwrote.pings] at hentry
  rw [hwrote.serial]
  rcases List.mem_append.1 hentry with hold | hnew
  · exact h entry hold
  · obtain ⟨ping, -, rfl⟩ := List.mem_map.1 hnew
    exact ht

theorem JobRun.Sound.keep (h : u.Sound db) (hserial : db.serial ≤ db'.serial)
    (hpings : db'.pingsOf u.job.serial = db.pingsOf u.job.serial) : u.Sound db' where
  known := h.known.trans_le hserial
  about := hpings ▸ h.about
  lost := hpings ▸ h.lost
  attempts := h.attempts
  tells := hpings ▸ h.tells

def JobRun.key (t : JobRun) : Option ℕ := some t.job.serial

theorem Silent.unanswered (h : Silent pings) : ∀ ping ∈ pings, ping.isAnswered = false := fun ping hping => (h ping hping).2

/-- No message was answered for, or the last thing that was sent. -/
theorem AttemptPoint.Tells.once {point : AttemptPoint} (h : point.Tells data pings) :
    (∀ ping ∈ pings, ping.isAnswered = false) ∨ point = .completed false ∧
      ∃ earlier last, pings = earlier ++ [last] ∧ Silent earlier ∧ last.isAnswered = true := by
  cases point with
  | sendToUser order send => exact .inl h.2.1
  | sendWhatsApp toE164 body => exact .inl h.2.unanswered
  | completed skipped =>
    cases skipped with
    | true => exact .inl (Silent.unanswered h)
    | false =>
      cases h with
      | push hpush hnone => exact .inl hnone
      | whatsApp heq hsilent hanswered => exact .inr ⟨rfl, _, _, heq, hsilent, hanswered⟩
  | _ => exact .inl (Silent.unanswered h)

theorem AttemptPoint.Tells.last {point : AttemptPoint} (h : point.Tells data pings) {earlier later : List Ping} {ping : Ping}
    (heq : pings = earlier ++ ping :: later) (hanswered : ping.isAnswered = true) : later = [] := by
  rcases h.once with hnone | ⟨-, before, last, heq', hsilent, -⟩
  · have hquiet := hnone ping (by rw [heq]; simp)
    simp [hquiet] at hanswered
  · by_contra hlater
    have hcut := congrArg List.dropLast (heq.symm.trans heq')
    rw [List.dropLast_concat, List.dropLast_append_of_ne_nil (by simp), List.dropLast_cons_of_ne_nil hlater] at hcut
    have hquiet := (hsilent ping (by rw [← hcut]; simp)).2
    simp [hquiet] at hanswered

/-- The devices that `sendToUser` writes to. -/
def PushDb.recipients (db : PushDb) (userId : UserId) : List PushSubscription :=
  if db.configured then db.listForUser userId else []

section

variable (passed : (Pool NotificationDb JobRun → Prop) → Prop)

/-- At this point of the same attempt the tables were so. -/
def JobRun.Found (t : JobRun) (point : AttemptPoint) (Q : NotificationDb → Prop) : Prop :=
  passed fun p => { t with point } ∈ p.threads ∧ Q p.shared

/-- The order is gone, its consumer has no phone, or its vendor no number and no device that takes a
notification. -/
inductive NobodyToReach (t : JobRun) (pings : List Ping) : Prop
  | noOrder (hnone : t.Found passed .findOrder fun db => db.findOrder t.job.data.orderId = none)
  | noPhone {order : NotifiedOrder} (hkind : t.job.data.kind = .consumerOrderRefused)
      (horder : t.Found passed .findOrder fun db => db.findOrder t.job.data.orderId = some order)
      (hphone : order.userPhone = none ∨ order.userPhone = some "")
  | noNumber {order : NotifiedOrder} {devices : List PushSubscription} (hkind : t.job.data.kind = .vendorNewOrder)
      (horder : t.Found passed .findOrder fun db => db.findOrder t.job.data.orderId = some order)
      (hnumber : order.vendor.whatsappPhone = "")
      (hlisted : t.Found passed (.sendToUser order (.called order.vendor.userId)) fun db =>
        db.push.recipients order.vendor.userId = devices)
      (hrefused : ∀ s ∈ devices, .push s order.pushPayload false ∈ pings)

/-- Every device that was listed has been tried, or is about to be. -/
def SendToUser.Tried (listed : List PushSubscription → Prop) (tried : PushSubscription → Prop) : SendToUser → Prop
  | .sending deliveries => listed (deliveries.map (·.subscription)) ∧
      ∀ d ∈ deliveries, d.result.isSome = true → tried d.subscription
  | .settling _ _ | .done _ => ∃ devices, listed devices ∧ ∀ s ∈ devices, tried s
  | _ => True

def JobRun.Seen (t : JobRun) (pings : List Ping) : Prop :=
  match t.point with
  | .sendToUser order send =>
    (t.Found passed .findOrder fun db => db.findOrder t.job.data.orderId = some order) ∧
    send.Tried (fun devices => t.Found passed (.sendToUser order (.called order.vendor.userId)) fun db =>
      db.push.recipients order.vendor.userId = devices) fun s => ∃ taken, .push s order.pushPayload taken ∈ pings
  | .completed true => NobodyToReach passed t pings
  | _ => True

variable {passed} {passed' : (Pool NotificationDb JobRun → Prop) → Prop}

theorem SendToUser.Tried.mono {listed listed' : List PushSubscription → Prop} {tried tried' : PushSubscription → Prop}
    (h : send.Tried listed tried) (hlisted : ∀ devices, listed devices → listed' devices)
    (htried : ∀ s, tried s → tried' s) : send.Tried listed' tried' := by
  cases send with
  | sending deliveries => exact ⟨hlisted _ h.1, fun d hd hs => htried _ (h.2 d hd hs)⟩
  | settling rest result | done result =>
    obtain ⟨devices, hdevices, hall⟩ := h
    exact ⟨devices, hlisted _ hdevices, fun s hs => htried _ (hall s hs)⟩
  | _ => trivial

theorem JobRun.Seen.mono (h : t.Seen passed pings) (hpassed : ∀ Q, passed Q → passed' Q) : t.Seen passed' pings := by
  obtain ⟨job, point⟩ := t
  cases point with
  | sendToUser order send => exact ⟨hpassed _ h.1, h.2.mono (fun _ => hpassed _) fun _ => id⟩
  | completed skipped =>
    cases skipped with
    | false => trivial
    | true =>
      cases h with
      | noOrder hnone => exact .noOrder (hpassed _ hnone)
      | noPhone hkind horder hphone => exact .noPhone hkind (hpassed _ horder) hphone
      | noNumber hkind horder hnumber hlisted hrefused =>
        exact .noNumber hkind (hpassed _ horder) hnumber (hpassed _ hlisted) hrefused
  | _ => trivial

end

end

/-! A phone whose endpoint is gone, and a Twilio that throws the first time. -/

end ChopNow
