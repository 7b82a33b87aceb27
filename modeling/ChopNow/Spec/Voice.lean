import ChopNow.Lib.Interleave
import ChopNow.Lib.QueryString
import ChopNow.Spec.Payment

/-! VoiceProxyService, its controller and the guard of its webhook: who may have Twilio call whom,
and which number Twilio is told when it asks. Order ids are texts here, because they travel in a URL. -/

namespace ChopNow

open Interleave

/-- The columns of the rows that a call is about. -/
structure CallUser where
  id : UserId
  phone : Option Phone
  deriving DecidableEq, Repr

structure CallVendor where
  id : VendorId
  userId : UserId
  whatsappPhone : Phone
  deriving DecidableEq, Repr

structure CallRider where
  id : RiderId
  userId : UserId
  deriving DecidableEq, Repr

structure CallOrder where
  id : String
  status : OrderStatus
  userId : UserId
  vendorId : VendorId
  riderId : Option RiderId
  deliveryPhone : Phone
  deriving DecidableEq, Repr

structure CallTables where
  users : List CallUser
  vendors : List CallVendor
  riders : List CallRider
  orders : List CallOrder
  vendorIds : (vendors.map (·.id)).Nodup
  riderIds : (riders.map (·.id)).Nodup
  orderIds : (orders.map (·.id)).Nodup

inductive CallTarget
  | consumer | vendor | rider
  deriving DecidableEq, Repr

def CallTarget.text : CallTarget → String
  | .consumer => "consumer"
  | .vendor => "vendor"
  | .rider => "rider"

/-- ALL_LIVE_STATUSES, and RIDER_INVOLVED_STATUSES. -/
def OrderStatus.live (status : OrderStatus) : Bool :=
  status == .accepted || status == .inPrep || status == .readyPickup || status == .pickedUp

/-- What the rest of the system may write: it keeps the rows, their owners and who is called for an
order, but may change its status and its rider, and every phone number of a user or a vendor. -/
def CallTables.Becomes (t t' : CallTables) : Prop :=
  (∀ v ∈ t.vendors, ∃ v' ∈ t'.vendors, v'.id = v.id ∧ v'.userId = v.userId) ∧
    (∀ r ∈ t.riders, ∃ r' ∈ t'.riders, r'.id = r.id ∧ r'.userId = r.userId) ∧
    ∀ o ∈ t.orders, ∃ o' ∈ t'.orders, o'.id = o.id ∧ o'.userId = o.userId ∧ o'.vendorId = o.vendorId

instance (t t' : CallTables) : Decidable (t.Becomes t') := inferInstanceAs (Decidable (_ ∧ _))

/-! Twilio. -/

structure TwilioEnv where
  production : Bool
  appUrl : String
  authToken : Option String
  voiceFrom : Option String

/-- A call that Twilio was asked for. `role` and `caller` say who asked, `checked` is the row that
let them. -/
structure PlacedCall where
  role : CallTarget
  target : CallTarget
  caller : UserId
  checked : CallOrder
  toPhone : Phone
  bridgeUrl : String
  deriving DecidableEq, Repr

inductive Twiml
  | hangup (message : String)
  | dial (copy callerId : String) (number : Phone)
  deriving DecidableEq, Repr

def Twiml.render : Twiml → String
  | .hangup message => String.join
      ["<?xml version=\"1.0\" encoding=\"UTF-8\"?>", "<Response>", s!"  <Say language=\"fr-FR\">{message}</Say>",
        "  <Hangup/>", "</Response>"]
  | .dial copy callerId number => String.join
      ["<?xml version=\"1.0\" encoding=\"UTF-8\"?>", "<Response>", s!"  <Say language=\"fr-FR\">{copy}</Say>",
        s!"  <Dial callerId=\"{callerId}\" timeout=\"30\" timeLimit=\"170\">", s!"    <Number>{number}</Number>",
        "  </Dial>", "</Response>"]

def TwilioEnv.buildBridgeUrl (env : TwilioEnv) (orderId : String) (target : CallTarget) : String :=
  env.appUrl ++ "/api/webhooks/twilio/voice/bridge" ++
    "?orderId=" ++ String.ofList (QueryString.encode orderId.toList) ++
    "&to=" ++ String.ofList (QueryString.encode target.text.toList)

/-! The state and the calls. -/

structure VoiceWorld where
  tables : CallTables
  placed : List PlacedCall

inductive VoiceError
  | rider_not_found
  | vendor_not_found
  | user_not_found
  | order_not_found
  | rider_not_assigned
  | caller_phone_missing
  | invalid_call_target
  | forbidden (message : String)
  | thrown (err : String)
  deriving DecidableEq, Repr

/-- Each is named after the statement that comes next. -/
inductive VoiceCall
  | requireRider (orderId : String) (userId : UserId)
  | requireOrderAssignedToRider (orderId : String) (userId : UserId) (riderId : RiderId) (phone : Option Phone)
  | requireVendor (target : CallTarget) (orderId : String) (userId : UserId)
  | requireOrderForVendor (target : CallTarget) (orderId : String) (userId : UserId) (vendorId : VendorId) (phone : Phone)
  | requireOrderForConsumer (target : CallTarget) (orderId : String) (userId : UserId)
  | requireConsumer (target : CallTarget) (order : CallOrder) (userId : UserId)
  | bridgeCall (role target : CallTarget) (order : CallOrder) (userId : UserId) (fromUserPhone : Option Phone)
  | buildBridgeTwiml (orderId : String) (target : CallTarget)
  | started (callSid : Reference)
  | twiml (response : Twiml)
  | failed (err : VoiceError)

def CallTables.findOrder (t : CallTables) (orderId : String) : Option CallOrder := t.orders.find? fun o => o.id == orderId

def CallTables.phoneOf (t : CallTables) (userId : UserId) : Option Phone :=
  (t.users.find? fun u => u.id == userId).bind (·.phone)

/-- What the three checks of an order have in common. -/
def requireOrder (order : Option CallOrder) (mine : CallOrder → Bool) (needRider : Bool) : Except VoiceError CallOrder :=
  match order with
  | none => .error .order_not_found
  | some order =>
    if !mine order then .error .order_not_found
    else if !order.status.live then .error .order_not_found
    else if needRider && order.riderId.isNone then .error .rider_not_assigned
    else .ok order

/-- `rider.user` of a join. -/
def CallTables.riderPhone (t : CallTables) (riderId : RiderId) : Option Phone :=
  (t.riders.find? fun r => r.id == riderId).bind fun r => t.phoneOf r.userId

/-- The number of the party that is to be called, and what is said first. -/
def CallTables.dialNumber (t : CallTables) (order : CallOrder) : CallTarget → Option Phone
  | .consumer => some order.deliveryPhone
  | .vendor => (t.vendors.find? fun v => v.id == order.vendorId).map (·.whatsappPhone)
  | .rider => order.riderId.bind t.riderPhone

def CallTarget.copy : CallTarget → String
  | .consumer => "Connexion avec votre client TchopNow."
  | .vendor => "Connexion avec le restaurant TchopNow."
  | .rider => "Connexion avec votre livreur TchopNow."

def TwilioEnv.twimlFor (env : TwilioEnv) (t : CallTables) (orderId : String) (target : CallTarget) : Twiml :=
  match t.findOrder orderId with
  | none => .hangup "La commande n'est plus active."
  | some order =>
    if !order.status.live then .hangup "La commande n'est plus active."
    else
      match t.dialNumber order target with
      | none | some "" => .hangup "Numéro indisponible."
      | some number => .dial target.copy (env.voiceFrom.getD "") (normalizePhone number)

/-- `!value` of a text that may be missing. -/
def present (value : Option String) : Option String := value.filter (· != "")

def VoiceCall.step (env : TwilioEnv) (s : VoiceWorld) : VoiceCall → Reply → Option (VoiceWorld × VoiceCall)
  | .requireRider orderId userId, .ok =>
    match s.tables.riders.find? fun r => r.userId == userId with
    | none => some (s, .failed .rider_not_found)
    | some rider => some (s, .requireOrderAssignedToRider orderId userId rider.id (s.tables.phoneOf rider.userId))
  | .requireOrderAssignedToRider orderId userId riderId phone, .ok =>
    match requireOrder (s.tables.findOrder orderId) (fun o => o.riderId == some riderId) false with
    | .error err => some (s, .failed err)
    | .ok order => some (s, .bridgeCall .rider .consumer order userId phone)
  | .requireVendor target orderId userId, .ok =>
    match s.tables.vendors.find? fun v => v.userId == userId with
    | none => some (s, .failed .vendor_not_found)
    | some vendor => some (s, .requireOrderForVendor target orderId userId vendor.id vendor.whatsappPhone)
  | .requireOrderForVendor target orderId userId vendorId phone, .ok =>
    match requireOrder (s.tables.findOrder orderId) (fun o => o.vendorId == vendorId) (target == .rider) with
    | .error err => some (s, .failed err)
    | .ok order => some (s, .bridgeCall .vendor target order userId (some phone))
  | .requireOrderForConsumer target orderId userId, .ok =>
    match requireOrder (s.tables.findOrder orderId) (fun o => o.userId == userId) (target == .rider) with
    | .error err => some (s, .failed err)
    | .ok order => some (s, .requireConsumer target order userId)
  | .requireConsumer target order userId, .ok =>
    match s.tables.users.find? fun u => u.id == userId with
    | none => some (s, .failed .user_not_found)
    | some user => some (s, .bridgeCall .consumer target order userId user.phone)
  | .bridgeCall role target order userId fromUserPhone, reply =>
    match present fromUserPhone, present env.voiceFrom, reply with
    | none, _, _ => some (s, .failed .caller_phone_missing)
    | some _, none, _ => some (s, .failed (.thrown "TWILIO_VOICE_FROM is not set"))
    | some phone, some _, .accepted callSid =>
      some ({ s with placed := s.placed ++
        [⟨role, target, userId, order, normalizePhone phone, env.buildBridgeUrl order.id target⟩] }, .started callSid)
    | some phone, some _, .lost _ err =>
      some ({ s with placed := s.placed ++
        [⟨role, target, userId, order, normalizePhone phone, env.buildBridgeUrl order.id target⟩] }, .failed (.thrown err))
    | some _, some _, .fail err => some (s, .failed (.thrown err))
    | some _, some _, _ => none
  | .buildBridgeTwiml orderId target, .ok => some (s, .twiml (env.twimlFor s.tables orderId target))
  | .started _, _ | .twiml _, _ | .failed _, _ => none
  | _, .fail err => some (s, .failed (.thrown err))
  | _, _ => none

/-! The endpoints. -/

inductive VoiceEvent
  | write (tables : CallTables)
  | startRiderToConsumer (orderId : String) (riderUserId : UserId)
  | startVendorToConsumer (orderId : String) (vendorUserId : UserId)
  | startVendorToRider (orderId : String) (vendorUserId : UserId)
  | startConsumerToVendor (orderId : String) (consumerUserId : UserId)
  | startConsumerToRider (orderId : String) (consumerUserId : UserId)
  | bridge (signature originalUrl : String) (params : List (String × String))

/-- The check of twilio's package: token, signature, url and form fields. -/
abbrev ValidateRequest := String → String → String → List (String × String) → Bool

def TwilioEnv.canActivate (env : TwilioEnv) (validateRequest : ValidateRequest) (signature originalUrl : String)
    (params : List (String × String)) : Except VoiceError Unit :=
  if !env.production then .ok ()
  else
    match present env.authToken with
    | none => .error (.forbidden "webhook not configured")
    | some authToken =>
      if signature = "" then .error (.forbidden "invalid twilio signature")
      else if !validateRequest authToken signature (env.appUrl ++ originalUrl) params then
        .error (.forbidden "invalid twilio signature")
      else .ok ()

def queryOf (url : String) : List Char := (url.toList.dropWhile (· != '?')).tail

/-- A URL without `to` is one for the consumer. -/
def parseTarget (raw : Option String) : Option CallTarget :=
  match ((raw.getD "consumer").toLower : String) with
  | "consumer" => some .consumer
  | "vendor" => some .vendor
  | "rider" => some .rider
  | _ => none

/-- The two query parameters; one that is there twice is an array, which nothing here takes. -/
def bridgeCallOf (originalUrl : String) : VoiceCall :=
  let query := queryOf originalUrl
  match QueryString.values "to".toList query, QueryString.values "orderId".toList query with
  | _ :: _ :: _, _ => .failed (.thrown "raw.toLowerCase is not a function")
  | targets, orderIds =>
    match parseTarget (targets.head?.map String.ofList) with
    | none => .failed .invalid_call_target
    | some target =>
      match orderIds with
      | [orderId] => .buildBridgeTwiml (String.ofList orderId) target
      | _ => .failed (.thrown "Invalid `prisma.order.findUnique()` invocation")

def voiceEvent (env : TwilioEnv) (validateRequest : ValidateRequest) (s : VoiceWorld) :
    VoiceEvent → Option (VoiceWorld × List VoiceCall)
  | .write tables => if s.tables.Becomes tables then some ({ s with tables }, []) else none
  | .startRiderToConsumer orderId riderUserId => some (s, [.requireRider orderId riderUserId])
  | .startVendorToConsumer orderId vendorUserId => some (s, [.requireVendor .consumer orderId vendorUserId])
  | .startVendorToRider orderId vendorUserId => some (s, [.requireVendor .rider orderId vendorUserId])
  | .startConsumerToVendor orderId consumerUserId => some (s, [.requireOrderForConsumer .vendor orderId consumerUserId])
  | .startConsumerToRider orderId consumerUserId => some (s, [.requireOrderForConsumer .rider orderId consumerUserId])
  | .bridge signature originalUrl params =>
    match env.canActivate validateRequest signature originalUrl params with
    | .error err => some (s, [.failed err])
    | .ok () => some (s, [bridgeCallOf originalUrl])

def voiceMachine (env : TwilioEnv) (validateRequest : ValidateRequest) : Machine VoiceWorld VoiceCall VoiceEvent Reply where
  event s n := voiceEvent env validateRequest s n
  step s t e := (t.step env s e).map fun r => (r.1, [r.2])

end ChopNow
