import ChopNow.Lib.Table
import ChopNow.Spec.Voice

/-! The masked calls. A number is told to Twilio only for a call that a party of the order had asked
for, and what Twilio sends back in the URL is what was put into it. -/

namespace ChopNow

open Interleave

/-! The URL of a call, there and back. -/

theorem parseTarget_text (target : CallTarget) : parseTarget (some target.text) = some target := by
  cases target <;> decide +kernel

def bridgeQuery (orderId : String) (target : CallTarget) : List (List Char × List Char) :=
  [("orderId".toList, orderId.toList), ("to".toList, target.text.toList)]

theorem format_bridgeQuery (orderId : String) (target : CallTarget) :
    QueryString.format (bridgeQuery orderId target) =
      "orderId=".toList ++ QueryString.encode orderId.toList ++ "&to=".toList ++ QueryString.encode target.text.toList := by
  have horderId : QueryString.encode "orderId".toList = "orderId".toList := by decide
  have hto : QueryString.encode "to".toList = "to".toList := by decide
  simp only [QueryString.format, bridgeQuery, List.map_cons, List.map_nil, QueryString.segment, horderId, hto]
  simp [List.intercalate]

theorem queryOf_bridgeUrl {env : TwilioEnv} {originalUrl orderId : String} {target : CallTarget}
    (h : env.appUrl ++ originalUrl = env.buildBridgeUrl orderId target) :
    queryOf originalUrl = QueryString.format (bridgeQuery orderId target) := by
  have horiginal : originalUrl.toList = "/api/webhooks/twilio/voice/bridge?".toList ++
      QueryString.format (bridgeQuery orderId target) := by
    have hchars := congrArg String.toList h
    simp only [TwilioEnv.buildBridgeUrl, String.toList_append, String.toList_ofList, List.append_assoc,
      List.append_cancel_left_eq] at hchars
    rw [hchars, format_bridgeQuery]
    simp
  rw [queryOf, horiginal]
  rfl

/-- What comes back is what was sent. -/
theorem bridgeCallOf_bridgeUrl {env : TwilioEnv} {originalUrl orderId : String} {target : CallTarget}
    (h : env.appUrl ++ originalUrl = env.buildBridgeUrl orderId target) :
    bridgeCallOf originalUrl = .buildBridgeTwiml orderId target := by
  have hto : QueryString.values "to".toList (queryOf originalUrl) = [target.text.toList] := by
    rw [queryOf_bridgeUrl h, QueryString.values_format]
    rfl
  have horderId : QueryString.values "orderId".toList (queryOf originalUrl) = [orderId.toList] := by
    rw [queryOf_bridgeUrl h, QueryString.values_format]
    rfl
  simp only [bridgeCallOf, hto, horderId, List.head?_cons, Option.map_some, String.ofList_toList, parseTarget_text]

/-! What the calls know. -/

/-- Who plays a part in an order; of its row this reads what never changes, but for the rider. -/
def CallTables.party (t : CallTables) (o : CallOrder) : CallTarget → Option UserId
  | .consumer => some o.userId
  | .vendor => (t.vendors.find? fun v => v.id == o.vendorId).map (·.userId)
  | .rider => o.riderId.bind fun riderId => (t.riders.find? fun r => r.id == riderId).map (·.userId)

/-- The row is still there, under the same owners. -/
def CallTables.Has (t : CallTables) (o : CallOrder) : Prop :=
  ∃ o' ∈ t.orders, o'.id = o.id ∧ o'.userId = o.userId ∧ o'.vendorId = o.vendorId

section

variable {t t' : CallTables} {o : CallOrder} {role target : CallTarget} {userId : UserId} {orderId : String}

theorem CallTables.Has.becomes (h : t.Has o) (ht : t.Becomes t') : t'.Has o := by
  obtain ⟨o₁, ho₁, hid₁, huser₁, hvendor₁⟩ := h
  obtain ⟨o₂, ho₂, hid₂, huser₂, hvendor₂⟩ := ht.2.2 o₁ ho₁
  exact ⟨o₂, ho₂, hid₂.trans hid₁, huser₂.trans huser₁, hvendor₂.trans hvendor₁⟩

theorem vendor_becomes (ht : t.Becomes t') {vendorId : VendorId}
    (h : (t.vendors.find? fun v => v.id == vendorId).map (·.userId) = some userId) :
    (t'.vendors.find? fun v => v.id == vendorId).map (·.userId) = some userId := by
  obtain ⟨v, hv, rfl⟩ := Option.map_eq_some_iff.1 h
  obtain rfl : v.id = vendorId := by simpa using List.find?_some hv
  obtain ⟨v', hv', hid, huser⟩ := ht.1 v (List.mem_of_find?_eq_some hv)
  rw [← hid, Table.find?_of_nodup t'.vendorIds hv', Option.map_some, huser]

theorem rider_becomes (ht : t.Becomes t') {riderId : RiderId}
    (h : (t.riders.find? fun r => r.id == riderId).map (·.userId) = some userId) :
    (t'.riders.find? fun r => r.id == riderId).map (·.userId) = some userId := by
  obtain ⟨r, hr, rfl⟩ := Option.map_eq_some_iff.1 h
  obtain rfl : r.id = riderId := by simpa using List.find?_some hr
  obtain ⟨r', hr', hid, huser⟩ := ht.2.1 r (List.mem_of_find?_eq_some hr)
  rw [← hid, Table.find?_of_nodup t'.riderIds hr', Option.map_some, huser]

theorem CallTables.party_becomes (ht : t.Becomes t') (h : t.party o role = some userId) : t'.party o role = some userId := by
  cases role with
  | consumer => exact h
  | vendor => exact vendor_becomes ht h
  | rider =>
    obtain ⟨riderId, hrider, hparty⟩ := Option.bind_eq_some_iff.1 h
    exact Option.bind_eq_some_iff.2 ⟨riderId, hrider, rider_becomes ht hparty⟩

end

/-! Moves. -/

/-- What one statement of a call does. -/
inductive VoiceMove (env : TwilioEnv) (s : VoiceWorld) : VoiceCall → VoiceWorld → VoiceCall → Prop
  | failed {call : VoiceCall} (err : VoiceError) : VoiceMove env s call s (.failed err)
  | riderFound {orderId : String} {userId : UserId} {rider : CallRider} (phone : Option Phone) :
      rider ∈ s.tables.riders → rider.userId = userId →
      VoiceMove env s (.requireRider orderId userId) s (.requireOrderAssignedToRider orderId userId rider.id phone)
  | riderChecked {orderId : String} {userId : UserId} {riderId : RiderId} {phone : Option Phone} {order : CallOrder} :
      requireOrder (s.tables.findOrder orderId) (fun o => o.riderId == some riderId) false = .ok order →
      VoiceMove env s (.requireOrderAssignedToRider orderId userId riderId phone) s
        (.bridgeCall .rider .consumer order userId phone)
  | vendorFound {target : CallTarget} {orderId : String} {userId : UserId} {vendor : CallVendor} :
      vendor ∈ s.tables.vendors → vendor.userId = userId →
      VoiceMove env s (.requireVendor target orderId userId) s
        (.requireOrderForVendor target orderId userId vendor.id vendor.whatsappPhone)
  | vendorChecked {target : CallTarget} {orderId : String} {userId : UserId} {vendorId : VendorId} {phone : Phone}
      {order : CallOrder} :
      requireOrder (s.tables.findOrder orderId) (fun o => o.vendorId == vendorId) (target == .rider) = .ok order →
      VoiceMove env s (.requireOrderForVendor target orderId userId vendorId phone) s
        (.bridgeCall .vendor target order userId (some phone))
  | consumerChecked {target : CallTarget} {orderId : String} {userId : UserId} {order : CallOrder} :
      requireOrder (s.tables.findOrder orderId) (fun o => o.userId == userId) (target == .rider) = .ok order →
      VoiceMove env s (.requireOrderForConsumer target orderId userId) s (.requireConsumer target order userId)
  | consumerFound {target : CallTarget} {order : CallOrder} {userId : UserId} (phone : Option Phone) :
      VoiceMove env s (.requireConsumer target order userId) s (.bridgeCall .consumer target order userId phone)
  | placed {role target : CallTarget} {order : CallOrder} {userId : UserId} {fromUserPhone : Option Phone}
      (phone : Phone) (callSid : Reference) :
      VoiceMove env s (.bridgeCall role target order userId fromUserPhone)
        { s with placed := s.placed ++
          [⟨role, target, userId, order, normalizePhone phone, env.buildBridgeUrl order.id target⟩] } (.started callSid)
  | lost {role target : CallTarget} {order : CallOrder} {userId : UserId} {fromUserPhone : Option Phone}
      (phone : Phone) (err : String) :
      VoiceMove env s (.bridgeCall role target order userId fromUserPhone)
        { s with placed := s.placed ++
          [⟨role, target, userId, order, normalizePhone phone, env.buildBridgeUrl order.id target⟩] } (.failed (.thrown err))
  | answered (orderId : String) (target : CallTarget) :
      VoiceMove env s (.buildBridgeTwiml orderId target) s (.twiml (env.twimlFor s.tables orderId target))

section

variable {env : TwilioEnv} {validateRequest : ValidateRequest} {s s' : VoiceWorld} {call call' : VoiceCall} {e : Reply}

theorem voiceMove_of_step (h : call.step env s e = some (s', call')) : VoiceMove env s call s' call' := by
  cases call with
  | bridgeCall role target order userId fromUserPhone =>
    simp only [VoiceCall.step] at h
    split at h <;> cases h
    · exact .failed _
    · exact .failed _
    · exact .placed _ _
    · exact .lost _ _
    · exact .failed _
  | started callSid => cases h
  | twiml response => cases h
  | failed err => cases h
  | requireRider orderId userId =>
    cases e with
    | ok =>
      simp only [VoiceCall.step] at h
      split at h <;> cases h
      · exact .failed _
      next hfound => exact .riderFound _ (List.mem_of_find?_eq_some hfound) (by simpa using List.find?_some hfound)
    | fail err => cases h; exact .failed _
    | _ => cases h
  | requireOrderAssignedToRider orderId userId riderId phone =>
    cases e with
    | ok =>
      simp only [VoiceCall.step] at h
      split at h <;> cases h
      · exact .failed _
      next hchecked => exact .riderChecked hchecked
    | fail err => cases h; exact .failed _
    | _ => cases h
  | requireVendor target orderId userId =>
    cases e with
    | ok =>
      simp only [VoiceCall.step] at h
      split at h <;> cases h
      · exact .failed _
      next hfound => exact .vendorFound (List.mem_of_find?_eq_some hfound) (by simpa using List.find?_some hfound)
    | fail err => cases h; exact .failed _
    | _ => cases h
  | requireOrderForVendor target orderId userId vendorId phone =>
    cases e with
    | ok =>
      simp only [VoiceCall.step] at h
      split at h <;> cases h
      · exact .failed _
      next hchecked => exact .vendorChecked hchecked
    | fail err => cases h; exact .failed _
    | _ => cases h
  | requireOrderForConsumer target orderId userId =>
    cases e with
    | ok =>
      simp only [VoiceCall.step] at h
      split at h <;> cases h
      · exact .failed _
      next hchecked => exact .consumerChecked hchecked
    | fail err => cases h; exact .failed _
    | _ => cases h
  | requireConsumer target order userId =>
    cases e with
    | ok =>
      simp only [VoiceCall.step] at h
      split at h <;> cases h
      · exact .failed _
      · exact .consumerFound _
    | fail err => cases h; exact .failed _
    | _ => cases h
  | buildBridgeTwiml orderId target =>
    cases e with
    | ok => cases h; exact .answered orderId target
    | fail err => cases h; exact .failed _
    | _ => cases h

theorem voiceMachine_step {ts : List VoiceCall} (h : (voiceMachine env validateRequest).step s call e = some (s', ts)) :
    ∃ call', ts = [call'] ∧ VoiceMove env s call s' call' := by
  obtain ⟨⟨s₁, call'⟩, hst, hr⟩ := Option.map_eq_some_iff.1 h
  obtain ⟨rfl, rfl⟩ := Prod.mk.inj hr
  exact ⟨call', rfl, voiceMove_of_step hst⟩

end

/-! What holds in every run. -/

/-- The check that let a call through: two parties of a live order, as its row was then. -/
structure CallTables.Allowed (t : CallTables) (role target : CallTarget) (o : CallOrder) (userId : UserId) : Prop where
  apart : role ≠ target
  live : o.status.live = true
  party : t.party o role = some userId
  has : t.Has o
  reachable : target = .rider → o.riderId.isSome

theorem CallTables.Allowed.becomes {t t' : CallTables} {role target : CallTarget} {o : CallOrder} {userId : UserId}
    (h : t.Allowed role target o userId) (ht : t.Becomes t') : t'.Allowed role target o userId :=
  { h with party := party_becomes ht h.party, has := h.has.becomes ht }

/-- The order that a check lets through. -/
theorem requireOrder_ok {t : CallTables} {orderId : String} {mine : CallOrder → Bool} {needRider : Bool} {order : CallOrder}
    (h : requireOrder (t.findOrder orderId) mine needRider = .ok order) :
    order ∈ t.orders ∧ order.id = orderId ∧ mine order = true ∧ order.status.live = true ∧
      (needRider = true → order.riderId.isSome) := by
  unfold requireOrder at h
  split at h
  · cases h
  next o hfound =>
  split at h
  · cases h
  next hmine =>
  split at h
  · cases h
  next hlive =>
  split at h
  · cases h
  next hrider =>
  obtain rfl := Except.ok.inj h
  refine ⟨List.mem_of_find?_eq_some hfound, by simpa using List.find?_some hfound, by simpa using hmine,
    by simpa using hlive, fun hneed => ?_⟩
  simpa [hneed, Option.isSome_iff_ne_none] using hrider

theorem CallTables.has_of_mem {t : CallTables} {o : CallOrder} (h : o ∈ t.orders) : t.Has o := ⟨o, h, rfl, rfl, rfl⟩

/-- What a call can say for itself at each of its stages. -/
def VoiceCall.Shows (s : VoiceWorld) : VoiceCall → Prop
  | .requireOrderAssignedToRider _ userId riderId _ =>
    (s.tables.riders.find? fun r => r.id == riderId).map (·.userId) = some userId
  | .requireVendor target _ _ => target ≠ .vendor
  | .requireOrderForVendor target _ userId vendorId _ =>
    target ≠ .vendor ∧ (s.tables.vendors.find? fun v => v.id == vendorId).map (·.userId) = some userId
  | .requireOrderForConsumer target _ _ => target ≠ .consumer
  | .requireConsumer target order userId => s.tables.Allowed .consumer target order userId
  | .bridgeCall role target order userId _ => s.tables.Allowed role target order userId
  | .buildBridgeTwiml orderId target => ∃ c ∈ s.placed, c.checked.id = orderId ∧ c.target = target
  | _ => True

/-- Every call that Twilio was asked for had been checked, and its URL is about the checked order. -/
structure PlacedCall.Sound (env : TwilioEnv) (s : VoiceWorld) (c : PlacedCall) : Prop where
  allowed : s.tables.Allowed c.role c.target c.checked c.caller
  url : c.bridgeUrl = env.buildBridgeUrl c.checked.id c.target

def VoiceWorld.Sound (env : TwilioEnv) (s : VoiceWorld) : Prop := ∀ c ∈ s.placed, c.Sound env s

structure VoiceWorld.Grows (s s' : VoiceWorld) : Prop where
  tables : s.tables.Becomes s'.tables
  placed : ∀ c ∈ s.placed, c ∈ s'.placed

section

variable {env : TwilioEnv} {validateRequest : ValidateRequest} {s s' : VoiceWorld} {call call' : VoiceCall}

theorem CallTables.Becomes.refl (t : CallTables) : t.Becomes t :=
  ⟨fun v hv => ⟨v, hv, rfl, rfl⟩, fun r hr => ⟨r, hr, rfl, rfl⟩, fun o ho => ⟨o, ho, rfl, rfl, rfl⟩⟩

theorem VoiceWorld.Grows.refl (s : VoiceWorld) : s.Grows s := ⟨.refl _, fun _ hc => hc⟩

theorem VoiceCall.Shows.grow (h : call.Shows s) (hs : s.Grows s') : call.Shows s' := by
  cases call with
  | requireOrderAssignedToRider orderId userId riderId phone => exact rider_becomes hs.tables h
  | requireOrderForVendor target orderId userId vendorId phone => exact ⟨h.1, vendor_becomes hs.tables h.2⟩
  | requireConsumer target order userId => exact h.becomes hs.tables
  | bridgeCall role target order userId phone => exact h.becomes hs.tables
  | buildBridgeTwiml orderId target =>
    obtain ⟨c, hc, hasked⟩ := h
    exact ⟨c, hs.placed c hc, hasked⟩
  | requireVendor target orderId userId => exact h
  | requireOrderForConsumer target orderId userId => exact h
  | _ => trivial

theorem VoiceWorld.Sound.grow (h : s.Sound env) (hs : s.Grows s') (hplaced : s'.placed = s.placed) : s'.Sound env :=
  fun c hc => ⟨(h c (hplaced ▸ hc)).allowed.becomes hs.tables, (h c (hplaced ▸ hc)).url⟩

theorem VoiceMove.grows (h : VoiceMove env s call s' call') : s.Grows s' := by
  cases h with
  | placed | lost => exact ⟨.refl _, fun c hc => List.mem_append_left _ hc⟩
  | _ => exact .refl s

theorem VoiceMove.sound (h : VoiceMove env s call s' call') (hs : s.Sound env) (hcall : call.Shows s) :
    s'.Sound env ∧ call'.Shows s' := by
  have hgrows := h.grows
  cases h with
  | failed err => exact ⟨hs, trivial⟩
  | answered orderId target => exact ⟨hs, trivial⟩
  | @riderFound orderId userId rider phone hmem howner =>
    refine ⟨hs, ?_⟩
    simp only [VoiceCall.Shows]
    rw [Table.find?_of_nodup s.tables.riderIds hmem, Option.map_some, howner]
  | @vendorFound target orderId userId vendor hmem howner =>
    refine ⟨hs, hcall, ?_⟩
    rw [Table.find?_of_nodup s.tables.vendorIds hmem, Option.map_some, howner]
  | @riderChecked orderId userId riderId phone order hchecked =>
    obtain ⟨hmem, -, hmine, hlive, -⟩ := requireOrder_ok hchecked
    refine ⟨hs, by decide, hlive, ?_, CallTables.has_of_mem hmem, nofun⟩
    simp only [CallTables.party, beq_iff_eq.1 hmine, Option.bind_some]
    exact hcall
  | @vendorChecked target orderId userId vendorId phone order hchecked =>
    obtain ⟨hmem, -, hmine, hlive, hrider⟩ := requireOrder_ok hchecked
    refine ⟨hs, hcall.1.symm, hlive, ?_, CallTables.has_of_mem hmem, fun htarget => hrider (by simp [htarget])⟩
    simp only [CallTables.party, beq_iff_eq.1 hmine]
    exact hcall.2
  | @consumerChecked target orderId userId order hchecked =>
    obtain ⟨hmem, -, hmine, hlive, hrider⟩ := requireOrder_ok hchecked
    refine ⟨hs, hcall.symm, hlive, ?_, CallTables.has_of_mem hmem, fun htarget => hrider (by simp [htarget])⟩
    simp only [CallTables.party, beq_iff_eq.1 hmine]
  | consumerFound phone => exact ⟨hs, hcall⟩
  | @placed role target order userId fromUserPhone phone callSid
  | @lost role target order userId fromUserPhone phone err =>
    refine ⟨fun c hc => ?_, trivial⟩
    rcases List.mem_append.1 hc with hc | hc
    · exact ⟨(hs c hc).allowed, (hs c hc).url⟩
    · obtain rfl := List.mem_singleton.1 hc
      exact ⟨hcall, rfl⟩

end

/-- Twilio signs the requests that it makes itself, and on this route it makes them for the URLs that it
was handed with a call. -/
def Genuine (env : TwilioEnv) (validateRequest : ValidateRequest) : Guard VoiceWorld VoiceCall VoiceEvent Reply
  | s, _, .event (.bridge signature originalUrl params) =>
    ∀ authToken, env.authToken = some authToken →
      validateRequest authToken signature (env.appUrl ++ originalUrl) params = true →
      ∃ c ∈ s.placed, env.appUrl ++ originalUrl = c.bridgeUrl
  | _, _, _ => True

section

variable {env : TwilioEnv} {validateRequest : ValidateRequest} {s s' : VoiceWorld} {us : List VoiceCall}

/-- A request that passes the guard is Twilio's. -/
theorem canActivate_ok {signature originalUrl : String} {params : List (String × String)} (hproduction : env.production = true)
    (h : env.canActivate validateRequest signature originalUrl params = .ok ()) :
    ∃ authToken, env.authToken = some authToken ∧
      validateRequest authToken signature (env.appUrl ++ originalUrl) params = true := by
  simp only [TwilioEnv.canActivate, hproduction, Bool.not_true, Bool.false_eq_true, if_false] at h
  split at h
  · cases h
  next authToken htoken =>
  split at h
  · cases h
  split at h
  · cases h
  next hvalid =>
  exact ⟨authToken, (Option.filter_eq_some_iff.1 htoken).1, by simpa using hvalid⟩

theorem voiceEvent_sound {n : VoiceEvent} {ts : List VoiceCall} (hproduction : env.production = true)
    (hs : s.Sound env) (hok : Genuine env validateRequest s us (.event n))
    (hev : voiceEvent env validateRequest s n = some (s', ts)) :
    s.Grows s' ∧ s'.Sound env ∧ ∀ call ∈ ts, call.Shows s' := by
  cases n with
  | write tables =>
    simp only [voiceEvent] at hev
    split at hev <;> cases hev
    next hbecomes =>
    have hgrows : s.Grows { s with tables } := ⟨hbecomes, fun _ hc => hc⟩
    exact ⟨hgrows, hs.grow hgrows rfl, List.forall_mem_nil _⟩
  | bridge signature originalUrl params =>
    simp only [voiceEvent] at hev
    split at hev <;> cases hev
    · exact ⟨.refl s, hs, List.forall_mem_singleton.2 trivial⟩
    next hactive =>
    obtain ⟨authToken, htoken, hvalid⟩ := canActivate_ok hproduction hactive
    obtain ⟨c, hc, hurl⟩ := hok authToken htoken hvalid
    refine ⟨.refl s, hs, List.forall_mem_singleton.2 ?_⟩
    rw [bridgeCallOf_bridgeUrl (hurl.trans (hs c hc).url)]
    exact ⟨c, hc, rfl, rfl⟩
  | startRiderToConsumer orderId userId => cases hev; exact ⟨.refl s, hs, List.forall_mem_singleton.2 trivial⟩
  | startVendorToConsumer orderId userId =>
    cases hev
    exact ⟨.refl s, hs, List.forall_mem_singleton.2 (show CallTarget.consumer ≠ .vendor by decide)⟩
  | startVendorToRider orderId userId =>
    cases hev
    exact ⟨.refl s, hs, List.forall_mem_singleton.2 (show CallTarget.rider ≠ .vendor by decide)⟩
  | startConsumerToVendor orderId userId =>
    cases hev
    exact ⟨.refl s, hs, List.forall_mem_singleton.2 (show CallTarget.vendor ≠ .consumer by decide)⟩
  | startConsumerToRider orderId userId =>
    cases hev
    exact ⟨.refl s, hs, List.forall_mem_singleton.2 (show CallTarget.rider ≠ .consumer by decide)⟩

theorem voice_sound {tables : CallTables} {q : Pool VoiceWorld VoiceCall} (hproduction : env.production = true)
    (h : (voiceMachine env validateRequest).Reach (Genuine env validateRequest) ⟨⟨tables, []⟩, []⟩ q) :
    q.shared.Sound env ∧ ∀ call ∈ q.threads, call.Shows q.shared := by
  have hstart : VoiceWorld.Sound env ⟨tables, []⟩ := List.forall_mem_nil _
  have hnone : ∀ call ∈ ([] : List VoiceCall), call.Shows ⟨tables, []⟩ := List.forall_mem_nil _
  refine h.stable (I := VoiceWorld.Sound env) (L := fun s call => call.Shows s) hstart hnone ?_ ?_
  · intro s us n s' ts _ hs hok hev
    obtain ⟨hgrows, hsound, hfresh⟩ := voiceEvent_sound hproduction hs hok hev
    exact ⟨hsound, hfresh, fun u hu => hu.grow hgrows⟩
  · intro s us vs call e s' ts _ hs hcall _ hst
    obtain ⟨call', rfl, hmove⟩ := voiceMachine_step hst
    obtain ⟨hsound, hshows⟩ := hmove.sound hs hcall
    exact ⟨hsound, List.forall_mem_singleton.2 hshows, fun u hu => hu.grow hmove.grows⟩

end

/-! What Twilio is told. -/

/-- A number comes out for a live order only. -/
theorem twimlFor_dial {env : TwilioEnv} {t : CallTables} {orderId copy callerId : String} {target : CallTarget} {number : Phone}
    (h : env.twimlFor t orderId target = .dial copy callerId number) :
    ∃ o ∈ t.orders, o.id = orderId ∧ o.status.live = true ∧ (t.dialNumber o target).map normalizePhone = some number := by
  unfold TwilioEnv.twimlFor at h
  split at h
  · cases h
  next o hfound =>
  split at h
  · cases h
  next hlive =>
  split at h
  · cases h
  · cases h
  next phone hphone =>
  obtain ⟨-, -, rfl⟩ := Twiml.dial.inj h
  exact ⟨o, List.mem_of_find?_eq_some hfound, by simpa using List.find?_some hfound, by simpa using hlive, by rw [hphone, Option.map_some]⟩

/-- The parties but for the rider are the same for two rows of one order. -/
theorem party_same {t : CallTables} {o o' : CallOrder} {role : CallTarget} (huser : o'.userId = o.userId)
    (hvendor : o'.vendorId = o.vendorId) (hrole : role ≠ .rider) : t.party o' role = t.party o role := by
  cases role with
  | consumer => exact congrArg some huser
  | vendor => simp only [CallTables.party, hvendor]
  | rider => exact absurd rfl hrole

/-- In every run, with the orders' statuses and riders and everybody's numbers changing as they like: if
Twilio is told a number, then for an order that is live now, and it is the number that the called party
has now. The call had been asked for by another party of that order while it was live; the consumer and
the vendor still are parties, a rider may have lost the order since. -/
theorem voice_numbers_kept {env : TwilioEnv} {validateRequest : ValidateRequest} {tables : CallTables}
    {s s' : VoiceWorld} {us vs ts : List VoiceCall} {orderId copy callerId : String} {target : CallTarget} {number : Phone}
    {e : Reply} (hproduction : env.production = true)
    (h : (voiceMachine env validateRequest).Reach (Genuine env validateRequest) ⟨⟨tables, []⟩, []⟩
      ⟨s, us ++ .buildBridgeTwiml orderId target :: vs⟩)
    (hst : (voiceMachine env validateRequest).step s (.buildBridgeTwiml orderId target) e = some (s', ts))
    (hdial : .twiml (.dial copy callerId number) ∈ ts) :
    ∃ o ∈ s.tables.orders, o.id = orderId ∧ o.status.live = true ∧
      (s.tables.dialNumber o target).map normalizePhone = some number ∧
      ∃ c ∈ s.placed, c.checked.id = orderId ∧ c.target = target ∧ c.role ≠ target ∧ c.checked.status.live = true ∧
        s.tables.party c.checked c.role = some c.caller ∧ (c.role ≠ .rider → s.tables.party o c.role = some c.caller) := by
  obtain ⟨hsound, hshows⟩ := voice_sound hproduction h
  obtain ⟨c, hc, rfl, rfl⟩ := hshows (.buildBridgeTwiml orderId target) (by simp)
  obtain ⟨call', rfl, hmove⟩ := voiceMachine_step hst
  obtain rfl := (List.mem_singleton.1 hdial).symm
  have htwiml : env.twimlFor s.tables c.checked.id c.target = .dial copy callerId number := by
    generalize hresponse : (VoiceCall.twiml (.dial copy callerId number)) = call' at hmove
    cases hmove with
    | failed err => cases hresponse
    | answered orderId target => exact (VoiceCall.twiml.inj hresponse).symm
  obtain ⟨o, ho, hid, hlive, hnumber⟩ := twimlFor_dial htwiml
  have hallowed := (hsound c hc).allowed
  refine ⟨o, ho, hid, hlive, hnumber, c, hc, rfl, rfl, hallowed.apart, hallowed.live, hallowed.party, fun hrole => ?_⟩
  obtain ⟨o', ho', hid', huser, hvendor⟩ := hallowed.has
  obtain rfl : o' = o := List.inj_on_of_nodup_map s.tables.orderIds ho' ho (hid'.trans hid.symm)
  rw [party_same huser hvendor hrole]
  exact hallowed.party

/-! A run of that kind. -/

def bridgeEnv : TwilioEnv := ⟨true, "https://api.tchopnow.app", some "secret", some "+15550100"⟩

/-- A stand-in for the signature: the token before the URL. -/
def tokenBefore : ValidateRequest := fun authToken signature url _ => signature == authToken ++ url

def oneOrderTables (riderId : Option RiderId) : CallTables where
  users := [⟨1, some "+237670000001"⟩, ⟨3, some "+237670000003"⟩]
  vendors := [⟨20, 2, "+237670000002"⟩]
  riders := [⟨30, 3⟩]
  orders := [⟨"o-1", .accepted, 1, 20, riderId, "670000009"⟩]
  vendorIds := List.nodup_singleton _
  riderIds := List.nodup_singleton _
  orderIds := List.nodup_singleton _

def genuineB (s : VoiceWorld) (_ : List VoiceCall) : Move VoiceCall VoiceEvent Reply → Bool
  | .event (.bridge _ originalUrl _) => s.placed.any fun c => bridgeEnv.appUrl ++ originalUrl == c.bridgeUrl
  | _ => true

theorem genuine_of_bool (s : VoiceWorld) (us : List VoiceCall) (m : Move VoiceCall VoiceEvent Reply)
    (h : genuineB s us m = true) : Genuine bridgeEnv tokenBefore s us m := by
  unfold Genuine
  split
  · intro authToken _ _
    obtain ⟨c, hc, hurl⟩ := List.any_eq_true.1 h
    exact ⟨c, hc, by simpa using hurl⟩
  · trivial

/-- Twilio is about to be told the consumer's number. -/
def dialsNext (q : Pool VoiceWorld VoiceCall) : Bool :=
  match q.threads with
  | .buildBridgeTwiml "o-1" .consumer :: _ =>
    bridgeEnv.twimlFor q.shared.tables "o-1" .consumer == .dial CallTarget.consumer.copy "+15550100" "+237670000009"
  | _ => false

/-- The rider calls the consumer, and loses the order before Twilio asks whom to dial. -/
theorem rider_lost_meanwhile :
    ∃ s us, (voiceMachine bridgeEnv tokenBefore).Reach (Genuine bridgeEnv tokenBefore)
        ⟨⟨oneOrderTables (some 30), []⟩, []⟩ ⟨s, .buildBridgeTwiml "o-1" .consumer :: us⟩ ∧
      ∃ o ∈ s.tables.orders, o.id = "o-1" ∧ o.status.live = true ∧
        (s.tables.dialNumber o .consumer).map normalizePhone = some "+237670000009" ∧
        ∃ c ∈ s.placed, c.checked.id = "o-1" ∧ c.target = .consumer ∧ c.role ≠ .consumer ∧ c.checked.status.live = true ∧
          s.tables.party c.checked c.role = some c.caller ∧ (c.role ≠ .rider → s.tables.party o c.role = some c.caller) := by
  obtain ⟨⟨s, ts⟩, hq, ht⟩ := Machine.reach_of_test (voiceMachine bridgeEnv tokenBefore) (Genuine bridgeEnv tokenBefore)
    genuineB genuine_of_bool ⟨⟨oneOrderTables (some 30), []⟩, []⟩
    [.event (.startRiderToConsumer "o-1" 3), .step 0 .ok, .step 0 .ok, .step 0 (.accepted 7),
      .event (.write (oneOrderTables none)),
      .event (.bridge "secrethttps://api.tchopnow.app/api/webhooks/twilio/voice/bridge?orderId=o-1&to=consumer"
        "/api/webhooks/twilio/voice/bridge?orderId=o-1&to=consumer" [])]
    dialsNext (by decide +kernel)
  dsimp only [dialsNext] at ht
  split at ht
  next us =>
    have hst : (voiceMachine bridgeEnv tokenBefore).step s (.buildBridgeTwiml "o-1" .consumer) .ok =
        some (s, [.twiml (bridgeEnv.twimlFor s.tables "o-1" .consumer)]) := rfl
    have hdial : VoiceCall.twiml (.dial CallTarget.consumer.copy "+15550100" "+237670000009") ∈
        [VoiceCall.twiml (bridgeEnv.twimlFor s.tables "o-1" .consumer)] := by rw [beq_iff_eq.1 ht]; exact .head _
    have hreach : (voiceMachine bridgeEnv tokenBefore).Reach (Genuine bridgeEnv tokenBefore)
        ⟨⟨oneOrderTables (some 30), []⟩, []⟩ ⟨s, [] ++ .buildBridgeTwiml "o-1" .consumer :: us⟩ := hq
    exact ⟨s, us, hq, voice_numbers_kept rfl hreach hst hdial⟩
  · cases ht

end ChopNow
