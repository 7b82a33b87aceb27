import ChopNow.Lib.Requests
import ChopNow.Lib.Table
import ChopNow.Spec.Riders

/-! The rows of the riders over any sequence of requests: who is online is active, and the
reliability score stays between 0 and 100. A rejection and a suspension for fraud leave
`isOnline` as it is, a warning takes 20 off any score. -/

namespace ChopNow

structure RiderRow.Sane (r : RiderRow) : Prop where
  online : r.isOnline = true → r.status = .active
  score_min : 0 ≤ r.reliabilityScore
  score_max : r.reliabilityScore ≤ 100

def RiderDb.Sane (db : RiderDb) : Prop := ∀ r ∈ db.riders, r.Sane

/-- Both columns are unique. -/
structure RiderDb.Sound (db : RiderDb) : Prop where
  ids : (db.riders.map (·.id)).Nodup
  userIds : (db.riders.map (·.userId)).Nodup

/-- What a fraud resolution may do to this row. -/
def RiderFraudAction.Spares (action : RiderFraudAction) (r : RiderRow) : Prop :=
  match action with
  | .suspend => r.isOnline = false
  | .warn => RIDER_FRAUD_WARN_DECREMENT ≤ r.reliabilityScore

/-- No rider is rejected while online; none is suspended for fraud while online, or warned
with a score below 20, by a resolution that goes through. -/
def RiderEvent.Spares (db : RiderDb) : RiderEvent → Prop
  | .administer .reject rider reason _ => reason.getD "" ≠ "" → ∀ r ∈ db.riders, r.id = rider → r.isOnline = false
  | .resolveRiderFraud orderId input action now =>
    ∀ order, db.orders.find? (fun o => o.id == orderId) = some order → checkRiderFraud order input = .ok () →
      (db.cancelForFraud order input now).toOption.isSome →
      ∀ r ∈ db.riders, order.riderId = some r.id → action.Spares r
  | _ => True

section

variable {db db' : RiderDb} {r : RiderRow}

/-! One row. -/

theorem writeRider_sane_iff {action : AdminAction} {reason : Option String} {now : Time} (h : r.Sane) :
    (action.writeRider reason now r).Sane ↔ (action = .reject → r.isOnline = false) := by
  cases action with
  | reject =>
    refine ⟨fun h' _ => ?_, fun hoff => ⟨fun hon => ?_, h.score_min, h.score_max⟩⟩
    · cases hon : r.isOnline with
      | false => rfl
      | true => cases h'.online hon
    · cases (hoff rfl).symm.trans (show r.isOnline = true from hon)
  | suspend => exact iff_of_true ⟨fun hon => (by cases hon), h.score_min, h.score_max⟩ fun he => (by cases he)
  | _ => exact iff_of_true ⟨fun _ => rfl, h.score_min, h.score_max⟩ fun he => (by cases he)

theorem fraud_sane_iff {action : RiderFraudAction} (h : r.Sane) : (action.writeRider r).Sane ↔ action.Spares r := by
  cases action with
  | suspend =>
    refine ⟨fun h' => ?_, fun hoff => ⟨fun hon => ?_, h.score_min, h.score_max⟩⟩
    · show r.isOnline = false
      cases hon : r.isOnline with
      | false => rfl
      | true => cases h'.online hon
    · cases hoff.symm.trans (show r.isOnline = true from hon)
  | warn =>
    have hscore : (RiderFraudAction.warn.writeRider r).reliabilityScore =
      r.reliabilityScore - RIDER_FRAUD_WARN_DECREMENT := rfl
    refine ⟨fun h' => ?_, fun hleft => ⟨h.online, ?_, ?_⟩⟩
    · have := h'.score_min
      rw [hscore] at this
      exact sub_nonneg.1 this
    · rw [hscore]
      exact sub_nonneg.2 hleft
    · rw [hscore]
      have := h.score_max
      simp only [RIDER_FRAUD_WARN_DECREMENT]
      omega

theorem update_sane {dto : SubmitRiderDto} {files : RiderFiles} {now : Time} (h : r.Sane) (hoff : r.isOnline = false) :
    (dto.update files now r).Sane :=
  ⟨fun hon => (by cases hoff.symm.trans (show r.isOnline = true from hon)), h.score_min, h.score_max⟩

theorem create_sane {dto : SubmitRiderDto} {files : RiderFiles} {seed : RiderSeed} {userId : UserId} {now : Time} :
    (dto.create files seed userId now).Sane :=
  ⟨fun hon => (by cases hon), by simp [SubmitRiderDto.create], by simp [SubmitRiderDto.create]⟩

/-! The statements. -/

theorem write_sane_iff {id : RiderId} {f : RiderRow → RiderRow} (h : db.Sane) :
    (db.write id f).Sane ↔ ∀ r ∈ db.riders, r.id = id → (f r).Sane := by
  simp only [RiderDb.Sane, RiderDb.write, List.mem_map, forall_exists_index, and_imp, forall_apply_eq_imp_iff₂]
  refine forall₂_congr fun r hr => ?_
  split
  · next hid => simp [hid]
  · next hid => simp [hid, h r hr]

theorem update_sound {p : RiderRow → Prop} [DecidablePred p] {f : RiderRow → RiderRow} (h : db.Sound)
    (hriders : db'.riders = db.riders.map fun r => if p r then f r else r) (hid : ∀ r, (f r).id = r.id)
    (huser : ∀ r, (f r).userId = r.userId) : db'.Sound := by
  constructor
  · rw [hriders, Table.column_update hid]
    exact h.ids
  · rw [hriders, Table.column_update huser]
    exact h.userIds

theorem requireActive_ok (h : db.Sound) {userId : UserId} {id : RiderId} (hok : db.requireActive userId = .ok id) :
    ∀ r ∈ db.riders, r.id = id → r.status = .active := by
  unfold RiderDb.requireActive at hok
  split at hok
  · cases hok
  next rider hfound =>
  split at hok
  · cases hok
  next hstatus =>
  obtain rfl := Except.ok.inj hok
  intro r hr hid
  rw [List.inj_on_of_nodup_map h.ids hr (List.mem_of_find?_eq_some hfound) hid]
  exact not_not.1 hstatus

/-- A rider whose papers may be submitted again is not online. -/
theorem checkUser_ok (h : db.Sound) (hsane : db.Sane) {user : User} (hok : db.checkUser user = .ok ()) :
    ∀ r ∈ db.riders, r.userId = user.id → r.isOnline = false := by
  unfold RiderDb.checkUser at hok
  split at hok
  · cases hok
  next hstatus =>
  intro r hr hid
  have hfound : db.riders.find? (fun x => x.userId == user.id) = some r := hid ▸ Table.find?_of_nodup h.userIds hr
  rw [hfound] at hstatus
  cases hon : r.isOnline with
  | false => rfl
  | true => simp [(hsane r hr).online hon, RESUBMITTABLE] at hstatus

theorem upsert_kept {dto : SubmitRiderDto} {files : RiderFiles} {seed : RiderSeed} {userId : UserId} {now : Time}
    (h : db.Sound) (hsane : db.Sane) (hoff : ∀ r ∈ db.riders, r.userId = userId → r.isOnline = false)
    (hok : db.upsert dto files seed userId now = .ok db') : db'.Sound ∧ db'.Sane := by
  unfold RiderDb.upsert at hok
  split at hok
  · cases hok
  split at hok
  · obtain rfl := Except.ok.inj hok
    refine ⟨update_sound h rfl (fun _ => rfl) fun _ => rfl, fun r hr => ?_⟩
    obtain ⟨x, hx, rfl⟩ := List.mem_map.1 hr
    split
    · next hid => exact update_sane (hsane x hx) (hoff x hx hid)
    · exact hsane x hx
  next huser =>
  split at hok
  · cases hok
  next hid =>
  obtain rfl := Except.ok.inj hok
  simp only [List.any_eq_true, beq_iff_eq, not_exists, not_and] at huser hid
  refine ⟨⟨?_, ?_⟩, fun r hr => ?_⟩
  · simp only [List.map_append, List.map_cons, List.map_nil, List.nodup_append_comm, List.singleton_append,
      List.nodup_cons, List.mem_map, not_exists, not_and]
    exact ⟨fun r hr he => hid r hr he, h.ids⟩
  · simp only [List.map_append, List.map_cons, List.map_nil, List.nodup_append_comm, List.singleton_append,
      List.nodup_cons, List.mem_map, not_exists, not_and]
    exact ⟨fun r hr he => huser r hr he, h.userIds⟩
  · rcases List.mem_append.1 hr with hr | hr
    · exact hsane r hr
    · rw [List.mem_singleton.1 hr]
      exact create_sane

/-! The requests. -/

theorem submit_kept {dto : SubmitRiderDto} {files : RiderFiles} {seed : RiderSeed} {now : Time} (h : db.Sound)
    (hsane : db.Sane) (hok : db.submit dto files seed now = .ok db') : db'.Sound ∧ db'.Sane := by
  unfold RiderDb.submit at hok
  split at hok
  · cases hok
  split at hok
  · split at hok
    · cases hok
    next hnew =>
    simp only [Bool.or_eq_true, List.any_eq_true, beq_iff_eq, not_or, not_exists, not_and] at hnew
    refine upsert_kept ?_ ?_ ?_ hok
    · exact ⟨h.ids, h.userIds⟩
    · exact hsane
    · exact fun r hr he => absurd he (hnew.2 r hr)
  · split at hok
    · cases hok
    next hcheck =>
    refine upsert_kept ?_ ?_ ?_ hok
    · exact ⟨h.ids, h.userIds⟩
    · exact hsane
    · exact checkUser_ok h hsane hcheck

theorem administer_sane_iff {action : AdminAction} {rider : RiderId} {reason : Option String} {now : Time}
    (hsane : db.Sane) :
    (riderStep db (.administer action rider reason now)).Sane ↔
      RiderEvent.Spares db (.administer action rider reason now) := by
  have hspares : RiderEvent.Spares db (.administer action rider reason now) ↔
      (action = .reject → reason.getD "" ≠ "" → ∀ r ∈ db.riders, r.id = rider → r.isOnline = false) := by
    cases action <;> simp [RiderEvent.Spares]
  rw [hspares]
  simp only [riderStep, RiderEvent.serve, RiderDb.administer]
  cases hcheck : action.check reason ((db.riders.find? fun r => r.id == rider).map (·.status.toVendorStatus)) with
  | error err =>
    refine iff_of_true hsane ?_
    rintro rfl hreason r hr hid
    -- the row is there and a reason is given: nothing else makes a rejection fail
    obtain ⟨x, hfound⟩ := Option.isSome_iff_exists.1 (List.find?_isSome.2 ⟨r, hr, by simpa using hid⟩ :
      (db.riders.find? fun r => r.id == rider).isSome = true)
    simp [AdminAction.check, hfound, hreason] at hcheck
  | ok u =>
    refine (write_sane_iff hsane).trans ?_
    have hgiven : action = .reject → reason.getD "" ≠ "" := by
      rintro rfl hnone
      simp [AdminAction.check, hnone] at hcheck
    constructor
    · intro hrows haction _ r hr hid
      exact (writeRider_sane_iff (hsane r hr)).1 (hrows r hr hid) haction
    · intro hoff r hr hid
      exact (writeRider_sane_iff (hsane r hr)).2 fun haction => hoff haction (hgiven haction) r hr hid

theorem cancelForFraud_riders {order : Order} {input : ResolveRiderFraudInput} {now : Time}
    (h : db.cancelForFraud order input now = .ok db') : db'.riders = db.riders := by
  unfold RiderDb.cancelForFraud at h
  split at h
  · cases h
  · obtain rfl := Except.ok.inj h
    rfl

theorem fraud_step_sane_iff {orderId : OrderId} {input : ResolveRiderFraudInput} {action : RiderFraudAction} {now : Time}
    (hsane : db.Sane) :
    (riderStep db (.resolveRiderFraud orderId input action now)).Sane ↔
      RiderEvent.Spares db (.resolveRiderFraud orderId input action now) := by
  simp only [riderStep, RiderEvent.serve, RiderDb.resolveRiderFraud, RiderEvent.Spares]
  cases hfound : db.orders.find? fun o => o.id == orderId with
  | none => exact iff_of_true hsane fun _ h => (by cases h)
  | some order =>
    simp only [Option.some.injEq, forall_eq']
    cases hcheck : checkRiderFraud order input with
    | error err => exact iff_of_true hsane fun h => (by cases h)
    | ok u =>
      cases hcancel : db.cancelForFraud order input now with
      | error err => exact iff_of_true hsane fun _ h => (by cases h)
      | ok db₁ =>
        have hriders := cancelForFraud_riders hcancel
        have hsane₁ : db₁.Sane := fun r hr => hsane r (hriders ▸ hr)
        cases hrider : order.riderId with
        | none => exact iff_of_true hsane₁ fun _ _ r _ h => (by cases h)
        | some rider =>
          refine (write_sane_iff hsane₁).trans ?_
          rw [hriders]
          simp only [Option.some.injEq, Except.toOption, Option.isSome_some, forall_const]
          exact forall₂_congr fun r hr => by rw [fraud_sane_iff (hsane r hr), eq_comm]

theorem write_sound {id : RiderId} {f : RiderRow → RiderRow} (h : db.Sound)
    (hf : ∀ r, (f r).id = r.id ∧ (f r).userId = r.userId) : (db.write id f).Sound :=
  update_sound h rfl (fun r => (hf r).1) fun r => (hf r).2

/-- A rider who may go online is active. -/
theorem online_kept {userId : UserId} {f : RiderRow → RiderRow} (h : db.Sound) (hsane : db.Sane)
    (hok : (db.requireActive userId).map (fun id => db.write id f) = .ok db')
    (hids : ∀ r, (f r).id = r.id ∧ (f r).userId = r.userId)
    (hf : ∀ r, (f r).status = r.status ∧ (f r).reliabilityScore = r.reliabilityScore) : db'.Sound ∧ db'.Sane := by
  cases hactive : db.requireActive userId with
  | error err => rw [hactive] at hok; cases hok
  | ok id =>
    rw [hactive] at hok
    obtain rfl := Except.ok.inj hok
    refine ⟨write_sound h hids, (write_sane_iff hsane).2 fun r hr hid => ⟨fun _ => ?_, ?_, ?_⟩⟩
    · exact (hf r).1.trans (requireActive_ok h hactive r hr hid)
    · exact (hf r).2 ▸ (hsane r hr).score_min
    · exact (hf r).2 ▸ (hsane r hr).score_max

theorem setAvailability_kept {userId : UserId} {isOnline : Bool} {now : Time} (h : db.Sound) (hsane : db.Sane)
    (hok : db.setAvailability userId isOnline now = .ok db') : db'.Sound ∧ db'.Sane := by
  unfold RiderDb.setAvailability at hok
  exact online_kept h hsane hok (fun _ => ⟨rfl, rfl⟩) fun _ => ⟨rfl, rfl⟩

theorem pushHeartbeat_kept {userId : UserId} {lng lat : ℚ} {now : Time} (h : db.Sound) (hsane : db.Sane)
    (hok : db.pushHeartbeat userId lng lat now = .ok db') : db'.Sound ∧ db'.Sane := by
  unfold RiderDb.pushHeartbeat at hok
  exact online_kept h hsane hok (fun _ => ⟨rfl, rfl⟩) fun _ => ⟨rfl, rfl⟩

/-- A request that keeps the rows whenever it succeeds keeps them. -/
theorem riderStep_kept {n : RiderEvent} (hsane : db.Sane) (hok : ∀ db', n.serve db = .ok db' → db'.Sane) :
    (riderStep db n).Sane := by
  unfold riderStep
  split
  · exact hsane
  · exact hok _ ‹_›

theorem riderStep_sane_iff (h : db.Sound) (hsane : db.Sane) (n : RiderEvent) :
    (riderStep db n).Sane ↔ n.Spares db := by
  cases n with
  | administer action rider reason now => exact administer_sane_iff hsane
  | resolveRiderFraud orderId input action now => exact fraud_step_sane_iff hsane
  | submit => exact iff_of_true (riderStep_kept hsane fun _ hok => (submit_kept h hsane hok).2) trivial
  | setAvailability => exact iff_of_true (riderStep_kept hsane fun _ hok => (setAvailability_kept h hsane hok).2) trivial
  | pushHeartbeat => exact iff_of_true (riderStep_kept hsane fun _ hok => (pushHeartbeat_kept h hsane hok).2) trivial
  | _ => exact iff_of_true hsane trivial

theorem riderStep_sound (h : db.Sound) (hsane : db.Sane) (n : RiderEvent) : (riderStep db n).Sound := by
  unfold riderStep
  split
  · exact h
  next db' hok =>
  cases n with
  | submit dto files seed now => exact (submit_kept h hsane hok).1
  | administer action rider reason now =>
    simp only [RiderEvent.serve, RiderDb.administer] at hok
    split at hok
    · cases hok
    obtain rfl := Except.ok.inj hok
    exact write_sound h fun _ => by cases action <;> exact ⟨rfl, rfl⟩
  | resolveRiderFraud orderId input action now =>
    simp only [RiderEvent.serve, RiderDb.resolveRiderFraud] at hok
    split at hok
    · cases hok
    next order _ =>
    split at hok
    · cases hok
    split at hok
    · cases hok
    next db₁ hcancel =>
    obtain rfl := Except.ok.inj hok
    have hriders := cancelForFraud_riders hcancel
    have hsound : db₁.Sound := ⟨hriders ▸ h.ids, hriders ▸ h.userIds⟩
    split
    · exact hsound
    · exact write_sound hsound fun _ => by cases action <;> exact ⟨rfl, rfl⟩
  | setAvailability userId isOnline now => exact (setAvailability_kept h hsane hok).1
  | pushHeartbeat userId lng lat now => exact (pushHeartbeat_kept h hsane hok).1
  | _ =>
    obtain rfl := Except.ok.inj hok
    exact ⟨h.ids, h.userIds⟩

end

/-- All rows are sane at every point of a run if and only if each of its requests spares
the riders: no other request takes a rider's row out of order. -/
theorem rider_rows_sane_iff (events : List RiderEvent) :
    (∀ m, (riderRun (events.take m)).Sane) ↔
      ∀ m (n : RiderEvent), events[m]? = some n → n.Spares (riderRun (events.take m)) := by
  refine Requests.all_along_iff (I := RiderDb.Sound) (P := RiderDb.Sane) ?_ ?_ ?_ ?_
  · exact fun db n h hsane => riderStep_sound h hsane n
  · exact fun db n h hsane => riderStep_sane_iff h hsane n
  · exact ⟨List.nodup_nil, List.nodup_nil⟩
  · exact fun r hr => absurd hr (by simp)

/-! A rider on a motorbike, approved and online, with an order picked up. -/

def motorbike : SubmitRiderDto where
  phone := "670000020"
  vehicleType := .moto
  preferredZone := none
  licensePlate := some "LT 1234 AB"
  momoPhone := "670000020"

def onTheRoad : List RiderEvent :=
  [.submit motorbike ⟨some "id.jpg", some "selfie.jpg", some "moto.jpg"⟩ ⟨7, 1⟩ 0, .administer .approve 1 none 1,
    .setAvailability 7 true 2, .orders [{ exampleOrder with status := .pickedUp, riderId := some 1 }]]

/-- Suspended for fraud, he stays online; and after five warnings the score is negative. -/
theorem suspended_rider_stays_online :
    (¬∀ events, (riderRun events).Sane) ∧
      ¬∀ events : List RiderEvent, ∀ r ∈ (riderRun events).riders, 0 ≤ r.reliabilityScore := by
  constructor
  · intro h
    have hrows : ((riderRun (onTheRoad ++ [.resolveRiderFraud 1 ⟨false, false, ""⟩ .suspend 3])).riders.any fun r =>
        r.isOnline && r.status == .suspended) = true := by decide +kernel
    obtain ⟨r, hr, htest⟩ := List.any_eq_true.1 hrows
    simp only [Bool.and_eq_true, beq_iff_eq] at htest
    have hactive := (h _ r hr).online htest.1
    rw [htest.2] at hactive
    cases hactive
  · intro h
    have hrows : ((riderRun (onTheRoad ++ (List.replicate 5 [RiderEvent.resolveRiderFraud 1 ⟨false, false, ""⟩ .warn 3,
        .orders [{ exampleOrder with status := .pickedUp, riderId := some 1 }]]).flatten)).riders.any fun r =>
        decide (r.reliabilityScore < 0)) = true := by decide +kernel
    obtain ⟨r, hr, htest⟩ := List.any_eq_true.1 hrows
    exact absurd (h _ r hr) (not_le.2 (of_decide_eq_true htest))

end ChopNow
