import ChopNow.Lib.TwoRuns
import ChopNow.Proofs.Views

/-! Who learns a handover code or a phone from the answers: two runs of one user's calls,
alike but for that secret, answer alike exactly when no call shows the whole row. -/

namespace ChopNow

open TwoRuns

def ApiDb.isRider (db : ApiDb) (user : UserId) (id : OrderId) : Prop :=
  ∃ rider order, db.directory.riderOf user = some rider ∧ db.findOrder id = some order ∧ order.riderId = some rider

def Secret.submitted (x : Secret) (id : OrderId) : ApiStep → Prop
  | .call (.markPickedUp i submittedCode) => i = id ∧ x = .pickupCode submittedCode
  | .call (.markDelivered i submittedCode) => i = id ∧ x = .deliveryCode submittedCode
  | _ => False

/-- The order's rider submits neither of the two codes. -/
def Unsubmitted (a b : Secret) (id : OrderId) (user : UserId) (db : ApiDb) (step : ApiStep) : Prop :=
  db.isRider user id → ¬a.submitted id step ∧ ¬b.submitted id step

section

variable {a b x : Secret} {id : OrderId} {o : Order} {db : ApiDb} {user : UserId} {directory : Directory}

/-! The two runs. -/

theorem sameCheck_planted (hdb : db.put a id = db) (call : ApiCall) : SameCheck a id user db call := by
  have hrow : ∀ {i order}, db.findOrder i = some order → a.put id order = order := fun hfound =>
    row_planted hdb (List.mem_of_find?_eq_some hfound)
  cases call with
  | markPickedUp i submittedCode => exact fun rider order _ hfound => by rw [hrow hfound]
  | markDelivered i submittedCode => exact fun rider order _ hfound => by rw [hrow hfound]
  | _ => trivial

theorem checkPickup_put {rider : RiderId} {submittedCode : ℕ} (halike : a.alike b) (ho : a.put id o = o)
    (h : o.id = id → o.riderId = some rider → a ≠ .pickupCode submittedCode ∧ b ≠ .pickupCode submittedCode) :
    checkPickup (b.put id o) rider submittedCode = checkPickup o rider submittedCode := by
  by_cases hid : o.id = id
  · have hwrite : a.write o = o := by simpa [Secret.put, hid] using ho
    rw [show b.put id o = b.write o from if_pos hid]
    cases b with
    | pickupCode q =>
      cases a with
      | pickupCode p =>
        have hp : o.pickupCode = p := (congrArg Order.pickupCode hwrite).symm
        by_cases hrider : o.riderId = some rider
        · obtain ⟨ha, hb⟩ := h hid hrider
          have hp' : submittedCode ≠ o.pickupCode := fun he => ha (by rw [he, hp])
          have hq' : submittedCode ≠ q := fun he => hb (by rw [he])
          simp only [checkPickup, Secret.write, hrider, if_pos hp', if_pos hq']
        · simp only [checkPickup, Secret.write, ne_eq, hrider, not_false_eq_true, if_true]
      | _ => exact halike.elim
    | deliveryCode q => rfl
    | deliveryPhone q => rfl
  · rw [put_other hid]

theorem checkDelivery_put {rider : RiderId} {submittedCode : ℕ} (halike : a.alike b) (ho : a.put id o = o)
    (h : o.id = id → o.riderId = some rider → a ≠ .deliveryCode submittedCode ∧ b ≠ .deliveryCode submittedCode) :
    checkDelivery (b.put id o) rider submittedCode = checkDelivery o rider submittedCode := by
  by_cases hid : o.id = id
  · have hwrite : a.write o = o := by simpa [Secret.put, hid] using ho
    rw [show b.put id o = b.write o from if_pos hid]
    cases b with
    | pickupCode q => rfl
    | deliveryCode q =>
      cases a with
      | deliveryCode p =>
        have hp : o.deliveryCode = p := (congrArg Order.deliveryCode hwrite).symm
        by_cases hrider : o.riderId = some rider
        · obtain ⟨ha, hb⟩ := h hid hrider
          have hp' : submittedCode ≠ o.deliveryCode := fun he => ha (by rw [he, hp])
          have hq' : submittedCode ≠ q := fun he => hb (by rw [he])
          simp only [checkDelivery, Secret.write, hrider, if_pos hp', if_pos hq']
        · simp only [checkDelivery, Secret.write, ne_eq, hrider, not_false_eq_true, if_true]
      | _ => exact halike.elim
    | deliveryPhone q => rfl
  · rw [put_other hid]

theorem sameCheck_of_unsubmitted (halike : a.alike b) (hdb : db.put a id = db) {call : ApiCall}
    (h : Unsubmitted a b id user db (.call call)) : SameCheck b id user db call := by
  have hrow : ∀ {i order}, db.findOrder i = some order → a.put id order = order := fun hfound =>
    row_planted hdb (List.mem_of_find?_eq_some hfound)
  cases call with
  | markPickedUp i submittedCode =>
    intro rider order hrider hfound
    refine checkPickup_put halike (hrow hfound) fun hid hassigned => ?_
    have hi : i = id := (found_id hfound).symm.trans hid
    obtain ⟨ha, hb⟩ := h ⟨rider, order, hrider, hi ▸ hfound, hassigned⟩
    exact ⟨fun he => ha ⟨hi, he⟩, fun he => hb ⟨hi, he⟩⟩
  | markDelivered i submittedCode =>
    intro rider order hrider hfound
    refine checkDelivery_put halike (hrow hfound) fun hid hassigned => ?_
    have hi : i = id := (found_id hfound).symm.trans hid
    obtain ⟨ha, hb⟩ := h ⟨rider, order, hrider, hi ▸ hfound, hassigned⟩
    exact ⟨fun he => ha ⟨hi, he⟩, fun he => hb ⟨hi, he⟩⟩
  | _ => trivial

/-- The second run is where the first is, but for the secret. -/
structure Twins (a b : Secret) (id : OrderId) (user : UserId) (directory : Directory) (s t : ApiDb) : Prop where
  same : s.directory = directory
  planted : s.put a id = s
  twin : t = s.put b id
  keeps : s.Keeps a id user

structure TwinSteps (a b : Secret) (id : OrderId) (user : UserId) (directory : Directory) (i j : ApiStep) : Prop where
  planted : i.put a id = i
  twin : j = i.put b id
  keeps : i.Keeps a id user directory

theorem elsewhere_put (columns : Order) :
    ((db.put x id).step user (.elsewhere columns)).1 = (db.step user (.elsewhere columns)).1.put x id := by
  simp only [ApiDb.step, ApiDb.put, CreationDb.put, List.map_map]
  congr 2
  refine List.map_congr_left fun o _ => ?_
  simp only [Function.comp_apply, put_id]
  split
  · exact overwrite_put columns
  · rfl

theorem tick_put (elapsed : Time) :
    ((db.put x id).step user (.tick elapsed)).1 = (db.step user (.tick elapsed)).1.put x id := rfl

theorem twins_step (halike : a.alike b) (hne : a ≠ b) {s t : ApiDb} {i j : ApiStep}
    (hst : Twins a b id user directory s t) (hij : TwinSteps a b id user directory i j) (hun : Unsubmitted a b id user s i) :
    Twins a b id user directory (s.step user i).1 (t.step user j).1 ∧
      ((s.step user i).2 = (t.step user j).2 ↔ ¬s.shows id user i) := by
  obtain ⟨rfl, hplanted, rfl, hkeeps⟩ := hst
  obtain ⟨hi, rfl, hcall⟩ := hij
  cases i with
  | call c =>
    have hc : c.put a id = c := ApiStep.call.inj hi
    have hcheck : SameCheck a id user s c := sameCheck_planted hplanted c
    have hfirst := answer_put hcheck
    rw [hplanted, hc] at hfirst
    have hsecond := answer_put (sameCheck_of_unsubmitted halike hplanted hun)
    obtain ⟨hsame, hkept, hrows⟩ := answer_scoped hkeeps hcall
    have hdb : (s.answer user c).1.put a id = (s.answer user c).1 := (congrArg Prod.fst hfirst).symm
    have hanswer : (s.answer user c).2.map (a.put id) = (s.answer user c).2 := (congrArg Prod.snd hfirst).symm
    simp only [ApiDb.step, ApiStep.put, hsecond, Option.some.injEq]
    refine ⟨⟨hsame, hdb, rfl, hkept⟩, ?_⟩
    rw [render_put_iff halike hne hdb hanswer (hsame.symm ▸ hrows), holds_iff_shows]
  | elsewhere columns =>
    refine ⟨⟨rfl, ?_, elsewhere_put columns, fun o ho => ?_⟩, iff_of_true rfl fun h => h⟩
    · rw [← elsewhere_put, hplanted]
    · obtain ⟨o', ho', rfl⟩ := List.mem_map.1 ho
      split
      · exact KeptOn_of_same (hkeeps o' ho') rfl rfl rfl
      · exact hkeeps o' ho'
  | tick elapsed =>
    refine ⟨⟨rfl, ?_, tick_put elapsed, hkeeps⟩, iff_of_true rfl fun h => h⟩
    rw [← tick_put, hplanted]

theorem keeps_put (h : db.Keeps x id user) : (db.put a id).Keeps x id user := by
  intro o ho
  obtain ⟨o', ho', rfl⟩ := List.mem_map.1 ho
  exact KeptOn_of_same (h o' ho') put_id (of_blank Order.userId fun _ => rfl) (of_blank Order.vendorId fun _ => rfl)

theorem step_keeps_put {step : ApiStep} (h : step.Keeps x id user directory) : (step.put a id).Keeps x id user directory := by
  cases step with
  | call c =>
    cases c with
    | createOrder seed dto deliveryPhone idempotencyKey distance_m => exact fun hid => h (putSeed_id.symm.trans hid)
    | _ => trivial
  | _ => trivial

end

/-- Two runs of one user's calls, alike but for a secret that is kept from the user, answer
alike exactly when no call shows the whole row; the order's rider submits neither code. -/
theorem secret_kept_iff {a b : Secret} (halike : a.alike b) (hne : a ≠ b) {id : OrderId} {user : UserId} {db : ApiDb}
    {steps : List ApiStep} (hdb : db.Keeps a id user) (hsteps : ∀ step ∈ steps, step.Keeps a id user db.directory)
    (hunsubmitted : Along (ApiDb.step user) (Unsubmitted a b id user) (db.put a id) (steps.map (ApiStep.put a id))) :
    outputs (ApiDb.step user) (db.put a id) (steps.map (ApiStep.put a id)) =
        outputs (ApiDb.step user) (db.put b id) (steps.map (ApiStep.put b id)) ↔
      Along (ApiDb.step user) (fun s step => ¬s.shows id user step) (db.put a id) (steps.map (ApiStep.put a id)) := by
  refine outputs_eq_iff (R := Twins a b id user db.directory) (Q := TwinSteps a b id user db.directory)
    (fun s t i j hst hij hun => twins_step halike hne hst hij hun) ?_ ?_ hunsubmitted
  · exact ⟨rfl, db_put_put (alike_refl a) db, (db_put_put halike db).symm, keeps_put hdb⟩
  · rw [List.forall₂_map_left_iff, List.forall₂_map_right_iff, List.forall₂_same]
    exact fun step hstep =>
      ⟨step_put_put (alike_refl a) step, (step_put_put halike step).symm, step_keeps_put (hsteps step hstep)⟩

/-- User 1 orders, user 2 owns the vendor, user 3 is the rider. -/
def exampleUsers : Directory where
  vendorOf := fun u => if u = 2 then some 1 else none
  vendorUser := fun v => if v = 1 then some 2 else none
  riderOf := fun u => if u = 3 then some 1 else none
  vendorUser_iff := by
    intro u v
    by_cases hu : u = 2 <;> by_cases hv : v = 1 <;> simp [hu, hv, eq_comm]

/-- The order has been accepted, and the rider is on the way to the vendor. -/
def exampleApi : ApiDb where
  vendors := []
  items := []
  coupons := []
  redemptions := []
  orders := [{ exampleOrder with status := .accepted, paymentStatus := .paid, riderId := some 1, assignedAt := some 5 }]
  directory := exampleUsers
  deliveryPhone := fun _ => "+237670000099"
  ledger := []
  clock := 10

def ApiResponse.deliveryCodes : ApiResponse → List (Option ℕ)
  | .error _ => []
  | .order response => [response.deliveryCode]
  | .orders responses => responses.map OrderResponse.deliveryCode

/-- The rider reads both codes off the list of courses. -/
theorem courses_show_codes :
    ¬ ∀ (a b : Secret) (id : OrderId) (user : UserId) (db : ApiDb) (steps : List ApiStep), a.alike b →
      db.Keeps a id user → (∀ step ∈ steps, step.Keeps a id user db.directory) →
      Along (ApiDb.step user) (Unsubmitted a b id user) (db.put a id) (steps.map (ApiStep.put a id)) →
      outputs (ApiDb.step user) (db.put a id) (steps.map (ApiStep.put a id)) =
        outputs (ApiDb.step user) (db.put b id) (steps.map (ApiStep.put b id)) := by
  intro h
  have hsame := h (.deliveryCode 2222) (.deliveryCode 3333) 1 3 exampleApi [.call .listCourses] trivial
    (by simp [ApiDb.Keeps, Secret.KeptOn, Secret.keptFrom, exampleApi, exampleOrder]) (by simp [ApiStep.Keeps])
    ⟨fun _ => ⟨fun h => h, fun h => h⟩, trivial⟩
  have hcodes := congrArg (List.map (Option.map ApiResponse.deliveryCodes)) hsame
  have hdiffer : ¬List.map (Option.map ApiResponse.deliveryCodes)
      (outputs (ApiDb.step 3) (exampleApi.put (.deliveryCode 2222) 1) [.call .listCourses]) =
    List.map (Option.map ApiResponse.deliveryCodes)
      (outputs (ApiDb.step 3) (exampleApi.put (.deliveryCode 3333) 1) [.call .listCourses]) := by decide +kernel
  exact hdiffer hcodes

def consumerSteps : List ApiStep := [.call (.getOrder 1), .tick 5, .call .listConsumerOrders, .call (.cancelOrder 1)]

/-- The consumer looks at the order and at the list, and cannot cancel any more. -/
theorem consumer_learns_no_pickupCode :
    outputs (ApiDb.step 1) (exampleApi.put (.pickupCode 1111) 1) (consumerSteps.map (ApiStep.put (.pickupCode 1111) 1)) =
      outputs (ApiDb.step 1) (exampleApi.put (.pickupCode 4444) 1) (consumerSteps.map (ApiStep.put (.pickupCode 4444) 1)) := by
  refine (@secret_kept_iff (.pickupCode 1111) (.pickupCode 4444) trivial (by simp) 1 1 exampleApi consumerSteps ?_ ?_ ?_).2 ?_
  · simp [ApiDb.Keeps, Secret.KeptOn, Secret.keptFrom, exampleApi, exampleOrder, exampleUsers]
  · simp [ApiStep.Keeps, consumerSteps]
  · exact ⟨fun _ => ⟨fun h => h, fun h => h⟩, fun _ => ⟨fun h => h, fun h => h⟩, fun _ => ⟨fun h => h, fun h => h⟩,
      fun _ => ⟨fun h => h, fun h => h⟩, trivial⟩
  · refine ⟨fun h => h, fun h => h, fun h => h, ?_, trivial⟩
    rintro ⟨-, order, hfound, hcheck⟩
    obtain rfl := Option.some.inj hfound
    cases hcheck

end ChopNow
