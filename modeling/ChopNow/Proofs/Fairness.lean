import ChopNow.Lib.Table
import ChopNow.Lib.Turns
import ChopNow.Spec.Fleet

/-! The tie-breaker of dispatchOrder: riders who are equally near take turns, however the
fleet moves and whoever else is dispatched in between. -/

namespace ChopNow

open Interleave Turns

/-- The riders' turns: when each got an order last, and how many there are with each. -/
def FleetDb.served (db : FleetDb) : Served RiderId (WithBot Time) where
  last rider := (db.riders.find? fun r => r.id == rider).elim ⊥ FleetRow.turn
  count rider := db.orders.countP fun o => o.riderId == some rider
  missed rider := db.unstamped.count rider

section

variable {st_distance : Distance} {db db' : FleetDb} {orderId : OrderId} {vendorId : VendorId} {attempt : ℕ}
  {answer result : Option RiderId} {stamped logged : Bool} {vendor : Location} {c d : CandidateRow} {rider p q : RiderId}

theorem candidate_of_row {now : Time} {r : FleetRow} (h : r.candidate st_distance vendor now = some c) :
    c.rider_id = r.id ∧ c.turn = r.turn := by
  unfold FleetRow.candidate at h
  split at h
  · split at h
    · obtain rfl := Option.some.inj h
      exact ⟨rfl, rfl⟩
    · cases h
  · cases h

theorem last_of_mem {r : FleetRow} (h : r ∈ db.riders) : db.served.last r.id = r.turn := by
  simp only [FleetDb.served, Table.find?_of_nodup db.riderIds h, Option.elim_some]

/-- A row of the query knows when its rider had the last turn. -/
theorem turn_of_candidate (h : c ∈ db.candidates st_distance vendor) : c.turn = db.served.last c.rider_id := by
  obtain ⟨r, hr, hc⟩ := List.mem_filterMap.1 h
  obtain ⟨hid, hturn⟩ := candidate_of_row hc
  rw [hid, last_of_mem hr, hturn]

theorem candidate_unique (hc : c ∈ db.candidates st_distance vendor) (hd : d ∈ db.candidates st_distance vendor)
    (hid : c.rider_id = d.rider_id) : c = d := by
  obtain ⟨r, hr, hrc⟩ := List.mem_filterMap.1 hc
  obtain ⟨r', hr', hrd⟩ := List.mem_filterMap.1 hd
  have hsame : r.id = r'.id := by rw [← (candidate_of_row hrc).1, hid, (candidate_of_row hrd).1]
  obtain rfl := List.inj_on_of_nodup_map db.riderIds hr hr' hsame
  exact Option.some.inj (hrc ▸ hrd)

/-- Among rows at one distance the first has waited longest. -/
theorem turn_le_of_isFirst {candidates : List CandidateRow} (hfirst : isFirst candidates c = true) (hd : d ∈ candidates)
    (hdist : d.distance_m = c.distance_m) : c.turn ≤ d.turn := by
  have hnot := List.all_eq_true.1 hfirst d hd
  simp only [CandidateRow.before, hdist, lt_irrefl, decide_false, decide_true, Bool.true_and, Bool.false_or,
    Bool.not_eq_true', decide_eq_false_iff_not, not_lt] at hnot
  exact hnot

/-! What one dispatch does. -/

/-- An order without a rider goes to a first row of the query. -/
structure Assigns (st_distance : Distance) (db : FleetDb) (orderId : OrderId) (vendorId : VendorId) (rider : RiderId)
    (stamped : Bool) (db' : FleetDb) : Prop where
  order : ∃ o ∈ db.orders, o.id = orderId ∧ o.riderId = none
  chosen : ∃ vendor, db.vendors.find? (fun v => v.id == vendorId) = some vendor ∧
    ∃ c ∈ db.candidates st_distance vendor.location, c.rider_id = rider ∧
      isFirst (db.candidates st_distance vendor.location) c = true
  orders : db'.orders = (db.assign orderId rider stamped).orders
  riders : db'.riders = (db.assign orderId rider stamped).riders
  unstamped : db'.unstamped = (db.assign orderId rider stamped).unstamped

theorem dispatchOrder_cases
    (h : db.dispatchOrder st_distance orderId vendorId attempt answer stamped logged = some (db', result)) :
    answer = none ∧ db'.served = db.served ∨
      ∃ rider, answer = some rider ∧ Assigns st_distance db orderId vendorId rider stamped db' := by
  have hunasked : (if answer.isNone then some (db, (none : Option RiderId)) else none) = some (db', result) →
      answer = none ∧ db'.served = db.served := by
    intro h
    split at h
    · next hnone =>
      obtain ⟨rfl, -⟩ := Prod.mk.inj (Option.some.inj h)
      exact ⟨by simpa using hnone, rfl⟩
    · cases h
  unfold FleetDb.dispatchOrder at h
  simp only at h
  split at h
  · exact .inl (hunasked h)
  next order horder =>
  split at h
  · exact .inl (hunasked h)
  next hfree =>
  split at h
  · exact .inl (hunasked h)
  next vendor hvendor =>
  split at h
  · split at h
    · obtain ⟨rfl, -⟩ := Prod.mk.inj (Option.some.inj h)
      exact .inl ⟨rfl, rfl⟩
    · cases h
  next rider =>
  split at h
  · cases h
  next chosen hchosen =>
  obtain ⟨rfl, -⟩ := Prod.mk.inj (Option.some.inj h)
  have hfirst := List.find?_some hchosen
  rw [Bool.and_eq_true, beq_iff_eq] at hfirst
  refine .inr ⟨rider, rfl, ?_, ⟨vendor, hvendor, chosen, List.mem_of_find?_eq_some hchosen, hfirst⟩, rfl, rfl, rfl⟩
  exact ⟨order, List.mem_of_find?_eq_some horder, by simpa using List.find?_some horder, by simpa using hfree⟩

theorem last_stamp (hr : ∃ r ∈ db.riders, r.id = rider) (q : RiderId) :
    (db.stamp rider).served.last q = Function.update db.served.last rider (db.clock : WithBot Time) q := by
  obtain ⟨r, hr, rfl⟩ := hr
  have hfind : (db.stamp r.id).riders.find? (fun r => r.id == q) =
      (db.riders.find? fun r => r.id == q).map (FleetRow.assign r.id db.clock) := by
    simp only [FleetDb.stamp, List.find?_map, Function.comp_def, FleetRow.assign_id]
  by_cases hq : q = r.id
  · subst hq
    simp only [FleetDb.served] at hfind ⊢
    rw [hfind, Table.find?_of_nodup db.riderIds hr]
    simp [FleetRow.assign_turn]
  · rw [Function.update_of_ne hq]
    simp only [FleetDb.served] at hfind ⊢
    rw [hfind]
    cases hfound : db.riders.find? fun r => r.id == q with
    | none => rfl
    | some r' =>
      have hr' : r'.id = q := by simpa using List.find?_some hfound
      simp [FleetRow.assign_turn, hr', hq]

theorem count_claim (ho : ∃ o ∈ db.orders, o.id = orderId ∧ o.riderId = none) (q : RiderId) :
    (db.claim orderId rider).served.count q = Function.update db.served.count rider (db.served.count rider + 1) q := by
  obtain ⟨o, ho, rfl, hfree⟩ := ho
  -- the only row with this id is free
  have hrow : db.orders.map (Order.assign o.id rider db.clock) = db.orders.map fun a =>
      if a.id = o.id then { a with riderId := some rider, assignedAt := some db.clock } else a := by
    refine List.map_congr_left fun a ha => ?_
    by_cases hao : a.id = o.id
    · obtain rfl := List.inj_on_of_nodup_map db.orderIds ha ho hao
      simp [Order.assign, hfree]
    · simp [Order.assign, hao]
  have hupdate := Table.countP_update db.orderIds ho (fun o => o.riderId == some q)
    fun a => { a with riderId := some rider, assignedAt := some db.clock }
  simp only [FleetDb.served, FleetDb.claim, hrow]
  rw [hfree] at hupdate
  by_cases hq : q = rider
  · subst hq
    rw [Function.update_self]
    simpa using hupdate
  · rw [Function.update_of_ne hq]
    simpa [Ne.symm hq] using hupdate

/-- The rider is served, and nobody else. -/
theorem served_assign (ho : ∃ o ∈ db.orders, o.id = orderId ∧ o.riderId = none) (hr : ∃ r ∈ db.riders, r.id = rider) :
    (db.assign orderId rider stamped).served =
      if stamped then db.served.serve rider (db.clock : WithBot Time) else db.served.miss rider := by
  cases stamped with
  | true =>
    rw [if_pos rfl]
    ext q
    · have hclaimed : ∃ r ∈ (db.claim orderId rider).riders, r.id = rider := hr
      exact last_stamp hclaimed q
    · exact count_claim ho q
    · rfl
  | false =>
    rw [if_neg Bool.false_ne_true]
    ext q
    · rfl
    · exact count_claim ho q
    · change (db.unstamped ++ [rider]).count q = Function.update db.served.missed rider (db.unstamped.count rider + 1) q
      rw [List.count_append, List.count_singleton]
      by_cases hq : q = rider
      · subst hq
        rw [Function.update_self, if_pos (beq_self_eq_true q)]
      · rw [Function.update_of_ne hq, if_neg (by simpa using Ne.symm hq)]
        rfl

theorem Assigns.served (h : Assigns st_distance db orderId vendorId rider stamped db') :
    db'.served = if stamped then db.served.serve rider (db.clock : WithBot Time) else db.served.miss rider := by
  have hsame : db'.served = (db.assign orderId rider stamped).served := by
    simp only [FleetDb.served, h.orders, h.riders, h.unstamped]
  obtain ⟨vendor, -, c, hc, rfl, -⟩ := h.chosen
  obtain ⟨r, hr, hrc⟩ := List.mem_filterMap.1 hc
  rw [hsame, served_assign h.order ⟨r, hr, (candidate_of_row hrc).1.symm⟩]

/-! Nothing else takes a turn. -/

theorem served_columns (columns : RiderRow) (q : RiderId) :
    ((db.riders.map (FleetRow.write columns)).find? fun r => r.id == q).elim ⊥ FleetRow.turn = db.served.last q := by
  simp only [List.find?_map, Function.comp_def, FleetRow.write_id, FleetDb.served]
  cases db.riders.find? fun r => r.id == q with
  | none => rfl
  | some r => exact FleetRow.write_turn columns r

/-- A rider without a turn is like a rider that is not there. -/
theorem served_addRider (row : RiderRow) : (db.addRider row).served = db.served := by
  unfold FleetDb.addRider
  split
  · ext q
    · simp only [FleetDb.served, List.find?_append]
      cases db.riders.find? fun r => r.id == q with
      | some r => rfl
      | none =>
        by_cases hq : row.id = q
        · simp [hq, FleetRow.turn]
        · simp [hq]
    · rfl
    · rfl
  · rfl

theorem served_addOrder (row : Order) : (db.addOrder row).served = db.served := by
  unfold FleetDb.addOrder
  split
  · ext q
    · rfl
    · simp [FleetDb.served]
    · rfl
  · rfl

theorem served_keepRider (columns : Order) (q : RiderId) :
    (db.orders.map (Order.keepRider columns)).countP (fun o => o.riderId == some q) = db.served.count q := by
  rw [List.countP_map]
  refine List.countP_congr fun o _ => ?_
  simp only [Function.comp, Order.keepRider]
  split <;> rfl

theorem served_event {n : FleetEvent} (h : fleetEvent st_distance db n = some db') :
    db'.served = db.served ∨ ∃ orderId vendorId attempt rider stamped logged,
      n = .dispatchOrder orderId vendorId attempt (some rider) stamped logged ∧
        Assigns st_distance db orderId vendorId rider stamped db' := by
  cases n with
  | dispatchOrder orderId vendorId attempt answer stamped logged =>
    obtain ⟨⟨db'', result⟩, hdispatch, rfl⟩ := Option.map_eq_some_iff.1 h
    rcases dispatchOrder_cases hdispatch with ⟨-, hsame⟩ | ⟨rider, rfl, hassigns⟩
    · exact .inl hsame
    · exact .inr ⟨orderId, vendorId, attempt, rider, stamped, logged, rfl, hassigns⟩
  | tick elapsed =>
    obtain rfl := Option.some.inj h
    exact .inl rfl
  | riderColumns columns =>
    obtain rfl := Option.some.inj h
    exact .inl (Served.ext (funext (served_columns columns)) rfl rfl)
  | newRider row =>
    obtain rfl := Option.some.inj h
    exact .inl (served_addRider row)
  | orderColumns columns =>
    obtain rfl := Option.some.inj h
    exact .inl (Served.ext rfl (funext (served_keepRider columns)) rfl)
  | newOrder row =>
    obtain rfl := Option.some.inj h
    exact .inl (served_addOrder row)
  | vendors rows =>
    obtain rfl := Option.some.inj h
    exact .inl rfl

/-! Runs. -/

/-- Both can be had for an order of this vendor, from the same distance. -/
def FleetDb.asNear (st_distance : Distance) (db : FleetDb) (vendorId : VendorId) (p q : RiderId) : Prop :=
  ∃ vendor, db.vendors.find? (fun v => v.id == vendorId) = some vendor ∧
    ∃ c ∈ db.candidates st_distance vendor.location, ∃ d ∈ db.candidates st_distance vendor.location,
      c.rider_id = p ∧ d.rider_id = q ∧ d.distance_m = c.distance_m

/-- Whenever one of the group gets an order, the others could have had it as well. -/
def interchangeable (st_distance : Distance) (group : Set RiderId) : Guard FleetDb Empty FleetEvent Empty
  | db, _, .event (.dispatchOrder _ vendorId _ (some p) _ _) => p ∈ group → ∀ q ∈ group, db.asNear st_distance vendorId p q
  | _, _, _ => True

theorem last_lt_clock (db : FleetDb) (q : RiderId) : db.served.last q < (db.clock : WithBot Time) := by
  simp only [FleetDb.served]
  cases hfound : db.riders.find? fun r => r.id == q with
  | none => exact WithBot.bot_lt_coe _
  | some r => exact db.stamped r (List.mem_of_find?_eq_some hfound)

theorem Assigns.last_le (h : Assigns st_distance db orderId vendorId p stamped db')
    (hnear : db.asNear st_distance vendorId p q) : db.served.last p ≤ db.served.last q := by
  obtain ⟨vendor, hvendor, c, hc, rfl, hfirst⟩ := h.chosen
  obtain ⟨vendor', hvendor', c', hc', d, hd, hsame, rfl, hdist⟩ := hnear
  obtain rfl := Option.some.inj (hvendor.symm.trans hvendor')
  obtain rfl := candidate_unique hc' hc hsame
  rw [← turn_of_candidate hc, ← turn_of_candidate hd]
  exact turn_le_of_isFirst hfirst hd hdist

/-- A dispatch is fair to riders who can stand in for each other. -/
theorem Assigns.fair (h : Assigns st_distance db orderId vendorId rider stamped db') (hfair : db.served.Fair p q) (hne : p ≠ q)
    (hnear : rider = p → db.asNear st_distance vendorId p q) : db'.served.Fair p q := by
  rw [h.served]
  cases stamped with
  | true =>
    refine hfair.next hne (fun hp => ?_) (last_lt_clock db q)
    subst hp
    exact h.last_le (hnear rfl)
  | false => exact hfair.miss hne

/-- In any run of dispatches, of orders of any vendors and with the fleet moving as it likes, of two
riders who could always stand in for each other one gets no more than an order above the other, and
one more for each time that its own turn could not be kept. A turn is kept or lost before the next
dispatch looks. -/
theorem riders_take_turns (st_distance : Distance) (group : Set RiderId) {db : FleetDb} {s : Pool FleetDb Empty}
    (hfresh : ∀ o ∈ db.orders, o.riderId = none)
    (h : (fleetMachine st_distance).Reach (interchangeable st_distance group) ⟨db, []⟩ s) :
    ∀ p ∈ group, ∀ q ∈ group, s.shared.orders.countP (fun o => o.riderId == some p) ≤
      s.shared.orders.countP (fun o => o.riderId == some q) + 1 + s.shared.unstamped.count p := by
  have hfair : ∀ p ∈ group, ∀ q ∈ group, p ≠ q → s.shared.served.Fair p q := by
    refine h.invariant (J := fun db _ => ∀ p ∈ group, ∀ q ∈ group, p ≠ q → db.served.Fair p q) ?_ ?_ ?_
    · refine fun p _ q _ _ => Served.Fair.start (fun rider => List.countP_eq_zero.2 fun o ho => ?_) p q
      simp [hfresh o ho]
    · intro db us n db' ts _ hfair hok hev p hp q hq hne
      obtain ⟨db'', hevent, heq⟩ := Option.map_eq_some_iff.1 hev
      obtain ⟨rfl, -⟩ := Prod.mk.inj heq
      rcases served_event hevent with hsame | ⟨orderId, vendorId, attempt, rider, stamped, logged, rfl, hassigns⟩
      · rw [hsame]
        exact hfair p hp q hq hne
      · refine hassigns.fair (hfair p hp q hq hne) hne fun hrider => ?_
        subst hrider
        exact hok hp q hq
    · intro db us vs t
      exact t.elim
  intro p hp q hq
  by_cases hne : p = q
  · subst hne
    omega
  · exact (hfair p hp q hq hne).ahead

end

def FleetDb.asNearB (st_distance : Distance) (db : FleetDb) (vendorId : VendorId) (p q : RiderId) : Bool :=
  (db.vendors.find? fun v => v.id == vendorId).any fun vendor =>
    let candidates := db.candidates st_distance vendor.location
    candidates.any fun c => candidates.any fun d => c.rider_id == p && d.rider_id == q && d.distance_m == c.distance_m

theorem asNear_of_bool {st_distance : Distance} {db : FleetDb} {vendorId : VendorId} {p q : RiderId}
    (h : db.asNearB st_distance vendorId p q = true) : db.asNear st_distance vendorId p q := by
  obtain ⟨vendor, hvendor, h⟩ := (Option.any_eq_true _ _).1 h
  obtain ⟨c, hc, h⟩ := List.any_eq_true.1 h
  obtain ⟨d, hd, h⟩ := List.any_eq_true.1 h
  simp only [Bool.and_eq_true, beq_iff_eq] at h
  exact ⟨vendor, hvendor, c, hc, d, hd, h.1.1, h.1.2, h.2⟩

def interchangeableB (st_distance : Distance) (group : List RiderId) (db : FleetDb) (_ : List Empty) :
    Move Empty FleetEvent Empty → Bool
  | .event (.dispatchOrder _ vendorId _ (some p) _ _) => group.all fun q => db.asNearB st_distance vendorId p q
  | _ => true

theorem interchangeable_of_bool {st_distance : Distance} {group : List RiderId} {db : FleetDb} {us : List Empty}
    {m : Move Empty FleetEvent Empty} (h : interchangeableB st_distance group db us m = true) :
    interchangeable st_distance (fun rider => rider ∈ group) db us m := by
  unfold interchangeable
  split
  · exact fun _ q hq => asNear_of_bool (List.all_eq_true.1 h q hq)
  · trivial

def exampleRider (id : RiderId) : RiderRow where
  id := id
  status := .active
  reliabilityScore := 100
  idCardPhotoUrl := ""
  selfiePhotoUrl := ""
  createdAt := 0
  userId := id
  vehicleType := .moto
  preferredZone := none
  vehiclePhotoUrl := none
  licensePlate := none
  momoPhone := "+237670000001"
  isOnline := true
  lastLocation := some (0, 0)
  lastSeenAt := some 0
  submittedAt := 0

/-- Two places, one of them out of reach of the other. -/
def exampleDistance : Distance := fun a b => if a = b then 0 else 20000

/-- Two riders wait at the vendor's door. The second turn is not kept, so the same rider is first again. -/
def exampleDoor : List (Act FleetEvent Empty) :=
  [.event (.vendors [⟨7, 0, 0⟩]), .event (.newRider (exampleRider 5)), .event (.newRider (exampleRider 6)),
    .event (.newOrder { exampleOrder with id := 1 }), .event (.newOrder { exampleOrder with id := 2 }),
    .event (.newOrder { exampleOrder with id := 3 }), .event (.dispatchOrder 1 7 1 (some 5) true true),
    .event (.dispatchOrder 2 7 1 (some 6) false true), .event (.dispatchOrder 3 7 1 (some 6) true false)]

def emptyFleet : FleetDb where
  orders := []
  vendors := []
  riders := []
  events := []
  unstamped := []
  clock := 0
  orderIds := List.nodup_nil
  riderIds := List.nodup_nil
  stamped := List.forall_mem_nil _

theorem two_at_the_door :
    ∃ s, (fleetMachine exampleDistance).Reach (interchangeable exampleDistance fun rider => rider ∈ [5, 6]) ⟨emptyFleet, []⟩ s ∧
      s.shared.orders.countP (fun o => o.riderId == some 6) ≤
        s.shared.orders.countP (fun o => o.riderId == some 5) + 1 + s.shared.unstamped.count 6 ∧
      (s.shared.orders.map (·.riderId) == [some 5, some 6, some 6]) = true := by
  obtain ⟨s, hs, ht⟩ := Machine.reach_of_test (fleetMachine exampleDistance)
    (interchangeable exampleDistance fun rider => rider ∈ [5, 6])
    (interchangeableB exampleDistance [5, 6]) (fun _ _ _ => interchangeable_of_bool)
    ⟨emptyFleet, []⟩ exampleDoor (fun s => s.shared.orders.map (·.riderId) == [some 5, some 6, some 6]) (by decide +kernel)
  have hfresh : ∀ o ∈ emptyFleet.orders, o.riderId = none := List.forall_mem_nil _
  exact ⟨s, hs, riders_take_turns exampleDistance _ hfresh hs 6 (.tail _ (.head _)) 5 (.head _), ht⟩

end ChopNow
