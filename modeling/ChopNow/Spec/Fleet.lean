import ChopNow.Lib.Interleave
import ChopNow.Lib.Table
import ChopNow.Spec.Dispatch
import ChopNow.Spec.Riders

/-! DispatchService.dispatchOrder over the whole fleet: the query for the nearest rider, and
who got the last order. Dispatches come one after the other here. -/

namespace ChopNow

open Interleave

def RADIUS_KM_BY_VEHICLE : RiderVehicleType → ℚ
  | .onFoot => 1
  | .bicycle => 3
  | .moto => 7
  | .car => 10

def STALE_HEARTBEAT_SECONDS : Time := 60

abbrev Location := ℚ × ℚ

/-- PostGIS on two `geography` points, in metres. -/
abbrev Distance := Location → Location → ℚ

/-- The row with the column that dispatchOrder alone writes. -/
structure FleetRow extends RiderRow where
  lastAssignedAt : Option Time := none

/-- `lastAssignedAt ASC NULLS FIRST`. -/
def FleetRow.turn (r : FleetRow) : WithBot Time :=
  match r.lastAssignedAt with
  | none => ⊥
  | some t => (t : WithBot Time)

structure VendorPoint where
  id : VendorId
  location : Location

/-- `model DispatchEvent` with all its columns. -/
structure DispatchEventRow extends DispatchEvent where
  orderId : OrderId
  vendorId : VendorId
  vehicleType : Option RiderVehicleType := none
  distanceM : Option ℚ := none
  createdAt : Time

/-- Ids are primary keys, and nobody was assigned in the future. `unstamped` has the rider of
each `rider_last_assigned_update_failed`. -/
structure FleetDb where
  orders : List Order
  vendors : List VendorPoint
  riders : List FleetRow
  events : List DispatchEventRow
  unstamped : List RiderId
  clock : Time
  orderIds : (orders.map (·.id)).Nodup
  riderIds : (riders.map (·.id)).Nodup
  stamped : ∀ r ∈ riders, r.turn < clock

/-! The query. -/

structure CandidateRow where
  rider_id : RiderId
  vehicle_type : RiderVehicleType
  reliability_score : ℤ
  distance_m : ℚ
  turn : WithBot Time

/-- The `WHERE`: approved, online, seen a moment ago, and near enough for the vehicle. -/
def FleetRow.candidate (st_distance : Distance) (vendor : Location) (now : Time) (r : FleetRow) : Option CandidateRow :=
  match r.lastLocation, r.lastSeenAt with
  | some lastLocation, some lastSeenAt =>
    if r.status = .active ∧ r.isOnline ∧ now < lastSeenAt + STALE_HEARTBEAT_SECONDS * 1000 ∧
        st_distance lastLocation vendor ≤ RADIUS_KM_BY_VEHICLE r.vehicleType * 1000 then
      some ⟨r.id, r.vehicleType, r.reliabilityScore, st_distance lastLocation vendor, r.turn⟩
    else none
  | _, _ => none

def FleetDb.candidates (st_distance : Distance) (db : FleetDb) (vendor : Location) : List CandidateRow :=
  db.riders.filterMap (FleetRow.candidate st_distance vendor db.clock)

/-- `ORDER BY distance_m, lastAssignedAt`. -/
def CandidateRow.before (c d : CandidateRow) : Bool :=
  decide (c.distance_m < d.distance_m) || (decide (c.distance_m = d.distance_m) && decide (c.turn < d.turn))

/-- `LIMIT 1` may give any row that none comes before. -/
def isFirst (candidates : List CandidateRow) (c : CandidateRow) : Bool := candidates.all fun d => !d.before c

/-! dispatchOrder. -/

theorem FleetRow.turn_lt_succ {riders : List FleetRow} {clock elapsed : Time} (h : ∀ r ∈ riders, r.turn < clock) :
    ∀ r ∈ riders, r.turn < ((clock + elapsed : Time) : WithBot Time) := fun r hr =>
  (h r hr).trans_le (WithBot.coe_le_coe.2 (Nat.le_add_right _ _))

def FleetRow.assign (rider : RiderId) (now : Time) (r : FleetRow) : FleetRow :=
  if r.id = rider then { r with lastAssignedAt := some now } else r

theorem FleetRow.assign_id (rider : RiderId) (now : Time) (r : FleetRow) : (r.assign rider now).id = r.id := by
  unfold assign
  split <;> rfl

theorem FleetRow.assign_turn (rider : RiderId) (now : Time) (r : FleetRow) :
    (r.assign rider now).turn = if r.id = rider then (now : WithBot Time) else r.turn := by
  unfold assign
  split <;> rfl

def Order.assign (order : OrderId) (rider : RiderId) (now : Time) (o : Order) : Order :=
  if o.id = order ∧ o.riderId = none then { o with riderId := some rider, assignedAt := some now } else o

theorem Order.assign_id (order : OrderId) (rider : RiderId) (now : Time) (o : Order) :
    (o.assign order rider now).id = o.id := by
  unfold assign
  split <;> rfl

theorem FleetRow.assign_stamped {riders : List FleetRow} {rider : RiderId} {clock : Time} (h : ∀ r ∈ riders, r.turn < clock) :
    ∀ r ∈ riders.map (FleetRow.assign rider clock), r.turn < ((clock + 1 : Time) : WithBot Time) := by
  simp only [List.mem_map, forall_exists_index, and_imp, forall_apply_eq_imp_iff₂, FleetRow.assign_turn]
  intro r hr
  split
  · exact WithBot.coe_lt_coe.2 (Nat.lt_succ_self _)
  · exact FleetRow.turn_lt_succ h r hr

def FleetDb.claim (db : FleetDb) (order : OrderId) (rider : RiderId) : FleetDb :=
  { db with
    orders := db.orders.map (Order.assign order rider db.clock)
    orderIds := Table.nodup_map (Order.assign_id order rider db.clock) db.orderIds }

/-- The clock moves on with each stamp, so no two are of the same moment. -/
def FleetDb.stamp (db : FleetDb) (rider : RiderId) : FleetDb :=
  { db with
    riders := db.riders.map (FleetRow.assign rider db.clock)
    clock := db.clock + 1
    riderIds := Table.nodup_map (FleetRow.assign_id rider db.clock) db.riderIds
    stamped := FleetRow.assign_stamped db.stamped }

/-- The order's row, and then the rider's turn, which the update may fail to keep. The source does
not wait for that update; here it has landed or failed before the next dispatch. -/
def FleetDb.assign (db : FleetDb) (order : OrderId) (rider : RiderId) (stamped : Bool) : FleetDb :=
  let db := db.claim order rider
  if stamped then db.stamp rider else { db with unstamped := db.unstamped ++ [rider] }

/-- A row that cannot be inserted is dropped. -/
def FleetDb.logDispatchEvent (db : FleetDb) (logged : Bool) (row : DispatchEventRow) : FleetDb :=
  { db with events := if logged then db.events ++ [row] else db.events }

/-- The row that the query gives back is the database's choice; `none` where it has no such choice. -/
def FleetDb.dispatchOrder (st_distance : Distance) (db : FleetDb) (orderId : OrderId) (vendorId : VendorId) (attempt : ℕ)
    (answer : Option RiderId) (stamped logged : Bool) : Option (FleetDb × Option RiderId) :=
  let unasked := if answer.isNone then some (db, none) else none
  match db.orders.find? fun o => o.id == orderId with
  | none => unasked
  | some order =>
    if order.riderId.isSome then unasked
    else
      match db.vendors.find? fun v => v.id == vendorId with
      | none => unasked
      | some vendor =>
        let candidates := db.candidates st_distance vendor.location
        match answer with
        | none =>
          if candidates.isEmpty then some (db.logDispatchEvent logged
            { attempt, outcome := .noCandidate, orderId, vendorId, createdAt := db.clock }, none)
          else none
        | some rider =>
          match candidates.find? fun c => c.rider_id == rider && isFirst candidates c with
          | none => none
          | some chosen => some ((db.assign orderId rider stamped).logDispatchEvent logged
              { attempt, outcome := .assigned, riderId := some rider, orderId, vendorId,
                vehicleType := some chosen.vehicle_type, distanceM := some chosen.distance_m, createdAt := db.clock },
              some rider)

/-! Everything else that happens to the tables. -/

/-- `riderColumns` and `orderColumns` are any other write to a row, `newRider` and `newOrder` any insert. -/
inductive FleetEvent
  | tick (elapsed : Time)
  | dispatchOrder (orderId : OrderId) (vendorId : VendorId) (attempt : ℕ) (answer : Option RiderId)
      (stamped logged : Bool)
  | riderColumns (columns : RiderRow)
  | newRider (row : RiderRow)
  | orderColumns (columns : Order)
  | newOrder (row : Order)
  | vendors (rows : List VendorPoint)

def FleetRow.write (columns : RiderRow) (r : FleetRow) : FleetRow :=
  if r.id = columns.id then { r with toRiderRow := columns } else r

theorem FleetRow.write_id (columns : RiderRow) (r : FleetRow) : (r.write columns).id = r.id := by
  unfold write
  split
  · exact Eq.symm ‹_›
  · rfl

theorem FleetRow.write_turn (columns : RiderRow) (r : FleetRow) : (r.write columns).turn = r.turn := by
  unfold write
  split <;> rfl

/-- No other service writes who the rider is. -/
def Order.keepRider (columns o : Order) : Order :=
  if o.id = columns.id then { columns with riderId := o.riderId, assignedAt := o.assignedAt } else o

theorem Order.keepRider_id (columns o : Order) : (Order.keepRider columns o).id = o.id := by
  unfold keepRider
  split
  · exact Eq.symm ‹_›
  · rfl

theorem FleetRow.append_stamped {riders : List FleetRow} {row : RiderRow} {clock : Time} (h : ∀ r ∈ riders, r.turn < clock) :
    ∀ r ∈ riders ++ [(⟨row, none⟩ : FleetRow)], r.turn < clock := by
  simpa only [List.forall_mem_append, List.forall_mem_singleton] using ⟨h, WithBot.bot_lt_coe clock⟩

theorem FleetRow.write_stamped {riders : List FleetRow} {columns : RiderRow} {clock : Time}
    (h : ∀ r ∈ riders, r.turn < clock) : ∀ r ∈ riders.map (FleetRow.write columns), r.turn < clock := by
  simpa only [List.mem_map, forall_exists_index, and_imp, forall_apply_eq_imp_iff₂, FleetRow.write_turn] using h

/-- An id that is taken fails the insert. -/
def FleetDb.addRider (db : FleetDb) (row : RiderRow) : FleetDb :=
  if h : ∀ r ∈ db.riders, r.id ≠ row.id then
    { db with
      riders := db.riders ++ [⟨row, none⟩]
      riderIds := Table.nodup_append db.riderIds h
      stamped := FleetRow.append_stamped db.stamped }
  else db

def FleetDb.addOrder (db : FleetDb) (row : Order) : FleetDb :=
  if h : ∀ o ∈ db.orders, o.id ≠ row.id then
    { db with
      orders := db.orders ++ [{ row with riderId := none, assignedAt := none }]
      orderIds := Table.nodup_append db.orderIds h }
  else db

def fleetEvent (st_distance : Distance) (db : FleetDb) : FleetEvent → Option FleetDb
  | .tick elapsed => some { db with
      clock := db.clock + elapsed
      stamped := FleetRow.turn_lt_succ db.stamped }
  | .dispatchOrder orderId vendorId attempt answer stamped logged =>
    (db.dispatchOrder st_distance orderId vendorId attempt answer stamped logged).map Prod.fst
  | .riderColumns columns => some { db with
      riders := db.riders.map (FleetRow.write columns)
      riderIds := Table.nodup_map (FleetRow.write_id columns) db.riderIds
      stamped := FleetRow.write_stamped db.stamped }
  | .newRider row => some (db.addRider row)
  | .orderColumns columns => some { db with
      orders := db.orders.map (Order.keepRider columns)
      orderIds := Table.nodup_map (Order.keepRider_id columns) db.orderIds }
  | .newOrder row => some (db.addOrder row)
  | .vendors rows => some { db with vendors := rows }

def fleetMachine (st_distance : Distance) : Machine FleetDb Empty FleetEvent Empty where
  event db n := (fleetEvent st_distance db n).map fun db' => (db', [])
  step _ t _ := t.elim

end ChopNow
