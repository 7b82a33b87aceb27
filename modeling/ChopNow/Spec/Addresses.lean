import ChopNow.Lib.Interleave
import ChopNow.Lib.Table
import ChopNow.Spec.Payment

/-! AddressesService, statement by statement: the calls of many clients over one table. -/

namespace ChopNow

open Interleave

abbrev AddressId := ℕ
abbrev LandmarkId := ℕ

def MAX_SAVED_ADDRESSES : ℕ := 3

structure UpsertAddressDto where
  label : Option String := none
  description : Option String := none
  quartier : Option String := none
  landmarkId : Option LandmarkId := none
  lat : ℚ
  lng : ℚ
  phone : Option Phone := none
  isDefault : Option Bool := none
  deriving Repr

structure AddressView where
  id : AddressId
  label : Option String
  description : Option String
  quartier : Option String
  landmarkId : Option LandmarkId
  lat : ℚ
  lng : ℚ
  phone : Option Phone
  isDefault : Bool
  createdAt : Time
  updatedAt : Time
  deriving DecidableEq, Repr

structure AddressRow extends AddressView where
  userId : UserId
  deriving DecidableEq, Repr

def AddressRow.toView (row : AddressRow) : AddressView := row.toAddressView

/-- `randomUUID` never gives an id twice. -/
structure AddressDb where
  addresses : List AddressRow
  nextId : AddressId
  clock : Time
  ids : (addresses.map (·.id)).Nodup
  issued : ∀ a ∈ addresses, a.id < nextId

/-- `dto.isDefault` as a condition. -/
def UpsertAddressDto.claims (dto : UpsertAddressDto) : Bool := dto.isDefault.getD false

/-- The columns of the `INSERT` and of the `UPDATE`; an empty phone is none. -/
def UpsertAddressDto.columns (dto : UpsertAddressDto) (row : AddressRow) (now : Time) : AddressRow :=
  { row with
    label := dto.label
    description := dto.description
    quartier := dto.quartier
    landmarkId := dto.landmarkId
    lat := dto.lat
    lng := dto.lng
    phone := match dto.phone with
      | none | some "" => none
      | some phone => some (normalizePhone phone)
    isDefault := dto.claims
    updatedAt := now }

def UpsertAddressDto.newRow (dto : UpsertAddressDto) (id : AddressId) (userId : UserId) (now : Time) : AddressRow :=
  dto.columns
    { id, userId, label := none, description := none, quartier := none, landmarkId := none, lat := 0, lng := 0,
      phone := none, isDefault := false, createdAt := now, updatedAt := now } now

/-! The statements. -/

/-- `ORDER BY "isDefault" DESC, "createdAt" DESC`. -/
def AddressDb.list (db : AddressDb) (userId : UserId) : List AddressView :=
  ((db.addresses.filter fun a => a.userId == userId).insertionSort fun a b =>
    b.isDefault < a.isDefault ∨ b.isDefault = a.isDefault ∧ b.createdAt ≤ a.createdAt).map AddressRow.toView

def AddressDb.count (db : AddressDb) (userId : UserId) : ℕ := db.addresses.countP fun a => a.userId == userId

def AddressRow.demote (userId : UserId) (kept : Option AddressId) (a : AddressRow) : AddressRow :=
  if a.userId = userId ∧ a.isDefault ∧ some a.id ≠ kept then { a with isDefault := false } else a

theorem AddressRow.demote_id (userId : UserId) (kept : Option AddressId) (a : AddressRow) :
    (a.demote userId kept).id = a.id := by
  unfold demote
  split <;> rfl

theorem AddressRow.issued_map {f : AddressRow → AddressRow} {addresses : List AddressRow} {nextId : AddressId}
    (hf : ∀ a, (f a).id = a.id) (h : ∀ a ∈ addresses, a.id < nextId) : ∀ a ∈ addresses.map f, a.id < nextId := by
  simpa only [List.mem_map, forall_exists_index, and_imp, forall_apply_eq_imp_iff₂, hf] using h

/-- `updateMany` on the user's defaults, but for the row that is going to be one. -/
def AddressDb.demote (db : AddressDb) (userId : UserId) (kept : Option AddressId) : AddressDb :=
  { db with
    addresses := db.addresses.map (AddressRow.demote userId kept)
    ids := Table.nodup_map (AddressRow.demote_id userId kept) db.ids
    issued := AddressRow.issued_map (AddressRow.demote_id userId kept) db.issued }

def AddressRow.write (id : AddressId) (dto : UpsertAddressDto) (now : Time) (a : AddressRow) : AddressRow :=
  if a.id = id then dto.columns a now else a

theorem AddressRow.write_id (id : AddressId) (dto : UpsertAddressDto) (now : Time) (a : AddressRow) :
    (a.write id dto now).id = a.id := by
  unfold write
  split <;> rfl

def AddressDb.write (db : AddressDb) (id : AddressId) (dto : UpsertAddressDto) : AddressDb :=
  { db with
    addresses := db.addresses.map (AddressRow.write id dto db.clock)
    ids := Table.nodup_map (AddressRow.write_id id dto db.clock) db.ids
    issued := AddressRow.issued_map (AddressRow.write_id id dto db.clock) db.issued }

theorem AddressRow.issued_append {addresses : List AddressRow} {a : AddressRow} (h : ∀ b ∈ addresses, b.id < a.id) :
    ∀ b ∈ addresses ++ [a], b.id < a.id + 1 := by
  simpa only [List.forall_mem_append, List.forall_mem_singleton] using
    ⟨fun b hb => (h b hb).trans (Nat.lt_succ_self _), Nat.lt_succ_self _⟩

def AddressDb.insertRaw (db : AddressDb) (userId : UserId) (dto : UpsertAddressDto) : AddressDb :=
  { db with
    addresses := db.addresses ++ [dto.newRow db.nextId userId db.clock]
    nextId := db.nextId + 1
    ids := Table.nodup_append db.ids fun a ha => (db.issued a ha).ne
    issued := AddressRow.issued_append (a := dto.newRow db.nextId userId db.clock) db.issued }

def AddressDb.remove (db : AddressDb) (id : AddressId) : AddressDb :=
  { db with
    addresses := db.addresses.filter fun a => a.id != id
    ids := Table.nodup_filter db.ids fun a => a.id != id
    issued := fun a ha => db.issued a (List.mem_of_mem_filter ha) }

/-! The calls. -/

inductive AddressError
  | address_limit_reached
  | address_not_found
  | address_not_yours
  | thrown (err : String)
  deriving Repr

inductive AddressOutcome
  | view (found : Option AddressView)
  | ok
  | error (err : AddressError)
  deriving Repr

/-- Each is named after the statement that comes next. -/
inductive AddressCall
  | count (userId : UserId) (dto : UpsertAddressDto)
  | demoteAll (userId : UserId) (dto : UpsertAddressDto)
  | insert (userId : UserId) (dto : UpsertAddressDto)
  | findToUpdate (userId : UserId) (id : AddressId) (dto : UpsertAddressDto)
  | demoteOthers (userId : UserId) (id : AddressId) (dto : UpsertAddressDto)
  | write (userId : UserId) (id : AddressId) (dto : UpsertAddressDto)
  | listFor (userId : UserId) (id : AddressId)
  | findToDelete (userId : UserId) (id : AddressId)
  | remove (userId : UserId) (id : AddressId)
  | done (outcome : AddressOutcome)

/-- The row, if it is there and the caller's. -/
def AddressDb.owned (db : AddressDb) (userId : UserId) (id : AddressId) : Except AddressError AddressRow :=
  match db.addresses.find? fun a => a.id == id with
  | none => .error .address_not_found
  | some existing => if existing.userId ≠ userId then .error .address_not_yours else .ok existing

def AddressCall.step (db : AddressDb) : AddressCall → Reply → Option (AddressDb × AddressCall)
  | .count userId dto, .ok =>
    if db.count userId ≥ MAX_SAVED_ADDRESSES then some (db, .done (.error .address_limit_reached))
    else some (db, if dto.claims then .demoteAll userId dto else .insert userId dto)
  | .demoteAll userId dto, .ok => some (db.demote userId none, .insert userId dto)
  | .insert userId dto, .ok => some (db.insertRaw userId dto, .listFor userId db.nextId)
  | .findToUpdate userId id dto, .ok =>
    match db.owned userId id with
    | .error err => some (db, .done (.error err))
    | .ok _ => some (db, if dto.claims then .demoteOthers userId id dto else .write userId id dto)
  | .demoteOthers userId id dto, .ok => some (db.demote userId (some id), .write userId id dto)
  | .write userId id dto, .ok => some (db.write id dto, .listFor userId id)
  | .listFor userId id, .ok => some (db, .done (.view ((db.list userId).find? fun a => a.id == id)))
  | .findToDelete userId id, .ok =>
    match db.owned userId id with
    | .error err => some (db, .done (.error err))
    | .ok _ => some (db, .remove userId id)
  -- `delete` wants the row to be there still
  | .remove _ id, .ok =>
    if db.addresses.any fun a => a.id == id then some (db.remove id, .done .ok)
    else some (db, .done (.error (.thrown "P2025")))
  | .done _, _ => none
  | _, .fail err => some (db, .done (.error (.thrown err)))
  | _, _ => none

inductive AddressEvent
  | tick (elapsed : Time)
  | create (userId : UserId) (dto : UpsertAddressDto)
  | update (userId : UserId) (id : AddressId) (dto : UpsertAddressDto)
  | delete (userId : UserId) (id : AddressId)

def addressEvent (db : AddressDb) : AddressEvent → AddressDb × List AddressCall
  | .tick elapsed => ({ db with clock := db.clock + elapsed }, [])
  | .create userId dto => (db, [.count userId dto])
  | .update userId id dto => (db, [.findToUpdate userId id dto])
  | .delete userId id => (db, [.findToDelete userId id])

def addressMachine : Machine AddressDb AddressCall AddressEvent Reply where
  event db n := some (addressEvent db n)
  step db t e := (t.step db e).map fun r => (r.1, [r.2])

end ChopNow
