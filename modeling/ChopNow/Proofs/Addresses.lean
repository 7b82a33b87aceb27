import ChopNow.Lib.Inflight
import ChopNow.Spec.Addresses

/-! Saved addresses, with the calls of all clients interleaved. The limit is checked before the
row is inserted, and the default is given up before the new one is set. -/

namespace ChopNow

open Interleave

/-- What one statement of a call does. -/
inductive AddressMove (db : AddressDb) : AddressCall → AddressDb → AddressCall → Prop
  | finish {t : AddressCall} (outcome : AddressOutcome) : AddressMove db t db (.done outcome)
  | counted {userId : UserId} {dto : UpsertAddressDto} : db.count userId < MAX_SAVED_ADDRESSES →
      AddressMove db (.count userId dto) db (if dto.claims then .demoteAll userId dto else .insert userId dto)
  | demotedAll (userId : UserId) (dto : UpsertAddressDto) :
      AddressMove db (.demoteAll userId dto) (db.demote userId none) (.insert userId dto)
  | inserted (userId : UserId) (dto : UpsertAddressDto) :
      AddressMove db (.insert userId dto) (db.insertRaw userId dto) (.listFor userId db.nextId)
  | foundToUpdate {userId : UserId} {id : AddressId} {dto : UpsertAddressDto} {a : AddressRow} :
      db.owned userId id = .ok a →
      AddressMove db (.findToUpdate userId id dto) db (if dto.claims then .demoteOthers userId id dto else .write userId id dto)
  | demotedOthers (userId : UserId) (id : AddressId) (dto : UpsertAddressDto) :
      AddressMove db (.demoteOthers userId id dto) (db.demote userId (some id)) (.write userId id dto)
  | written (userId : UserId) (id : AddressId) (dto : UpsertAddressDto) :
      AddressMove db (.write userId id dto) (db.write id dto) (.listFor userId id)
  | foundToDelete {userId : UserId} {id : AddressId} {a : AddressRow} : db.owned userId id = .ok a →
      AddressMove db (.findToDelete userId id) db (.remove userId id)
  | removed (userId : UserId) (id : AddressId) : AddressMove db (.remove userId id) (db.remove id) (.done .ok)

section

variable {db db' : AddressDb} {t t' : AddressCall} {e : Reply} {userId other : UserId} {id : AddressId} {a b : AddressRow}
  {dto : UpsertAddressDto}

theorem addressMove_of_step (h : t.step db e = some (db', t')) : AddressMove db t db' t' := by
  cases e with
  | accepted ref => cases t <;> cases h
  | refused reason => cases t <;> cases h
  | lost ref reason => cases t <;> cases h
  | fail err => cases t <;> cases h <;> exact .finish _
  | ok =>
    cases t with
    | count userId dto =>
      simp only [AddressCall.step] at h
      split at h <;> cases h
      · exact .finish _
      · exact .counted (not_le.1 ‹_›)
    | findToUpdate userId id dto =>
      simp only [AddressCall.step] at h
      split at h <;> cases h
      · exact .finish _
      · exact .foundToUpdate ‹_›
    | findToDelete userId id =>
      simp only [AddressCall.step] at h
      split at h <;> cases h
      · exact .finish _
      · exact .foundToDelete ‹_›
    | remove userId id =>
      simp only [AddressCall.step] at h
      split at h <;> cases h
      · exact .removed ..
      · exact .finish _
    | demoteAll userId dto => cases h; exact .demotedAll ..
    | insert userId dto => cases h; exact .inserted ..
    | demoteOthers userId id dto => cases h; exact .demotedOthers ..
    | write userId id dto => cases h; exact .written ..
    | listFor userId id => cases h; exact .finish _
    | done outcome => cases h

theorem addressMachine_step {ts : List AddressCall} (h : addressMachine.step db t e = some (db', ts)) :
    ∃ t', ts = [t'] ∧ AddressMove db t db' t' := by
  obtain ⟨⟨db₁, t'⟩, hst, hr⟩ := Option.map_eq_some_iff.1 h
  obtain ⟨rfl, rfl⟩ := Prod.mk.inj hr
  exact ⟨t', rfl, addressMove_of_step hst⟩

theorem addressMachine_event {n : AddressEvent} {ts : List AddressCall} (h : addressMachine.event db n = some (db', ts)) :
    db' = (addressEvent db n).1 ∧ ts = (addressEvent db n).2 :=
  Prod.mk.inj (Option.some.inj h).symm

/-! Rows and their owners. -/

theorem AddressRow.demote_userId (kept : Option AddressId) (a : AddressRow) : (a.demote userId kept).userId = a.userId := by
  unfold demote
  split <;> rfl

theorem AddressRow.write_userId (now : Time) (a : AddressRow) : (a.write id dto now).userId = a.userId := by
  unfold write
  split <;> rfl

theorem owned_ok (h : db.owned userId id = .ok a) : a ∈ db.addresses ∧ a.id = id ∧ a.userId = userId := by
  unfold AddressDb.owned at h
  split at h
  · cases h
  next existing hfound =>
  split at h
  · cases h
  next howner =>
  obtain rfl := Except.ok.inj h
  exact ⟨List.mem_of_find?_eq_some hfound, by simpa using List.find?_some hfound, not_not.1 howner⟩

/-- Nobody else has or will have a row with this id. -/
def AddressDb.Holds (db : AddressDb) (userId : UserId) (id : AddressId) : Prop :=
  id < db.nextId ∧ ∀ a ∈ db.addresses, a.id = id → a.userId = userId

theorem holds_of_owned (h : db.owned userId id = .ok a) : db.Holds userId id := by
  obtain ⟨ha, rfl, howner⟩ := owned_ok h
  refine ⟨db.issued a ha, fun b hb hid => ?_⟩
  obtain rfl := List.inj_on_of_nodup_map db.ids hb ha hid
  exact howner

/-- The rows that there are keep their owners, and new rows have new ids. -/
structure KeepsOwners (db db' : AddressDb) : Prop where
  nextId : db.nextId ≤ db'.nextId
  rows : ∀ a' ∈ db'.addresses, (∃ a ∈ db.addresses, a'.id = a.id ∧ a'.userId = a.userId) ∨ db.nextId ≤ a'.id

theorem KeepsOwners.holds (h : KeepsOwners db db') (hold : db.Holds userId id) : db'.Holds userId id := by
  refine ⟨hold.1.trans_le h.nextId, fun a' ha' hid => ?_⟩
  rcases h.rows a' ha' with ⟨a, ha, hid', howner⟩ | hnew
  · exact howner.trans (hold.2 a ha (hid'.symm.trans hid))
  · exact absurd (hid ▸ hold.1) (not_lt.2 hnew)

theorem AddressMove.owners (h : AddressMove db t db' t') : KeepsOwners db db' := by
  have hsame : ∀ {db' : AddressDb}, db'.nextId = db.nextId → (∀ a' ∈ db'.addresses, ∃ a ∈ db.addresses,
      a'.id = a.id ∧ a'.userId = a.userId) → KeepsOwners db db' := fun hnext hrows =>
    ⟨hnext.ge, fun a' ha' => .inl (hrows a' ha')⟩
  have hmap : ∀ {f : AddressRow → AddressRow}, (∀ a, (f a).id = a.id) → (∀ a, (f a).userId = a.userId) →
      ∀ a' ∈ db.addresses.map f, ∃ a ∈ db.addresses, a'.id = a.id ∧ a'.userId = a.userId := by
    intro f hid huser a' ha'
    obtain ⟨a, ha, rfl⟩ := List.mem_map.1 ha'
    exact ⟨a, ha, hid a, huser a⟩
  cases h with
  | demotedAll userId dto => exact hsame rfl (hmap (AddressRow.demote_id userId none) (AddressRow.demote_userId none))
  | demotedOthers userId id dto =>
    exact hsame rfl (hmap (AddressRow.demote_id userId (some id)) (AddressRow.demote_userId (some id)))
  | written userId id dto => exact hsame rfl (hmap (AddressRow.write_id id dto db.clock) (AddressRow.write_userId db.clock))
  | removed userId id => exact hsame rfl fun a ha => ⟨a, List.mem_of_mem_filter ha, rfl, rfl⟩
  | inserted userId dto =>
    refine ⟨Nat.le_succ _, fun a' ha' => ?_⟩
    rcases List.mem_append.1 ha' with ha | ha
    · exact .inl ⟨a', ha, rfl, rfl⟩
    · obtain rfl := List.mem_singleton.1 ha
      exact .inr le_rfl
  | _ => exact hsame rfl fun a ha => ⟨a, ha, rfl, rfl⟩

/-! Whose call it is. -/

def AddressCall.caller : AddressCall → Option UserId
  | .count userId _ | .demoteAll userId _ | .insert userId _ | .findToUpdate userId .. | .demoteOthers userId ..
  | .write userId .. | .listFor userId _ | .findToDelete userId _ | .remove userId _ => some userId
  | .done _ => none

def AddressEvent.caller : AddressEvent → Option UserId
  | .tick _ => none
  | .create userId _ | .update userId .. | .delete userId _ => some userId

/-- The row that a call is going to write to is its caller's. -/
def AddressCall.Knows (db : AddressDb) : AddressCall → Prop
  | .demoteOthers userId id _ | .write userId id _ | .remove userId id => db.Holds userId id
  | _ => True

theorem AddressCall.Knows.keep (h : t.Knows db) (hkeep : KeepsOwners db db') : t.Knows db' := by
  cases t with
  | demoteOthers userId id dto => exact hkeep.holds h
  | write userId id dto => exact hkeep.holds h
  | remove userId id => exact hkeep.holds h
  | _ => trivial

theorem AddressMove.knows (h : AddressMove db t db' t') (ht : t.Knows db) : t'.Knows db' := by
  have hkeep := h.owners
  cases h with
  | @counted userId dto hroom => cases hclaims : dto.claims <;> trivial
  | @foundToUpdate userId id dto a howned => cases hclaims : dto.claims <;> exact holds_of_owned howned
  | foundToDelete howned => exact holds_of_owned howned
  | demotedOthers => exact hkeep.holds ht
  | _ => trivial

theorem AddressMove.caller (h : AddressMove db t db' t') : t'.caller = none ∨ t'.caller = t.caller := by
  cases h with
  | @counted userId dto hroom => cases hclaims : dto.claims <;> exact .inr rfl
  | @foundToUpdate userId id dto a howned => cases hclaims : dto.claims <;> exact .inr rfl
  | finish | removed => exact .inl rfl
  | _ => exact .inr rfl

/-- A write that leaves a user's rows alone. -/
theorem rows_map {f : AddressRow → AddressRow} {rows : List AddressRow} (howner : ∀ a, (f a).userId = a.userId)
    (hrow : ∀ a ∈ rows, a.userId = userId → f a = a) :
    (rows.map f).filter (fun a => a.userId == userId) = rows.filter fun a => a.userId == userId := by
  rw [List.filter_map]
  simp only [Function.comp_def, howner]
  calc
    (rows.filter fun a => a.userId == userId).map f = (rows.filter fun a => a.userId == userId).map id :=
      List.map_congr_left fun a ha => hrow a (List.mem_of_mem_filter ha) (by simpa using List.of_mem_filter ha)
    _ = rows.filter fun a => a.userId == userId := List.map_id _

def AddressDb.rowsOf (db : AddressDb) (userId : UserId) : List AddressRow := db.addresses.filter fun a => a.userId == userId

theorem AddressRow.demote_other (kept : Option AddressId) (h : a.userId ≠ other) : a.demote other kept = a :=
  if_neg fun hand => h hand.1

/-- A call touches its caller's rows only. -/
theorem AddressMove.rowsOf (h : AddressMove db t db' t') (ht : t.Knows db) (hcaller : t.caller ≠ some userId) :
    db'.rowsOf userId = db.rowsOf userId := by
  cases h with
  | demotedAll other dto =>
    exact rows_map (AddressRow.demote_userId none) fun a _ ha =>
      AddressRow.demote_other none fun heq => hcaller (congrArg some (heq.symm.trans ha))
  | demotedOthers other id dto =>
    exact rows_map (AddressRow.demote_userId (some id)) fun a _ ha =>
      AddressRow.demote_other (some id) fun heq => hcaller (congrArg some (heq.symm.trans ha))
  | written other id dto =>
    refine rows_map (AddressRow.write_userId db.clock) fun a hmem ha => if_neg fun hid => hcaller ?_
    rw [AddressCall.caller, ← ht.2 a hmem hid, ha]
  | removed other id =>
    simp only [AddressDb.rowsOf, AddressDb.remove, List.filter_filter]
    refine List.filter_congr fun a hmem => ?_
    by_cases ha : a.userId = userId
    · have hid : a.id ≠ id := fun hid => hcaller (by rw [AddressCall.caller, ← ht.2 a hmem hid, ha])
      simp [ha, hid]
    · simp [ha]
  | inserted other dto =>
    have hother : other ≠ userId := fun heq => hcaller (congrArg some heq)
    have hnone : [dto.newRow db.nextId other db.clock].filter (fun a => a.userId == userId) = [] := by
      simp [UpsertAddressDto.newRow, UpsertAddressDto.columns, hother]
    rw [AddressDb.rowsOf, AddressDb.insertRaw, List.filter_append, hnone, List.append_nil, AddressDb.rowsOf]
  | _ => rfl

end

/-- No event writes. -/
theorem addressEvent_rows (db : AddressDb) (n : AddressEvent) :
    (addressEvent db n).1.addresses = db.addresses ∧ KeepsOwners db (addressEvent db n).1 := by
  cases n <;> exact ⟨rfl, le_rfl, fun a ha => .inl ⟨a, ha, rfl, rfl⟩⟩

/-- A call starts with a look at the table. -/
theorem addressEvent_starts (db : AddressDb) (n : AddressEvent) :
    ∀ t ∈ (addressEvent db n).2, t.caller = n.caller ∧ t.Knows (addressEvent db n).1 := by
  cases n with
  | tick elapsed => exact List.forall_mem_nil _
  | _ => exact List.forall_mem_singleton.2 ⟨rfl, trivial⟩

/-- No call of this user. -/
def notBy (userId : UserId) : Guard AddressDb AddressCall AddressEvent Reply := fun _ _ m =>
  ∀ n, m = .event n → n.caller ≠ some userId

/-- Whatever the other clients do, with their calls interleaved in any way and with whatever ids they
send, it leaves a user's saved addresses as they are. -/
theorem addresses_own (userId : UserId) {db : AddressDb} {q : Pool AddressDb AddressCall}
    (h : addressMachine.Reach (notBy userId) ⟨db, []⟩ q) :
    q.shared.list userId = db.list userId := by
  have hrows := (h.stable (I := fun s => s.rowsOf userId = db.rowsOf userId)
    (L := fun s t => t.Knows s ∧ t.caller ≠ some userId) rfl (List.forall_mem_nil _) ?_ ?_).1
  · unfold AddressDb.list
    rw [show q.shared.addresses.filter (fun a => a.userId == userId) = _ from hrows]
    rfl
  · intro s us n s' ts _ hI hok hev
    have hcaller := hok n rfl
    obtain ⟨rfl, rfl⟩ := addressMachine_event hev
    obtain ⟨hsame, hkeep⟩ := addressEvent_rows s n
    refine ⟨?_, fun t ht => ?_, fun u hu => ⟨hu.1.keep hkeep, hu.2⟩⟩
    · rw [AddressDb.rowsOf, hsame]
      exact hI
    · obtain ⟨hstarts, hknows⟩ := addressEvent_starts s n t ht
      exact ⟨hknows, hstarts ▸ hcaller⟩
  · intro s us vs t e s' ts _ hI ht _ hst
    obtain ⟨t', rfl, hmove⟩ := addressMachine_step hst
    refine ⟨(hmove.rowsOf ht.1 ht.2).trans hI, fun t'' ht'' => ?_, fun u hu => ⟨hu.1.keep hmove.owners, hu.2⟩⟩
    obtain rfl := List.mem_singleton.1 ht''
    refine ⟨hmove.knows ht.1, ?_⟩
    rcases hmove.caller with hnone | hsame
    · exact hnone ▸ nofun
    · exact hsame ▸ ht.2

def emptyAddresses : AddressDb where
  addresses := []
  nextId := 0
  clock := 0
  ids := List.nodup_nil
  issued := List.forall_mem_nil _

def exampleAddress : UpsertAddressDto where
  label := some "Maison"
  lat := 81 / 20
  lng := 97 / 10

/-- User 2 saves an address and goes for the one that user 1 might have. -/
def exampleStranger : List (Act AddressEvent Reply) :=
  [.event (.create 2 { exampleAddress with isDefault := some true }), .step 0 .ok, .step 0 .ok, .step 0 .ok,
    .event (.update 2 0 exampleAddress), .step 0 .ok, .event (.delete 2 0), .step 0 .ok]

def notByB (userId : UserId) (_ : AddressDb) (_ : List AddressCall) : Move AddressCall AddressEvent Reply → Bool
  | .event n => n.caller != some userId
  | .step .. => true

theorem notBy_of_bool {userId : UserId} {db : AddressDb} {us : List AddressCall} {m : Move AddressCall AddressEvent Reply}
    (h : notByB userId db us m = true) : notBy userId db us m := by
  rintro n rfl
  simpa [notByB] using h

/-- With an address of user 1 in the table. -/
def exampleAddresses : AddressDb := emptyAddresses.insertRaw 1 exampleAddress

theorem stranger_kept_out :
    ∃ q, addressMachine.Reach (notBy 1) ⟨exampleAddresses, []⟩ q ∧ q.shared.list 1 = exampleAddresses.list 1 ∧
      (q.shared.count 2 == 1) = true := by
  obtain ⟨q, hq, ht⟩ := addressMachine.reach_of_test (notBy 1) (notByB 1) (fun _ _ _ => notBy_of_bool)
    ⟨exampleAddresses, []⟩ exampleStranger (fun q => q.shared.count 2 == 1) (by decide +kernel)
  exact ⟨q, hq, addresses_own 1 hq, ht⟩

/-! The limit. -/

/-- A create of this user whose row is still to come. -/
def AddressCall.creates (userId : UserId) : AddressCall → Bool
  | .count caller _ | .demoteAll caller _ | .insert caller _ => caller == userId
  | _ => false

/-- It has passed the check. -/
def AddressCall.admitted (userId : UserId) : AddressCall → Bool
  | .demoteAll caller _ | .insert caller _ => caller == userId
  | _ => false

/-- The user never has more than so many creates at work. -/
def createsAtMost (userId : UserId) (peak : ℕ) : Guard AddressDb AddressCall AddressEvent Reply := fun _ us m =>
  ∀ dto, m = .event (.create userId dto) → us.countP (AddressCall.creates userId) < peak

section

variable {db db' : AddressDb} {t t' : AddressCall} {userId : UserId} {id : AddressId}

theorem creates_of_admitted (h : t.admitted userId = true) : t.creates userId = true := by
  cases t <;> first | exact h | cases h

theorem count_map {f : AddressRow → AddressRow} {rows : List AddressRow} (hf : ∀ a, (f a).userId = a.userId) :
    (rows.map f).countP (fun a => a.userId == userId) = rows.countP fun a => a.userId == userId := by
  rw [List.countP_map]
  exact List.countP_congr fun a _ => by simp only [Function.comp, hf]

theorem count_inserted (db : AddressDb) (caller userId : UserId) (dto : UpsertAddressDto) :
    (db.insertRaw caller dto).count userId = db.count userId + if caller == userId then 1 else 0 := by
  rw [AddressDb.count, AddressDb.insertRaw, List.countP_append, List.countP_singleton, AddressDb.count]
  rfl

/-- A call that neither passes the check nor inserts, for this user. -/
theorem adds_nothing (hcreates : t'.creates userId = true → t.creates userId = true) (hcount : db'.count userId ≤ db.count userId)
    (hadmitted : t'.admitted userId = true → t.admitted userId = true) :
    [t'].countP (AddressCall.creates userId) ≤ [t].countP (AddressCall.creates userId) ∧
      Adds (fun db => db.count userId) (AddressCall.admitted userId) (MAX_SAVED_ADDRESSES - 1) db [t] db' [t'] := by
  have himp : ∀ {p : AddressCall → Bool}, (p t' = true → p t = true) → [t'].countP p ≤ [t].countP p := by
    intro p hp
    rw [List.countP_singleton, List.countP_singleton]
    cases ht' : p t' with
    | false => simp
    | true => rw [hp ht']
  exact ⟨himp hcreates, .inl (Nat.add_le_add hcount (himp hadmitted))⟩

theorem AddressMove.adds (h : AddressMove db t db' t') (userId : UserId) :
    [t'].countP (AddressCall.creates userId) ≤ [t].countP (AddressCall.creates userId) ∧
      Adds (fun db => db.count userId) (AddressCall.admitted userId) (MAX_SAVED_ADDRESSES - 1) db [t] db' [t'] := by
  cases h with
  | @counted caller dto hroom =>
    have hsame : (if dto.claims then AddressCall.demoteAll caller dto else .insert caller dto).creates userId =
        (caller == userId) := by
      split <;> rfl
    by_cases hcaller : caller = userId
    · subst hcaller
      refine ⟨?_, .inr (Nat.le_pred_of_lt hroom)⟩
      rw [List.countP_singleton, List.countP_singleton, hsame]
      rfl
    · have hnot : ¬(caller == userId) = true := by simpa using hcaller
      refine adds_nothing (fun h => absurd (hsame ▸ h) hnot) le_rfl fun h => ?_
      exact absurd (hsame ▸ creates_of_admitted h) hnot
  | inserted caller dto =>
    refine ⟨Nat.zero_le _, .inl ?_⟩
    change (db.insertRaw caller dto).count userId + 0 ≤ db.count userId + [AddressCall.insert caller dto].countP _
    rw [count_inserted, List.countP_singleton]
    exact Nat.le_refl _
  | @foundToUpdate caller id dto a howned =>
    cases hclaims : dto.claims <;> exact adds_nothing nofun le_rfl nofun
  | demotedAll caller dto =>
    exact adds_nothing (fun h => h) (Nat.le_of_eq (count_map (AddressRow.demote_userId none))) fun h => h
  | demotedOthers caller id dto => exact adds_nothing nofun (Nat.le_of_eq (count_map (AddressRow.demote_userId (some id)))) nofun
  | written caller id dto => exact adds_nothing nofun (Nat.le_of_eq (count_map (AddressRow.write_userId db.clock))) nofun
  | removed caller id => exact adds_nothing nofun (List.Sublist.countP_le (List.filter_sublist)) nofun
  | finish | foundToDelete => exact adds_nothing nofun le_rfl nofun

theorem addressEvent_adds {peak : ℕ} {us : List AddressCall} (n : AddressEvent)
    (hok : createsAtMost userId peak db us (.event n)) (hworking : us.countP (AddressCall.creates userId) ≤ peak) :
    ((addressEvent db n).2 ++ us).countP (AddressCall.creates userId) ≤ peak ∧
      Adds (fun db => db.count userId) (AddressCall.admitted userId) (MAX_SAVED_ADDRESSES - 1) db [] (addressEvent db n).1
        (addressEvent db n).2 := by
  have hstarts : (addressEvent db n).2.countP (AddressCall.admitted userId) = 0 := by cases n <;> rfl
  refine ⟨?_, .inl ?_⟩
  · cases n with
    | create caller dto =>
      rw [List.countP_append]
      by_cases hcaller : caller = userId
      · subst hcaller
        have hroom := hok dto rfl
        simp only [addressEvent, List.countP_singleton, AddressCall.creates, beq_self_eq_true, if_true]
        omega
      · simpa [addressEvent, AddressCall.creates, hcaller] using hworking
    | _ => exact hworking
  · rw [load, load, hstarts, AddressDb.count, (addressEvent_rows db n).1]
    exact le_rfl

end

/-- A user has three saved addresses at most, and one more for each further create that is at work at the
same time: those are let through by the same count. -/
theorem saved_addresses_bounded (userId : UserId) {peak : ℕ} {db : AddressDb} {q : Pool AddressDb AddressCall}
    (hstart : db.count userId < MAX_SAVED_ADDRESSES + peak)
    (h : addressMachine.Reach (createsAtMost userId peak) ⟨db, []⟩ q) :
    q.shared.count userId < MAX_SAVED_ADDRESSES + peak := by
  have hmax : 0 < MAX_SAVED_ADDRESSES := by decide
  have hload : load (fun db => db.count userId) (AddressCall.admitted userId) q.shared q.threads ≤
      MAX_SAVED_ADDRESSES - 1 + peak := by
    refine h.load_le (fun _ => creates_of_admitted) (Nat.zero_le _) ?_ ?_ ?_
    · change db.count userId + 0 ≤ _
      omega
    · intro s us n s' ts hok hev hworking
      obtain ⟨rfl, rfl⟩ := addressMachine_event hev
      exact addressEvent_adds n hok hworking
    · intro s us t e s' ts _ hst
      obtain ⟨t', rfl, hmove⟩ := addressMachine_step hst
      exact hmove.adds userId
  rw [load] at hload
  omega

def createsAtMostB (userId : UserId) (peak : ℕ) (_ : AddressDb) (us : List AddressCall) :
    Move AddressCall AddressEvent Reply → Bool
  | .event (.create caller _) => caller != userId || us.countP (AddressCall.creates userId) < peak
  | _ => true

theorem createsAtMost_of_bool {userId : UserId} {peak : ℕ} {db : AddressDb} {us : List AddressCall}
    {m : Move AddressCall AddressEvent Reply} (h : createsAtMostB userId peak db us m = true) :
    createsAtMost userId peak db us m := by
  rintro dto rfl
  simpa [createsAtMostB] using h

def createAddress : List (Act AddressEvent Reply) :=
  [.event (.create 1 exampleAddress), .step 0 .ok, .step 0 .ok, .step 0 .ok]

/-- Two creates, the second while the first has only counted. -/
def createTwoAtOnce : List (Act AddressEvent Reply) :=
  [.event (.create 1 exampleAddress), .step 0 .ok, .event (.create 1 exampleAddress), .step 0 .ok, .step 0 .ok, .step 1 .ok]

/-- The bound is reached: four addresses with two creates at work. -/
theorem fourth_address_saved :
    ∃ q, addressMachine.Reach (createsAtMost 1 2) ⟨emptyAddresses, []⟩ q ∧ q.shared.count 1 < MAX_SAVED_ADDRESSES + 2 ∧
      (q.shared.count 1 == MAX_SAVED_ADDRESSES + 1) = true := by
  obtain ⟨q, hq, ht⟩ := addressMachine.reach_of_test (createsAtMost 1 2) (createsAtMostB 1 2)
    (fun _ _ _ => createsAtMost_of_bool) ⟨emptyAddresses, []⟩ (createAddress ++ createAddress ++ createTwoAtOnce)
    (fun q => q.shared.count 1 == MAX_SAVED_ADDRESSES + 1) (by decide +kernel)
  exact ⟨q, hq, saved_addresses_bounded 1 (by decide) hq, ht⟩

/-! The default. -/

/-- A call of this user that is about to make an address the default. -/
def AddressCall.claims (userId : UserId) : AddressCall → Bool
  | .count caller dto | .demoteAll caller dto | .insert caller dto | .findToUpdate caller _ dto
  | .demoteOthers caller _ dto | .write caller _ dto => caller == userId && dto.claims
  | _ => false

def AddressEvent.claims (userId : UserId) : AddressEvent → Bool
  | .create caller dto | .update caller _ dto => caller == userId && dto.claims
  | _ => false

/-- The user waits for one such call before making the next. -/
def oneClaim (userId : UserId) : Guard AddressDb AddressCall AddressEvent Reply := fun _ us m =>
  ∀ n, m = .event n → n.claims userId = true → ∀ u ∈ us, u.claims userId = false

def AddressRow.isDefaultOf (userId : UserId) (a : AddressRow) : Prop := a.userId = userId ∧ a.isDefault = true

def AddressDb.OneDefault (userId : UserId) (db : AddressDb) : Prop :=
  ∀ a ∈ db.addresses, ∀ b ∈ db.addresses, a.isDefaultOf userId → b.isDefaultOf userId → a.id = b.id

/-- What a call has demoted before it writes. -/
def AddressCall.Cleared (userId : UserId) (db : AddressDb) (t : AddressCall) : Prop :=
  t.claims userId = true → match t with
  | .insert .. => ∀ a ∈ db.addresses, ¬a.isDefaultOf userId
  | .write _ id _ => ∀ a ∈ db.addresses, a.isDefaultOf userId → a.id = id
  | _ => True

/-- Every default was one before. -/
def NoNewDefault (userId : UserId) (db db' : AddressDb) : Prop :=
  ∀ a' ∈ db'.addresses, a'.isDefaultOf userId → ∃ a ∈ db.addresses, a.isDefaultOf userId ∧ a.id = a'.id

section

variable {db db' : AddressDb} {t t' u : AddressCall} {userId : UserId} {a : AddressRow}

theorem NoNewDefault.one (h : NoNewDefault userId db db') (hone : db.OneDefault userId) : db'.OneDefault userId := by
  intro a' ha' b' hb' hdefa hdefb
  obtain ⟨a, ha, hda, hida⟩ := h a' ha' hdefa
  obtain ⟨b, hb, hdb, hidb⟩ := h b' hb' hdefb
  rw [← hida, ← hidb]
  exact hone a ha b hb hda hdb

theorem NoNewDefault.cleared (h : NoNewDefault userId db db') (hu : u.Cleared userId db) : u.Cleared userId db' := by
  intro hclaims
  have hcleared := hu hclaims
  cases u with
  | insert caller dto =>
    intro a' ha' hdef
    obtain ⟨a, ha, hda, -⟩ := h a' ha' hdef
    exact hcleared a ha hda
  | write caller id dto =>
    intro a' ha' hdef
    obtain ⟨a, ha, hda, hid⟩ := h a' ha' hdef
    exact hid ▸ hcleared a ha hda
  | _ => trivial

theorem AddressRow.demote_default {kept : Option AddressId} {caller : UserId} (h : (a.demote caller kept).isDefaultOf userId) :
    a.isDefaultOf userId ∧ (caller = userId → some a.id = kept) := by
  unfold AddressRow.demote at h
  split at h
  · cases h.2
  · next hnot =>
    refine ⟨h, fun hcaller => ?_⟩
    by_contra hkept
    exact hnot ⟨h.1.trans hcaller.symm, h.2, hkept⟩

theorem demote_noNew (caller : UserId) (kept : Option AddressId) : NoNewDefault userId db (db.demote caller kept) := by
  intro a' ha' hdef
  obtain ⟨a, ha, rfl⟩ := List.mem_map.1 ha'
  exact ⟨a, ha, (AddressRow.demote_default hdef).1, (AddressRow.demote_id caller kept a).symm⟩

/-- A call that makes nothing the default of this user. -/
theorem AddressMove.noNew (h : AddressMove db t db' t') (ht : t.Knows db) (hclaims : t.claims userId = false) :
    NoNewDefault userId db db' := by
  cases h with
  | demotedAll caller dto => exact demote_noNew caller none
  | demotedOthers caller id dto => exact demote_noNew caller (some id)
  | removed caller id => exact fun a ha hdef => ⟨a, List.mem_of_mem_filter ha, hdef, rfl⟩
  | inserted caller dto =>
    intro a' ha' hdef
    rcases List.mem_append.1 ha' with ha | ha
    · exact ⟨a', ha, hdef, rfl⟩
    · obtain rfl := List.mem_singleton.1 ha
      obtain ⟨rfl, hdto⟩ := hdef
      simp only [UpsertAddressDto.newRow, UpsertAddressDto.columns] at hdto
      simp [AddressCall.claims, UpsertAddressDto.newRow, UpsertAddressDto.columns, hdto] at hclaims
  | written caller id dto =>
    intro a' ha' hdef
    obtain ⟨a, ha, rfl⟩ := List.mem_map.1 ha'
    unfold AddressRow.write at hdef ⊢
    split at hdef
    · next hid =>
      -- the row is the caller's, so the caller is this user
      obtain ⟨howner, hdto⟩ := hdef
      simp only [UpsertAddressDto.columns] at howner hdto
      have hcaller : caller = userId := (ht.2 a ha hid).symm.trans howner
      simp [AddressCall.claims, hcaller, hdto] at hclaims
    · next hid => exact ⟨a, ha, hdef, by rw [if_neg hid]⟩
  | _ => exact fun a ha hdef => ⟨a, ha, hdef, rfl⟩

/-- A call that does, after it has given up what was the default before. -/
theorem AddressMove.claiming (h : AddressMove db t db' t') (hone : db.OneDefault userId) (ht : t.Cleared userId db)
    (hclaims : t.claims userId = true) : db'.OneDefault userId ∧ t'.Cleared userId db' := by
  have hcleared := ht hclaims
  cases h with
  | finish outcome => exact ⟨hone, nofun⟩
  | foundToDelete => cases hclaims
  | removed => cases hclaims
  | @counted caller dto hroom =>
    have hdto : dto.claims = true := (Bool.and_eq_true _ _).mp hclaims |>.2
    rw [if_pos hdto]
    exact ⟨hone, fun _ => trivial⟩
  | @foundToUpdate caller id dto a howned =>
    have hdto : dto.claims = true := (Bool.and_eq_true _ _).mp hclaims |>.2
    rw [if_pos hdto]
    exact ⟨hone, fun _ => trivial⟩
  | demotedAll caller dto =>
    have hcaller : caller = userId := by simpa using ((Bool.and_eq_true _ _).mp hclaims).1
    refine ⟨(demote_noNew caller none).one hone, fun _ a' ha' hdef => ?_⟩
    obtain ⟨a, ha, rfl⟩ := List.mem_map.1 ha'
    cases (AddressRow.demote_default hdef).2 hcaller
  | demotedOthers caller id dto =>
    have hcaller : caller = userId := by simpa using ((Bool.and_eq_true _ _).mp hclaims).1
    refine ⟨(demote_noNew caller (some id)).one hone, fun _ a' ha' hdef => ?_⟩
    obtain ⟨a, ha, rfl⟩ := List.mem_map.1 ha'
    rw [AddressRow.demote_id]
    exact Option.some.inj ((AddressRow.demote_default hdef).2 hcaller)
  | inserted caller dto =>
    refine ⟨?_, nofun⟩
    have hnew : ∀ a ∈ (db.insertRaw caller dto).addresses, a.isDefaultOf userId → a.id = db.nextId := by
      intro a ha hdef
      rcases List.mem_append.1 ha with ha | ha
      · exact absurd hdef (hcleared a ha)
      · rw [List.mem_singleton.1 ha]
        rfl
    exact fun a ha b hb hda hdb => (hnew a ha hda).trans (hnew b hb hdb).symm
  | written caller id dto =>
    refine ⟨?_, nofun⟩
    have hnew : ∀ a' ∈ (db.write id dto).addresses, a'.isDefaultOf userId → a'.id = id := by
      intro a' ha' hdef
      obtain ⟨a, ha, rfl⟩ := List.mem_map.1 ha'
      rw [AddressRow.write_id]
      by_contra hid
      rw [AddressRow.write, if_neg hid] at hdef
      exact hid (hcleared a ha hdef)
    exact fun a ha b hb hda hdb => (hnew a ha hda).trans (hnew b hb hdb).symm

theorem AddressMove.claims_of (h : AddressMove db t db' t') (hclaims : t'.claims userId = true) : t.claims userId = true := by
  cases h with
  | @counted caller dto hroom => split at hclaims <;> exact hclaims
  | @foundToUpdate caller id dto a howned => split at hclaims <;> exact hclaims
  | demotedAll | demotedOthers => exact hclaims
  | _ => cases hclaims

/-- Rows with one id among them are one row at most. -/
theorem AddressDb.OneDefault.length_le (h : db.OneDefault userId) :
    (db.addresses.filter fun a => a.userId == userId && a.isDefault).length ≤ 1 := by
  have hids := Table.nodup_filter db.ids fun a => a.userId == userId && a.isDefault
  have hsame : ∀ a ∈ db.addresses.filter (fun a => a.userId == userId && a.isDefault),
      ∀ b ∈ db.addresses.filter (fun a => a.userId == userId && a.isDefault), a.id = b.id := by
    intro a ha b hb
    simp only [List.mem_filter, Bool.and_eq_true, beq_iff_eq] at ha hb
    exact h a ha.1 b hb.1 ha.2 hb.2
  cases hrows : db.addresses.filter fun a => a.userId == userId && a.isDefault with
  | nil => exact Nat.zero_le _
  | cons a rest =>
    cases rest with
    | nil => exact le_rfl
    | cons b rest =>
      rw [hrows] at hids hsame
      have hne : a.id ≠ b.id := fun heq => (List.nodup_cons.1 hids).1 (List.mem_map.2 ⟨b, .head _, heq.symm⟩)
      exact absurd (hsame a (.head _) b (.tail _ (.head _))) hne

end

/-- A user who makes one address the default after the other has one default at most, whatever other calls
of the user and of other clients come in between, and wherever a call fails. -/
theorem saved_default_unique (userId : UserId) {db : AddressDb} {q : Pool AddressDb AddressCall} (hempty : db.addresses = [])
    (h : addressMachine.Reach (oneClaim userId) ⟨db, []⟩ q) :
    (q.shared.addresses.filter fun a => a.userId == userId && a.isDefault).length ≤ 1 := by
  refine AddressDb.OneDefault.length_le (h.sat (I := fun s => s.OneDefault userId)
    (L := fun s t => t.Knows s ∧ t.Cleared userId s) (X := Exclusive (AddressCall.claims userId)) (fun _ _ => .symm _)
    ⟨by simp [AddressDb.OneDefault, hempty], List.forall_mem_nil _, .nil⟩ ?_ ?_).shared
  · intro s us n s' ts _ hone hus hok hev
    obtain ⟨rfl, rfl⟩ := addressMachine_event hev
    obtain ⟨hsame, hkeep⟩ := addressEvent_rows s n
    have hnoNew : NoNewDefault userId s (addressEvent s n).1 := fun a ha hdef => ⟨a, hsame ▸ ha, hdef, rfl⟩
    refine ⟨hnoNew.one hone, fun t ht => ⟨(addressEvent_starts s n t ht).2, ?_⟩,
      fun u hu => ⟨(hus u hu).1.keep hkeep, hnoNew.cleared (hus u hu).2⟩, ?_, fun t ht u hu => ?_⟩
    · intro _
      cases n with
      | tick elapsed => cases ht
      | _ =>
        obtain rfl := List.mem_singleton.1 ht
        trivial
    · cases n <;> simp [addressEvent]
    · rintro ⟨htc, huc⟩
      have hevent : n.claims userId = true := by
        cases n with
        | tick elapsed => cases ht
        | _ =>
          obtain rfl := List.mem_singleton.1 ht
          exact htc
      rw [hok n rfl hevent u hu] at huc
      cases huc
  · intro s us vs t e s' ts _ hone ht hus _ hst
    obtain ⟨t', rfl, hmove⟩ := addressMachine_step hst
    have hapart : ∀ u ∈ us ++ vs, Exclusive (AddressCall.claims userId) t' u := fun u hu hboth =>
      (hus u hu).2 ⟨hmove.claims_of hboth.1, hboth.2⟩
    cases hclaims : t.claims userId with
    | false =>
      have hnoNew := hmove.noNew ht.1 hclaims
      have hidle : t'.Cleared userId s' := fun htc => by
        rw [hmove.claims_of htc] at hclaims
        cases hclaims
      exact .one (hnoNew.one hone) ⟨hmove.knows ht.1, hidle⟩ fun u hu =>
        ⟨⟨(hus u hu).1.1.keep hmove.owners, hnoNew.cleared (hus u hu).1.2⟩, hapart u hu⟩
    | true =>
      obtain ⟨hone', hcleared⟩ := hmove.claiming hone ht.2 hclaims
      refine .one hone' ⟨hmove.knows ht.1, hcleared⟩ fun u hu => ⟨⟨(hus u hu).1.1.keep hmove.owners, ?_⟩, hapart u hu⟩
      exact fun huc => absurd ⟨hclaims, huc⟩ (hus u hu).2

def oneClaimB (userId : UserId) (_ : AddressDb) (us : List AddressCall) : Move AddressCall AddressEvent Reply → Bool
  | .event n => !n.claims userId || us.all fun u => !u.claims userId
  | .step .. => true

theorem oneClaim_of_bool {userId : UserId} {db : AddressDb} {us : List AddressCall}
    {m : Move AddressCall AddressEvent Reply} (h : oneClaimB userId db us m = true) : oneClaim userId db us m := by
  rintro n rfl hclaims u hu
  simp only [oneClaimB, hclaims, Bool.not_true, Bool.false_or, List.all_eq_true] at h
  simpa using h u hu

/-- A second address becomes the default, and then the first one again. -/
def exampleDefaults : List (Act AddressEvent Reply) :=
  [.event (.create 1 { exampleAddress with isDefault := some true }), .step 0 .ok, .step 0 .ok, .step 0 .ok, .step 0 .ok,
    .event (.create 1 { exampleAddress with isDefault := some true }), .step 0 .ok, .step 0 .ok, .step 0 .ok, .step 0 .ok,
    .event (.update 1 0 { exampleAddress with isDefault := some true }), .step 0 .ok, .step 0 .ok, .step 0 .ok]

theorem default_moves :
    ∃ q, addressMachine.Reach (oneClaim 1) ⟨emptyAddresses, []⟩ q ∧
      (q.shared.addresses.filter fun a => a.userId == 1 && a.isDefault).length ≤ 1 ∧
      (q.shared.addresses.map (·.isDefault) == [true, false]) = true := by
  obtain ⟨q, hq, ht⟩ := addressMachine.reach_of_test (oneClaim 1) (oneClaimB 1) (fun _ _ _ => oneClaim_of_bool)
    ⟨emptyAddresses, []⟩ exampleDefaults (fun q => q.shared.addresses.map (·.isDefault) == [true, false]) (by decide +kernel)
  exact ⟨q, hq, saved_default_unique 1 rfl hq, ht⟩

end ChopNow
