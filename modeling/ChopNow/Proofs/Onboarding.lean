import ChopNow.Lib.Table
import ChopNow.Spec.Onboarding

/-! A user's role says which business the user has, and there is one at most; for as long as no two
submissions for one phone are under way together. -/

namespace ChopNow

open Interleave

/-- The rows that a role stands for. -/
def OnboardDb.Owner (db : OnboardDb) : UserRole → UserId → Prop
  | .vendor, id => ∃ v ∈ db.vendors, v.userId = id
  | .rider, id => ∃ r ∈ db.riders, r.userId = id
  | _, _ => False

def UserRole.business (role : UserRole) : Prop := role = .vendor ∨ role = .rider

structure OnboardDb.Sound (db : OnboardDb) : Prop where
  phones : (db.users.map (·.phone)).Nodup
  ids : (db.users.map (·.id)).Nodup
  roles : ∀ u ∈ db.users, ∀ role : UserRole, role.business → (u.role = role ↔ db.Owner role u.id)
  owners : ∀ role id, db.Owner role id → ∃ u ∈ db.users, u.id = id

section

variable {db db' : OnboardDb} {users users' : List User} {user u : User} {role : UserRole} {phone : Phone} {id : UserId}

/-! Users. -/

theorem createUser_some (h : createUser users user = some users') :
    users' = users ++ [user] ∧ ∀ u ∈ users, u.phone ≠ user.phone ∧ u.id ≠ user.id := by
  unfold createUser at h
  split at h
  · cases h
  next hfree =>
  obtain rfl := Option.some.inj h
  refine ⟨rfl, fun u hu => ?_⟩
  simp only [List.any_eq_true, Bool.or_eq_true, beq_iff_eq, not_exists, not_and, not_or] at hfree
  exact hfree u hu

theorem mem_setRole (h : u ∈ setRole users id role) :
    (u ∈ users ∧ u.id ≠ id) ∨ ∃ u₀ ∈ users, u₀.id = id ∧ u = { u₀ with role } := by
  obtain ⟨u₀, hu₀, rfl⟩ := List.mem_map.1 h
  by_cases hid : u₀.id = id
  · exact .inr ⟨u₀, hu₀, hid, if_pos hid⟩
  · rw [if_neg hid]
    exact .inl ⟨hu₀, hid⟩

theorem setRole_keeps {α : Type} (f : User → α) (hf : ∀ u role, f { u with role } = f u) :
    (setRole users id role).map f = users.map f := Table.column_update fun u => hf u role

theorem setRole_self (hids : (users.map (·.id)).Nodup) (hu : u ∈ users) : setRole users u.id u.role = users := by
  have hsame : ∀ u' ∈ users, (if u'.id = u.id then { u' with role := u.role } else u') = u' := by
    intro u' hu'
    split
    next hid => rw [List.inj_on_of_nodup_map hids hu' hu hid]
    · rfl
  calc
    setRole users u.id u.role = users.map id := List.map_congr_left hsame
    _ = users := List.map_id _

theorem mem_setRole_of_ne (hu : u ∈ users) (hid : u.id ≠ id) : u ∈ setRole users id role :=
  List.mem_map.2 ⟨u, hu, if_neg hid⟩

/-! What a submission that goes through does: the user is new, or was a consumer or had this role. -/

inductive Enrolled (db db' : OnboardDb) (role : UserRole) (phone : Phone) : Prop
  | created (user : User) (hphone : user.phone = phone) (hrole : user.role = role)
      (hfree : ∀ u ∈ db.users, u.phone ≠ user.phone ∧ u.id ≠ user.id) (husers : db'.users = db.users ++ [user])
      (howners : ∀ r i, db'.Owner r i ↔ db.Owner r i ∨ r = role ∧ i = user.id)
  | promoted (user : User) (hmem : user ∈ db.users) (hphone : user.phone = phone)
      (hrole : user.role = .consumer ∨ user.role = role) (husers : db'.users = setRole db.users user.id role)
      (howners : ∀ r i, db'.Owner r i ↔ db.Owner r i ∨ r = role ∧ i = user.id)

/-- A new user, with the row that the role stands for. -/
theorem OnboardDb.Sound.append (hs : db.Sound) (hfree : ∀ u ∈ db.users, u.phone ≠ user.phone ∧ u.id ≠ user.id)
    (husers : db'.users = db.users ++ [user])
    (howners : ∀ r i, db'.Owner r i ↔ db.Owner r i ∨ r.business ∧ r = user.role ∧ i = user.id) : db'.Sound := by
  refine ⟨?_, ?_, fun u hu r hr => ?_, fun r i hi => ?_⟩
  · rw [husers, List.map_append, List.map_singleton]
    exact List.nodup_append.2 ⟨hs.phones, List.nodup_singleton _, by simpa using fun u hu => (hfree u hu).1⟩
  · rw [husers]
    exact Table.nodup_append hs.ids fun u hu => (hfree u hu).2
  · rw [husers, List.mem_append, List.mem_singleton] at hu
    rw [howners]
    rcases hu with hu | rfl
    · have hne : ¬(r.business ∧ r = user.role ∧ u.id = user.id) := fun hand => (hfree u hu).2 hand.2.2
      simpa only [hne, or_false] using hs.roles u hu r hr
    · have hnew : ¬db.Owner r u.id := fun hown => by
        obtain ⟨u', hu', hid⟩ := hs.owners r u.id hown
        exact (hfree u' hu').2 hid
      simp only [hnew, false_or, hr, true_and, and_true]
      exact eq_comm
  · rw [husers]
    rcases (howners r i).1 hi with hold | ⟨-, -, rfl⟩
    · obtain ⟨u, hu, hid⟩ := hs.owners r i hold
      exact ⟨u, List.mem_append_left _ hu, hid⟩
    · exact ⟨user, List.mem_append_right _ (.head _), rfl⟩

theorem Enrolled.sound (h : Enrolled db db' role phone) (hrole : role.business) (hs : db.Sound) : db'.Sound := by
  cases h with
  | created user hphone huser hfree husers howners =>
    subst huser
    refine hs.append hfree husers fun r i => (howners r i).trans (or_congr_right ?_)
    exact ⟨fun ⟨heq, hid⟩ => ⟨heq ▸ hrole, heq, hid⟩, And.right⟩
  | promoted user hmem hphone huser husers howners =>
    refine ⟨?_, ?_, fun u hu r hr => ?_, fun r i hi => ?_⟩
    · rw [husers, setRole_keeps (·.phone) fun _ _ => rfl]
      exact hs.phones
    · rw [husers, setRole_keeps (·.id) fun _ _ => rfl]
      exact hs.ids
    · rw [howners]
      rcases mem_setRole (husers ▸ hu) with ⟨hold, hid⟩ | ⟨u₀, hu₀, hid, rfl⟩
      · have hne : ¬(r = role ∧ u.id = user.id) := fun hand => hid hand.2
        simpa only [hne, or_false] using hs.roles u hold r hr
      · obtain rfl : u₀ = user := List.inj_on_of_nodup_map hs.ids hu₀ hmem hid
        by_cases hsame : role = r
        · simp [hsame]
        · -- no other business: the user was a consumer, or had this one
          have hnone : ¬db.Owner r u₀.id := fun hown => by
            have hr' := (hs.roles u₀ hu₀ r hr).2 hown
            rcases huser with hconsumer | hold
            · rcases hr with rfl | rfl <;> exact absurd (hconsumer.symm.trans hr') (by decide)
            · exact hsame (hold.symm.trans hr')
          simp [hsame, hnone, Ne.symm hsame]
    · rw [husers]
      have hkept : ∀ u ∈ db.users, ∃ u' ∈ setRole db.users user.id role, u'.id = u.id := fun u hu => by
        have hid := List.mem_map_of_mem (f := fun u : User => u.id) hu
        rw [← setRole_keeps (·.id) fun _ _ => rfl] at hid
        exact List.mem_map.1 hid
      rcases (howners r i).1 hi with hold | ⟨-, rfl⟩
      · obtain ⟨u, hu, rfl⟩ := hs.owners r i hold
        exact hkept u hu
      · exact hkept user hmem

/-- Users with another phone stay as they are. -/
theorem Enrolled.keeps (h : Enrolled db db' role phone) (hs : db.Sound) (hu : u ∈ db.users) (hphone : u.phone ≠ phone) :
    u ∈ db'.users := by
  cases h with
  | created user _ _ _ husers => exact husers ▸ List.mem_append_left _ hu
  | promoted user hmem hphone' _ husers =>
    refine husers ▸ mem_setRole_of_ne hu fun hid => hphone ?_
    rw [List.inj_on_of_nodup_map hs.ids hu hmem hid, hphone']

/-! The two transactions. -/

/-- The user as the lookup had them, and nobody has changed them since. -/
def Seen (db : OnboardDb) (phone : Phone) (existingUser : Option User) : Prop :=
  ∀ user, existingUser = some user → user ∈ db.users ∧ user.phone = phone

theorem owner_vendor_append {row : VendorRow} (hvendors : db'.vendors = db.vendors ++ [row]) (hriders : db'.riders = db.riders)
    (r : UserRole) (i : UserId) : db'.Owner r i ↔ db.Owner r i ∨ r = .vendor ∧ i = row.userId := by
  cases r with
  | vendor =>
    simp only [OnboardDb.Owner, hvendors, List.mem_append, List.mem_singleton, or_and_right, exists_or, exists_eq_left,
      true_and]
    rw [eq_comm (a := row.userId)]
  | rider => simp [OnboardDb.Owner, hriders]
  | _ => simp [OnboardDb.Owner]

theorem insertVendor_ok {m m' : MenuDb} {row : VendorRow} (h : m.insertVendor row = .ok m') :
    m'.users = m.users ∧ m'.vendors = m.vendors ++ [row] := by
  unfold MenuDb.insertVendor at h
  split at h
  · cases h
  · cases h
    exact ⟨rfl, rfl⟩

theorem insertItems_ok {m m' : MenuDb} {rows : List Item} (h : m.insertItems rows = .ok m') :
    m'.users = m.users ∧ m'.vendors = m.vendors := by
  unfold MenuDb.insertItems at h
  split at h
  · cases h
  split at h
  · cases h
  · cases h
    exact ⟨rfl, rfl⟩

/-- Only a consumer's role is written; the others have it already. -/
theorem promotedUsers (hs : db.Sound) (hmem : user ∈ db.users) (hrole : user.role = .consumer ∨ user.role = role) :
    (if user.role = .consumer then setRole db.users user.id role else db.users) = setRole db.users user.id role := by
  split
  · rfl
  next hnot =>
  obtain rfl := hrole.resolve_left hnot
  exact (setRole_self hs.ids hmem).symm

theorem vendorTransaction_enrolled {dto : SubmitVendorDto} {seed : SubmitSeed} {existingUser : Option User} (hs : db.Sound)
    (hseen : Seen db (normalizePhone dto.whatsappPhone) existingUser)
    (h : db.vendorTransaction dto seed existingUser = .ok db') : Enrolled db db' .vendor (normalizePhone dto.whatsappPhone) := by
  unfold OnboardDb.vendorTransaction at h
  split at h
  · cases h
  next users userId huser =>
  split at h
  · cases h
  next menu hvendor =>
  split at h
  · cases h
  next menu' hitems =>
  obtain rfl := Except.ok.inj h
  obtain ⟨husers, hvendors⟩ := insertVendor_ok hvendor
  obtain ⟨husers', hvendors'⟩ := insertItems_ok hitems
  have hrow : ({ db with menu := menu' } : OnboardDb).vendors = db.vendors ++ [dto.vendorRow seed userId db.clock] :=
    hvendors'.trans hvendors
  have howners := owner_vendor_append hrow rfl
  have husers₁ : menu'.users = users := husers'.trans husers
  unfold vendorUser at huser
  split at huser
  · split at huser
    · cases huser
    next users hcreated =>
    obtain ⟨rfl, rfl⟩ := Prod.mk.inj (Except.ok.inj huser)
    obtain ⟨hnew, hfree⟩ := createUser_some hcreated
    exact .created _ rfl rfl hfree (husers₁.trans hnew) howners
  next user =>
  split at huser
  · cases huser
  next hrole =>
  obtain ⟨rfl, rfl⟩ := Prod.mk.inj (Except.ok.inj huser)
  obtain ⟨hmem, hphone⟩ := hseen user rfl
  have hrole' : user.role = .consumer ∨ user.role = .vendor := by tauto
  exact .promoted user hmem hphone hrole' (husers₁.trans (promotedUsers hs hmem hrole')) howners

theorem upsert_owner {rows rows' : RiderDb} {dto : SubmitRiderDto} {files : RiderFiles} {seed : RiderSeed} {userId : UserId}
    {now : Time} (h : rows.upsert dto files seed userId now = .ok rows') (i : UserId) :
    (∃ r ∈ rows'.riders, r.userId = i) ↔ (∃ r ∈ rows.riders, r.userId = i) ∨ i = userId := by
  unfold RiderDb.upsert at h
  split at h
  · cases h
  split at h
  next hthere =>
    obtain rfl := Except.ok.inj h
    obtain ⟨old, hold, howner⟩ := List.any_eq_true.1 hthere
    have hcolumn : (rows.riders.map fun r => if r.userId = userId then dto.update files now r else r).map (·.userId) =
        rows.riders.map (·.userId) := Table.column_update fun _ => rfl
    have hsame : (∃ r ∈ rows.riders.map fun r => if r.userId = userId then dto.update files now r else r, r.userId = i) ↔
        ∃ r ∈ rows.riders, r.userId = i := by
      rw [← List.mem_map (f := fun r : RiderRow => r.userId), hcolumn, List.mem_map]
    rw [hsame]
    refine ⟨.inl, fun hor => hor.elim id ?_⟩
    rintro rfl
    exact ⟨old, hold, by simpa using howner⟩
  split at h
  · cases h
  · obtain rfl := Except.ok.inj h
    simp only [List.mem_append, List.mem_singleton, or_and_right, exists_or, exists_eq_left]
    rw [eq_comm (a := i)]
    rfl

theorem riderTransaction_enrolled {dto : SubmitRiderDto} {files : RiderFiles} {seed : RiderSeed} {existingUser : Option User}
    (hs : db.Sound) (hseen : Seen db (normalizePhone dto.phone) existingUser)
    (hrole : ∀ user, existingUser = some user → user.role = .consumer ∨ user.role = .rider)
    (h : db.riderTransaction dto files seed existingUser = .ok db') : Enrolled db db' .rider (normalizePhone dto.phone) := by
  unfold OnboardDb.riderTransaction at h
  split at h
  · cases h
  next users userId huser =>
  split at h
  · cases h
  next rows hrows =>
  obtain rfl := Except.ok.inj h
  have howners : ∀ r i, ({ db with menu := { db.menu with users }, riders := rows.riders } : OnboardDb).Owner r i ↔
      db.Owner r i ∨ r = .rider ∧ i = userId := by
    intro r i
    cases r with
    | rider =>
      simp only [OnboardDb.Owner, true_and]
      exact upsert_owner hrows i
    | vendor => simp [OnboardDb.Owner, OnboardDb.vendors]
    | _ => simp [OnboardDb.Owner]
  unfold riderUser at huser
  split at huser
  · split at huser
    · cases huser
    next users hcreated =>
    obtain ⟨rfl, rfl⟩ := Prod.mk.inj (Except.ok.inj huser)
    obtain ⟨hnew, hfree⟩ := createUser_some hcreated
    exact .created _ rfl rfl hfree hnew howners
  next user =>
  obtain ⟨rfl, rfl⟩ := Prod.mk.inj (Except.ok.inj huser)
  obtain ⟨hmem, hphone⟩ := hseen user rfl
  exact .promoted user hmem hphone (hrole user rfl) (promotedUsers hs hmem (hrole user rfl)) howners

end

/-! Runs. -/

/-- The phone that a submission is about. -/
def OnboardCall.phone : OnboardCall → Option Phone
  | .findVendorUser dto _ | .uploadForVendor dto _ _ | .vendorTransaction dto _ _ => some (normalizePhone dto.whatsappPhone)
  | .findRiderUser dto _ _ | .uploadForRider dto _ _ _ | .riderTransaction dto _ _ _ => some (normalizePhone dto.phone)
  | .done _ => none

def OnboardEvent.phone : OnboardEvent → Option Phone
  | .submitInformal dto _ _ => some (normalizePhone dto.whatsappPhone)
  | .submit dto _ _ => some (normalizePhone dto.phone)
  | _ => none

/-- No submission for a phone comes in while one for the same phone is under way. -/
def OnePerPhone : Guard OnboardDb OnboardCall OnboardEvent Reply
  | _, us, .event n => ∀ phone, n.phone = some phone → ∀ u ∈ us, u.phone ≠ some phone
  | _, _, .step _ _ => True

/-- What a submission has seen is still so. -/
def OnboardCall.Knows (db : OnboardDb) : OnboardCall → Prop
  | .uploadForVendor dto _ existingUser | .vendorTransaction dto _ existingUser =>
    Seen db (normalizePhone dto.whatsappPhone) existingUser
  | .uploadForRider dto _ _ existingUser | .riderTransaction dto _ _ existingUser =>
    Seen db (normalizePhone dto.phone) existingUser ∧
      ∀ user, existingUser = some user → user.role = .consumer ∨ user.role = .rider
  | _ => True

/-- What one step of a submission does. -/
inductive OnboardMove (db : OnboardDb) : OnboardCall → OnboardDb → OnboardCall → Prop
  | finish {t : OnboardCall} (outcome : OnboardOutcome) : OnboardMove db t db (.done outcome)
  | vendorSeen (dto : SubmitVendorDto) (seed : SubmitSeed) :
      OnboardMove db (.findVendorUser dto seed) db (.uploadForVendor dto seed (db.findUser (normalizePhone dto.whatsappPhone)))
  | vendorUploaded (dto : SubmitVendorDto) (seed : SubmitSeed) (existingUser : Option User) :
      OnboardMove db (.uploadForVendor dto seed existingUser) db (.vendorTransaction dto seed existingUser)
  | vendorWritten {dto : SubmitVendorDto} {seed : SubmitSeed} {existingUser : Option User} {db' : OnboardDb} :
      db.vendorTransaction dto seed existingUser = .ok db' →
      OnboardMove db (.vendorTransaction dto seed existingUser) db' (.done .submitted)
  | riderSeen {dto : SubmitRiderDto} {files : RiderFiles} {seed : RiderSeed} {existingUser : Option User} :
      db.findUser (normalizePhone dto.phone) = existingUser →
      (∀ user, existingUser = some user → db.riderDb.checkUser user = .ok ()) →
      OnboardMove db (.findRiderUser dto files seed) db (.uploadForRider dto files seed existingUser)
  | riderUploaded (dto : SubmitRiderDto) (files : RiderFiles) (seed : RiderSeed) (existingUser : Option User) :
      OnboardMove db (.uploadForRider dto files seed existingUser) db (.riderTransaction dto files seed existingUser)
  | riderWritten {dto : SubmitRiderDto} {files : RiderFiles} {seed : RiderSeed} {existingUser : Option User} {db' : OnboardDb} :
      db.riderTransaction dto files seed existingUser = .ok db' →
      OnboardMove db (.riderTransaction dto files seed existingUser) db' (.done .submitted)

section

variable {db db' : OnboardDb} {t t' u : OnboardCall} {e : Reply}

theorem onboardMove_of_step (h : t.step db e = some (db', t')) : OnboardMove db t db' t' := by
  cases e with
  | accepted ref => cases t <;> cases h
  | refused reason => cases t <;> cases h
  | lost ref reason => cases t <;> cases h
  | fail reason => cases t <;> cases h <;> exact .finish _
  | ok =>
    cases t with
    | findVendorUser dto seed =>
      simp only [OnboardCall.step] at h
      split at h <;> cases h
      · exact .finish _
      · exact .vendorSeen dto seed
    | uploadForVendor dto seed existingUser => cases h; exact .vendorUploaded dto seed existingUser
    | vendorTransaction dto seed existingUser =>
      simp only [OnboardCall.step] at h
      split at h <;> cases h
      · exact .finish _
      next hwritten => exact .vendorWritten hwritten
    | findRiderUser dto files seed =>
      simp only [OnboardCall.step] at h
      split at h
      next hfound =>
        cases h
        exact .riderSeen hfound nofun
      next user hfound =>
        split at h <;> cases h
        · exact .finish _
        next hchecked =>
          refine .riderSeen hfound fun user' huser => ?_
          obtain rfl := Option.some.inj huser
          exact hchecked
    | uploadForRider dto files seed existingUser => cases h; exact .riderUploaded dto files seed existingUser
    | riderTransaction dto files seed existingUser =>
      simp only [OnboardCall.step] at h
      split at h <;> cases h
      · exact .finish _
      next hwritten => exact .riderWritten hwritten
    | done outcome => cases h

theorem onboardMachine_step {ts : List OnboardCall} (h : onboardMachine.step db t e = some (db', ts)) :
    ∃ t', ts = [t'] ∧ OnboardMove db t db' t' := by
  obtain ⟨⟨db₁, t'⟩, hst, hr⟩ := Option.map_eq_some_iff.1 h
  obtain ⟨rfl, rfl⟩ := Prod.mk.inj hr
  exact ⟨t', rfl, onboardMove_of_step hst⟩

theorem onboardMachine_event {n : OnboardEvent} {ts : List OnboardCall} (h : onboardMachine.event db n = some (db', ts)) :
    db' = (onboardEvent db n).1 ∧ ts = (onboardEvent db n).2 := by
  have heq : onboardEvent db n = (db', ts) := Option.some.inj h
  rw [heq]
  exact ⟨rfl, rfl⟩

theorem OnboardMove.phone (h : OnboardMove db t db' t') : t'.phone = none ∨ t'.phone = t.phone := by
  cases h with
  | finish | vendorWritten | riderWritten => exact .inl rfl
  | _ => exact .inr rfl

theorem seen_findUser (db : OnboardDb) (phone : Phone) : Seen db phone (db.findUser phone) := fun _ hfound =>
  ⟨List.mem_of_find?_eq_some hfound, by simpa using List.find?_some hfound⟩

theorem checkUser_role {rows : RiderDb} {user : User} (h : rows.checkUser user = .ok ()) :
    user.role = .consumer ∨ user.role = .rider := by
  unfold RiderDb.checkUser at h
  split at h
  · cases h
  split at h
  · cases h
  next hrole => tauto

/-- The users of all phones but one are kept. -/
def KeepsUsers (db db' : OnboardDb) (phone : Option Phone) : Prop := ∀ u ∈ db.users, some u.phone ≠ phone → u ∈ db'.users

theorem OnboardMove.sound (h : OnboardMove db t db' t') (hs : db.Sound) (ht : t.Knows db) :
    db'.Sound ∧ t'.Knows db' ∧ KeepsUsers db db' t.phone := by
  have hkeep : KeepsUsers db db t.phone := fun _ hu _ => hu
  cases h with
  | finish outcome => exact ⟨hs, trivial, hkeep⟩
  | vendorSeen dto seed => exact ⟨hs, seen_findUser db _, hkeep⟩
  | vendorUploaded => exact ⟨hs, ht, hkeep⟩
  | riderUploaded => exact ⟨hs, ht, hkeep⟩
  | riderSeen hfound hchecked =>
    subst hfound
    exact ⟨hs, ⟨seen_findUser db _, fun user huser => checkUser_role (hchecked user huser)⟩, hkeep⟩
  | vendorWritten hwritten =>
    have henrolled := vendorTransaction_enrolled hs ht hwritten
    exact ⟨henrolled.sound (.inl rfl) hs, trivial, fun u hu hphone => henrolled.keeps hs hu fun heq => hphone (congrArg some heq)⟩
  | riderWritten hwritten =>
    have henrolled := riderTransaction_enrolled hs ht.1 ht.2 hwritten
    exact ⟨henrolled.sound (.inr rfl) hs, trivial, fun u hu hphone => henrolled.keeps hs hu fun heq => hphone (congrArg some heq)⟩

theorem Seen.keep {phone : Phone} {existingUser : Option User} {other : Option Phone} (h : Seen db phone existingUser)
    (hkeep : KeepsUsers db db' other) (hne : some phone ≠ other) : Seen db' phone existingUser := fun user huser => by
  obtain ⟨hmem, hphone⟩ := h user huser
  exact ⟨hkeep user hmem (hphone ▸ hne), hphone⟩

/-- Nobody writes to the user of a submission but the submission. -/
theorem OnboardCall.Knows.keep {other : Option Phone} (h : u.Knows db) (hkeep : KeepsUsers db db' other)
    (hne : ∀ phone, u.phone = some phone → some phone ≠ other) : u.Knows db' := by
  cases u with
  | uploadForVendor dto seed existingUser => exact Seen.keep h hkeep (hne _ rfl)
  | vendorTransaction dto seed existingUser => exact Seen.keep h hkeep (hne _ rfl)
  | uploadForRider dto files seed existingUser => exact ⟨h.1.keep hkeep (hne _ rfl), h.2⟩
  | riderTransaction dto files seed existingUser => exact ⟨h.1.keep hkeep (hne _ rfl), h.2⟩
  | _ => trivial

/-- What is done to the rows of vendors and riders from elsewhere. -/
theorem OnboardDb.Sound.of_same (hs : db.Sound) (husers : db'.users = db.users) (howners : ∀ r i, db'.Owner r i ↔ db.Owner r i) :
    db'.Sound where
  phones := husers ▸ hs.phones
  ids := husers ▸ hs.ids
  roles := fun u hu r hr => (hs.roles u (husers ▸ hu) r hr).trans (howners r u.id).symm
  owners := fun r i hi => husers ▸ hs.owners r i ((howners r i).1 hi)

theorem exists_column {α β : Type} {rows rows' : List α} {f : α → β} (h : rows'.map f = rows.map f) (b : β) :
    (∃ a ∈ rows', f a = b) ↔ ∃ a ∈ rows, f a = b := by
  rw [← List.mem_map, h, List.mem_map]

theorem onboardEvent_sound (hs : db.Sound) (n : OnboardEvent) :
    (onboardEvent db n).1.Sound ∧ KeepsUsers db (onboardEvent db n).1 none ∧
      ((onboardEvent db n).2 = [] ∨ ∃ t, (onboardEvent db n).2 = [t] ∧ t.Knows (onboardEvent db n).1 ∧
        (t.phone = none ∨ t.phone = n.phone)) := by
  cases n with
  | tick elapsed => exact ⟨hs.of_same rfl fun _ _ => Iff.rfl, fun _ hu _ => hu, .inl rfl⟩
  | submitInformal dto files seed =>
    simp only [onboardEvent]
    split
    · exact ⟨hs, fun _ hu _ => hu, .inr ⟨_, rfl, trivial, .inl rfl⟩⟩
    · exact ⟨hs, fun _ hu _ => hu, .inr ⟨_, rfl, trivial, .inr rfl⟩⟩
  | submit dto files seed =>
    simp only [onboardEvent]
    split
    · exact ⟨hs, fun _ hu _ => hu, .inr ⟨_, rfl, trivial, .inl rfl⟩⟩
    · exact ⟨hs, fun _ hu _ => hu, .inr ⟨_, rfl, trivial, .inr rfl⟩⟩
  | vendorColumns columns =>
    refine ⟨hs.of_same rfl fun r i => ?_, fun _ hu _ => hu, .inl rfl⟩
    cases r with
    | vendor =>
      refine exists_column (f := fun v : VendorRow => v.userId) ?_ i
      simp only [onboardEvent, OnboardDb.vendors, List.map_map]
      refine List.map_congr_left fun v _ => ?_
      simp only [Function.comp]
      split <;> rfl
    | _ => exact Iff.rfl
  | riderStatus id status =>
    refine ⟨hs.of_same rfl fun r i => ?_, fun _ hu _ => hu, .inl rfl⟩
    cases r with
    | rider =>
      have hcolumn : (onboardEvent db (.riderStatus id status)).1.riders.map (·.userId) = db.riders.map (·.userId) :=
        Table.column_update fun _ => rfl
      exact exists_column hcolumn i
    | _ => exact Iff.rfl
  | verifyOtp phone id =>
    simp only [onboardEvent]
    split
    · exact ⟨hs, fun _ hu _ => hu, .inl rfl⟩
    next users hcreated =>
    obtain ⟨rfl, hfree⟩ := createUser_some hcreated
    refine ⟨hs.append hfree rfl fun r i => ?_, fun _ hu _ => List.mem_append_left _ hu, .inl rfl⟩
    have hno : ¬(r.business ∧ r = .consumer ∧ i = id) := by
      rintro ⟨hr, rfl, -⟩
      rcases hr with hr | hr <;> cases hr
    simp only [hno, or_false]
    exact Iff.rfl

theorem onboard_sat {q : Pool OnboardDb OnboardCall} (h₀ : db.Sound) (hq : onboardMachine.Reach OnePerPhone ⟨db, []⟩ q) :
    Sat OnboardDb.Sound (fun db t => t.Knows db) (Distinct OnboardCall.phone) q.shared q.threads := by
  refine hq.sat (fun t u => Distinct.symm _) ⟨h₀, List.forall_mem_nil _, .nil⟩ ?_ ?_
  · intro s us n s' ts _ hs hus hok hev
    obtain ⟨rfl, hts⟩ := onboardMachine_event hev
    obtain ⟨hs', hkeep, hstarts⟩ := onboardEvent_sound hs n
    rw [← hts] at hstarts
    have hothers : ∀ u ∈ us, u.Knows (onboardEvent s n).1 := fun u hu => (hus u hu).keep hkeep nofun
    rcases hstarts with rfl | ⟨t, rfl, ht, hphone⟩
    · exact .zero hs' hothers
    · refine .one hs' ht fun u hu => ⟨hothers u hu, ?_⟩
      rcases hphone with hidle | hphone
      · exact .idle _ hidle
      · intro hsome heq
        obtain ⟨phone, hphone'⟩ := Option.isSome_iff_exists.1 hsome
        exact hok phone (hphone ▸ hphone') u hu (heq ▸ hphone')
  · intro s us vs t e s' ts _ hs ht hus _ hst
    obtain ⟨t', rfl, hmove⟩ := onboardMachine_step hst
    obtain ⟨hs', ht', hkeep⟩ := hmove.sound hs ht
    refine .one hs' ht' fun u hu => ⟨(hus u hu).1.keep hkeep fun phone hphone heq => ?_, (hus u hu).2.of _ hmove.phone⟩
    -- the user that the step wrote is not the one that `u` is about
    exact (hus u hu).2 (heq ▸ rfl) (heq ▸ hphone.symm)

/-- With one submission for a phone at a time the role of a user tells the rows: no user has both kinds. -/
theorem one_business_per_user {q : Pool OnboardDb OnboardCall} (h₀ : db.Sound)
    (hq : onboardMachine.Reach OnePerPhone ⟨db, []⟩ q) :
    (∀ u ∈ q.shared.users, (u.role = .vendor ↔ ∃ v ∈ q.shared.vendors, v.userId = u.id) ∧
      (u.role = .rider ↔ ∃ r ∈ q.shared.riders, r.userId = u.id)) ∧
    (∀ v ∈ q.shared.vendors, ∃ u ∈ q.shared.users, u.id = v.userId) ∧
    (∀ r ∈ q.shared.riders, ∃ u ∈ q.shared.users, u.id = r.userId) ∧
    ∀ v ∈ q.shared.vendors, ∀ r ∈ q.shared.riders, v.userId ≠ r.userId := by
  have hs := (onboard_sat h₀ hq).shared
  have hvendors : ∀ v ∈ q.shared.vendors, ∃ u ∈ q.shared.users, u.id = v.userId := fun v hv =>
    hs.owners .vendor v.userId ⟨v, hv, rfl⟩
  refine ⟨fun u hu => ⟨hs.roles u hu .vendor (.inl rfl), hs.roles u hu .rider (.inr rfl)⟩, hvendors,
    fun r hr => hs.owners .rider r.userId ⟨r, hr, rfl⟩, fun v hv r hr heq => ?_⟩
  obtain ⟨u, hu, hid⟩ := hvendors v hv
  have hvendor : u.role = .vendor := (hs.roles u hu .vendor (.inl rfl)).2 ⟨v, hv, hid.symm⟩
  have hrider : u.role = .rider := (hs.roles u hu .rider (.inr rfl)).2 ⟨r, hr, (hid.trans heq).symm⟩
  exact absurd (hvendor.symm.trans hrider) (by decide)

end

def onePerPhoneB (_ : OnboardDb) (us : List OnboardCall) : Move OnboardCall OnboardEvent Reply → Bool
  | .event n => n.phone == none || us.all fun u => u.phone != n.phone
  | .step .. => true

theorem onePerPhone_of_bool {db : OnboardDb} {us : List OnboardCall} {m : Move OnboardCall OnboardEvent Reply}
    (h : onePerPhoneB db us m = true) : OnePerPhone db us m := by
  cases m with
  | step t e => trivial
  | event n =>
    intro phone hphone u hu heq
    have hall : (us.all fun u => u.phone != some phone) = true := by simpa [onePerPhoneB, hphone] using h
    simpa [heq] using List.all_eq_true.1 hall u hu

/-! A consumer who submits a stall, and who would like to deliver as well. -/

def exampleConsumer : OnboardDb := ⟨⟨[⟨1, "+237670000020", .consumer⟩], [], [], []⟩, [], 0⟩

def exampleStall : SubmitVendorDto where
  type := none
  whatsappPhone := "670000020"
  momoPhone := "670000020"
  firstItemName := "Ndolé"
  firstItemPriceXAF := ⟨1500, by decide⟩
  extraItem1Name := none
  extraItem1PriceXAF := none
  extraItem2Name := none
  extraItem2PriceXAF := none

def exampleCourier : SubmitRiderDto where
  phone := "+237670000020"
  vehicleType := .onFoot
  preferredZone := none
  licensePlate := none
  momoPhone := "670000020"

def submitsStall : OnboardEvent := .submitInformal exampleStall ⟨true, true, false⟩ ⟨7, 2, fun k => k⟩

def submitsCourier : OnboardEvent := .submit exampleCourier ⟨some "id.jpg", some "selfie.jpg", none⟩ ⟨3, 9⟩

theorem exampleConsumer_sound : exampleConsumer.Sound where
  phones := List.nodup_singleton _
  ids := List.nodup_singleton _
  roles := by
    rintro u hu role (rfl | rfl) <;> obtain rfl := List.mem_singleton.1 hu <;>
      simp [OnboardDb.Owner, exampleConsumer, OnboardDb.vendors]
  owners := by
    rintro (_ | _ | _ | _) id <;> simp [OnboardDb.Owner, exampleConsumer, OnboardDb.vendors]

theorem courier_refused :
    ∃ q, onboardMachine.Reach OnePerPhone ⟨exampleConsumer, []⟩ q ∧
      (∀ v ∈ q.shared.vendors, ∀ r ∈ q.shared.riders, v.userId ≠ r.userId) ∧
      (q.shared.users.map (·.role) == [.vendor] && q.shared.vendors.map (·.userId) == [1] && q.shared.riders.isEmpty) = true := by
  obtain ⟨q, hq, ht⟩ := onboardMachine.reach_of_test OnePerPhone onePerPhoneB (fun _ _ _ => onePerPhone_of_bool)
    ⟨exampleConsumer, []⟩
    [.event submitsStall, .step 0 .ok, .step 0 .ok, .step 0 .ok, .event submitsCourier, .step 0 .ok]
    (fun q => q.shared.users.map (·.role) == [.vendor] && q.shared.vendors.map (·.userId) == [1] && q.shared.riders.isEmpty)
    (by decide +kernel)
  exact ⟨q, hq, (one_business_per_user exampleConsumer_sound hq).2.2.2, ht⟩

/-- Each of two submissions at once sees a consumer, and the user ends up with both rows. -/
theorem both_businesses :
    ∃ q, onboardMachine.Reach anyMove ⟨exampleConsumer, []⟩ q ∧
      (q.shared.users.map (·.role) == [.rider] && q.shared.vendors.map (·.userId) == [1] &&
        q.shared.riders.map (·.userId) == [1]) = true :=
  onboardMachine.reach_of_test anyMove (fun _ _ _ => true) (fun _ _ _ _ => trivial) ⟨exampleConsumer, []⟩
    [.event submitsStall, .step 0 .ok, .event submitsCourier, .step 0 .ok, .step 1 .ok, .step 0 .ok, .step 1 .ok, .step 0 .ok]
    (fun q => q.shared.users.map (·.role) == [.rider] && q.shared.vendors.map (·.userId) == [1] &&
      q.shared.riders.map (·.userId) == [1]) (by decide +kernel)

end ChopNow
