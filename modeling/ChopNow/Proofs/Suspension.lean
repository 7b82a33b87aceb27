import ChopNow.Lib.InTurn
import ChopNow.Proofs.BooksStep
import ChopNow.Spec.Suspension

/-! Whose tokens are rejected, and whose row says SUSPENDED. Each call that leaves the two
stores apart does so in one place; away from those places they agree whenever no call is
under way. -/

namespace ChopNow

open Interleave

/-- Another row of the same user is suspended. -/
def Accounts.HeldBesides (s : Accounts) (party : Party) : Prop :=
  ∃ other, other ≠ party ∧ s.owner other = s.owner party ∧ s.books.profileStatus other = some .suspended

/-- The two stores agree about every user. -/
def Accounts.Agree (s : Accounts) : Prop := ∀ user, s.isRevoked user = true ↔ s.Suspended user

/-- One call at a time; approve and reject leave suspended rows alone, unless another row
holds the user; a row is unsuspended where it is the user's only suspended one; Redis
answers, or has nothing to change; a transaction that has revoked a user commits, or the
user was suspended anyhow; and no key runs out while a row is suspended. -/
def storesInStep : Guard Accounts AccountThread AccountEvent Reply := fun s us m =>
  match m with
  | .event (.tick elapsed) => ∀ user, s.Suspended user ∨ (∃ u ∈ us, u.busy = true) → s.isRevoked user = true →
      (s.tick elapsed).isRevoked user = true
  | .event n => n.call.isSome → ∀ u ∈ us, u.busy = false
  | .step (.admin (.checked .approve party)) .ok | .step (.admin (.checked .reject party)) .ok =>
    s.books.profileStatus party = some .suspended → s.HeldBesides party
  | .step (.admin (.written .suspend party)) (.fail _) => s.isRevoked (s.owner party) = true
  | .step (.admin (.written .unsuspend party)) .ok => ¬s.HeldBesides party
  | .step (.admin (.written .unsuspend party)) (.fail _) => s.isRevoked (s.owner party) = true → s.HeldBesides party
  | .step (.fraud (.punished order input action now)) e =>
    (e = .ok ∧ ∃ books, s.books.commitOrder (.riderFraud order input action now) = .ok books) ∨
      ∀ r ∈ s.culprit order action, s.Suspended (s.owner (.rider r))
  | _ => True

/-- They agree about everybody but this user. -/
def Accounts.AgreeBut (s : Accounts) (user : UserId) : Prop :=
  ∀ u, u ≠ user → (s.isRevoked u = true ↔ s.Suspended u)

/-- What holds between two steps of the call at work. -/
def AccountLocal (s : Accounts) : AccountThread → Prop
  | .admin (.checked _ party) => s.Agree ∧ (s.books.profileStatus party).isSome
  | .admin (.written .suspend party) => s.AgreeBut (s.owner party) ∧ s.Suspended (s.owner party)
  | .admin (.written .unsuspend party) => s.AgreeBut (s.owner party) ∧
    s.books.profileStatus party ≠ some .suspended ∧ (s.HeldBesides party → s.isRevoked (s.owner party) = true)
  | .fraud (.punished order _ action _) =>
    (∀ r ∈ s.culprit order action, s.AgreeBut (s.owner (.rider r)) ∧ s.isRevoked (s.owner (.rider r)) = true) ∧
      (s.culprit order action = none → s.Agree)
  | _ => s.Agree

section

variable {s s' : Accounts} {b b' : Books} {party other : Party} {user : UserId} {us : List AccountThread} {e : Reply}

/-! The rows. -/

theorem find?_setStatus {α : Type} (rows : List α) (id : α → ℕ) {f : α → α} (hf : ∀ a, id (f a) = id a) (k j : ℕ) :
    (rows.map fun a => if id a = k then f a else a).find? (fun a => id a == j) =
      if j = k then (rows.find? fun a => id a == j).map f else rows.find? fun a => id a == j := by
  have hid : ∀ a, id (if id a = k then f a else a) = id a := fun a => by split <;> simp [hf]
  rw [List.find?_map]
  simp only [Function.comp_def, hid]
  cases hfound : rows.find? fun a => id a == j with
  | none => simp
  | some a =>
    have ha : id a = j := by simpa using List.find?_some hfound
    by_cases hjk : j = k
    · simp [ha, hjk]
    · simp [ha, hjk]

@[simp] theorem setStatus_clock (b : Books) (party : Party) (status : VendorStatus) :
    (b.setStatus party status).clock = b.clock := by
  cases party <;> rfl

/-- An update of one row. -/
theorem profileStatus_setStatus (b : Books) (party : Party) (status : VendorStatus) (other : Party) :
    (b.setStatus party status).profileStatus other =
      if other = party then (b.profileStatus party).map fun _ => status else b.profileStatus other := by
  cases party with
  | vendor v =>
    cases other with
    | vendor w =>
      have hrow := find?_setStatus b.vendors (·.id)
        (f := fun row => { row with status := status, isOpen := row.isOpen && status != .suspended }) (fun _ => rfl) v w
      simp only [Books.setStatus, Books.profileStatus, hrow, Party.vendor.injEq]
      split
      · next heq => simp [heq, Function.comp_def]
      · rfl
    | rider r => rfl
  | rider r =>
    cases other with
    | vendor w => rfl
    | rider q =>
      have hrow := find?_setStatus b.riders (·.id) (f := fun row => { row with status := status.toRiderStatus })
        (fun _ => rfl) r q
      simp only [Books.setStatus, Books.profileStatus, hrow, Party.rider.injEq]
      split
      · next heq => simp [heq, Function.comp_def]
      · rfl

/-- What the transaction of a fraud does to the rows. -/
theorem profileStatus_commit {order : Order} {input : ResolveRiderFraudInput} {action : RiderFraudAction} {now : Time}
    (h : b.commitOrder (.riderFraud order input action now) = .ok b') (other : Party) :
    b'.profileStatus other =
      if action = .suspend ∧ order.riderId.map .rider = some other then (b.profileStatus other).map fun _ => .suspended
      else b.profileStatus other := by
  unfold Books.commitOrder at h
  split at h
  · cases h
  split at h
  · cases h
  obtain rfl := Except.ok.inj h
  cases other with
  | vendor v =>
    rw [if_neg]
    · rfl
    · rintro ⟨-, hr⟩
      cases ho : order.riderId <;> simp [ho] at hr
  | rider r =>
    cases ho : order.riderId with
    | none =>
      simp only [Books.profileStatus, OrderTx.punish, ho, Books.putOrder]
      simp
    | some k =>
      have hrow := find?_setStatus b.riders (·.id) (f := action.apply)
        (fun row => by cases action <;> rfl) k r
      have hpunish : OrderTx.punish (.riderFraud order input action now) b.riders =
          b.riders.map fun row => if row.id = k then action.apply row else row := by
        simp only [OrderTx.punish, ho, Option.some.injEq, eq_comm]
      simp only [Books.profileStatus, Books.putOrder, hpunish, hrow, Option.map_some, Option.some.injEq,
        Party.rider.injEq]
      cases action with
      | suspend =>
        by_cases hrk : r = k
        · simp [hrk, RiderFraudAction.apply, RiderStatus.toVendorStatus, Function.comp_def]
        · simp [hrk, Ne.symm hrk]
      | warn =>
        by_cases hrk : r = k
        · simp [hrk, RiderFraudAction.apply, Function.comp_def]
        · simp [hrk]

/-! Redis. -/

theorem ttlSeconds_pos (s : Accounts) : 0 < s.ttlSeconds :=
  Nat.div_pos (Nat.add_le_add_right s.ttl_pos 999) (Nat.succ_pos _)

theorem isRevoked_revokeUser (s : Accounts) (user u : UserId) :
    (s.revokeUser user).isRevoked u = if u = user then true else s.isRevoked u := by
  unfold Accounts.isRevoked Accounts.revokeUser
  by_cases hu : u = user
  · subst hu
    have hlive : s.books.clock < s.books.clock + s.ttlSeconds * 1000 :=
      Nat.lt_add_of_pos_right (Nat.mul_pos (ttlSeconds_pos s) (Nat.succ_pos _))
    rw [if_pos rfl]
    simpa only [Function.update_self, Option.any_some] using decide_eq_true hlive
  · rw [if_neg hu]
    simp only [Function.update_of_ne hu]

theorem isRevoked_reactivateUser (s : Accounts) (user u : UserId) :
    (s.reactivateUser user).isRevoked u = if u = user then false else s.isRevoked u := by
  unfold Accounts.isRevoked Accounts.reactivateUser
  by_cases hu : u = user
  · subst hu
    simp
  · rw [if_neg hu]
    simp only [Function.update_of_ne hu]

/-- Time only ever takes keys away. -/
theorem isRevoked_of_tick {elapsed : Time} (h : (s.tick elapsed).isRevoked user = true) : s.isRevoked user = true := by
  obtain ⟨expiry, hexpiry, hlive⟩ := (Option.any_eq_true _ _).1 h
  exact (Option.any_eq_true _ _).2 ⟨expiry, hexpiry,
    decide_eq_true ((Nat.le_add_right _ _).trans_lt (of_decide_eq_true hlive))⟩

/-! What the two stores say, from one state to the next. -/

theorem Accounts.suspended_iff : s.Suspended (s.owner party) ↔
    s.books.profileStatus party = some .suspended ∨ s.HeldBesides party := by
  constructor
  · rintro ⟨other, howner, hs⟩
    by_cases ho : other = party
    · exact .inl (ho ▸ hs)
    · exact .inr ⟨other, ho, howner, hs⟩
  · rintro (hs | ⟨other, -, howner, hs⟩)
    · exact ⟨party, rfl, hs⟩
    · exact ⟨other, howner, hs⟩

theorem Accounts.Agree.of_but (h : s.AgreeBut user) (hu : s.isRevoked user = true ↔ s.Suspended user) : s.Agree := by
  intro u
  by_cases hne : u = user
  · rw [hne]
    exact hu
  · exact h u hne

/-- Only the row of `party` may differ. -/
structure OthersKept (party : Party) (s s' : Accounts) : Prop where
  owner : s'.owner = s.owner
  status : ∀ other, other ≠ party → s'.books.profileStatus other = s.books.profileStatus other

theorem OthersKept.heldBesides (h : OthersKept party s s') : s'.HeldBesides party ↔ s.HeldBesides party := by
  unfold Accounts.HeldBesides
  rw [h.owner]
  refine exists_congr fun other => and_congr_right fun hne => ?_
  rw [h.status other hne]

theorem OthersKept.suspended (h : OthersKept party s s') {u : UserId} (hu : u ≠ s.owner party) :
    s'.Suspended u ↔ s.Suspended u := by
  unfold Accounts.Suspended
  rw [h.owner]
  refine exists_congr fun other => and_congr_right fun howner => ?_
  rw [h.status other fun heq => hu (by rw [← howner, heq])]

/-- Nothing that counts differs. -/
structure SameStores (s s' : Accounts) : Prop where
  owner : s'.owner = s.owner
  status : ∀ party, s'.books.profileStatus party = s.books.profileStatus party
  revoked : ∀ user, s'.isRevoked user = s.isRevoked user

theorem SameStores.suspended (h : SameStores s s') (user : UserId) : s'.Suspended user ↔ s.Suspended user := by
  unfold Accounts.Suspended
  rw [h.owner]
  exact exists_congr fun party => by rw [h.status]

theorem SameStores.agree (h : SameStores s s') (hs : s.Agree) : s'.Agree := fun user => by
  rw [h.revoked, h.suspended]
  exact hs user

theorem SameStores.culprit (h : SameStores s s') (order : Order) (action : RiderFraudAction) :
    s'.culprit order action = s.culprit order action := by
  cases action <;> simp only [Accounts.culprit, h.status]

theorem AccountLocal.keep {t : AccountThread} (h : SameStores s s') (hL : AccountLocal s t) : AccountLocal s' t := by
  have hbut : ∀ user, s.AgreeBut user → s'.AgreeBut user := fun user hs u hu => by
    rw [h.revoked, h.suspended]
    exact hs u hu
  have hheld : ∀ party, s'.HeldBesides party ↔ s.HeldBesides party := fun party =>
    OthersKept.heldBesides ⟨h.owner, fun other _ => h.status other⟩
  cases t with
  | admin t =>
    cases t with
    | checked action party => exact ⟨h.agree hL.1, by rw [h.status]; exact hL.2⟩
    | written action party =>
      cases action with
      | suspend => exact ⟨by rw [h.owner]; exact hbut _ hL.1, by rw [h.owner, h.suspended]; exact hL.2⟩
      | unsuspend =>
        refine ⟨by rw [h.owner]; exact hbut _ hL.1, by rw [h.status]; exact hL.2.1, fun hh => ?_⟩
        rw [h.owner, h.revoked]
        exact hL.2.2 ((hheld party).1 hh)
      | _ => exact h.agree hL
    | _ => exact h.agree hL
  | fraud t =>
    cases t with
    | punished order input action now =>
      refine ⟨fun r hr => ?_, fun hnone => h.agree (hL.2 (by rw [← h.culprit]; exact hnone))⟩
      rw [h.culprit] at hr
      rw [h.owner, h.revoked]
      exact ⟨hbut _ (hL.1 r hr).1, (hL.1 r hr).2⟩
    | _ => exact h.agree hL

theorem othersKept_setStatus (s : Accounts) (party : Party) (status : VendorStatus) :
    OthersKept party s { s with books := s.books.setStatus party status } where
  owner := rfl
  status := fun other hne => by
    change (s.books.setStatus party status).profileStatus other = _
    rw [profileStatus_setStatus, if_neg hne]

theorem isRevoked_setStatus (s : Accounts) (party : Party) (status : VendorStatus) (user : UserId) :
    Accounts.isRevoked { s with books := s.books.setStatus party status } user = s.isRevoked user := by
  simp only [Accounts.isRevoked, setStatus_clock]

/-- An update leaves everybody else as they were. -/
theorem agreeBut_setStatus (h : s.Agree) (party : Party) (status : VendorStatus) :
    Accounts.AgreeBut { s with books := s.books.setStatus party status } (s.owner party) := fun u hu => by
  rw [isRevoked_setStatus, (othersKept_setStatus s party status).suspended hu]
  exact h u

/-! Steps. -/

theorem check_isSome {action : AdminAction} {reason : Option String} {status : Option VendorStatus}
    (h : action.check reason status = .ok ()) : status.isSome := by
  unfold AdminAction.check at h
  split at h
  · cases h
  split at h
  · cases h
  · rfl

/-- approve and reject end with the update. -/
theorem agree_judged {status : VendorStatus} (h : s.Agree) (hnot : status ≠ .suspended)
    (hok : s.books.profileStatus party = some .suspended → s.HeldBesides party) :
    Accounts.Agree { s with books := s.books.setStatus party status } := by
  refine Accounts.Agree.of_but (agreeBut_setStatus h party status) ?_
  rw [isRevoked_setStatus, h, Accounts.suspended_iff]
  have hkept := othersKept_setStatus s party status
  have hown : (s.books.setStatus party status).profileStatus party ≠ some .suspended := by
    rw [profileStatus_setStatus, if_pos rfl]
    cases s.books.profileStatus party <;> simp [hnot]
  constructor
  · rintro (hs | hheld)
    · exact (Accounts.suspended_iff (s := { s with books := s.books.setStatus party status })).2
        (.inr (hkept.heldBesides.2 (hok hs)))
    · exact (Accounts.suspended_iff (s := { s with books := s.books.setStatus party status })).2
        (.inr (hkept.heldBesides.2 hheld))
  · intro hs
    rcases (Accounts.suspended_iff (s := { s with books := s.books.setStatus party status })).1 hs with hs | hheld
    · exact absurd hs hown
    · exact .inr (hkept.heldBesides.1 hheld)

theorem agree_revoked (h : s.AgreeBut user) (hs : s.Suspended user) : (s.revokeUser user).Agree := by
  intro u
  rw [isRevoked_revokeUser]
  by_cases hu : u = user
  · subst hu
    exact ⟨fun _ => hs, fun _ => if_pos rfl⟩
  · rw [if_neg hu]
    exact h u hu

theorem agree_reactivated (h : s.AgreeBut user) (hs : ¬s.Suspended user) : (s.reactivateUser user).Agree := by
  intro u
  rw [isRevoked_reactivateUser]
  by_cases hu : u = user
  · subst hu
    rw [if_pos rfl]
    exact ⟨fun hf => (by cases hf), fun hsus => absurd hsus hs⟩
  · rw [if_neg hu]
    exact h u hu

/-- The update of suspend; the key comes next. -/
theorem local_suspended (h : s.Agree) (hrow : (s.books.profileStatus party).isSome) :
    AccountLocal { s with books := s.books.setStatus party .suspended } (.admin (.written .suspend party)) := by
  refine ⟨agreeBut_setStatus h party .suspended, party, rfl, ?_⟩
  obtain ⟨status, hstatus⟩ := Option.isSome_iff_exists.1 hrow
  change (s.books.setStatus party .suspended).profileStatus party = _
  rw [profileStatus_setStatus, if_pos rfl, hstatus]
  rfl

/-- The update of unsuspend; another row of the user may still hold the key. -/
theorem local_unsuspended (h : s.Agree) :
    AccountLocal { s with books := s.books.setStatus party .active } (.admin (.written .unsuspend party)) := by
  refine ⟨agreeBut_setStatus h party .active, ?_, fun hheld => ?_⟩
  · change (s.books.setStatus party .active).profileStatus party ≠ _
    rw [profileStatus_setStatus, if_pos rfl]
    cases s.books.profileStatus party <;> simp
  · change Accounts.isRevoked { s with books := s.books.setStatus party .active } (s.owner party) = true
    rw [isRevoked_setStatus]
    exact (h _).2 (Accounts.suspended_iff.2 (.inr ((othersKept_setStatus s party .active).heldBesides.1 hheld)))

/-- The update of each call. -/
theorem adminChecked_local {action : AdminAction} {t' : AdminCall}
    (hok : storesInStep s us (.step (.admin (.checked action party)) e)) (hL : AccountLocal s (.admin (.checked action party)))
    (h : AdminCall.step s (.checked action party) e = some (s', t')) : AccountLocal s' (.admin t') := by
  obtain ⟨hagree, hrow⟩ := hL
  cases e with
  | ok =>
    cases action with
    | approve =>
      obtain ⟨rfl, rfl⟩ := Prod.mk.inj (Option.some.inj h)
      exact agree_judged hagree (by decide) hok
    | reject =>
      obtain ⟨rfl, rfl⟩ := Prod.mk.inj (Option.some.inj h)
      exact agree_judged hagree (by decide) hok
    | suspend =>
      obtain ⟨rfl, rfl⟩ := Prod.mk.inj (Option.some.inj h)
      exact local_suspended hagree hrow
    | unsuspend =>
      obtain ⟨rfl, rfl⟩ := Prod.mk.inj (Option.some.inj h)
      exact local_unsuspended hagree
  | fail reason =>
    obtain ⟨rfl, rfl⟩ := Prod.mk.inj (Option.some.inj h)
    exact hagree
  | _ => cases h

/-- The write to Redis, or its failure. -/
theorem adminWritten_local {action : AdminAction} {t' : AdminCall}
    (hok : storesInStep s us (.step (.admin (.written action party)) e)) (hL : AccountLocal s (.admin (.written action party)))
    (h : AdminCall.step s (.written action party) e = some (s', t')) : AccountLocal s' (.admin t') := by
  cases action with
  | suspend =>
    obtain ⟨hbut, hsus⟩ := hL
    cases e with
    | ok =>
      obtain ⟨rfl, rfl⟩ := Prod.mk.inj (Option.some.inj h)
      exact agree_revoked hbut hsus
    | fail reason =>
      obtain ⟨rfl, rfl⟩ := Prod.mk.inj (Option.some.inj h)
      exact Accounts.Agree.of_but hbut ⟨fun _ => hsus, fun _ => hok⟩
    | _ => cases h
  | unsuspend =>
    obtain ⟨hbut, hown, hrevoked⟩ := hL
    cases e with
    | ok =>
      obtain ⟨rfl, rfl⟩ := Prod.mk.inj (Option.some.inj h)
      exact agree_reactivated hbut fun hsus => (Accounts.suspended_iff.1 hsus).elim hown hok
    | fail reason =>
      obtain ⟨rfl, rfl⟩ := Prod.mk.inj (Option.some.inj h)
      refine Accounts.Agree.of_but hbut ⟨fun hrev => Accounts.suspended_iff.2 (.inr (hok hrev)), fun hsus => ?_⟩
      exact hrevoked ((Accounts.suspended_iff.1 hsus).resolve_left hown)
    | _ => cases h
  | approve | reject =>
    cases e with
    | fail reason =>
      obtain ⟨rfl, rfl⟩ := Prod.mk.inj (Option.some.inj h)
      exact hL
    | _ => cases h

theorem admin_step {t t' : AdminCall} (hok : storesInStep s us (.step (.admin t) e)) (hL : AccountLocal s (.admin t))
    (h : t.step s e = some (s', t')) : AccountLocal s' (.admin t') := by
  cases t with
  | called action party reason =>
    cases e with
    | ok =>
      simp only [AdminCall.step] at h
      split at h <;> obtain ⟨rfl, rfl⟩ := Prod.mk.inj (Option.some.inj h)
      · exact hL
      · next hcheck => exact ⟨hL, check_isSome hcheck⟩
    | fail reason =>
      obtain ⟨rfl, rfl⟩ := Prod.mk.inj (Option.some.inj h)
      exact hL
    | _ => cases h
  | checked action party => exact adminChecked_local hok hL h
  | written action party => exact adminWritten_local hok hL h
  | done result => cases e <;> cases h

/-- The one row that a committed fraud writes is the culprit's. -/
theorem status_commit {order : Order} {input : ResolveRiderFraudInput} {action : RiderFraudAction} {now : Time}
    (h : s.books.commitOrder (.riderFraud order input action now) = .ok b') (other : Party) :
    b'.profileStatus other =
      if (s.culprit order action).map .rider = some other then some .suspended else s.books.profileStatus other := by
  rw [profileStatus_commit h]
  cases action with
  | warn => simp [Accounts.culprit]
  | suspend =>
    cases ho : order.riderId with
    | none => simp [Accounts.culprit, ho]
    | some r =>
      by_cases heq : Party.rider r = other
      · subst heq
        cases hrow : s.books.profileStatus (.rider r) <;> simp [Accounts.culprit, ho, hrow]
      · cases hrow : (s.books.profileStatus (.rider r)).isSome <;> simp [Accounts.culprit, ho, hrow, heq]

theorem agree_committed {order : Order} {input : ResolveRiderFraudInput} {action : RiderFraudAction} {now : Time}
    (hL : AccountLocal s (.fraud (.punished order input action now)))
    (h : s.books.commitOrder (.riderFraud order input action now) = .ok b') :
    Accounts.Agree { s with books := { b' with clock := s.books.clock } } := by
  set s' : Accounts := { s with books := { b' with clock := s.books.clock } } with hs'
  have hstatus : ∀ other, s'.books.profileStatus other =
      if (s.culprit order action).map .rider = some other then some .suspended else s.books.profileStatus other :=
    fun other => by
      rw [← status_commit h]
      cases other <;> rfl
  cases hc : s.culprit order action with
  | none =>
    have hsame : SameStores s s' := ⟨rfl, fun other => by rw [hstatus, hc]; rfl, fun _ => rfl⟩
    exact hsame.agree (hL.2 hc)
  | some r =>
    obtain ⟨hbut, hrevoked⟩ := hL.1 r hc
    have hkept : OthersKept (.rider r) s s' := by
      refine ⟨rfl, fun other hne => ?_⟩
      rw [hstatus, hc, if_neg]
      exact fun heq => hne (Option.some.inj heq).symm
    have hrider : s'.books.profileStatus (.rider r) = some .suspended := by
      rw [hstatus, hc]
      exact if_pos rfl
    have hbut' : s'.AgreeBut (s.owner (.rider r)) := fun u hu => by
      rw [hkept.suspended hu]
      exact hbut u hu
    exact .of_but hbut' ⟨fun _ => ⟨.rider r, rfl, hrider⟩, fun _ => hrevoked⟩

/-- The transaction revokes the culprit's tokens before it commits. -/
theorem local_punished {order : Order} {input : ResolveRiderFraudInput} {action : RiderFraudAction} {now : Time}
    {r : RiderId} (h : s.Agree) (hr : s.culprit order action = some r) :
    AccountLocal (s.revokeUser (s.owner (.rider r))) (.fraud (.punished order input action now)) := by
  have hsame : (s.revokeUser (s.owner (.rider r))).culprit order action = s.culprit order action := rfl
  refine ⟨fun r' hr' => ?_, fun hnone => ?_⟩
  · rw [hsame, hr] at hr'
    obtain rfl := Option.some.inj hr'
    refine ⟨fun u hu => ?_, ?_⟩
    · have hne : u ≠ s.owner (.rider r) := hu
      rw [isRevoked_revokeUser, if_neg hne]
      exact h u
    · rw [isRevoked_revokeUser]
      exact if_pos rfl
  · rw [hsame, hr] at hnone
    cases hnone

/-- A transaction that is rolled back leaves the key behind. -/
theorem agree_rolledBack {order : Order} {input : ResolveRiderFraudInput} {action : RiderFraudAction} {now : Time}
    (hL : AccountLocal s (.fraud (.punished order input action now)))
    (hsus : ∀ r ∈ s.culprit order action, s.Suspended (s.owner (.rider r))) : s.Agree := by
  cases hc : s.culprit order action with
  | none => exact hL.2 hc
  | some r =>
    obtain ⟨hbut, hrevoked⟩ := hL.1 r hc
    exact Accounts.Agree.of_but hbut ⟨fun _ => hsus r hc, fun _ => hrevoked⟩

theorem fraudCall_local {t t' : FraudCall} (hok : storesInStep s us (.step (.fraud t) e)) (hL : AccountLocal s (.fraud t))
    (h : t.step s e = some (s', t')) : AccountLocal s' (.fraud t') := by
  cases t with
  | called id input action =>
    cases e with
    | ok =>
      simp only [FraudCall.step] at h
      split at h
      · obtain ⟨rfl, rfl⟩ := Prod.mk.inj (Option.some.inj h)
        exact hL
      split at h <;> obtain ⟨rfl, rfl⟩ := Prod.mk.inj (Option.some.inj h)
      · exact hL
      · exact hL
    | fail reason =>
      obtain ⟨rfl, rfl⟩ := Prod.mk.inj (Option.some.inj h)
      exact hL
    | _ => cases h
  | checked order input action now =>
    cases e with
    | ok =>
      simp only [FraudCall.step] at h
      split at h <;> obtain ⟨rfl, rfl⟩ := Prod.mk.inj (Option.some.inj h)
      · exact hL
      · exact hL
    | fail reason =>
      obtain ⟨rfl, rfl⟩ := Prod.mk.inj (Option.some.inj h)
      exact hL
    | _ => cases h
  | written order input action now =>
    have hagree : s.Agree := hL
    cases e with
    | ok =>
      simp only [FraudCall.step] at h
      split at h <;> obtain ⟨rfl, rfl⟩ := Prod.mk.inj (Option.some.inj h)
      · next r hr => exact local_punished hagree hr
      · next hnone =>
        refine ⟨fun r hr => ?_, fun _ => hagree⟩
        rw [hnone] at hr
        cases hr
    | fail reason =>
      obtain ⟨rfl, rfl⟩ := Prod.mk.inj (Option.some.inj h)
      exact hagree
    | _ => cases h
  | punished order input action now =>
    cases e with
    | ok =>
      simp only [FraudCall.step] at h
      split at h <;> obtain ⟨rfl, rfl⟩ := Prod.mk.inj (Option.some.inj h)
      · next err herr =>
        rcases hok with ⟨-, books, hcommit⟩ | hsus
        · rw [herr] at hcommit
          cases hcommit
        · exact agree_rolledBack hL hsus
      · next books hcommit => exact agree_committed hL hcommit
    | fail reason =>
      obtain ⟨rfl, rfl⟩ := Prod.mk.inj (Option.some.inj h)
      rcases hok with ⟨hno, -⟩ | hsus
      · cases hno
      · exact agree_rolledBack hL hsus
    | _ => cases h
  | done result => cases e <;> cases h

/-! Runs. -/

theorem account_step {t : AccountThread} {ts : List AccountThread} (hok : storesInStep s us (.step t e))
    (hL : AccountLocal s t) (h : accountMachine.step s t e = some (s', ts)) : ∃ t', ts = [t'] ∧ AccountLocal s' t' := by
  obtain ⟨⟨s₁, t₁⟩, hst, hr⟩ := Option.map_eq_some_iff.1 h
  obtain ⟨rfl, rfl⟩ := Prod.mk.inj hr
  refine ⟨t₁, rfl, ?_⟩
  cases t with
  | admin t =>
    obtain ⟨⟨s₂, t₂⟩, ht, hr⟩ := Option.map_eq_some_iff.1 hst
    obtain ⟨rfl, rfl⟩ := Prod.mk.inj hr
    exact admin_step hok hL ht
  | fraud t =>
    obtain ⟨⟨s₂, t₂⟩, ht, hr⟩ := Option.map_eq_some_iff.1 hst
    obtain ⟨rfl, rfl⟩ := Prod.mk.inj hr
    exact fraudCall_local hok hL ht

theorem AccountLocal.inTurn {t : AccountThread} (h : AccountLocal s t) :
    InTurn AccountThread.busy Accounts.Agree AccountLocal s [t] := by
  cases hbusy : t.busy with
  | true => exact .inr ⟨t, by simp [hbusy], h⟩
  | false =>
    refine .of_idle (by simpa using hbusy) ?_
    cases t with
    | admin t => cases t <;> first | exact h | cases hbusy
    | fraud t => cases t <;> first | exact h | cases hbusy

/-- A call that starts has done nothing yet. -/
theorem call_local {n : AccountEvent} {t : AccountThread} (h : s.Agree) (ht : n.call = some t) :
    AccountLocal s t ∧ accountEvent s n = (s, [t]) := by
  cases n <;> cases ht <;> exact ⟨h, rfl⟩

/-- Time passes, or nothing happens to the two stores. -/
theorem quiet_event {n : AccountEvent} (h : n.call = none) :
    (∃ elapsed, n = .tick elapsed) ∨ accountEvent s n = (s, []) := by
  cases n <;> first | exact .inl ⟨_, rfl⟩ | exact .inr rfl | cases h

/-- A tick that takes no key away changes nothing that counts. -/
theorem sameStores_tick {elapsed : Time}
    (h : ∀ user, s.isRevoked user = true → (s.tick elapsed).isRevoked user = true) : SameStores s (s.tick elapsed) where
  owner := rfl
  status := fun party => by cases party <;> rfl
  revoked := fun user => Bool.eq_iff_iff.2 ⟨isRevoked_of_tick, h user⟩

theorem account_done {t : AccountThread} (ht : t.busy = false) (s : Accounts) (e : Reply) :
    accountMachine.step s t e = none := by
  cases t with
  | admin t =>
    cases t with
    | done result => cases e <;> rfl
    | _ => cases ht
  | fraud t =>
    cases t with
    | done result => cases e <;> rfl
    | _ => cases ht

theorem arrival_inTurn {n : AccountEvent} (hok : storesInStep s us (.event n)) (h : s.Agree) :
    InTurn AccountThread.busy Accounts.Agree AccountLocal (accountEvent s n).1 (accountEvent s n).2 := by
  cases hcall : n.call with
  | some t =>
    obtain ⟨hL, hev⟩ := call_local h hcall
    rw [hev]
    exact hL.inTurn
  | none =>
    rcases quiet_event (s := s) hcall with ⟨elapsed, rfl⟩ | hev
    · exact .of_idle (by simp [accountEvent]) ((sameStores_tick fun user hrev =>
        hok user (.inl ((h user).1 hrev)) hrev).agree h)
    · rw [hev]
      exact .of_idle (by simp) h

theorem meanwhile_inTurn {n : AccountEvent} {t : AccountThread} (hok : storesInStep s us (.event n)) (ht : t ∈ us)
    (hbusy : t.busy = true) (hL : AccountLocal s t) :
    (accountEvent s n).2.filter AccountThread.busy = [] ∧ AccountLocal (accountEvent s n).1 t := by
  cases hcall : n.call with
  | some t' =>
    have hfree : t.busy = false := by
      cases n <;> first | exact hok rfl t ht | cases hcall
    rw [hfree] at hbusy
    cases hbusy
  | none =>
    rcases quiet_event (s := s) hcall with ⟨elapsed, rfl⟩ | hev
    · exact ⟨rfl, hL.keep (sameStores_tick fun user hrev => hok user (.inr ⟨t, ht, hbusy⟩) hrev)⟩
    · rw [hev]
      exact ⟨rfl, hL⟩

end

/-- Whenever no call is under way, a user's tokens are rejected exactly if a row of the
user is suspended. -/
theorem revoked_iff_suspended {s₀ : Accounts} (h₀ : s₀.Agree) {q : Pool Accounts AccountThread}
    (h : accountMachine.Reach storesInStep ⟨s₀, []⟩ q) (hidle : ∀ t ∈ q.threads, t.busy = false) (user : UserId) :
    q.shared.isRevoked user = true ↔ q.shared.Suspended user := by
  refine InTurn.idle (A := Accounts.Agree) (L := AccountLocal) (h.inTurn ?_ (.of_idle (by simp) h₀) ?_ ?_ ?_) hidle user
  · exact fun s t e ht => account_done ht s e
  · intro s us n s' ts hok hev _ hagree
    obtain ⟨rfl, rfl⟩ := Prod.mk.inj (Option.some.inj hev)
    exact arrival_inTurn hok hagree
  · intro s us n s' ts t hok hev ht hbusy hL
    obtain ⟨rfl, rfl⟩ := Prod.mk.inj (Option.some.inj hev)
    exact meanwhile_inTurn hok ht hbusy hL
  · intro s us t e s' ts hok hst hL
    obtain ⟨t', rfl, hL'⟩ := account_step hok hL hst
    exact hL'.inTurn

/-- The example books, with a user for each row and a refresh token of 30 days. -/
def exampleAccounts : Accounts where
  books := exampleBooks
  owner
    | .vendor v => 100 + v
    | .rider r => 200 + r
  revoked := fun _ => none
  jwtRefreshTtl := 2592000000
  ttl_pos := by decide

/-- No row is suspended. -/
def Books.noneSuspended (b : Books) : Bool :=
  b.vendors.all (fun row => row.status != .suspended) && b.riders.all fun row => row.status != .suspended

theorem not_suspended_of_none {s : Accounts} (h : s.books.noneSuspended = true) (user : UserId) : ¬s.Suspended user := by
  obtain ⟨hvendors, hriders⟩ := Bool.and_eq_true_iff.1 h
  rintro ⟨party, -, hs⟩
  cases party with
  | vendor v =>
    obtain ⟨row, hrow, hsus⟩ := Option.map_eq_some_iff.1 hs
    have hne := List.all_eq_true.1 hvendors row (List.mem_of_find?_eq_some hrow)
    simp [hsus] at hne
  | rider r =>
    obtain ⟨row, hrow, hsus⟩ := Option.map_eq_some_iff.1 hs
    have hne := List.all_eq_true.1 hriders row (List.mem_of_find?_eq_some hrow)
    cases hstatus : row.status <;> simp [hstatus, RiderStatus.toVendorStatus] at hne hsus

theorem exampleAccounts_agree : exampleAccounts.Agree := fun user =>
  ⟨fun h => (by cases h), fun h => absurd h (not_suspended_of_none rfl user)⟩

def exampleSuspended : List (Act AccountEvent Reply) :=
  [.event (.suspendVendor 1 (some "hygiene")), .step 0 .ok, .step 0 .ok, .step 0 .ok]

/-- A suspended vendor that is approved again stays locked out. -/
theorem approved_yet_revoked :
    ¬ ∀ (s₀ : Accounts) (q : Pool Accounts AccountThread) (user : UserId), s₀.Agree →
      accountMachine.Reach anyMove ⟨s₀, []⟩ q → (∀ t ∈ q.threads, t.busy = false) →
      (q.shared.isRevoked user = true ↔ q.shared.Suspended user) := by
  intro h
  obtain ⟨q, hq, ht⟩ := Machine.reach_of_test accountMachine anyMove (fun _ _ _ => true) (fun _ _ _ _ => trivial)
    ⟨exampleAccounts, []⟩ (exampleSuspended ++ [.event (.approveVendor 1), .step 0 .ok, .step 0 .ok])
    (fun q => (q.threads.all fun t => !t.busy) && q.shared.isRevoked 101 && q.shared.books.noneSuspended)
    (by decide +kernel)
  simp only [Bool.and_eq_true] at ht
  obtain ⟨⟨hidle, hrevoked⟩, hnone⟩ := ht
  have hidle' : ∀ t ∈ q.threads, t.busy = false := fun t ht => by simpa using List.all_eq_true.1 hidle t ht
  exact not_suspended_of_none hnone 101 ((h _ q 101 exampleAccounts_agree hq hidle').1 hrevoked)

/-- Every suspended row is this one. -/
def Books.onlySuspends (b : Books) (party : Party) : Bool :=
  b.vendors.all (fun row => row.status != .suspended || Party.vendor row.id == party) &&
    b.riders.all fun row => row.status != .suspended || Party.rider row.id == party

theorem not_heldBesides_of_only {s : Accounts} {party : Party} (h : s.books.onlySuspends party = true) :
    ¬s.HeldBesides party := by
  obtain ⟨hvendors, hriders⟩ := Bool.and_eq_true_iff.1 h
  rintro ⟨other, hne, -, hs⟩
  cases other with
  | vendor v =>
    obtain ⟨row, hrow, hsus⟩ := Option.map_eq_some_iff.1 hs
    have hid : row.id = v := by simpa using List.find?_some hrow
    have honly := List.all_eq_true.1 hvendors row (List.mem_of_find?_eq_some hrow)
    simp [hsus, hid] at honly
    exact hne honly
  | rider r =>
    obtain ⟨row, hrow, hsus⟩ := Option.map_eq_some_iff.1 hs
    have hid : row.id = r := by simpa using List.find?_some hrow
    have honly := List.all_eq_true.1 hriders row (List.mem_of_find?_eq_some hrow)
    cases hstatus : row.status <;> simp [hstatus, RiderStatus.toVendorStatus, hid] at honly hsus
    exact hne honly

def storesInStepB (s : Accounts) (us : List AccountThread) (m : Move AccountThread AccountEvent Reply) : Bool :=
  match m with
  | .event (.tick _) => false
  | .event _ => us.all fun u => !u.busy
  | .step (.admin (.written .unsuspend party)) .ok => s.books.onlySuspends party
  | .step (.admin (.called ..)) .ok | .step (.admin (.checked .suspend _)) .ok
  | .step (.admin (.checked .unsuspend _)) .ok | .step (.admin (.written .suspend _)) .ok => true
  | .step .. => false

theorem storesInStep_of_bool {s : Accounts} {us : List AccountThread} {m : Move AccountThread AccountEvent Reply}
    (h : storesInStepB s us m = true) : storesInStep s us m := by
  unfold storesInStepB at h
  split at h
  · cases h
  · next n htick =>
    have hidle : ∀ u ∈ us, u.busy = false := fun u hu => by simpa using List.all_eq_true.1 h u hu
    cases n with
    | tick elapsed => exact absurd rfl (htick elapsed)
    | _ => exact fun _ => hidle
  · exact not_heldBesides_of_only h
  · trivial
  · trivial
  · trivial
  · trivial
  · cases h

/-- A vendor is suspended and comes back. -/
theorem suspended_and_back :
    ∃ p q, accountMachine.Reach storesInStep ⟨exampleAccounts, []⟩ p ∧
      accountMachine.Reach storesInStep ⟨exampleAccounts, []⟩ q ∧ p.shared.isRevoked 101 = true ∧
      q.shared.isRevoked 101 = false ∧ (p.shared.isRevoked 101 = true ↔ p.shared.Suspended 101) ∧
      (q.shared.isRevoked 101 = true ↔ q.shared.Suspended 101) := by
  obtain ⟨p, q, hp, hq, ht⟩ := Machine.reach_of_stop accountMachine storesInStep storesInStepB
    (fun _ _ _ => storesInStep_of_bool) ⟨exampleAccounts, []⟩ exampleSuspended
    [.event (.verifyOtp 101), .event (.unsuspendVendor 1), .step 0 .ok, .step 0 .ok, .step 0 .ok]
    (fun p q => ((p.threads ++ q.threads).all fun t => !t.busy) && (p.shared.isRevoked 101 && !q.shared.isRevoked 101))
    (by decide +kernel)
  simp only [Bool.and_eq_true, Bool.not_eq_true'] at ht
  obtain ⟨hidle, hrevoked, hback⟩ := ht
  have hidle' : ∀ t ∈ p.threads ++ q.threads, t.busy = false := fun t ht => by simpa using List.all_eq_true.1 hidle t ht
  exact ⟨p, q, hp, hp.trans hq, hrevoked, hback,
    revoked_iff_suspended exampleAccounts_agree hp (fun t ht => hidle' t (List.mem_append_left _ ht)) 101,
    revoked_iff_suspended exampleAccounts_agree (hp.trans hq) (fun t ht => hidle' t (List.mem_append_right _ ht)) 101⟩

end ChopNow
