import ChopNow.Spec.Push

/-! Cleaning up dead endpoints. sendToUser lists the rows, waits for every answer, and deletes
by id; a device that subscribes again meanwhile puts its new endpoint into the same row. -/

namespace ChopNow

open Interleave

/-- The deliveries that the call has not settled. -/
def SendToUser.pending : SendToUser → List Delivery
  | .sending deliveries => deliveries
  | .settling rest _ => rest
  | _ => []

def Delivery.isGone (d : Delivery) : Bool := d.result.any PushAnswer.isGone

inductive SendMove (db : PushDb) : SendToUser → PushReply → PushDb → SendToUser → Prop
  | listed {userId e t'} (fresh : ∀ d ∈ t'.pending, d.result = none ∧ d.subscription ∈ db.rows) :
      SendMove db (.called userId) e db t'
  | answered {deliveries i answer s} (waits : deliveries[i]? = some ⟨s, none⟩) :
      SendMove db (.sending deliveries) (.answered i answer)
        { db with reported := if answer.isGone then s.endpoint :: db.reported else db.reported }
        (.sending (deliveries.set i ⟨s, some answer⟩))
  | moved {t e t'} (rest : ∀ d ∈ t'.pending, d ∈ t.pending) : SendMove db t e db t'
  | removed {s answer rest result result'} (gone : answer.isGone = true) :
      SendMove db (.settling (⟨s, some answer⟩ :: rest) result) .ok (db.deactivateById s.id) (.settling rest result')

section

variable {db db' db₀ : PushDb} {us ts : List SendToUser} {t t' u : SendToUser} {e : PushReply} {row : PushSubscription}

theorem push_event {call : PushCall} (h : pushMachine.event db call = some (db', ts)) :
    db' = (pushEvent db call).1 ∧ ts = (pushEvent db call).2 :=
  ⟨(congrArg Prod.fst (Option.some.inj h)).symm, (congrArg Prod.snd (Option.some.inj h)).symm⟩

theorem send_cases (h : pushMachine.step db t e = some (db', ts)) : ∃ t', ts = [t'] ∧ SendMove db t e db' t' := by
  obtain ⟨⟨db₁, t'⟩, ht, hp⟩ := Option.map_eq_some_iff.1 h
  obtain ⟨rfl, rfl⟩ := Prod.mk.inj hp
  refine ⟨t', rfl, ?_⟩
  unfold SendToUser.step at ht
  split at ht
  · obtain ⟨rfl, rfl⟩ := Prod.mk.inj (Option.some.inj ht)
    refine .listed fun d hd => ?_
    split at hd
    · cases hd
    · obtain ⟨s, hs, rfl⟩ := List.mem_map.1 hd
      exact ⟨rfl, (List.mem_filter.1 hs).1⟩
  · obtain ⟨rfl, rfl⟩ := Prod.mk.inj (Option.some.inj ht)
    exact .moved (by simp [SendToUser.pending])
  · split at ht
    · next s hs =>
      obtain ⟨rfl, rfl⟩ := Prod.mk.inj (Option.some.inj ht)
      exact .answered hs
    · cases ht
  · split at ht
    · obtain ⟨rfl, rfl⟩ := Prod.mk.inj (Option.some.inj ht)
      exact .moved fun d hd => hd
    · cases ht
  · obtain ⟨rfl, rfl⟩ := Prod.mk.inj (Option.some.inj ht)
    exact .moved (by simp [SendToUser.pending])
  · split at ht
    · obtain ⟨rfl, rfl⟩ := Prod.mk.inj (Option.some.inj ht)
      exact .moved fun d hd => .tail _ hd
    · split at ht <;> obtain ⟨rfl, rfl⟩ := Prod.mk.inj (Option.some.inj ht)
      · exact .removed ‹_›
      · exact .moved fun d hd => .tail _ hd
    · split at ht
      · obtain ⟨rfl, rfl⟩ := Prod.mk.inj (Option.some.inj ht)
        exact .moved fun d hd => .tail _ hd
      · cases ht
    · cases ht
  · cases ht

/-! The condition. -/

/-- The row under the id of a listed one holds an endpoint that was reported gone. -/
def PushDb.holdsGone (db : PushDb) (s : PushSubscription) : Prop :=
  ∀ row ∈ db.rows, row.id = s.id → row.endpoint ∈ db.reported

/-- When the push service answers that the endpoint of a listed row is gone, the row holds that
endpoint still, or another that is gone; and until it is deleted no new endpoint is put in it. -/
def staysListed : Guard PushDb SendToUser PushCall PushReply := fun db us m =>
  match m with
  | .step (.sending deliveries) (.answered i answer) => answer.isGone = true →
    ∀ d ∈ deliveries[i]?, ∀ row ∈ db.rows, row.id = d.subscription.id →
      row.endpoint = d.subscription.endpoint ∨ row.endpoint ∈ db.reported
  | .event (.subscribe userId dto) => ∀ u ∈ us, ∀ d ∈ u.pending, d.isGone = true →
    ∀ row ∈ db.rows, row.id = d.subscription.id → row.isOf userId dto = true → dto.endpoint ∈ db.reported
  | _ => True

structure PushDb.Keyed (db : PushDb) : Prop where
  fresh : ∀ row ∈ db.rows, row.id < db.nextId

/-- A delivery that is answered 404 or 410 finds its row with a dead endpoint. -/
structure Pending (db : PushDb) (t : SendToUser) : Prop where
  known : ∀ d ∈ t.pending, d.subscription.id < db.nextId
  gone : ∀ d ∈ t.pending, d.isGone = true → db.holdsGone d.subscription

/-- The rows are those of before, or fewer, and no report is forgotten. -/
theorem Pending.fewer (h : Pending db t) (hrows : ∀ row ∈ db'.rows, row ∈ db.rows) (hid : db.nextId ≤ db'.nextId)
    (hreported : ∀ x ∈ db.reported, x ∈ db'.reported) : Pending db' t where
  known d hd := (h.known d hd).trans_le hid
  gone d hd hgone row hrow heq := hreported _ (h.gone d hd hgone row (hrows row hrow) heq)

theorem Pending.rest (h : Pending db t) (hrest : ∀ d ∈ t'.pending, d ∈ t.pending) : Pending db t' where
  known d hd := h.known d (hrest d hd)
  gone d hd := h.gone d (hrest d hd)

/-! One step. -/

theorem mem_upsert {userId : UserId} {dto : SubscribePushDto} (h : row ∈ (db.upsert userId dto).rows) :
    (∃ old ∈ db.rows, old.isOf userId dto = true ∧ row = old.update dto) ∨ row ∈ db.rows ∨ row.id = db.nextId := by
  unfold PushDb.upsert at h
  split at h
  · obtain ⟨old, hold, rfl⟩ := List.mem_map.1 h
    split
    · next hof => exact .inl ⟨old, hold, hof, rfl⟩
    · exact .inr (.inl hold)
  · rcases List.mem_append.1 h with hold | hnew
    · exact .inr (.inl hold)
    · rw [List.mem_singleton.1 hnew]
      exact .inr (.inr rfl)

theorem upsert_nextId (db : PushDb) (userId : UserId) (dto : SubscribePushDto) :
    db.nextId ≤ (db.upsert userId dto).nextId := by
  unfold PushDb.upsert
  split
  · exact le_rfl
  · exact Nat.le_succ _

theorem upsert_reported (db : PushDb) (userId : UserId) (dto : SubscribePushDto) :
    (db.upsert userId dto).reported = db.reported := by
  unfold PushDb.upsert
  split <;> rfl

theorem upsert_pending {userId : UserId} {dto : SubscribePushDto} (h : Pending db u)
    (hok : ∀ d ∈ u.pending, d.isGone = true → ∀ row ∈ db.rows, row.id = d.subscription.id →
      row.isOf userId dto = true → dto.endpoint ∈ db.reported) : Pending (db.upsert userId dto) u where
  known d hd := (h.known d hd).trans_le (upsert_nextId db userId dto)
  gone d hd hgone row hrow heq := by
    rw [upsert_reported]
    rcases mem_upsert hrow with ⟨old, hold, hof, rfl⟩ | hold | hnew
    · exact hok d hd hgone old hold heq hof
    · exact h.gone d hd hgone row hold heq
    · -- a new row has an id that no list has
      have hlt := h.known d hd
      rw [← heq, hnew] at hlt
      exact absurd hlt (lt_irrefl _)

theorem event_keyed (h : db.Keyed) (call : PushCall) : (pushEvent db call).1.Keyed := by
  cases call with
  | sendToUser userId => exact h
  | subscribe userId dto =>
    refine ⟨fun row hrow => ?_⟩
    simp only [pushEvent, PushDb.upsert] at hrow ⊢
    split at hrow
    · next hany =>
      rw [if_pos hany]
      obtain ⟨old, hold, rfl⟩ := List.mem_map.1 hrow
      have hlt := h.fresh old hold
      split <;> exact hlt
    · next hnone =>
      rw [if_neg hnone]
      rcases List.mem_append.1 hrow with hold | hnew
      · exact (h.fresh row hold).trans (Nat.lt_succ_self _)
      · rw [List.mem_singleton.1 hnew]
        exact Nat.lt_succ_self _
  | unsubscribe userId endpoint => exact ⟨fun row hrow => h.fresh row (List.mem_filter.1 hrow).1⟩

theorem event_pending {call : PushCall} (hok : staysListed db us (.event call)) (hu : u ∈ us) (h : Pending db u) :
    Pending (pushEvent db call).1 u := by
  cases call with
  | sendToUser userId => exact h
  | subscribe userId dto => exact upsert_pending h (hok u hu)
  | unsubscribe userId endpoint => exact h.fewer (fun row hrow => (List.mem_filter.1 hrow).1) le_rfl fun x hx => hx

/-- No step adds a row or changes one, or takes a report back. -/
theorem SendMove.shrinks (h : SendMove db t e db' t') :
    (∀ row ∈ db'.rows, row ∈ db.rows) ∧ db'.nextId = db.nextId ∧ ∀ x ∈ db.reported, x ∈ db'.reported := by
  cases h with
  | listed | moved => exact ⟨fun row hrow => hrow, rfl, fun x hx => hx⟩
  | answered waits =>
    refine ⟨fun row hrow => hrow, rfl, fun x hx => ?_⟩
    dsimp only
    split
    · exact .tail _ hx
    · exact hx
  | removed gone => exact ⟨fun row hrow => (List.mem_filter.1 hrow).1, rfl, fun x hx => hx⟩

theorem SendMove.pending (hmove : SendMove db t e db' t') (hkeyed : db.Keyed) (h : Pending db t)
    (hok : staysListed db us (.step t e)) : Pending db' t' := by
  obtain ⟨hrows, hid, hreported⟩ := hmove.shrinks
  cases hmove with
  | listed fresh =>
    refine ⟨fun d hd => hkeyed.fresh _ (fresh d hd).2, fun d hd hgone => ?_⟩
    rw [Delivery.isGone, (fresh d hd).1] at hgone
    cases hgone
  | moved rest => exact h.rest rest
  | @removed s answer rest result result' gone =>
    have hrest : Pending db (.settling rest result') := h.rest fun d hd => .tail _ hd
    exact hrest.fewer hrows hid.ge hreported
  | @answered deliveries i answer s waits =>
    have hs : (⟨s, none⟩ : Delivery) ∈ deliveries := List.mem_of_getElem? waits
    refine ⟨fun d hd => ?_, fun d hd hgone => ?_⟩ <;> rcases List.mem_or_eq_of_mem_set hd with hold | rfl
    · exact h.known d hold
    · exact h.known ⟨s, none⟩ hs
    · exact (h.fewer hrows hid.ge hreported).gone d hold hgone
    · intro row hrow heq
      change answer.isGone = true at hgone
      rw [if_pos hgone]
      -- what is reported now is the endpoint that was sent to
      rcases hok hgone _ waits row hrow heq with hsame | hdead
      · exact hsame ▸ .head _
      · exact .tail _ hdead

/-! Runs. -/

theorem pushes_sat {q : Pool PushDb SendToUser} (h₀ : db₀.Keyed) (hq : pushMachine.Reach staysListed ⟨db₀, []⟩ q) :
    Sat PushDb.Keyed Pending (fun _ _ => True) q.shared q.threads := by
  refine hq.sat (fun _ _ h => h) ⟨h₀, by simp, .nil⟩ ?_ ?_
  · intro db us call db' ts _ hkeyed hus hok hev
    obtain ⟨rfl, rfl⟩ := push_event hev
    refine ⟨event_keyed hkeyed call, fun t ht => ?_, fun u hu => event_pending hok hu (hus u hu), ?_, fun _ _ _ _ => trivial⟩
    · cases call <;> simp only [pushEvent, List.mem_singleton, List.not_mem_nil] at ht
      subst ht
      exact ⟨by simp [SendToUser.pending], by simp [SendToUser.pending]⟩
    · exact List.pairwise_of_forall fun _ _ => trivial
  · intro db us vs t e db' ts _ hkeyed hmine hus hok hst
    obtain ⟨t', rfl, hmove⟩ := send_cases hst
    obtain ⟨hrows, hid, hreported⟩ := hmove.shrinks
    refine .one ⟨fun row hrow => hid ▸ hkeyed.fresh row (hrows row hrow)⟩ (hmove.pending hkeyed hmine hok) fun u hu => ?_
    exact ⟨(hus u hu).1.fewer hrows hid.ge hreported, trivial⟩

/-- What the cleanup deletes was reported gone. -/
theorem SendMove.deletes (hmove : SendMove db t e db' t') (h : Pending db t) (hrow : row ∈ db.rows)
    (hgone : row ∉ db'.rows) : row.endpoint ∈ db.reported := by
  cases hmove with
  | listed | moved | answered => exact absurd hrow hgone
  | @removed s answer rest result result' gone =>
    have hid : row.id = s.id := by
      by_contra hne
      exact hgone (List.mem_filter.2 ⟨hrow, by simpa using hne⟩)
    exact h.gone ⟨s, some answer⟩ (.head _) gone row hrow hid

/-- The device of the row neither subscribes again nor unsubscribes. -/
def keepsSubscription (row : PushSubscription) : Guard PushDb SendToUser PushCall PushReply := fun _ _ m =>
  match m with
  | .event (.subscribe userId dto) => row.isOf userId dto = false
  | .event (.unsubscribe userId endpoint) => (row.userId == userId && row.endpoint == endpoint) = false
  | _ => True

theorem event_keepsSubscription {call : PushCall} (h : keepsSubscription row db us (.event call)) (hrow : row ∈ db.rows) :
    row ∈ (pushEvent db call).1.rows := by
  cases call with
  | sendToUser userId => exact hrow
  | subscribe userId dto =>
    simp only [pushEvent, PushDb.upsert]
    split
    · refine List.mem_map.2 ⟨row, hrow, if_neg ?_⟩
      rw [show row.isOf userId dto = false from h]
      exact Bool.false_ne_true
    · exact List.mem_append_left _ hrow
  | unsubscribe userId endpoint => exact List.mem_filter.2 ⟨hrow, congrArg Bool.not h⟩

theorem event_reported (db : PushDb) (call : PushCall) : (pushEvent db call).1.reported = db.reported := by
  cases call with
  | subscribe userId dto => exact upsert_reported db userId dto
  | sendToUser | unsubscribe => rfl

/-- While the rows that are found gone hold on to what was listed, the cleanup deletes what the push
service reported gone, and a device that has subscribed stays subscribed. -/
theorem cleanup_spares_live {p : Pool PushDb SendToUser} (h₀ : db₀.Keyed)
    (hp : pushMachine.Reach staysListed ⟨db₀, []⟩ p) :
    (∀ t ∈ p.threads, ∀ e db' ts, pushMachine.step p.shared t e = some (db', ts) →
      ∀ row ∈ p.shared.rows, row ∉ db'.rows → row.endpoint ∈ p.shared.reported) ∧
    ∀ row ∈ p.shared.rows, ∀ q, pushMachine.Reach (staysListed.and (keepsSubscription row)) p q →
      row ∈ q.shared.rows ∨ row.endpoint ∈ q.shared.reported := by
  constructor
  · intro t ht e db' ts hst row hrow hgone
    obtain ⟨t', rfl, hmove⟩ := send_cases hst
    exact hmove.deletes ((pushes_sat h₀ hp).locals t ht) hrow hgone
  · intro row hrow q hq
    refine hq.invariant (J := fun db _ => row ∈ db.rows ∨ row.endpoint ∈ db.reported) (.inl hrow) ?_ ?_
    · intro db us call db' ts _ hJ hok hev
      obtain ⟨rfl, rfl⟩ := push_event hev
      rw [event_reported]
      exact hJ.imp_left (event_keepsSubscription hok.2)
    · intro db us vs t e db' ts hr hJ hok hst
      obtain ⟨t', rfl, hmove⟩ := send_cases hst
      have hreach := hp.trans (hr.mono fun _ _ _ h => h.1)
      rcases hJ with hin | hdead
      · by_cases hkept : row ∈ db'.rows
        · exact .inl hkept
        · refine .inr (hmove.shrinks.2.2 _ (hmove.deletes ((pushes_sat h₀ hreach).locals t ?_) hin hkept))
          exact List.mem_append_right _ (.head _)
      · exact .inr (hmove.shrinks.2.2 _ hdead)

end

/-! User 1 has one phone. -/

def phoneRow (endpoint : Endpoint) : PushSubscription := ⟨1, 1, "phone", endpoint, ⟨"p256dh", "auth"⟩⟩

def onePhone : PushDb := { configured := true, rows := [phoneRow "old"], nextId := 2, reported := [] }

theorem onePhone_keyed : onePhone.Keyed := ⟨by decide⟩

/-- The phone subscribes again while the notification is under way, and the push service answers
410 for the endpoint it had: the row with the new endpoint is deleted. -/
theorem resubscribed_phone_deleted : ¬∀ db₀ p, db₀.Keyed → pushMachine.Reach anyMove ⟨db₀, []⟩ p →
    ∀ t ∈ p.threads, ∀ e db' ts, pushMachine.step p.shared t e = some (db', ts) →
      ∀ row ∈ p.shared.rows, row ∉ db'.rows → row.endpoint ∈ p.shared.reported := by
  intro h
  obtain ⟨p, hp, ht⟩ := Machine.reach_of_test pushMachine anyMove (fun _ _ _ => true) (fun _ _ _ _ => trivial)
    ⟨onePhone, []⟩
    [.event (.sendToUser 1), .step 0 .ok, .event (.subscribe 1 ⟨"new", ⟨"p256dh", "auth"⟩, "phone"⟩),
      .step 0 (.answered 0 (.rejected (some 410))), .step 0 .ok]
    (fun p => p.shared == { onePhone with rows := [phoneRow "new"], reported := ["old"] } &&
      p.threads == [.settling [⟨phoneRow "old", some (.rejected (some 410))⟩] {}]) (by decide +kernel)
  rw [Bool.and_eq_true, beq_iff_eq, beq_iff_eq] at ht
  have hlost := h onePhone p onePhone_keyed hp _ (by rw [ht.2]; exact .head _) .ok _ _ rfl (phoneRow "new")
    (by rw [ht.1]; exact .head _)
  rw [ht.1] at hlost
  exact absurd (hlost (by decide)) (by decide)

def staysListedB (db : PushDb) (us : List SendToUser) (m : Move SendToUser PushCall PushReply) : Bool :=
  match m with
  | .step (.sending deliveries) (.answered i answer) => !answer.isGone ||
    deliveries[i]?.all fun d => db.rows.all fun row => row.id != d.subscription.id ||
      (row.endpoint == d.subscription.endpoint || db.reported.contains row.endpoint)
  | .event (.subscribe userId dto) => us.all fun u => u.pending.all fun d => !d.isGone ||
    db.rows.all fun row => row.id != d.subscription.id || !row.isOf userId dto || db.reported.contains dto.endpoint
  | _ => true

theorem staysListed_of_bool (db : PushDb) (us : List SendToUser) (m : Move SendToUser PushCall PushReply)
    (h : staysListedB db us m = true) : staysListed db us m := by
  unfold staysListed
  split
  · intro hgone d hd row hrow heq
    simp only [staysListedB, hgone, Option.mem_def.1 hd, Bool.not_true, Bool.false_or, Option.all_some,
      List.all_eq_true] at h
    simpa [heq] using h row hrow
  · intro u hu d hd hgone row hrow heq hof
    simp only [staysListedB, List.all_eq_true] at h
    have hd' := h u hu d hd
    simp only [hgone, Bool.not_true, Bool.false_or, List.all_eq_true] at hd'
    simpa [heq, hof] using hd' row hrow
  · trivial

/-- The phone subscribes again after the cleanup: its new row stays through the next one. -/
theorem late_phone_stays : ∃ p, pushMachine.Reach staysListed ⟨onePhone, []⟩ p ∧ p.shared.reported = ["old"] ∧
    p.shared.rows = [{ phoneRow "new" with id := 2 }] ∧
    ∀ row ∈ p.shared.rows, ∀ q, pushMachine.Reach (staysListed.and (keepsSubscription row)) p q →
      row ∈ q.shared.rows ∨ row.endpoint ∈ q.shared.reported := by
  obtain ⟨p, hp, ht⟩ := Machine.reach_of_test pushMachine staysListed staysListedB staysListed_of_bool ⟨onePhone, []⟩
    [.event (.sendToUser 1), .step 0 .ok, .step 0 (.answered 0 (.rejected (some 410))), .step 0 .ok, .step 0 .ok,
      .event (.subscribe 1 ⟨"new", ⟨"p256dh", "auth"⟩, "phone"⟩), .event (.sendToUser 1)]
    (fun p => p.shared.reported == ["old"] && p.shared.rows == [{ phoneRow "new" with id := 2 }]) (by decide +kernel)
  rw [Bool.and_eq_true, beq_iff_eq, beq_iff_eq] at ht
  exact ⟨p, hp, ht.1, ht.2, (cleanup_spares_live onePhone_keyed hp).2⟩

end ChopNow
