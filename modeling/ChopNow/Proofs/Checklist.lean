import ChopNow.Lib.Table
import ChopNow.Proofs.LifecycleStep

/-! The kitchen's checklist against the status of its order. A setItemPrepared call decides
the flip from the status that it read before its transaction, and markOrderReady looks at
the items before its update. -/

namespace ChopNow

open Interleave

/-! The machine of the kitchen alone. -/

inductive KitchenThread
  | prepare (t : SetItemPrepared)
  | ready (t : MarkOrderReady)

inductive KitchenEvent
  | tick (elapsed : Time)
  | setItemPrepared (vendor : VendorId) (item : ItemId) (prepared : Bool)
  | markOrderReady (vendor : VendorId)

def kitchenEvent (k : Kitchen) : KitchenEvent → Kitchen × List KitchenThread
  | .tick elapsed => ({ k with world := { k.world with clock := k.world.clock + elapsed } }, [])
  | .setItemPrepared vendor item prepared => (k, [.prepare (.called vendor item prepared)])
  | .markOrderReady vendor => (k, [.ready (.called vendor)])

def kitchenStep (k : Kitchen) : KitchenThread → Reply → Option (Kitchen × KitchenThread)
  | .prepare t, e => (t.step k e).map fun r => (r.1, .prepare r.2)
  | .ready t, e => (t.step k e).map fun r => (r.1, .ready r.2)

def kitchenMachine : Machine Kitchen KitchenThread KitchenEvent Reply where
  event k n := some (kitchenEvent k n)
  step k t e := (kitchenStep k t e).map fun r => (r.1, [r.2])

def KitchenThread.isDone : KitchenThread → Bool
  | .prepare (.done _) | .ready (.done _) => true
  | _ => false

/-! What checklist and status owe each other. -/

def Kitchen.status (k : Kitchen) : OrderStatus := k.world.order.status

def Kitchen.anyPrepared (k : Kitchen) : Bool := k.items.any fun i => i.preparedAt.isSome

def Kitchen.allPrepared (k : Kitchen) : Bool := k.items.all fun i => i.preparedAt.isSome

def OrderStatus.inPhase (status : OrderStatus) : Prop := status = .accepted ∨ status = .inPrep

instance (status : OrderStatus) : Decidable status.inPhase := inferInstanceAs (Decidable (_ ∨ _))

structure Kitchen.Agrees (k : Kitchen) : Prop where
  phase : k.status.inPhase →
    (k.status = .inPrep ↔ k.anyPrepared = true) ∧ (k.status = .accepted ↔ k.anyPrepared = false)
  ready : k.status = .readyPickup → k.allPrepared = true

/-- The status that a checklist calls for. -/
def dueStatus (anyPrepared : Bool) : OrderStatus := if anyPrepared then .inPrep else .accepted

def Kitchen.ticked (k : Kitchen) (item : ItemId) (preparedAt : Option Time) : Kitchen :=
  { k with items := tickItem k.items item preparedAt }

/-- What a transaction that read `read` has to find: of an order that is READY_PICKUP it
ticks an item and takes it to be IN_PREP; and if the checklist that it leaves calls for the
status it read, that is the status. -/
def Kitchen.Fits (k : Kitchen) (read : OrderStatus) (item : ItemId) (preparedAt : Option Time) : Prop :=
  (k.status = .readyPickup → preparedAt.isSome ∧ read = .inPrep) ∧
    (k.status.inPhase → read = dueStatus (k.ticked item preparedAt).anyPrepared → k.status = read)

instance (k : Kitchen) (read : OrderStatus) (item : ItemId) (preparedAt : Option Time) :
    Decidable (k.Fits read item preparedAt) := inferInstanceAs (Decidable (_ ∧ _))

/-- No item that was ticked when it was read in `items` has been unticked since. -/
def Kitchen.StillTicked (k : Kitchen) (items : List OrderItem) : Prop :=
  ∀ i ∈ items, i.preparedAt.isSome → ∀ j ∈ k.items, j.id = i.id → j.preparedAt.isSome

instance (k : Kitchen) (items : List OrderItem) : Decidable (k.StillTicked items) :=
  inferInstanceAs (Decidable (∀ i ∈ items, i.preparedAt.isSome → ∀ j ∈ k.items, j.id = i.id → j.preparedAt.isSome))

def checklistFits : Guard Kitchen KitchenThread KitchenEvent Reply := fun k _ m =>
  match m with
  | .step (.prepare (.checked order item preparedAt)) .ok => k.Fits order.status item preparedAt
  | .step (.ready (.checked _ items _)) .ok => k.status.inPhase → k.StillTicked items
  | _ => True

/-- The pool goes on as it should after a step to `k'`. -/
def Kitchen.Keeps (k k' : Kitchen) : Prop := k'.Agrees ∧ (k.status = .readyPickup → k'.status = .readyPickup)

theorem agrees_iff {k : Kitchen} :
    k.Agrees ↔ (k.status.inPhase → k.status = dueStatus k.anyPrepared) ∧
      (k.status = .readyPickup → k.allPrepared = true) := by
  have hdue : k.status.inPhase →
      ((k.status = .inPrep ↔ k.anyPrepared = true) ∧ (k.status = .accepted ↔ k.anyPrepared = false) ↔
        k.status = dueStatus k.anyPrepared) := by
    rintro (h | h) <;> cases hany : k.anyPrepared <;> simp [h, dueStatus]
  exact ⟨fun h => ⟨fun hp => (hdue hp).1 (h.phase hp), h.ready⟩, fun h => ⟨fun hp => (hdue hp).2 (h.1 hp), h.2⟩⟩

theorem dueStatus_inPhase (anyPrepared : Bool) : (dueStatus anyPrepared).inPhase := by
  cases anyPrepared
  · exact .inl rfl
  · exact .inr rfl

theorem nextStatus_eq_due {read : OrderStatus} (anyPrepared : Bool) (h : read.inPhase) :
    nextStatus anyPrepared read = dueStatus anyPrepared := by
  rcases h with rfl | rfl <;> cases anyPrepared <;> rfl

/-- Where the order can be while a call of the kitchen is in progress. -/
def Kitchen.InHand (k : Kitchen) : Prop := k.status.inPhase ∨ k.status = .readyPickup

/-- What a call has read. -/
def KitchenLocal (k : Kitchen) : KitchenThread → Prop
  | .prepare (.found order _ _) => order.status.inPhase ∧ k.InHand
  | .prepare (.checked order item _) => order.status.inPhase ∧ k.InHand ∧ item ∈ k.items.map (·.id)
  | .ready (.checked _ items _) => (∀ i ∈ items, i.preparedAt.isSome) ∧ k.items.map (·.id) = items.map (·.id)
  | _ => True

/-! What a step can do. -/

/-- The transaction of a toggle that read `read`: the checklist's status, unless it is `read`. -/
def Kitchen.toggled (k : Kitchen) (read : OrderStatus) (item : ItemId) (preparedAt : Option Time) : Kitchen where
  world := { k.world with
    order := if dueStatus (k.ticked item preparedAt).anyPrepared = read then k.world.order
      else { k.world.order with status := dueStatus (k.ticked item preparedAt).anyPrepared } }
  items := tickItem k.items item preparedAt

def Kitchen.readied (k : Kitchen) (vendorId : VendorId) (now : Time) : Kitchen :=
  { k with world := { k.world with
      order := { k.world.order with status := .readyPickup, preparedAt := some now }
      emitted := k.world.emitted ++ [.orderReady vendorId now] } }

def KitchenThread.writes : KitchenThread → Bool
  | .prepare (.checked ..) | .ready (.checked ..) => true
  | _ => false

inductive KitchenMove (k : Kitchen) : KitchenThread → Reply → Kitchen → KitchenThread → Prop
  | still {t e t'} (quiet : t.writes = false ∨ e ≠ .ok) (known : KitchenLocal k t') : KitchenMove k t e k t'
  | toggled {order item preparedAt result} (read : order.status.inPhase) :
      KitchenMove k (.prepare (.checked order item preparedAt)) .ok (k.toggled order.status item preparedAt)
        (.prepare (.done result))
  | late {order items now result} (left : ¬k.status.inPhase) :
      KitchenMove k (.ready (.checked order items now)) .ok k (.ready (.done result))
  | readied {order items now result} (due : k.status.inPhase) :
      KitchenMove k (.ready (.checked order items now)) .ok (k.readied order.vendorId now) (.ready (.done result))

section

variable {k k' : Kitchen} {t t' : KitchenThread} {e : Reply}

theorem prepare_kitchenMove {t t' : SetItemPrepared} (hknown : KitchenLocal k (.prepare t))
    (h : t.step k e = some (k', t')) : KitchenMove k (.prepare t) e k' (.prepare t') := by
  cases t with
  | called vendor item prepared =>
    cases e <;> simp only [SetItemPrepared.step, Option.some.injEq, Prod.mk.injEq, reduceCtorEq] at h
    · split at h <;> obtain ⟨rfl, rfl⟩ := Prod.mk.inj (Option.some.inj h)
      · exact .still (.inl rfl) trivial
      · next hcheck => exact .still (.inl rfl) ⟨checkPrepPhase_ok hcheck, .inl (checkPrepPhase_ok hcheck)⟩
    · obtain ⟨rfl, rfl⟩ := h
      exact .still (.inl rfl) trivial
  | found order item prepared =>
    cases e <;> simp only [SetItemPrepared.step, Option.some.injEq, Prod.mk.injEq, reduceCtorEq] at h
    · split at h <;> obtain ⟨rfl, rfl⟩ := Prod.mk.inj (Option.some.inj h)
      · next hitem =>
        obtain ⟨i, hi, hid⟩ := List.any_eq_true.1 hitem
        exact .still (.inl rfl) ⟨hknown.1, hknown.2, List.mem_map.2 ⟨i, hi, by simpa using hid⟩⟩
      · exact .still (.inl rfl) trivial
    · obtain ⟨rfl, rfl⟩ := h
      exact .still (.inl rfl) trivial
  | checked order item preparedAt =>
    cases e <;> simp only [SetItemPrepared.step, Option.some.injEq, Prod.mk.injEq, reduceCtorEq] at h
    · obtain ⟨rfl, rfl⟩ := h
      rw [nextStatus_eq_due _ hknown.1]
      exact .toggled hknown.1
    · obtain ⟨rfl, rfl⟩ := h
      exact .still (.inr (by simp)) trivial
  | done result => cases e <;> simp [SetItemPrepared.step] at h

theorem all_prepared {i : OrderItem} (h : ¬(k.items.isEmpty || k.items.any fun i => i.preparedAt.isNone) = true)
    (hi : i ∈ k.items) : i.preparedAt.isSome := by
  simp only [Bool.or_eq_true, not_or, List.any_eq_true, not_exists, not_and] at h
  simpa [Option.isSome_iff_ne_none] using h.2 i hi

theorem ready_kitchenMove {t t' : MarkOrderReady} (h : t.step k e = some (k', t')) :
    KitchenMove k (.ready t) e k' (.ready t') := by
  cases t with
  | called vendor =>
    cases e <;> simp only [MarkOrderReady.step, Option.some.injEq, Prod.mk.injEq, reduceCtorEq] at h
    · split at h <;> obtain ⟨rfl, rfl⟩ := Prod.mk.inj (Option.some.inj h) <;> exact .still (.inl rfl) trivial
    · obtain ⟨rfl, rfl⟩ := h
      exact .still (.inl rfl) trivial
  | found order =>
    cases e <;> simp only [MarkOrderReady.step, Option.some.injEq, Prod.mk.injEq, reduceCtorEq] at h
    · split at h <;> obtain ⟨rfl, rfl⟩ := Prod.mk.inj (Option.some.inj h)
      · exact .still (.inl rfl) trivial
      · next hall => exact .still (.inl rfl) ⟨fun i hi => all_prepared hall hi, rfl⟩
    · obtain ⟨rfl, rfl⟩ := h
      exact .still (.inl rfl) trivial
  | checked order items now =>
    cases e <;> simp only [MarkOrderReady.step, Option.some.injEq, Prod.mk.injEq, reduceCtorEq] at h
    · split at h <;> obtain ⟨rfl, rfl⟩ := Prod.mk.inj (Option.some.inj h)
      · exact .readied ‹_›
      · exact .late ‹_›
    · obtain ⟨rfl, rfl⟩ := h
      exact .still (.inr (by simp)) trivial
  | done result => cases e <;> simp [MarkOrderReady.step] at h

theorem kitchen_move {ts : List KitchenThread} (hknown : KitchenLocal k t)
    (h : kitchenMachine.step k t e = some (k', ts)) : ∃ t', ts = [t'] ∧ KitchenMove k t e k' t' := by
  obtain ⟨⟨k₁, t'⟩, hstep, heq⟩ := Option.map_eq_some_iff.1 h
  obtain ⟨rfl, rfl⟩ := Prod.mk.inj heq
  refine ⟨t', rfl, ?_⟩
  cases t with
  | prepare t =>
    obtain ⟨⟨k₂, t₂⟩, hst, heq⟩ := Option.map_eq_some_iff.1 hstep
    obtain ⟨rfl, rfl⟩ := Prod.mk.inj heq
    exact prepare_kitchenMove hknown hst
  | ready t =>
    obtain ⟨⟨k₂, t₂⟩, hst, heq⟩ := Option.map_eq_some_iff.1 hstep
    obtain ⟨rfl, rfl⟩ := Prod.mk.inj heq
    exact ready_kitchenMove hst

/-! A toggle, and the update of markOrderReady. -/

@[simp] theorem toggled_status {read : OrderStatus} {item : ItemId} {preparedAt : Option Time} :
    (k.toggled read item preparedAt).status =
      if dueStatus (k.ticked item preparedAt).anyPrepared = read then k.status
      else dueStatus (k.ticked item preparedAt).anyPrepared := by
  simp only [Kitchen.toggled, Kitchen.status]
  split <;> rfl

theorem any_of_ticked {item : ItemId} {preparedAt : Option Time} (hitem : item ∈ k.items.map (·.id))
    (hticks : preparedAt.isSome) : (k.ticked item preparedAt).anyPrepared = true := by
  obtain ⟨i, hi, rfl⟩ := List.mem_map.1 hitem
  refine List.any_eq_true.2 ⟨{ i with preparedAt }, List.mem_map.2 ⟨i, hi, if_pos rfl⟩, hticks⟩

/-- A complete checklist is as complete after the toggle as the toggle says. -/
theorem all_ticked_iff {item : ItemId} {preparedAt : Option Time} (hitem : item ∈ k.items.map (·.id))
    (hall : k.allPrepared = true) : (k.ticked item preparedAt).allPrepared = true ↔ preparedAt.isSome := by
  simp only [Kitchen.allPrepared, List.all_eq_true, Kitchen.ticked, tickItem, List.mem_map] at hall ⊢
  constructor
  · intro h
    obtain ⟨i, hi, rfl⟩ := List.mem_map.1 hitem
    simpa using h _ ⟨i, hi, rfl⟩
  · rintro h _ ⟨i, hi, rfl⟩
    split
    · exact h
    · exact hall i hi

theorem toggled_keeps_iff {read : OrderStatus} {item : ItemId} {preparedAt : Option Time} (hread : read.inPhase)
    (hhand : k.InHand) (hitem : item ∈ k.items.map (·.id)) (hagrees : k.Agrees) :
    k.Keeps (k.toggled read item preparedAt) ↔ k.Fits read item preparedAt := by
  have hitems : (k.toggled read item preparedAt).anyPrepared = (k.ticked item preparedAt).anyPrepared := rfl
  have hall : (k.toggled read item preparedAt).allPrepared = (k.ticked item preparedAt).allPrepared := rfl
  have hdue := dueStatus_inPhase (k.ticked item preparedAt).anyPrepared
  simp only [Kitchen.Keeps, agrees_iff, toggled_status, hitems, hall, Kitchen.Fits]
  rcases hhand with hphase | hready
  · have hnot : k.status ≠ .readyPickup := by rcases hphase with h | h <;> simp [h]
    have hnot' : dueStatus (k.ticked item preparedAt).anyPrepared ≠ .readyPickup := by
      rcases hdue with h | h <;> simp [h]
    split
    · next heq => simp [hphase, hnot, heq]
    · next hne => simp [hnot, hnot', Ne.symm hne]
  · have hnot : ¬OrderStatus.readyPickup.inPhase := by simp [OrderStatus.inPhase]
    have hcomplete : (k.ticked item preparedAt).allPrepared = true ↔ preparedAt.isSome :=
      all_ticked_iff hitem (hagrees.ready hready)
    split
    · next heq =>
      simp only [hready, hcomplete, forall_const, and_true]
      refine ⟨fun h => ⟨⟨h.2, ?_⟩, fun hphase => absurd hphase hnot⟩,
        fun h => ⟨fun hphase => absurd hphase hnot, h.1.1⟩⟩
      rw [← heq, any_of_ticked hitem h.2]
      rfl
    · next hne =>
      refine iff_of_false (fun h => ?_) (fun h => ?_)
      · rw [h.2 hready] at hdue
        rcases hdue with h | h <;> cases h
      · obtain ⟨hticks, rfl⟩ := h.1 hready
        rw [any_of_ticked hitem hticks] at hne
        exact hne rfl

/-- All items were ticked when they were read. -/
theorem stillTicked_iff {items : List OrderItem} (hseen : ∀ i ∈ items, i.preparedAt.isSome)
    (hids : k.items.map (·.id) = items.map (·.id)) : k.StillTicked items ↔ k.allPrepared = true := by
  rw [Kitchen.allPrepared, List.all_eq_true]
  constructor
  · intro h j hj
    have hid := List.mem_map_of_mem (f := OrderItem.id) hj
    rw [hids] at hid
    obtain ⟨i, hi, heq⟩ := List.mem_map.1 hid
    exact h i hi (hseen i hi) j hj heq.symm
  · exact fun h i _ _ j hj _ => h j hj

theorem readied_keeps_iff {vendorId : VendorId} {now : Time} {items : List OrderItem}
    (hseen : ∀ i ∈ items, i.preparedAt.isSome) (hids : k.items.map (·.id) = items.map (·.id)) :
    k.Keeps (k.readied vendorId now) ↔ k.StillTicked items := by
  have hall : (k.readied vendorId now).allPrepared = k.allPrepared := rfl
  have hstatus : (k.readied vendorId now).status = .readyPickup := rfl
  rw [stillTicked_iff hseen hids]
  simp [Kitchen.Keeps, agrees_iff, hall, hstatus, OrderStatus.inPhase]

/-- A step keeps checklist and status together exactly when it meets the condition. -/
theorem move_keeps_iff {us : List KitchenThread} (hknown : KitchenLocal k t) (hagrees : k.Agrees)
    (hmove : KitchenMove k t e k' t') : k.Keeps k' ↔ checklistFits k us (.step t e) := by
  cases hmove with
  | still quiet known =>
    refine iff_of_true ⟨hagrees, id⟩ ?_
    unfold checklistFits
    split
    · next heq => simp_all [KitchenThread.writes]
    · next heq => simp_all [KitchenThread.writes]
    · trivial
  | toggled read => exact toggled_keeps_iff read hknown.2.1 hknown.2.2 hagrees
  | late left => exact iff_of_true ⟨hagrees, id⟩ fun hdue => absurd hdue left
  | readied due => exact (readied_keeps_iff hknown.1 hknown.2).trans ⟨fun h _ => h, fun h => h due⟩

/-! Runs. -/

/-- The order is in hand still, with the same items. -/
structure Kitchen.Goes (k k' : Kitchen) : Prop where
  inHand : k.InHand → k'.InHand
  items : k'.items.map (·.id) = k.items.map (·.id)

theorem Kitchen.Goes.known (h : k.Goes k') (hknown : KitchenLocal k t) : KitchenLocal k' t := by
  rcases t with t | t
  · cases t with
    | found order item prepared => exact ⟨hknown.1, h.inHand hknown.2⟩
    | checked order item preparedAt => exact ⟨hknown.1, h.inHand hknown.2.1, h.items ▸ hknown.2.2⟩
    | _ => trivial
  · cases t with
    | checked order items now => exact ⟨hknown.1, h.items.trans hknown.2⟩
    | _ => trivial

theorem KitchenMove.goes (h : KitchenMove k t e k' t') : k.Goes k' := by
  cases h with
  | still => exact ⟨id, rfl⟩
  | late => exact ⟨id, rfl⟩
  | readied => exact ⟨fun _ => .inr rfl, rfl⟩
  | toggled =>
    refine ⟨fun hhand => ?_, Table.column_update fun _ => rfl⟩
    rw [Kitchen.InHand, toggled_status]
    split
    · exact hhand
    · exact .inl (dueStatus_inPhase _)

theorem KitchenMove.known (h : KitchenMove k t e k' t') : KitchenLocal k' t' := by
  cases h with
  | still _ known => exact known
  | _ => trivial

theorem kitchen_arrival_goes (n : KitchenEvent) :
    k.Goes (kitchenEvent k n).1 ∧ ∀ t ∈ (kitchenEvent k n).2, KitchenLocal (kitchenEvent k n).1 t := by
  cases n
  · exact ⟨⟨id, rfl⟩, by simp [kitchenEvent]⟩
  all_goals exact ⟨⟨id, rfl⟩, by simp [kitchenEvent, KitchenLocal]⟩

theorem kitchen_arrival_keeps (n : KitchenEvent) (hagrees : k.Agrees) : k.Keeps (kitchenEvent k n).1 := by
  cases n with
  | tick => exact ⟨⟨hagrees.phase, hagrees.ready⟩, id⟩
  | _ => exact ⟨hagrees, id⟩

end

section

variable {k : Kitchen} {q r : Pool Kitchen KitchenThread}

theorem kitchen_known {p : Pool Kitchen KitchenThread} {ok : Guard Kitchen KitchenThread KitchenEvent Reply}
    (h : kitchenMachine.Reach ok p q) (hp : ∀ t ∈ p.threads, KitchenLocal p.shared t) :
    ∀ t ∈ q.threads, KitchenLocal q.shared t := by
  refine (h.stable (I := fun _ => True) trivial hp ?_ ?_).2
  · intro s us n s' ts _ _ _ hev
    obtain ⟨rfl, rfl⟩ := Prod.mk.inj (Option.some.inj hev)
    exact ⟨trivial, (kitchen_arrival_goes n).2, fun u hu => (kitchen_arrival_goes n).1.known hu⟩
  · intro s us vs t e s' ts _ _ hknown _ hst
    obtain ⟨t', rfl, hmove⟩ := kitchen_move hknown hst
    refine ⟨trivial, ?_, fun u hu => hmove.goes.known hu⟩
    simpa using hmove.known

/-- What holds of a pool whose moves have all met the condition, `ready` from then on. -/
theorem kept_reach {p : Pool Kitchen KitchenThread} (h : kitchenMachine.Reach checklistFits p q)
    (hknown : ∀ t ∈ p.threads, KitchenLocal p.shared t) (hagrees : p.shared.Agrees) :
    p.shared.Keeps q.shared := by
  refine h.invariant (J := fun s _ => p.shared.Keeps s) ⟨hagrees, id⟩ ?_ ?_
  · intro s us n s' ts _ hs _ hev
    obtain ⟨rfl, rfl⟩ := Prod.mk.inj (Option.some.inj hev)
    have hkeeps := kitchen_arrival_keeps n hs.1
    exact ⟨hkeeps.1, fun hready => hkeeps.2 (hs.2 hready)⟩
  · intro s us vs t e s' ts hr hs hok hst
    have hmine := (forall_middle.1 (kitchen_known hr hknown)).1
    obtain ⟨t', rfl, hmove⟩ := kitchen_move hmine hst
    have hkeeps := (move_keeps_iff hmine hs.1 hmove).2 hok
    exact ⟨hkeeps.1, fun hready => hkeeps.2 (hs.2 hready)⟩

/-- While every move meets the condition, checklist and status agree and READY_PICKUP stays;
and it is the moves that do not meet it, and no others, that part them or take it back. -/
theorem checklist_agrees_iff (h : k.Agrees) (hq : kitchenMachine.Reach checklistFits ⟨k, []⟩ q) :
    q.shared.Agrees ∧
      (∀ r, kitchenMachine.Reach checklistFits q r → q.shared.status = .readyPickup → r.shared.status = .readyPickup) ∧
      ∀ us t vs e k' ts, q.threads = us ++ t :: vs → kitchenMachine.step q.shared t e = some (k', ts) →
        (q.shared.Keeps k' ↔ checklistFits q.shared (us ++ vs) (.step t e)) := by
  have hknown := kitchen_known hq (by simp)
  have hagrees := (kept_reach hq (by simp) h).1
  refine ⟨hagrees, fun r hr => (kept_reach hr hknown hagrees).2, ?_⟩
  intro us t vs e k' ts hthreads hst
  rw [hthreads] at hknown
  have hmine := (forall_middle.1 hknown).1
  obtain ⟨t', rfl, hmove⟩ := kitchen_move hmine hst
  exact move_keeps_iff hmine hagrees hmove

end

/-- An accepted order of one item, not yet prepared. -/
def acceptedKitchen : Kitchen := .start { exampleOrder with status := .accepted } [⟨1, none⟩]

theorem acceptedKitchen_agrees : acceptedKitchen.Agrees := ⟨fun _ => ⟨by decide, by decide⟩, by decide⟩

/-- Ticked and unticked again by two calls that both read ACCEPTED, the order stays IN_PREP
with nothing prepared; unticked by a call that read IN_PREP before markOrderReady wrote, it is
ACCEPTED again. -/
theorem stale_toggles_part_checklist :
    (¬∀ k q, Kitchen.Agrees k → kitchenMachine.Reach anyMove ⟨k, []⟩ q →
        q.threads.all KitchenThread.isDone = true → q.shared.Agrees) ∧
      ¬∀ k q r, Kitchen.Agrees k → kitchenMachine.Reach anyMove ⟨k, []⟩ q → kitchenMachine.Reach anyMove q r →
        q.shared.status = .readyPickup → r.shared.status = .readyPickup := by
  constructor
  · intro h
    obtain ⟨q, hq, ht⟩ := Machine.reach_of_test kitchenMachine anyMove (fun _ _ _ => true) (fun _ _ _ _ => trivial)
      ⟨acceptedKitchen, []⟩
      ([.event (.setItemPrepared 1 1 true), .event (.setItemPrepared 1 1 false)] ++ List.replicate 6 (.step 1 .ok))
      (fun q => q.threads.all KitchenThread.isDone && q.shared.status == .inPrep && !q.shared.anyPrepared)
      (by decide +kernel)
    simp only [Bool.and_eq_true, beq_iff_eq, Bool.not_eq_true'] at ht
    obtain ⟨⟨hdone, hstatus⟩, hnone⟩ := ht
    have hany := ((h _ q acceptedKitchen_agrees hq hdone).phase (.inr hstatus)).1.1 hstatus
    rw [hnone] at hany
    cases hany
  · intro h
    obtain ⟨q, r, hq, hr, ht⟩ := Machine.reach_of_stop kitchenMachine anyMove (fun _ _ _ => true)
      (fun _ _ _ _ => trivial) ⟨acceptedKitchen, []⟩
      ([.event (.setItemPrepared 1 1 true)] ++ List.replicate 3 (.step 0 .ok) ++ [.event (.setItemPrepared 1 1 false),
        .step 0 .ok, .step 0 .ok, .event (.markOrderReady 1)] ++ List.replicate 3 (.step 0 .ok))
      [.step 1 .ok]
      (fun q r => q.shared.status == .readyPickup && r.shared.status == .accepted) (by decide +kernel)
    simp only [Bool.and_eq_true, beq_iff_eq] at ht
    have hready := h _ q r acceptedKitchen_agrees hq hr ht.1
    rw [ht.2] at hready
    cases hready

def checklistFitsB (k : Kitchen) (_ : List KitchenThread) (m : Move KitchenThread KitchenEvent Reply) : Bool :=
  match m with
  | .step (.prepare (.checked order item preparedAt)) .ok => decide (k.Fits order.status item preparedAt)
  | .step (.ready (.checked _ items _)) .ok => decide (k.status.inPhase → k.StillTicked items)
  | _ => true

theorem checklistFits_of_bool (k : Kitchen) (us : List KitchenThread) (m : Move KitchenThread KitchenEvent Reply)
    (h : checklistFitsB k us m = true) : checklistFits k us m := by
  unfold checklistFits
  split
  · exact of_decide_eq_true h
  · exact of_decide_eq_true h
  · trivial

def twoDishes : Kitchen := .start { exampleOrder with status := .accepted } [⟨1, none⟩, ⟨2, none⟩]

/-- Two items ticked by calls that both read ACCEPTED, of which the second writes what is
there already; then the order is READY_PICKUP for good. -/
theorem two_dishes_ready :
    ∃ q, kitchenMachine.Reach checklistFits ⟨twoDishes, []⟩ q ∧ q.shared.Agrees ∧ q.shared.status = .readyPickup ∧
      ∀ r, kitchenMachine.Reach checklistFits q r → r.shared.status = .readyPickup := by
  obtain ⟨q, hq, ht⟩ := Machine.reach_of_test kitchenMachine checklistFits checklistFitsB checklistFits_of_bool
    ⟨twoDishes, []⟩
    ([.event (.setItemPrepared 1 1 true), .event (.setItemPrepared 1 2 true)] ++ List.replicate 6 (.step 1 .ok) ++
      [.event (.markOrderReady 1)] ++ List.replicate 3 (.step 0 .ok))
    (fun q => q.shared.status == .readyPickup) (by decide +kernel)
  have hready : q.shared.status = .readyPickup := by simpa using ht
  have hagrees : twoDishes.Agrees := ⟨fun _ => ⟨by decide, by decide⟩, by decide⟩
  obtain ⟨hkept, hstays, -⟩ := checklist_agrees_iff hagrees hq
  exact ⟨q, hq, hkept, hready, fun r hr => hstays r hr hready⟩

end ChopNow
