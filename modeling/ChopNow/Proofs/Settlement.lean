import ChopNow.Proofs.RefundOnce
import ChopNow.Proofs.Money

/-! A refund is settled once. The sweep that holds the lock keeps the reference off the
row; the callback that found its reference there is the only one that may settle it,
and after it no other reference reaches the row. -/

namespace ChopNow

open Interleave

/-- The refund_settled rows of an order: which account, and how much. -/
def settledRows (id : OrderId) (ledger : Ledger) : List (LedgerAccount × ℤ) :=
  (ledger.filter fun e => e.eventId == .refundSettled id).map fun e => (e.account, e.amountXAF)

def settledPair (totalXAF : ℤ) : List (LedgerAccount × ℤ) :=
  [(.refundPayable, totalXAF), (.campayFloat, -totalXAF)]

abbrev World.settled (w : World) : List (LedgerAccount × ℤ) := settledRows w.order.id w.ledger

theorem settledRows_other {input : RecordTransactionInput} {event : EventId} {id : OrderId} (ledger : Ledger)
    (now : Time) (h : event ≠ .refundSettled id) :
    settledRows id (ledger ++ input.rows event now) = settledRows id ledger := by
  have hnil : (input.rows event now).filter (fun e => e.eventId == .refundSettled id) = [] := by
    rw [List.filter_eq_nil_iff]
    intro e he
    obtain ⟨x, -, rfl⟩ := List.mem_map.1 he
    simpa using h
  simp [settledRows, List.filter_append, hnil]

theorem settledRows_settled {order : Order} {id : OrderId} (h : order.id = id) (ledger : Ledger) (now : Time) :
    settledRows id (ledger ++ (refundSettledInput order).rows (.refundSettled order.id) now) =
      settledRows id ledger ++ settledPair order.totalXAF := by
  simp [settledRows, settledPair, RecordTransactionInput.rows, refundSettledInput, h]

theorem store_ne_nil {ref : Reference} {txns : List CampayTxn} (h : txns ≠ []) : store ref txns ≠ [] := by
  simpa [store] using h

theorem report_ne_nil {ref : Reference} {status : CampayStatus} {txns : List CampayTxn} (h : txns ≠ []) :
    report ref status txns ≠ [] := by
  simpa [report] using h

structure SettleInv (w : World) : Prop where
  idle : w.order.refundInitiatedAt = none → w.order.refundCampayRef = none
  once : w.settled = [] ∨ w.settled = settledPair w.order.totalXAF
  used : w.settled ≠ [] → ∃ ref, w.order.refundCampayRef = some ref ∧ hasEvent w.dedup .refund ref = true
  sent : w.order.refundCampayRef.isSome → w.refunds ≠ []

/-- The lock is held, and no reference is on the row. -/
structure World.RefundLocked (w : World) : Prop where
  initiatedAt : w.order.refundInitiatedAt.isSome
  campayRef : w.order.refundCampayRef = none

/-- The callback for `ref` has inserted its dedup row; if the order carries `ref`, its
refund is open. -/
structure World.HookOpen (w : World) (ref : Reference) : Prop where
  inserted : hasEvent w.dedup .refund ref = true
  unsettled : w.order.refundCampayRef = some ref → w.settled = []

def SettleLocal (w : World) : LifecycleThread → Prop
  | .order (.refund (.locked ..)) | .order (.refund (.caught ..)) => w.RefundLocked
  | .order (.refund (.accepted ..)) => w.RefundLocked ∧ w.refunds ≠ []
  | .order (.refundWebhook (.first _ ref)) => w.HookOpen ref
  | .order (.refundWebhook (.found _ _ ref _)) => w.HookOpen ref ∧ w.order.refundCampayRef = some ref
  | _ => True

def LifecycleThread.ownsRefund : LifecycleThread → Bool
  | .order t => t.ownsRefund
  | _ => false

def LifecycleThread.refundHook : LifecycleThread → Option Reference
  | .order t => t.refundHook
  | _ => none

def SettleApart (t u : LifecycleThread) : Prop :=
  ¬(t.ownsRefund = true ∧ u.ownsRefund = true) ∧ (t.refundHook.isSome → t.refundHook ≠ u.refundHook)

theorem SettleApart.symm {t u : LifecycleThread} (h : SettleApart t u) : SettleApart u t :=
  ⟨Exclusive.symm LifecycleThread.ownsRefund h.1, Distinct.symm LifecycleThread.refundHook h.2⟩

/-- A thread that plays no part in a refund. -/
theorem SettleApart.idle {t u : LifecycleThread} (howns : t.ownsRefund = false) (hhook : t.refundHook = none) :
    SettleApart t u :=
  ⟨Exclusive.idle LifecycleThread.ownsRefund howns, Distinct.idle LifecycleThread.refundHook hhook⟩

theorem SettleApart.of {t t' u : LifecycleThread} (h : SettleApart t u)
    (howns : t'.ownsRefund = false ∨ t.ownsRefund = true)
    (hhook : t'.refundHook = none ∨ t'.refundHook = t.refundHook) : SettleApart t' u :=
  ⟨Exclusive.of LifecycleThread.ownsRefund h.1 howns, Distinct.of LifecycleThread.refundHook h.2 hhook⟩

section

variable {w w' : World} {u : LifecycleThread}

/-- What other threads' moves leave of a thread's assertion. -/
theorem SettleLocal.frame (h : SettleLocal w u) (hrefunds : w.refunds ≠ [] → w'.refunds ≠ [])
    (hevent : ∀ ref, hasEvent w.dedup .refund ref = true → hasEvent w'.dedup .refund ref = true)
    (howned : u.ownsRefund = true → w.RefundLocked → w'.RefundLocked)
    (hfirst : ∀ ref, u.refundHook = some ref → w.HookOpen ref → w'.order.refundCampayRef = some ref → w'.settled = [])
    (hfound : ∀ ref, u.refundHook = some ref → w.order.refundCampayRef = some ref →
      w'.order.refundCampayRef = some ref) : SettleLocal w' u := by
  cases u with
  | order t =>
    cases t with
    | refund t =>
      cases t with
      | locked | caught => exact howned rfl h
      | accepted => exact ⟨howned rfl h.1, hrefunds h.2⟩
      | _ => trivial
    | refundWebhook t =>
      cases t with
      | first payload ref => exact ⟨hevent _ h.inserted, hfirst ref rfl h⟩
      | found order payload ref now => exact ⟨⟨hevent _ h.1.inserted, hfirst ref rfl h.1⟩, hfound ref rfl h.2⟩
      | _ => trivial
    | _ => trivial
  | _ => trivial

theorem SettleLocal.owned (h : SettleLocal w u) (ho : u.ownsRefund = true) : w.RefundLocked := by
  cases u with
  | order t =>
    cases t with
    | refund t =>
      cases t with
      | locked | caught => exact h
      | accepted => exact h.1
      | _ => cases ho
    | _ => cases ho
  | _ => cases ho

theorem SettleLocal.hook {ref : Reference} (h : SettleLocal w u) (hu : u.refundHook = some ref) : w.HookOpen ref := by
  cases u with
  | order t =>
    cases t with
    | refundWebhook t =>
      cases t with
      | first payload r =>
        obtain rfl := Option.some.inj hu
        exact h
      | found order payload r now =>
        obtain rfl := Option.some.inj hu
        exact h.1
      | _ => cases hu
    | _ => cases hu
  | _ => cases hu

/-- A move that leaves the refund's columns and the dedup rows as they are. -/
structure RefundSame (w w' : World) : Prop where
  initiatedAt : w'.order.refundInitiatedAt = w.order.refundInitiatedAt
  campayRef : w'.order.refundCampayRef = w.order.refundCampayRef
  totalXAF : w'.order.totalXAF = w.order.totalXAF
  settled : w'.settled = w.settled
  refunds : w.refunds ≠ [] → w'.refunds ≠ []
  dedup : ∀ ref, hasEvent w.dedup .refund ref = true → hasEvent w'.dedup .refund ref = true

theorem RefundSame.refl (w : World) : RefundSame w w := ⟨rfl, rfl, rfl, rfl, id, fun _ h => h⟩

theorem RefundSame.inv (h : RefundSame w w') (hI : SettleInv w) : SettleInv w' := by
  refine ⟨?_, ?_, ?_, fun href => h.refunds (hI.sent (h.campayRef ▸ href))⟩
  · rw [h.initiatedAt, h.campayRef]
    exact hI.idle
  · rw [h.settled, h.totalXAF]
    exact hI.once
  · rw [h.settled, h.campayRef]
    intro hs
    obtain ⟨ref, href, hin⟩ := hI.used hs
    exact ⟨ref, href, h.dedup ref hin⟩

theorem RefundSame.locked (h : RefundSame w w') (ho : w.RefundLocked) : w'.RefundLocked :=
  ⟨h.initiatedAt ▸ ho.initiatedAt, h.campayRef.trans ho.campayRef⟩

theorem RefundSame.hookOpen {ref : Reference} (h : RefundSame w w') (ho : w.HookOpen ref) : w'.HookOpen ref := by
  refine ⟨h.dedup ref ho.inserted, ?_⟩
  rw [h.campayRef, h.settled]
  exact ho.unsettled

theorem RefundSame.frame (h : RefundSame w w') (hL : SettleLocal w u) : SettleLocal w' u :=
  hL.frame h.refunds h.dedup (fun _ => h.locked) (fun _ _ ho => (h.hookOpen ho).unsettled) fun _ _ hc => h.campayRef.trans hc

end

abbrev SettleMoved (us : List LifecycleThread) (k' : Kitchen) (ts : List LifecycleThread) : Prop :=
  Moved (fun k : Kitchen => SettleInv k.world) (fun k => SettleLocal k.world) SettleApart us k' ts

section

variable {k k' : Kitchen} {us ts : List LifecycleThread} {t : LifecycleThread} {a : Answer}

/-- The threads it leaves behind have no part in a refund. -/
theorem SettleMoved.idle (hI : SettleInv k.world) (hus : ∀ u ∈ us, SettleLocal k.world u)
    (hs : RefundSame k.world k'.world) (hts : ∀ t' ∈ ts, t'.ownsRefund = false ∧ t'.refundHook = none)
    (hlocal : ∀ t' ∈ ts, SettleLocal k'.world t') : SettleMoved us k' ts where
  shared := hs.inv hI
  fresh := hlocal
  frame := fun u hu => hs.frame (hus u hu)
  apart := List.pairwise_of_forall_mem_list fun t' ht _ _ => .idle (hts t' ht).1 (hts t' ht).2
  between := fun t' ht _ _ => .idle (hts t' ht).1 (hts t' ht).2

/-- The thread keeps the part it had. -/
theorem SettleMoved.carry {t' : LifecycleThread} (hI : SettleInv k.world)
    (hus : ∀ u ∈ us, SettleLocal k.world u ∧ SettleApart t u) (hs : RefundSame k.world k'.world)
    (howns : t'.ownsRefund = false ∨ t.ownsRefund = true)
    (hhook : t'.refundHook = none ∨ t'.refundHook = t.refundHook) (hlocal : SettleLocal k'.world t') :
    SettleMoved us k' [t'] :=
  .one (hs.inv hI) hlocal fun u hu => ⟨hs.frame (hus u hu).1, (hus u hu).2.of howns hhook⟩

theorem settle_done {w : World} {t : OrderThread} (h : t.isDone = true) :
    SettleLocal w (.order t) ∧ t.ownsRefund = false ∧ t.refundHook = none := by
  cases t <;> rename_i t <;> cases t <;> simp_all [OrderThread.isDone, SettleLocal, OrderThread.ownsRefund,
    OrderThread.refundHook]

/-- A row other than the settlement's. -/
theorem RefundSame.rows {w w' : World} {input : RecordTransactionInput} {event : EventId} {now : Time}
    (hid : w'.order.id = w.order.id) (hledger : w'.ledger = w.ledger ++ input.rows event now)
    (hevent : event ≠ .refundSettled w.order.id) (hin : w'.order.refundInitiatedAt = w.order.refundInitiatedAt)
    (href : w'.order.refundCampayRef = w.order.refundCampayRef) (htotal : w'.order.totalXAF = w.order.totalXAF)
    (hrefunds : w'.refunds = w.refunds) (hdedup : w'.dedup = w.dedup) : RefundSame w w' := by
  refine ⟨hin, href, htotal, ?_, fun h => hrefunds ▸ h, fun _ h => hdedup ▸ h⟩
  unfold World.settled
  rw [hid, hledger, settledRows_other _ _ hevent]

variable {w' : World} {t₁ t₁' : OrderThread} {e : Reply}

theorem order_settle (hI : SettleInv k.world) (hL : SettleLocal k.world (.order t₁)) (hc : Copied k (.order t₁))
    (hus : ∀ u ∈ us, SettleLocal k.world u ∧ SettleApart (.order t₁) u) (h : OrderStep k.world t₁ e w' t₁') :
    SettleMoved us { k with world := w' } [.order t₁'] := by
  cases h with
  | finish hdone =>
    obtain ⟨hlocal, howns, hhook⟩ := settle_done (w := k.world) hdone
    exact .carry hI hus (.refl _) (.inl howns) (.inl hhook) hlocal
  | paid | delivered | cancelled | fraudCompensated =>
    exact .carry hI hus (.rows rfl rfl (by simp) rfl rfl rfl rfl rfl) (.inl rfl) (.inl rfl) trivial
  | refundLocked due =>
    -- the lock was free, so nobody had it
    have hnone : k.world.order.refundInitiatedAt = none := by
      simp only [Order.refundDue, Bool.and_eq_true, Option.isNone_iff_eq_none] at due
      exact due.2
    have hfree : ¬ k.world.RefundLocked := fun ho => by simpa [hnone] using ho.initiatedAt
    refine .one ⟨fun h => (by cases h), hI.once, hI.used, hI.sent⟩ ⟨rfl, hI.idle hnone⟩ fun u hu => ?_
    refine ⟨(hus u hu).1.frame id (fun _ h => h) (fun _ ho => absurd ho hfree) (fun _ _ ho => ho.unsettled)
      fun _ _ hc => hc, ⟨fun ho => hfree ((hus u hu).1.owned ho.2), Distinct.idle LifecycleThread.refundHook rfl⟩⟩
  | refundAccepted =>
    exact .carry hI hus ⟨rfl, rfl, rfl, rfl, by simp, fun _ h => h⟩ (.inr rfl) (.inl rfl) ⟨⟨hL.1, hL.2⟩, by simp⟩
  | refundLost =>
    exact .carry hI hus ⟨rfl, rfl, rfl, rfl, by simp, fun _ h => h⟩ (.inr rfl) (.inl rfl) ⟨hL.1, hL.2⟩
  | refundRefused => exact .carry hI hus (.refl _) (.inr rfl) (.inl rfl) hL
  | refundUnrecorded => exact .carry hI hus (.refl _) (.inr rfl) (.inl rfl) hL.1
  | @refundRecorded totalXAF ref sound =>
    -- no reference was on the row, so nothing has been settled
    have hopen : k.world.settled = [] := by
      by_contra hs
      obtain ⟨r, href, -⟩ := hI.used hs
      rw [hL.1.campayRef] at href
      cases href
    have hsettled : settledRows k.world.order.id (k.world.ledger ++
        (refundInitiatedInput k.world.order totalXAF).rows (.refundInitiated k.world.order.id) k.world.clock) = [] := by
      rw [settledRows_other _ _ (by simp)]
      exact hopen
    refine .one ⟨fun hn => ?_, .inl hsettled, fun hs => absurd hsettled hs, fun _ => store_ne_nil hL.2⟩ trivial
      fun u hu => ?_
    · have hin := hL.1.initiatedAt
      simp only at hn
      simp [hn] at hin
    · refine ⟨(hus u hu).1.frame store_ne_nil (fun _ h => h) (fun ho => absurd ⟨rfl, ho⟩ (hus u hu).2.1)
        (fun _ _ _ _ => hsettled) (fun r _ hr => ?_), .idle rfl rfl⟩
      rw [hL.1.campayRef] at hr
      cases hr
  | refundReset =>
    refine .one ⟨fun _ => hL.campayRef, hI.once, hI.used, hI.sent⟩ trivial fun u hu => ?_
    exact ⟨(hus u hu).1.frame id (fun _ h => h) (fun ho => absurd ⟨rfl, ho⟩ (hus u hu).2.1)
      (fun _ _ ho => ho.unsettled) fun _ _ hc => hc, .idle rfl rfl⟩
  | @hookFirst payload ref key terminal first =>
    have hmono : ∀ r, hasEvent k.world.dedup .refund r = true →
        hasEvent (k.world.dedup ++ [⟨.refund, ref, payload, none⟩]) .refund r = true := fun r hr => by simp [hr]
    have hs : RefundSame k.world { k.world with dedup := k.world.dedup ++ [⟨.refund, ref, payload, none⟩] } :=
      ⟨rfl, rfl, rfl, rfl, id, hmono⟩
    refine .one (hs.inv hI) ⟨by simp [hasEvent], fun href => ?_⟩ fun u hu => ⟨hs.frame (hus u hu).1, fun h => (by cases h.1), fun _ he => ?_⟩
    · -- a settled refund's reference has its dedup row already
      by_contra hne
      obtain ⟨r, hr, hin⟩ := hI.used hne
      obtain rfl := Option.some.inj (hr.symm.trans href)
      rw [first] at hin
      cases hin
    · have hin := ((hus u hu).1.hook he.symm).inserted
      rw [first] at hin
      cases hin
  | hookFound hmatch due =>
    exact .carry hI hus (.refl _) (.inl rfl) (.inr rfl) ⟨hL, hmatch⟩
  | @hookRefunded order payload ref now success due sound =>
    obtain ⟨hid, htotal, -⟩ := hc order rfl
    have hopen : k.world.settled = [] := hL.1.unsettled hL.2
    have hsettled : settledRows k.world.order.id (k.world.ledger ++
        (refundSettledInput order).rows (.refundSettled order.id) k.world.clock) =
          settledPair k.world.order.totalXAF := by
      rw [settledRows_settled hid, htotal]
      simpa [World.settled] using hopen
    refine .one ⟨hI.idle, .inr hsettled, fun _ => ⟨ref, hL.2, hL.1.inserted⟩, hI.sent⟩ trivial fun u hu => ?_
    refine ⟨(hus u hu).1.frame id (fun _ h => h) (fun _ ho => ⟨ho.1, ho.2⟩) (fun r hr _ href => ?_) (fun _ _ hc => hc),
      .idle rfl rfl⟩
    obtain rfl := Option.some.inj (hL.2.symm.trans href)
    exact absurd hr.symm ((hus u hu).2.2 rfl)
  | @hookReset order payload ref now reason failure =>
    refine .one ⟨fun _ => rfl, hI.once, fun hs => absurd (hL.1.unsettled hL.2) hs, by simp⟩ trivial fun u hu => ?_
    refine ⟨(hus u hu).1.frame id (fun _ h => h) (fun _ ho => ?_) (fun _ _ _ href => by cases href) (fun r hr href => ?_),
      .idle rfl rfl⟩
    · have hunset := ho.campayRef
      rw [hL.2] at hunset
      cases hunset
    · obtain rfl := Option.some.inj (hL.2.symm.trans href)
      exact absurd hr.symm ((hus u hu).2.2 rfl)
  | hookRecorded =>
    exact .carry hI hus ⟨rfl, rfl, rfl, rfl, id, fun _ h => by simpa using h⟩ (.inl rfl) (.inl rfl) trivial
  | _ => exact .carry hI hus ⟨rfl, rfl, rfl, rfl, id, fun _ h => h⟩ (.inl rfl) (.inl rfl) trivial

/-- A thread of another machine. -/
def LifecycleThread.apartFromRefunds : LifecycleThread → Bool
  | .order _ => false
  | _ => true

theorem settle_apart {t' : LifecycleThread} (h : t'.apartFromRefunds = true) (w : World) :
    (t'.ownsRefund = false ∧ t'.refundHook = none) ∧ SettleLocal w t' := by
  cases t' with
  | order t => cases h
  | _ => exact ⟨⟨rfl, rfl⟩, trivial⟩

theorem SettleMoved.other (hI : SettleInv k.world) (hus : ∀ u ∈ us, SettleLocal k.world u ∧ SettleApart t u)
    (hs : RefundSame k.world k'.world) (hts : ∀ t' ∈ ts, t'.apartFromRefunds = true) : SettleMoved us k' ts :=
  .idle hI (fun u hu => (hus u hu).1) hs (fun t' ht => (settle_apart (hts t' ht) k.world).1)
    fun t' ht => (settle_apart (hts t' ht) _).2

theorem collect_same {w w' : World} {t : CollectThread} {ts : List CollectThread} {e : Reply}
    (h : CollectMove w t e w' ts) : RefundSame w w' := by
  cases h with
  | hookFirst => exact ⟨rfl, rfl, rfl, rfl, id, fun _ h => by simp [h]⟩
  | hookRecorded => exact ⟨rfl, rfl, rfl, rfl, id, fun _ h => by simpa using h⟩
  | paid hp =>
    cases hp with
    | booked => exact .rows rfl rfl nofun rfl rfl rfl rfl rfl
    | _ => exact ⟨rfl, rfl, rfl, rfl, id, fun _ h => h⟩
  | _ => exact ⟨rfl, rfl, rfl, rfl, id, fun _ h => h⟩

theorem decision_same {w w' : World} {call : DecisionCall} {point point' : DecisionPoint} {e : Reply}
    (h : DecisionStep w call point e w' point') : RefundSame w w' := by
  cases h with
  | decided => cases call.verdict <;> exact ⟨rfl, rfl, rfl, rfl, id, fun _ h => h⟩
  | _ => exact .refl _

theorem move_settle (hI : SettleInv k.world) (hL : SettleLocal k.world t) (hc : Copied k t)
    (hus : ∀ u ∈ us, SettleLocal k.world u ∧ SettleApart t u) (h : LifecycleMove k t a k' ts) :
    SettleMoved us k' ts := by
  cases h with
  | decide hd =>
    refine .other hI hus (decision_same hd) fun t' ht => ?_
    rcases List.mem_cons.1 ht with rfl | ht
    · rfl
    · obtain rfl := mem_listeners ht
      rfl
  | order _ ho => exact order_settle hI hL hc hus ho
  | collect _ hcm =>
    refine .other hI hus (collect_same hcm) fun t' ht => ?_
    obtain ⟨u, -, rfl⟩ := List.mem_map.1 ht
    rfl
  | _ => exact .other hI hus ⟨rfl, rfl, rfl, rfl, id, fun _ h => h⟩ (by simp [LifecycleThread.apartFromRefunds])

theorem arrival_settle {n : LifecycleEvent} (hI : SettleInv k.world) (hus : ∀ u ∈ us, SettleLocal k.world u)
    (h : LifecycleArrival k n k' ts) : SettleMoved us k' ts := by
  have hs : RefundSame k.world k'.world := by
    cases h with
    | refundCallback => exact ⟨rfl, rfl, rfl, rfl, report_ne_nil, fun _ h => h⟩
    | _ => exact ⟨rfl, rfl, rfl, rfl, id, fun _ h => h⟩
  have hone : ∀ t ∈ ts, (t.ownsRefund = false ∧ t.refundHook = none) ∧ SettleLocal k'.world t := by
    cases h with
    | @call n t hcall =>
      simp only [List.mem_singleton, forall_eq]
      unfold LifecycleThread.isCall at hcall
      split at hcall <;> first | exact ⟨⟨rfl, rfl⟩, trivial⟩ | cases hcall
    | _ => simp [LifecycleThread.ownsRefund, LifecycleThread.refundHook, OrderThread.ownsRefund,
        OrderThread.refundHook, SettleLocal]
  exact .idle hI hus hs (fun t ht => (hone t ht).1) fun t ht => (hone t ht).2

end

/-- In every run of an order that createOrder has committed. -/
theorem settle_reach {ok : Guard Kitchen LifecycleThread LifecycleEvent Answer} {order : Order} (h₀ : order.Fresh)
    {items : List OrderItem} {q : Pool Kitchen LifecycleThread}
    (h : lifecycleMachine.Reach ok ⟨.start order items, []⟩ q) :
    Sat (fun k : Kitchen => SettleInv k.world) (fun k => SettleLocal k.world) SettleApart q.shared q.threads := by
  refine h.sat (fun _ _ => SettleApart.symm) ⟨?_, by simp, .nil⟩ ?_ ?_
  · have href : (Kitchen.start order items).world.order.refundCampayRef = none := h₀.refundCampayRef
    exact ⟨fun _ => href, .inl rfl, fun hs => absurd rfl hs, by simp [href]⟩
  · intro k us n k' ts _ hI hus _ hev
    exact arrival_settle hI hus (lifecycleEvent_cases hev)
  · intro k us vs t a k' ts hr hI hL hus _ hst
    exact move_settle hI hL ((copied_reach hr).2 t (by simp)) hus (lifecycleStep_cases hst)

end ChopNow
