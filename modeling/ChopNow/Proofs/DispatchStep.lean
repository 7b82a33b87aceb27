import ChopNow.Spec.Dispatch
import ChopNow.Proofs.OrderStep

/-! What one step around an attempt can do. -/

namespace ChopNow

open Interleave

inductive DispatchMove (s : Dispatching) :
    DispatchThread → Answer → Dispatching → List DispatchThread → Prop
  | left {t a} : DispatchMove s (.run t) a s [.run .done]
  | checked {fireAt attempt} (free : s.world.order.riderId = none) (live : s.world.order.status ≠ .cancelled)
      (unexpired : s.world.order.status ≠ .expired) :
      DispatchMove s (.run (.called fireAt attempt)) (.reply .ok) s [.run (.dispatchOrder attempt)]
  | taken {attempt} (held : s.world.order.riderId ≠ none) :
      DispatchMove s (.run (.dispatchOrder attempt)) (.reply .ok) s [.run (.noRider attempt)]
  | searching {attempt} (free : s.world.order.riderId = none) :
      DispatchMove s (.run (.dispatchOrder attempt)) (.reply .ok) s [.run (.searching attempt)]
  | noCandidate {attempt} :
      DispatchMove s (.run (.searching attempt)) (.candidate none) s
        [.logDispatchEvent { attempt := attempt + 1, outcome := .noCandidate } (.noRider attempt)]
  | chosen {attempt rider} :
      DispatchMove s (.run (.searching attempt)) (.candidate (some rider)) s
        [.run (.chosen attempt rider s.world.clock)]
  | assigned {attempt rider now} (free : s.world.order.riderId = none) :
      DispatchMove s (.run (.chosen attempt rider now)) (.reply .ok)
        { s with world := { s.world with
          order := { s.world.order with riderId := some rider, assignedAt := some now } } }
        [.logDispatchEvent ⟨attempt + 1, .assigned, some rider⟩ .done]
  | raceLost {attempt rider now} (held : s.world.order.riderId ≠ none) :
      DispatchMove s (.run (.chosen attempt rider now)) (.reply .ok) s
        [.logDispatchEvent ⟨attempt + 1, .raceLost, some rider⟩ (.noRider attempt)]
  | retry {attempt} (more : attempt < MAX_RETRIES - 1) :
      DispatchMove s (.run (.noRider attempt)) (.reply .ok)
        { s with retryQueue := addJob s.retryQueue ⟨attempt + 1, s.world.clock + RETRY_INTERVAL_MS⟩ } [.run .done]
  | giveUp {attempt} (last : ¬ attempt < MAX_RETRIES - 1) :
      DispatchMove s (.run (.noRider attempt)) (.reply .ok) s [.run .expireForNoRider]
  | expiring (due : s.world.order.status ∈ TERMINABLE) :
      DispatchMove s (.run .expireForNoRider) (.reply .ok) s [.run (.expiring s.world.order s.world.clock)]
  | expired {order now emitted} :
      DispatchMove s (.run (.expiring order now)) (.reply .ok)
        { s with world := { s.world with order := s.world.order.expireForNoRider order now, emitted } }
        [.run .done]
  | logged {row next} :
      DispatchMove s (.logDispatchEvent row next) (.reply .ok) { s with events := s.events ++ [row] } [.run next]
  | unlogged {row next reason} :
      DispatchMove s (.logDispatchEvent row next) (.reply (.fail reason)) s [.run next]
  | cancelPreOrder {t t' e w'} (h : OrderStep s.world (.cancelPreOrder t) e w' (.cancelPreOrder t')) :
      DispatchMove s (.cancelPreOrder t) (.reply e) { s with world := w' } [.cancelPreOrder t']

section

variable {s s' : Dispatching} {a : Answer} {ts : List DispatchThread}

theorem run_cases {t : TryDispatch} (h : dispatchStep s (.run t) a = some (s', ts)) :
    DispatchMove s (.run t) a s' ts := by
  obtain ⟨⟨w', t'⟩, ht, hp⟩ := Option.map_eq_some_iff.1 h
  cases a with
  | candidate rider =>
    cases t with
    | searching attempt =>
      cases rider <;> simp only [TryDispatch.step, Option.some.injEq, Prod.mk.injEq] at ht <;>
        (obtain ⟨rfl, rfl⟩ := ht
         obtain ⟨rfl, rfl⟩ := Prod.mk.inj hp)
      · exact .noCandidate
      · exact .chosen
    | _ => simp [TryDispatch.step] at ht
  | reply e =>
    cases e with
    | ok =>
      cases t <;> simp only [TryDispatch.step, Option.some.injEq, Prod.mk.injEq, reduceCtorEq] at ht
      case called fireAt attempt =>
        split at ht
        · cases ht
        · split at ht <;> obtain ⟨rfl, rfl⟩ := Prod.mk.inj (Option.some.inj ht) <;>
            obtain ⟨rfl, rfl⟩ := Prod.mk.inj hp
          · exact .left
          · next hopen =>
            simp only [not_or, Option.not_isSome_iff_eq_none] at hopen
            exact .checked hopen.1 hopen.2.1 hopen.2.2
      case dispatchOrder attempt =>
        obtain ⟨rfl, rfl⟩ := ht
        by_cases hr : s.world.order.riderId = none
        · simp only [TryDispatch.logged, hr, Option.isSome_none, Bool.false_eq_true, ↓reduceIte] at hp
          obtain ⟨rfl, rfl⟩ := Prod.mk.inj hp
          exact .searching hr
        · simp only [TryDispatch.logged, Option.isSome_iff_ne_none.2 hr, ↓reduceIte] at hp
          obtain ⟨rfl, rfl⟩ := Prod.mk.inj hp
          exact .taken hr
      case chosen attempt rider now =>
        by_cases hr : s.world.order.riderId = none
        · simp only [hr, Option.isNone_none, ↓reduceIte, Option.some.injEq, Prod.mk.injEq] at ht
          obtain ⟨rfl, rfl⟩ := ht
          simp only [TryDispatch.logged, hr, Option.isNone_none, ↓reduceIte] at hp
          obtain ⟨rfl, rfl⟩ := Prod.mk.inj hp
          exact .assigned hr
        · simp only [Option.isNone_iff_eq_none, hr, ↓reduceIte, Option.some.injEq, Prod.mk.injEq] at ht
          obtain ⟨rfl, rfl⟩ := ht
          simp only [TryDispatch.logged, Option.isNone_iff_eq_none, hr, ↓reduceIte] at hp
          obtain ⟨rfl, rfl⟩ := Prod.mk.inj hp
          exact .raceLost hr
      case noRider attempt =>
        obtain ⟨rfl, rfl⟩ := ht
        by_cases hmore : attempt < MAX_RETRIES - 1
        · simp only [TryDispatch.logged, hmore, ↓reduceIte, Dispatching.follow] at hp
          obtain ⟨rfl, rfl⟩ := Prod.mk.inj hp
          exact .retry hmore
        · simp only [TryDispatch.logged, hmore, ↓reduceIte, Dispatching.follow] at hp
          obtain ⟨rfl, rfl⟩ := Prod.mk.inj hp
          exact .giveUp hmore
      case expireForNoRider =>
        obtain ⟨rfl, rfl⟩ := ht
        by_cases hdue : s.world.order.status ∈ TERMINABLE
        · simp only [TryDispatch.logged, hdue, ↓reduceIte, Dispatching.follow] at hp
          obtain ⟨rfl, rfl⟩ := Prod.mk.inj hp
          exact .expiring hdue
        · simp only [TryDispatch.logged, hdue, ↓reduceIte, Dispatching.follow] at hp
          obtain ⟨rfl, rfl⟩ := Prod.mk.inj hp
          exact .left
      case expiring order now =>
        obtain ⟨rfl, rfl⟩ := ht
        obtain ⟨rfl, rfl⟩ := Prod.mk.inj hp
        exact .expired
    | fail reason =>
      cases t <;> simp only [TryDispatch.step, Option.some.injEq, Prod.mk.injEq, reduceCtorEq] at ht <;>
        (obtain ⟨rfl, rfl⟩ := ht
         obtain ⟨rfl, rfl⟩ := Prod.mk.inj hp
         exact .left)
    | _ => cases t <;> simp [TryDispatch.step] at ht

theorem dispatchStep_cases {t : DispatchThread} (h : dispatchMachine.step s t a = some (s', ts)) :
    DispatchMove s t a s' ts := by
  cases t with
  | run t => exact run_cases h
  | logDispatchEvent row next =>
    cases a with
    | candidate rider => cases h
    | reply e =>
      cases e with
      | ok =>
        obtain ⟨rfl, rfl⟩ := Prod.mk.inj (Option.some.inj h)
        exact .logged
      | fail reason =>
        obtain ⟨rfl, rfl⟩ := Prod.mk.inj (Option.some.inj h)
        exact .unlogged
      | _ => cases h
  | cancelPreOrder t =>
    cases a with
    | candidate rider => cases h
    | reply e =>
      obtain ⟨⟨w', t'⟩, ht, hp⟩ := Option.map_eq_some_iff.1 h
      obtain ⟨rfl, rfl⟩ := Prod.mk.inj hp
      exact .cancelPreOrder (cancelPreOrder_step ht)

/-! Events. -/

inductive DispatchArrival (s : Dispatching) : DispatchCall → Dispatching → List DispatchThread → Prop
  | tick {elapsed} :
      DispatchArrival s (.tick elapsed) { s with world := { s.world with clock := s.world.clock + elapsed } } []
  | orderAccepted : DispatchArrival s .orderAccepted s [.run (.called 0 0)]
  | runRetry {attempt job} (waits : job ∈ s.retryQueue) :
      DispatchArrival s (.runRetry attempt)
        { s with retryQueue := s.retryQueue.filter fun job => job.attempt != attempt }
        [.run (.called job.fireAt job.attempt)]
  | vendorCancelPreOrder {vendor note} :
      DispatchArrival s (.vendorCancelPreOrder vendor note) s [.cancelPreOrder (.called vendor note)]

theorem dispatchEvent_cases {n : DispatchCall} (h : dispatchMachine.event s n = some (s', ts)) :
    DispatchArrival s n s' ts := by
  simp only [dispatchMachine] at h
  cases n with
  | runRetry attempt =>
    simp only [dispatchEvent] at h
    split at h
    · cases h
    · next job hfind =>
      split at h
      · cases h
      · obtain ⟨rfl, rfl⟩ := Prod.mk.inj (Option.some.inj h)
        exact .runRetry (List.mem_of_find?_eq_some hfind)
  | tick elapsed =>
    obtain ⟨rfl, rfl⟩ := Prod.mk.inj (Option.some.inj h)
    exact .tick
  | orderAccepted =>
    obtain ⟨rfl, rfl⟩ := Prod.mk.inj (Option.some.inj h)
    exact .orderAccepted
  | vendorCancelPreOrder vendor note =>
    obtain ⟨rfl, rfl⟩ := Prod.mk.inj (Option.some.inj h)
    exact .vendorCancelPreOrder

theorem mem_addJob {queue : List RetryJob} {job j : RetryJob} (h : j ∈ addJob queue job) : j ∈ queue ∨ j = job := by
  unfold addJob at h
  split at h
  · exact .inl h
  · simpa using h

end

end ChopNow
