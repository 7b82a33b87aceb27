import Mathlib.Data.List.Basic
import Mathlib.Tactic

/-! Threads that interleave over a shared state. A thread is whatever it still
has to do; one atomic step of it may change the shared state and replace the
thread by any number of threads. Events come from outside and may start threads.
What the outside chooses (a reply, a failure) is an argument of the step, so the
step itself is a partial function and runs can be replayed. -/

namespace Interleave

/-- `σ` is the shared state, `τ` a thread, `ν` an outside event and `ε` the
outside's answer to one step. -/
structure Machine (σ τ ν ε : Type) where
  event : σ → ν → Option (σ × List τ)
  step : σ → τ → ε → Option (σ × List τ)

structure Pool (σ τ : Type) where
  shared : σ
  threads : List τ

/-- What moves a pool: an event, or a step of one of its threads. -/
inductive Move (τ ν ε : Type)
  | event (n : ν)
  | step (t : τ) (e : ε)

variable {σ τ ν ε : Type}

/-- A condition on moves: the shared state and the other threads before the move. -/
abbrev Guard (σ τ ν ε : Type) := σ → List τ → Move τ ν ε → Prop

/-- No condition. -/
def anyMove : Guard σ τ ν ε := fun _ _ _ => True

def Guard.and (ok ok' : Guard σ τ ν ε) : Guard σ τ ν ε := fun s us m => ok s us m ∧ ok' s us m

/-- The pools that `p` can reach by moves that all meet `ok`. -/
inductive Machine.Reach (M : Machine σ τ ν ε) (ok : Guard σ τ ν ε) (p : Pool σ τ) : Pool σ τ → Prop
  | refl : M.Reach ok p p
  | event {s : σ} {us : List τ} {n : ν} {s' : σ} {ts : List τ} :
      M.Reach ok p ⟨s, us⟩ → ok s us (.event n) → M.event s n = some (s', ts) →
      M.Reach ok p ⟨s', ts ++ us⟩
  | step {s : σ} {us vs : List τ} {t : τ} {e : ε} {s' : σ} {ts : List τ} :
      M.Reach ok p ⟨s, us ++ t :: vs⟩ → ok s (us ++ vs) (.step t e) →
      M.step s t e = some (s', ts) → M.Reach ok p ⟨s', ts ++ (us ++ vs)⟩

namespace Machine.Reach

variable {M : Machine σ τ ν ε} {ok ok' : Guard σ τ ν ε} {p q r : Pool σ τ}

theorem trans (hpq : M.Reach ok p q) (hqr : M.Reach ok q r) : M.Reach ok p r := by
  induction hqr with
  | refl => exact hpq
  | event _ hok hev ih => exact ih.event hok hev
  | step _ hok hst ih => exact ih.step hok hst

theorem mono (hle : ∀ s us m, ok s us m → ok' s us m) (h : M.Reach ok p q) : M.Reach ok' p q := by
  induction h with
  | refl => exact refl
  | event _ hok hev ih => exact ih.event (hle _ _ _ hok) hev
  | step _ hok hst ih => exact ih.step (hle _ _ _ hok) hst

/-- The induction rule for a property of whole pools. -/
theorem invariant {J : σ → List τ → Prop} (h : M.Reach ok p q) (hp : J p.shared p.threads)
    (hevent : ∀ s us n s' ts, M.Reach ok p ⟨s, us⟩ → J s us → ok s us (.event n) →
      M.event s n = some (s', ts) → J s' (ts ++ us))
    (hstep : ∀ s us vs t e s' ts, M.Reach ok p ⟨s, us ++ t :: vs⟩ → J s (us ++ t :: vs) →
      ok s (us ++ vs) (.step t e) → M.step s t e = some (s', ts) → J s' (ts ++ (us ++ vs))) :
    J q.shared q.threads := by
  induction h with
  | refl => exact hp
  | event hr hok hev ih => exact hevent _ _ _ _ _ hr ih hok hev
  | step hr hok hst ih => exact hstep _ _ _ _ _ _ _ hr ih hok hst

end Machine.Reach

/-- On the way from `p` to `q` the shared state once met `Q`. -/
def Machine.Past (M : Machine σ τ ν ε) (ok : Guard σ τ ν ε) (p q : Pool σ τ) (Q : σ → Prop) : Prop :=
  ∃ r, M.Reach ok p r ∧ M.Reach ok r q ∧ Q r.shared

section

variable {M : Machine σ τ ν ε} {ok : Guard σ τ ν ε} {p q r : Pool σ τ} {Q : σ → Prop}

theorem Machine.Past.now (h : M.Reach ok p q) (hQ : Q q.shared) : M.Past ok p q Q := ⟨q, h, .refl, hQ⟩

theorem Machine.Past.later (h : M.Past ok p q Q) (hqr : M.Reach ok q r) : M.Past ok p r Q := by
  obtain ⟨past, hp, hq, hQ⟩ := h
  exact ⟨past, hp, hq.trans hqr, hQ⟩

end

/-- The same of the pool as a whole. -/
def Machine.Passed (M : Machine σ τ ν ε) (ok : Guard σ τ ν ε) (p q : Pool σ τ) (Q : Pool σ τ → Prop) : Prop :=
  ∃ r, M.Reach ok p r ∧ M.Reach ok r q ∧ Q r

section

variable {M : Machine σ τ ν ε} {ok : Guard σ τ ν ε} {p q r : Pool σ τ} {Q : Pool σ τ → Prop}

theorem Machine.Passed.now (h : M.Reach ok p q) (hQ : Q q) : M.Passed ok p q Q := ⟨q, h, .refl, hQ⟩

theorem Machine.Passed.later (h : M.Passed ok p q Q) (hqr : M.Reach ok q r) : M.Passed ok p r Q := by
  obtain ⟨past, hp, hq, hQ⟩ := h
  exact ⟨past, hp, hq.trans hqr, hQ⟩

end

/-- `I` holds of the shared state, `L` of each thread, and `X` keeps any two
threads apart. -/
structure Sat (I : σ → Prop) (L : σ → τ → Prop) (X : τ → τ → Prop) (s : σ) (us : List τ) : Prop where
  shared : I s
  locals : ∀ u ∈ us, L s u
  apart : us.Pairwise X

/-! Two ways for threads to stay apart: one at most plays the part `p`, or no two of
them have the same key. -/

def Exclusive (p : τ → Bool) (t u : τ) : Prop := ¬(p t = true ∧ p u = true)

def Distinct {κ : Type} (key : τ → Option κ) (t u : τ) : Prop := (key t).isSome → key t ≠ key u

section

variable {κ : Type} (p : τ → Bool) (key : τ → Option κ) {t t' u : τ}

theorem Exclusive.symm (h : Exclusive p t u) : Exclusive p u t := fun hu => h hu.symm

theorem Exclusive.idle (ht : p t = false) : Exclusive p t u := fun hu => by simp [ht] at hu

/-- The thread takes no part, or its predecessor had it. -/
theorem Exclusive.of (h : Exclusive p t u) (ht : p t' = false ∨ p t = true) : Exclusive p t' u := by
  rcases ht with ht | ht
  · exact .idle p ht
  · exact fun hu => h ⟨ht, hu.2⟩

theorem Distinct.symm (h : Distinct key t u) : Distinct key u t := fun hu he => h (he ▸ hu) he.symm

theorem Distinct.idle (ht : key t = none) : Distinct key t u := fun hsome => by simp [ht] at hsome

/-- The thread has no key, or its predecessor's. -/
theorem Distinct.of (h : Distinct key t u) (ht : key t' = none ∨ key t' = key t) : Distinct key t' u := by
  rcases ht with ht | ht
  · exact .idle key ht
  · intro hsome
    rw [ht] at hsome ⊢
    exact h hsome

end

/-- What one move owes: the new state, the new threads, and every other thread. -/
structure Moved (I : σ → Prop) (L : σ → τ → Prop) (X : τ → τ → Prop)
    (us : List τ) (s' : σ) (ts : List τ) : Prop where
  shared : I s'
  fresh : ∀ t ∈ ts, L s' t
  frame : ∀ u ∈ us, L s' u
  apart : ts.Pairwise X
  between : ∀ t ∈ ts, ∀ u ∈ us, X t u

theorem Moved.sat {I : σ → Prop} {L : σ → τ → Prop} {X : τ → τ → Prop} {us : List τ} {s' : σ}
    {ts : List τ} (h : Moved I L X us s' ts) (hus : us.Pairwise X) : Sat I L X s' (ts ++ us) := by
  refine ⟨h.shared, ?_, List.pairwise_append.2 ⟨h.apart, hus, h.between⟩⟩
  intro u hu
  rcases List.mem_append.1 hu with hu | hu
  · exact h.fresh u hu
  · exact h.frame u hu

/-- A move that leaves one thread behind. -/
theorem Moved.one {I : σ → Prop} {L : σ → τ → Prop} {X : τ → τ → Prop} {us : List τ} {s' : σ} {t' : τ}
    (hI : I s') (hL : L s' t') (hus : ∀ u ∈ us, L s' u ∧ X t' u) : Moved I L X us s' [t'] where
  shared := hI
  fresh := by simpa using hL
  frame := fun u hu => (hus u hu).1
  apart := List.pairwise_singleton _ _
  between := by simpa using fun u hu => (hus u hu).2

/-- A move that leaves no thread behind. -/
theorem Moved.zero {I : σ → Prop} {L : σ → τ → Prop} {X : τ → τ → Prop} {us : List τ} {s' : σ}
    (hI : I s') (hus : ∀ u ∈ us, L s' u) : Moved I L X us s' [] where
  shared := hI
  fresh := by simp
  frame := hus
  apart := .nil
  between := by simp

theorem mem_middle {us vs : List τ} {t u : τ} : u ∈ us ++ t :: vs ↔ u = t ∨ u ∈ us ++ vs :=
  List.perm_middle.mem_iff.trans List.mem_cons

theorem forall_middle {P : τ → Prop} {us vs : List τ} {t : τ} :
    (∀ u ∈ us ++ t :: vs, P u) ↔ P t ∧ ∀ u ∈ us ++ vs, P u := by
  simp only [mem_middle, forall_eq_or_imp]

theorem exists_middle {P : τ → Prop} {us vs : List τ} {t : τ} :
    (∃ u ∈ us ++ t :: vs, P u) ↔ P t ∨ ∃ u ∈ us ++ vs, P u := by
  simp only [mem_middle, exists_eq_or_imp]

theorem countP_middle (f : τ → Bool) {us vs : List τ} {t : τ} :
    (us ++ t :: vs).countP f = (us ++ vs).countP f + if f t then 1 else 0 := by
  rw [List.perm_middle.countP_eq, List.countP_cons]

/-- A thread in the middle, seen against all the others. -/
theorem pairwise_middle {X : τ → τ → Prop} (hX : ∀ a b, X a b → X b a) {us vs : List τ} {t : τ}
    (h : (us ++ t :: vs).Pairwise X) :
    (us ++ vs).Pairwise X ∧ ∀ u ∈ us ++ vs, X t u := by
  obtain ⟨hus, htv, hbetween⟩ := List.pairwise_append.1 h
  obtain ⟨ht, hvs⟩ := List.pairwise_cons.1 htv
  refine ⟨List.pairwise_append.2 ⟨hus, hvs, fun a ha b hb => hbetween a ha b (.tail _ hb)⟩, ?_⟩
  intro u hu
  rcases List.mem_append.1 hu with hu | hu
  · exact hX _ _ (hbetween u hu t (.head _))
  · exact ht u hu

/-- The thread-modular rule: each move keeps the state's invariant, establishes
the assertion of the threads it leaves behind, and disturbs no other thread. -/
theorem Machine.Reach.sat {M : Machine σ τ ν ε} {ok : Guard σ τ ν ε} {p q : Pool σ τ}
    {I : σ → Prop} {L : σ → τ → Prop} {X : τ → τ → Prop} (hX : ∀ a b, X a b → X b a)
    (h : M.Reach ok p q) (hp : Sat I L X p.shared p.threads)
    (hevent : ∀ s us n s' ts, M.Reach ok p ⟨s, us⟩ → I s → (∀ u ∈ us, L s u) →
      ok s us (.event n) → M.event s n = some (s', ts) → Moved I L X us s' ts)
    (hstep : ∀ s us vs t e s' ts, M.Reach ok p ⟨s, us ++ t :: vs⟩ → I s → L s t →
      (∀ u ∈ us ++ vs, L s u ∧ X t u) → ok s (us ++ vs) (.step t e) →
      M.step s t e = some (s', ts) → Moved I L X (us ++ vs) s' ts) :
    Sat I L X q.shared q.threads := by
  refine h.invariant (J := Sat I L X) hp ?_ ?_
  · intro s us n s' ts hr hs hok hev
    exact (hevent s us n s' ts hr hs.shared hs.locals hok hev).sat hs.apart
  · intro s us vs t e s' ts hr hs hok hst
    obtain ⟨hapart, hbetween⟩ := pairwise_middle hX hs.apart
    obtain ⟨hmine, hothers⟩ := forall_middle.1 hs.locals
    refine (hstep s us vs t e s' ts hr hs.shared hmine ?_ hok hst).sat hapart
    exact fun u hu => ⟨hothers u hu, hbetween u hu⟩

/-- The rule for assertions that nobody's move breaks. -/
theorem Machine.Reach.stable {M : Machine σ τ ν ε} {ok : Guard σ τ ν ε} {p q : Pool σ τ} {I : σ → Prop}
    {L : σ → τ → Prop} (h : M.Reach ok p q) (hp : I p.shared) (hts : ∀ t ∈ p.threads, L p.shared t)
    (hevent : ∀ s us n s' ts, M.Reach ok p ⟨s, us⟩ → I s → ok s us (.event n) → M.event s n = some (s', ts) →
      I s' ∧ (∀ t ∈ ts, L s' t) ∧ ∀ u, L s u → L s' u)
    (hstep : ∀ s us vs t e s' ts, M.Reach ok p ⟨s, us ++ t :: vs⟩ → I s → L s t → ok s (us ++ vs) (.step t e) →
      M.step s t e = some (s', ts) → I s' ∧ (∀ t' ∈ ts, L s' t') ∧ ∀ u, L s u → L s' u) :
    I q.shared ∧ ∀ t ∈ q.threads, L q.shared t := by
  have hall : ∀ us : List τ, us.Pairwise fun _ _ => True := fun us => List.pairwise_of_forall fun _ _ => trivial
  have hsat : Sat I L (fun _ _ => True) q.shared q.threads := by
    refine h.sat (fun _ _ _ => trivial) ⟨hp, hts, hall _⟩ ?_ ?_
    · intro s us n s' ts hr hI hus hok hev
      obtain ⟨hI', hfresh, hkeep⟩ := hevent s us n s' ts hr hI hok hev
      exact ⟨hI', hfresh, fun u hu => hkeep u (hus u hu), hall _, fun _ _ _ _ => trivial⟩
    · intro s us vs t e s' ts hr hI hL hus hok hst
      obtain ⟨hI', hfresh, hkeep⟩ := hstep s us vs t e s' ts hr hI hL hok hst
      exact ⟨hI', hfresh, fun u hu => hkeep u (hus u hu).1, hall _, fun _ _ _ _ => trivial⟩
  exact ⟨hsat.shared, hsat.locals⟩

/-- Two sets of assertions, each kept by a move, are kept together. -/
theorem Moved.and {I J : σ → Prop} {L K : σ → τ → Prop} {X Y : τ → τ → Prop} {us : List τ} {s' : σ}
    {ts : List τ} (h : Moved I L X us s' ts) (h' : Moved J K Y us s' ts) :
    Moved (fun s => I s ∧ J s) (fun s t => L s t ∧ K s t) (fun t u => X t u ∧ Y t u) us s' ts where
  shared := ⟨h.shared, h'.shared⟩
  fresh := fun t ht => ⟨h.fresh t ht, h'.fresh t ht⟩
  frame := fun u hu => ⟨h.frame u hu, h'.frame u hu⟩
  apart := h.apart.and h'.apart
  between := fun t ht u hu => ⟨h.between t ht u hu, h'.between t ht u hu⟩

/-- A further fact about the shared state alone. -/
theorem Moved.with_shared {I J : σ → Prop} {L : σ → τ → Prop} {X : τ → τ → Prop} {us : List τ} {s' : σ}
    {ts : List τ} (h : Moved I L X us s' ts) (hJ : J s') : Moved (fun s => I s ∧ J s) L X us s' ts :=
  { h with shared := ⟨h.shared, hJ⟩ }

/-- Nothing gets lost: what a thread has taken on (`W`) stays with some thread
until it is done (`P`). -/
theorem Machine.Reach.kept {M : Machine σ τ ν ε} {ok : Guard σ τ ν ε} {p q : Pool σ τ} {P : σ → Prop}
    {W : τ → Prop} (h : M.Reach ok p q) (hp : P p.shared ∨ ∃ u ∈ p.threads, W u)
    (hevent : ∀ s us n s' ts, M.Reach ok p ⟨s, us⟩ → P s → ok s us (.event n) →
      M.event s n = some (s', ts) → P s' ∨ ∃ t ∈ ts, W t)
    (hstep : ∀ s us vs t e s' ts, M.Reach ok p ⟨s, us ++ t :: vs⟩ → P s ∨ W t → ok s (us ++ vs) (.step t e) →
      M.step s t e = some (s', ts) → P s' ∨ ∃ t' ∈ ts, W t') :
    P q.shared ∨ ∃ u ∈ q.threads, W u := by
  refine h.invariant (J := fun s us => P s ∨ ∃ u ∈ us, W u) hp ?_ ?_
  · rintro s us n s' ts hr (hP | ⟨u, hu, hW⟩) hok hev
    · rcases hevent s us n s' ts hr hP hok hev with hP' | ⟨t, ht, hW⟩
      · exact .inl hP'
      · exact .inr ⟨t, List.mem_append_left _ ht, hW⟩
    · exact .inr ⟨u, List.mem_append_right _ hu, hW⟩
  · intro s us vs t e s' ts hr hI hok hst
    have hmine : P s ∨ W t → P s' ∨ ∃ u ∈ ts ++ (us ++ vs), W u := fun hPW => by
      rcases hstep s us vs t e s' ts hr hPW hok hst with hP' | ⟨t', ht', hW⟩
      · exact .inl hP'
      · exact .inr ⟨t', List.mem_append_left _ ht', hW⟩
    rcases hI with hP | ⟨u, hu, hW⟩
    · exact hmine (.inl hP)
    · rcases mem_middle.1 hu with rfl | hu
      · exact hmine (.inr hW)
      · exact .inr ⟨u, List.mem_append_right _ hu, hW⟩

/-- A schedule names the thread that steps by its place in the pool. -/
inductive Act (ν ε : Type)
  | event (n : ν)
  | step (i : ℕ) (e : ε)

def Machine.exec (M : Machine σ τ ν ε) (p : Pool σ τ) : Act ν ε → Option (Pool σ τ)
  | .event n => (M.event p.shared n).map fun r => ⟨r.1, r.2 ++ p.threads⟩
  | .step i e =>
    match p.threads[i]? with
    | none => none
    | some t => (M.step p.shared t e).map fun r =>
        ⟨r.1, r.2 ++ (p.threads.take i ++ p.threads.drop (i + 1))⟩

/-- Whether a scheduled move meets a decidable condition. -/
def Pool.allows (ok : σ → List τ → Move τ ν ε → Bool) (p : Pool σ τ) : Act ν ε → Bool
  | .event n => ok p.shared p.threads (.event n)
  | .step i e =>
    match p.threads[i]? with
    | none => false
    | some t => ok p.shared (p.threads.take i ++ p.threads.drop (i + 1)) (.step t e)

/-- Replay a schedule, stopping at a move that is impossible or breaks `ok`. -/
def Machine.run (M : Machine σ τ ν ε) (ok : σ → List τ → Move τ ν ε → Bool) :
    Pool σ τ → List (Act ν ε) → Option (Pool σ τ)
  | p, [] => some p
  | p, a :: as => if p.allows ok a then (M.exec p a).bind fun q => M.run ok q as else none

theorem Machine.Reach.exec {M : Machine σ τ ν ε} {ok : Guard σ τ ν ε}
    {okb : σ → List τ → Move τ ν ε → Bool} (hok : ∀ s us m, okb s us m = true → ok s us m)
    {p q r : Pool σ τ} {a : Act ν ε} (h : M.Reach ok p q) (ha : q.allows okb a = true)
    (he : M.exec q a = some r) : M.Reach ok p r := by
  obtain ⟨s, us⟩ := q
  cases a with
  | event n =>
    simp only [Machine.exec, Option.map_eq_some_iff] at he
    obtain ⟨⟨s', ts⟩, hev, rfl⟩ := he
    exact h.event (hok _ _ _ ha) hev
  | step i e =>
    cases ht : us[i]? with
    | none => simp [Machine.exec, ht] at he
    | some t =>
      simp only [Machine.exec, ht, Option.map_eq_some_iff] at he
      obtain ⟨⟨s', ts⟩, hst, rfl⟩ := he
      simp only [Pool.allows, ht] at ha
      obtain ⟨hi, rfl⟩ := List.getElem?_eq_some_iff.1 ht
      have hsplit : us = us.take i ++ us[i] :: us.drop (i + 1) := by
        rw [← List.drop_eq_getElem_cons hi, List.take_append_drop]
      rw [hsplit] at h
      exact h.step (hok _ _ _ ha) hst

/-- A replayed schedule is a run. -/
theorem Machine.reach_of_run {M : Machine σ τ ν ε} {ok : Guard σ τ ν ε}
    {okb : σ → List τ → Move τ ν ε → Bool} (hok : ∀ s us m, okb s us m = true → ok s us m)
    {p q : Pool σ τ} {as : List (Act ν ε)} (h : M.run okb p as = some q) : M.Reach ok p q := by
  suffices ∀ r, M.Reach ok p r → M.run okb r as = some q → M.Reach ok p q from this p .refl h
  clear h
  induction as with
  | nil =>
    intro r hr h
    obtain rfl := Option.some.inj h
    exact hr
  | cons a as ih =>
    intro r hr h
    simp only [Machine.run] at h
    split at h
    · next ha =>
      obtain ⟨r', he, h⟩ := Option.bind_eq_some_iff.1 h
      exact ih r' (hr.exec hok ha he) h
    · exact absurd h (by simp)

/-- A replayed schedule that ends where a test succeeds. -/
theorem Machine.reach_of_test (M : Machine σ τ ν ε) (ok : Guard σ τ ν ε)
    (okb : σ → List τ → Move τ ν ε → Bool) (hok : ∀ s us m, okb s us m = true → ok s us m)
    (p : Pool σ τ) (as : List (Act ν ε)) (test : Pool σ τ → Bool)
    (h : (M.run okb p as).map test = some true) : ∃ q, M.Reach ok p q ∧ test q = true := by
  obtain ⟨q, hq, ht⟩ := Option.map_eq_some_iff.1 h
  exact ⟨q, Machine.reach_of_run hok hq, ht⟩

/-- The same with a stop on the way. -/
theorem Machine.reach_of_stop (M : Machine σ τ ν ε) (ok : Guard σ τ ν ε)
    (okb : σ → List τ → Move τ ν ε → Bool) (hok : ∀ s us m, okb s us m = true → ok s us m)
    (p₀ : Pool σ τ) (as bs : List (Act ν ε)) (test : Pool σ τ → Pool σ τ → Bool)
    (h : ((M.run okb p₀ as).bind fun p => (M.run okb p bs).map (test p)) = some true) :
    ∃ p q, M.Reach ok p₀ p ∧ M.Reach ok p q ∧ test p q = true := by
  obtain ⟨p, hp, h⟩ := Option.bind_eq_some_iff.1 h
  obtain ⟨q, hq, ht⟩ := Option.map_eq_some_iff.1 h
  exact ⟨p, q, Machine.reach_of_run hok hp, Machine.reach_of_run hok hq, ht⟩

end Interleave
