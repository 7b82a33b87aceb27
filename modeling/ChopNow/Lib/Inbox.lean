import ChopNow.Lib.Simulation

/-! An inbox that files each message before it looks up what the message is
about. Only the first message is processed, whatever comes of it: one that was
looked up too early, or that calls for nothing, uses up the place of those that
follow. -/

namespace Inbox

open Interleave

/-- `stored`: what the messages are about can be found. `taken`: a message was
filed. `first`: whether the first message to arrive calls for an effect. -/
structure State where
  stored : Bool
  taken : Bool
  applied : Bool
  first : Option Bool

/-- `write` makes the subject findable; a message is received, filed and looked
up, and then has its effect or none. -/
inductive Task
  | write
  | receive (good : Bool)
  | look (good : Bool)
  | apply
  deriving DecidableEq

/-- An event is a message; the answer to a write says whether it lands. -/
def machine : Machine State Task Bool Bool where
  event s good := some ({ s with first := s.first <|> some good }, [.receive good])
  step s
    | .write, lands => some (if lands then { s with stored := true } else s, [])
    | .receive good, _ => some (if s.taken then (s, []) else ({ s with taken := true }, [.look good]))
    | .look good, _ => some (s, if s.stored && good then [.apply] else [])
    | .apply, _ => some ({ s with applied := true }, [])

/-- The message that was filed and is not through. -/
def Task.active : Task → Bool
  | .look _ | .apply => true
  | _ => false

/-- No message has arrived, and what is not stored is about to be written. -/
structure Start (p : Pool State Task) : Prop where
  taken : p.shared.taken = false
  applied : p.shared.applied = false
  first : p.shared.first = none
  threads : p.threads = if p.shared.stored then [] else [.write]

structure Inv (s : State) : Prop where
  applied : s.applied = true → s.taken = true ∧ s.stored = true
  arrived : s.taken = true → s.first.isSome

/-- Nothing has come of the message under way, and the write is due. -/
def Local (s : State) : Task → Prop
  | .write => s.stored = false
  | .look _ => s.taken = true ∧ s.applied = false
  | .apply => s.taken = true ∧ s.applied = false ∧ s.stored = true
  | .receive _ => s.first.isSome

def Apart (t u : Task) : Prop := ¬(t.active = true ∧ u.active = true) ∧ ¬(t = .write ∧ u = .write)

theorem Apart.symm {t u : Task} (h : Apart t u) : Apart u t := ⟨fun ht => h.1 ht.symm, fun ht => h.2 ht.symm⟩

theorem Local.active {s : State} {t : Task} (h : Local s t) (ha : t.active = true) :
    s.taken = true ∧ s.applied = false := by
  cases t with
  | look good => exact h
  | apply => exact ⟨h.1, h.2.1⟩
  | write | receive => cases ha

variable {ok : Guard State Task Bool Bool} {p q : Pool State Task}

theorem sat (hp : Start p) (h : machine.Reach ok p q) : Sat Inv Local Apart q.shared q.threads := by
  refine h.sat (fun _ _ => Apart.symm) ⟨⟨by simp [hp.applied], by simp [hp.taken]⟩, ?_, ?_⟩ ?_ ?_
  · intro t ht
    rw [hp.threads] at ht
    split at ht
    · cases ht
    · next hs =>
      obtain rfl := List.mem_singleton.1 ht
      simpa [Local] using hs
  · rw [hp.threads]
    split
    · exact .nil
    · exact List.pairwise_singleton _ _
  · intro s us good s' ts _ hI hus _ hev
    obtain ⟨rfl, rfl⟩ := Prod.mk.inj (Option.some.inj hev)
    have hsome : (s.first <|> some good).isSome := by cases s.first <;> rfl
    refine .one ⟨hI.applied, fun _ => hsome⟩ hsome fun u hu => ⟨?_, by simp [Apart, Task.active]⟩
    have := hus u hu
    cases u with
    | receive b => exact hsome
    | _ => exact this
  · intro s us vs t e s' ts _ hI hL hus _ hst
    cases t with
    | write =>
      obtain ⟨rfl, rfl⟩ := Prod.mk.inj (Option.some.inj hst)
      cases e
      · exact .zero hI fun u hu => (hus u hu).1
      · refine .zero ⟨fun ha => ⟨(hI.applied ha).1, rfl⟩, hI.arrived⟩ fun u hu => ?_
        obtain ⟨hu, hx⟩ := hus u hu
        cases u with
        | write => exact absurd ⟨rfl, rfl⟩ hx.2
        | apply => exact ⟨hu.1, hu.2.1, rfl⟩
        | _ => exact hu
    | receive good =>
      simp only [machine] at hst
      cases ht : s.taken with
      | true =>
        simp only [ht, ↓reduceIte] at hst
        obtain ⟨rfl, rfl⟩ := Prod.mk.inj (Option.some.inj hst)
        exact .zero hI fun u hu => (hus u hu).1
      | false =>
        simp only [ht, Bool.false_eq_true, ↓reduceIte] at hst
        obtain ⟨rfl, rfl⟩ := Prod.mk.inj (Option.some.inj hst)
        have happlied : s.applied = false := by
          by_contra ha
          have := (hI.applied (by simpa using ha)).1
          simp [ht] at this
        have hidle : ∀ u ∈ us ++ vs, u.active = false := fun u hu => by
          by_contra ha
          have := ((hus u hu).1.active (by simpa using ha)).1
          simp [ht] at this
        refine .one ⟨fun ha => absurd (happlied.symm.trans ha) nofun, fun _ => hL⟩ ⟨rfl, happlied⟩
          fun u hu => ⟨?_, ?_⟩
        · have hLu := (hus u hu).1
          have hau := hidle u hu
          cases u with
          | write | receive => exact hLu
          | look | apply => cases hau
        · exact ⟨fun ha => absurd (ha.2.symm.trans (hidle u hu)) nofun, nofun⟩
    | look good =>
      obtain ⟨rfl, rfl⟩ := Prod.mk.inj (Option.some.inj hst)
      cases hb : s.stored && good with
      | false => exact .zero hI fun u hu => (hus u hu).1
      | true =>
        rw [Bool.and_eq_true] at hb
        exact .one hI ⟨hL.1, hL.2, hb.1⟩ fun u hu => ⟨(hus u hu).1, fun ha => (hus u hu).2.1 ⟨rfl, ha.2⟩, nofun⟩
    | apply =>
      obtain ⟨rfl, rfl⟩ := Prod.mk.inj (Option.some.inj hst)
      refine .zero ⟨fun _ => ⟨hL.1, hL.2.2⟩, hI.arrived⟩ fun u hu => ?_
      obtain ⟨hu, hx⟩ := hus u hu
      cases u with
      | write | receive => exact hu
      | look | apply => exact absurd ⟨rfl, rfl⟩ hx.1

/-- A message that arrived is filed, or is about to be. -/
theorem heard (hp : Start p) (h : machine.Reach ok p q) :
    (q.shared.first = none ∨ q.shared.taken = true) ∨ ∃ t ∈ q.threads, ∃ good, t = .receive good := by
  refine h.kept (P := fun s => s.first = none ∨ s.taken = true) (W := fun t => ∃ good, t = .receive good)
    (.inl (.inl hp.first)) ?_ ?_
  · intro s us good s' ts _ _ _ hev
    obtain ⟨rfl, rfl⟩ := Prod.mk.inj (Option.some.inj hev)
    exact .inr ⟨_, .head _, _, rfl⟩
  · intro s us vs t e s' ts _ hPW _ hst
    cases t with
    | receive good =>
      simp only [machine] at hst
      split at hst <;> obtain ⟨rfl, rfl⟩ := Prod.mk.inj (Option.some.inj hst)
      · exact .inl (.inr ‹_›)
      · exact .inl (.inr rfl)
    | write =>
      obtain ⟨rfl, rfl⟩ := Prod.mk.inj (Option.some.inj hst)
      have hP := hPW.resolve_right (by simp)
      cases e <;> exact .inl hP
    | look good | apply =>
      obtain ⟨rfl, rfl⟩ := Prod.mk.inj (Option.some.inj hst)
      exact .inl (hPW.resolve_right (by simp))

theorem taken_of_idle (hp : Start p) (h : machine.Reach ok p q) (hidle : q.threads = [])
    (hfirst : q.shared.first.isSome) : q.shared.taken = true := by
  rcases heard hp h with (hf | ht) | ⟨t, ht, -⟩
  · simp [hf] at hfirst
  · exact ht
  · simp [hidle] at ht

theorem stored_stays (h : machine.Reach ok p q) (hp : p.shared.stored = true) : q.shared.stored = true := by
  refine h.invariant (J := fun s _ => s.stored = true) hp ?_ ?_
  · intro s us good s' ts _ hs _ hev
    obtain ⟨rfl, rfl⟩ := Prod.mk.inj (Option.some.inj hev)
    exact hs
  · intro s us vs t e s' ts _ hs _ hst
    cases t with
    | receive good =>
      simp only [machine] at hst
      split at hst <;> obtain ⟨rfl, rfl⟩ := Prod.mk.inj (Option.some.inj hst) <;> exact hs
    | write =>
      obtain ⟨rfl, rfl⟩ := Prod.mk.inj (Option.some.inj hst)
      cases e
      · exact hs
      · rfl
    | look good | apply =>
      obtain ⟨rfl, rfl⟩ := Prod.mk.inj (Option.some.inj hst)
      exact hs

/-! Messages that all call for the effect. -/

def onlyGood : Guard State Task Bool Bool := fun _ _ m =>
  match m with
  | .event good => good = true
  | _ => True

theorem onlyGood_unordered : onlyGood.Unordered := fun _ _ _ _ _ h => h

def Task.good : Task → Prop
  | .receive good | .look good => good = true
  | _ => True

theorem good_kept (hp : ∀ t ∈ p.threads, t.good) (h : machine.Reach onlyGood p q) : ∀ t ∈ q.threads, t.good := by
  refine (h.sat (I := fun _ => True) (L := fun _ => Task.good) (X := fun _ _ => True) (fun _ _ h => h)
    ⟨trivial, hp, List.pairwise_of_forall_mem_list fun _ _ _ _ => trivial⟩ ?_ ?_).locals
  · intro s us good s' ts _ _ hus hok hev
    obtain ⟨rfl, rfl⟩ := Prod.mk.inj (Option.some.inj hev)
    exact .one trivial hok fun u hu => ⟨hus u hu, trivial⟩
  · intro s us vs t e s' ts _ _ hL hus _ hst
    cases t with
    | receive good =>
      simp only [machine] at hst
      split at hst <;> obtain ⟨rfl, rfl⟩ := Prod.mk.inj (Option.some.inj hst)
      · exact .zero trivial fun u hu => (hus u hu).1
      · exact .one trivial hL fun u hu => ⟨(hus u hu).1, trivial⟩
    | look good =>
      obtain ⟨rfl, rfl⟩ := Prod.mk.inj (Option.some.inj hst)
      split
      · exact .one trivial trivial fun u hu => ⟨(hus u hu).1, trivial⟩
      · exact .zero trivial fun u hu => (hus u hu).1
    | write | apply =>
      obtain ⟨rfl, rfl⟩ := Prod.mk.inj (Option.some.inj hst)
      exact .zero trivial fun u hu => (hus u hu).1

/-- The place is used up: a message was filed, nothing came of it and nothing will. -/
structure Missed (p : Pool State Task) : Prop where
  taken : p.shared.taken = true
  applied : p.shared.applied = false
  through : ∀ t ∈ p.threads, t.active = false

theorem missed_stays (h : machine.Reach ok p q) (hm : Missed p) : Missed q := by
  have hs := h.sat (I := fun s => s.taken = true ∧ s.applied = false) (L := fun _ t => t.active = false)
    (X := fun _ _ => True) (fun _ _ h => h)
    ⟨⟨hm.taken, hm.applied⟩, hm.through, List.pairwise_of_forall_mem_list fun _ _ _ _ => trivial⟩ ?_ ?_
  · exact ⟨hs.shared.1, hs.shared.2, hs.locals⟩
  · intro s us good s' ts _ hI hus _ hev
    obtain ⟨rfl, rfl⟩ := Prod.mk.inj (Option.some.inj hev)
    exact .one hI rfl fun u hu => ⟨hus u hu, trivial⟩
  · intro s us vs t e s' ts _ hI hL hus _ hst
    cases t with
    | receive good =>
      simp only [machine, hI.1, ↓reduceIte] at hst
      obtain ⟨rfl, rfl⟩ := Prod.mk.inj (Option.some.inj hst)
      exact .zero hI fun u hu => (hus u hu).1
    | write =>
      obtain ⟨rfl, rfl⟩ := Prod.mk.inj (Option.some.inj hst)
      refine .zero ?_ fun u hu => (hus u hu).1
      cases e <;> exact hI
    | look | apply => cases hL

/-- After the write, a message that was filed is applied or under way. -/
theorem applied_or_active (hgood : ∀ t ∈ p.threads, t.good) (hstored : p.shared.stored = true) (hm : ¬ Missed p)
    (h : machine.Reach onlyGood p q) :
    (q.shared.taken = true → q.shared.applied = true) ∨ ∃ t ∈ q.threads, t.active = true := by
  refine h.kept (P := fun s => s.taken = true → s.applied = true) (W := fun t => t.active = true) ?_ ?_ ?_
  · by_contra hn
    simp only [not_or, not_exists, not_and, Bool.not_eq_true] at hn
    obtain ⟨hP, hactive⟩ := hn
    rw [Classical.not_imp] at hP
    exact hm ⟨hP.1, by simpa using hP.2, hactive⟩
  · intro s us good s' ts _ hP _ hev
    obtain ⟨rfl, rfl⟩ := Prod.mk.inj (Option.some.inj hev)
    exact .inl hP
  · intro s us vs t e s' ts hr hPW _ hst
    have hs : s.stored = true := stored_stays hr hstored
    have ht : t.good := good_kept hgood hr t (by simp)
    cases t with
    | receive good =>
      simp only [machine] at hst
      split at hst <;> obtain ⟨rfl, rfl⟩ := Prod.mk.inj (Option.some.inj hst)
      · exact .inl (hPW.resolve_right nofun)
      · exact .inr ⟨_, .head _, rfl⟩
    | look good =>
      obtain ⟨rfl, rfl⟩ := Prod.mk.inj (Option.some.inj hst)
      have hboth : (s.stored && good) = true := by
        rw [hs, Bool.true_and]
        exact ht
      simp only [hboth, ↓reduceIte]
      exact .inr ⟨_, .head _, rfl⟩
    | apply =>
      obtain ⟨rfl, rfl⟩ := Prod.mk.inj (Option.some.inj hst)
      exact .inl fun _ => rfl
    | write =>
      obtain ⟨rfl, rfl⟩ := Prod.mk.inj (Option.some.inj hst)
      have hP := hPW.resolve_right nofun
      cases e <;> exact .inl hP

/-- A message that arrives is applied exactly when none was looked up before the write. -/
theorem applied_iff_not_missed {p₀ : Pool State Task} (hp₀ : Start p₀) (hp : machine.Reach onlyGood p₀ p)
    (hstored : p.shared.stored = true) (h : machine.Reach onlyGood p q) (hidle : q.threads = [])
    (hfirst : q.shared.first.isSome) : q.shared.applied = true ↔ ¬ Missed p := by
  have hgood : ∀ t ∈ p.threads, t.good := by
    refine good_kept (fun t ht => ?_) hp
    rw [hp₀.threads] at ht
    split at ht
    · cases ht
    · obtain rfl := List.mem_singleton.1 ht
      trivial
  constructor
  · exact fun ha hm => absurd (ha.symm.trans (missed_stays h hm).applied) nofun
  · intro hm
    rcases applied_or_active hgood hstored hm h with ha | ⟨t, ht, -⟩
    · exact ha (taken_of_idle hp₀ (hp.trans h) hidle hfirst)
    · simp [hidle] at ht

/-! The same of a machine that an inbox simulates. -/

section

variable {σ τ ν ε : Type} {M : Machine σ τ ν ε} {okM : Guard σ τ ν ε} {f : σ → State} {g : τ → Option Task}
  {p₀ p q : Pool σ τ}

theorem still_stored (hsim : Simulates M machine okM onlyGood f g p₀) (hp : M.Reach okM p₀ p)
    (hstored : (f p.shared).stored = true) (hq : M.Reach okM p q) : (f q.shared).stored = true := by
  obtain ⟨as, hra, has⟩ := hsim.run hp
  obtain ⟨bs, hrb, -⟩ := hsim.extend hp hra has hq
  exact stored_stays hrb hstored

theorem applied_iff (hsim : Simulates M machine okM onlyGood f g p₀)
    (hstart : Start ⟨f p₀.shared, p₀.threads.filterMap g⟩) (hp : M.Reach okM p₀ p)
    (hstored : (f p.shared).stored = true) (hq : M.Reach okM p q) (hidle : q.threads.filterMap g = [])
    (hfirst : (f q.shared).first.isSome) :
    (f q.shared).applied = true ↔
      ¬((f p.shared).taken = true ∧ (f p.shared).applied = false ∧
        ∀ t ∈ p.threads, ∀ a ∈ g t, Task.active a = false) := by
  obtain ⟨as, hra, has⟩ := hsim.run hp
  obtain ⟨bs, hrb, hbs⟩ := hsim.extend hp hra has hq
  rw [hidle] at hbs
  refine (applied_iff_not_missed hstart hra hstored hrb hbs.eq_nil hfirst).trans (not_congr ⟨fun hm => ?_, ?_⟩)
  · exact ⟨hm.taken, hm.applied, fun t ht a ha => hm.through a (has.mem_iff.2 (List.mem_filterMap.2 ⟨t, ht, ha⟩))⟩
  · rintro ⟨htaken, happlied, hthrough⟩
    refine ⟨htaken, happlied, fun a ha => ?_⟩
    obtain ⟨t, ht, hta⟩ := List.mem_filterMap.1 (has.mem_iff.1 ha)
    exact hthrough t ht a hta

end

/-! Messages that come one at a time. -/

def oneByOne : Guard State Task Bool Bool := fun _ us m =>
  match m with
  | .event _ => us = []
  | _ => True

theorem oneByOne_unordered : oneByOne.Unordered := by
  rintro s us us' (good | ⟨t, e⟩) hperm hok
  · exact List.perm_nil.1 (hok ▸ hperm.symm)
  · trivial

/-- The message under way is the first that arrived. -/
def FirstLocal (s : State) : Task → Prop
  | .receive good => s.taken = false → s.first = some good
  | .look good => s.first = some good
  | .apply => s.first = some true
  | .write => True

theorem first_sat (hp : Start p) (hstored : p.shared.stored = true) (h : machine.Reach oneByOne p q) :
    Sat (fun s => s.applied = true → s.first = some true) FirstLocal (fun _ _ => True) q.shared q.threads := by
  have hnone : p.threads = [] := by simpa [hstored] using hp.threads
  refine h.sat (fun _ _ h => h) ⟨by simp [hp.applied], by simp [hnone], by simp [hnone]⟩ ?_ ?_
  · intro s us good s' ts hr hI hus hok hev
    obtain ⟨rfl, rfl⟩ := Prod.mk.inj (Option.some.inj hev)
    obtain rfl : us = [] := hok
    -- nothing is under way, so the first message was filed or this is it
    have hheard : s.first = none ∨ s.taken = true := (heard hp hr).resolve_right (by simp)
    refine .one (fun ha => ?_) (fun ht => ?_) (by simp)
    · simp [hI ha]
    · simp [hheard.resolve_right (by simpa using ht)]
  · intro s us vs t e s' ts _ hI hL hus _ hst
    cases t with
    | write =>
      obtain ⟨rfl, rfl⟩ := Prod.mk.inj (Option.some.inj hst)
      cases e
      · exact .zero hI fun u hu => (hus u hu).1
      · refine .zero hI fun u hu => ?_
        have := (hus u hu).1
        cases u <;> exact this
    | receive good =>
      simp only [machine] at hst
      split at hst <;> obtain ⟨rfl, rfl⟩ := Prod.mk.inj (Option.some.inj hst)
      · exact .zero hI fun u hu => (hus u hu).1
      · next ht =>
        refine .one hI (hL (by simpa using ht)) fun u hu => ⟨?_, trivial⟩
        have := (hus u hu).1
        cases u with
        | receive b => nofun
        | _ => exact this
    | look good =>
      obtain ⟨rfl, rfl⟩ := Prod.mk.inj (Option.some.inj hst)
      split
      · next hb =>
        obtain rfl : good = true := (Bool.and_eq_true_iff.1 hb).2
        exact .one hI hL fun u hu => ⟨(hus u hu).1, trivial⟩
      · exact .zero hI fun u hu => (hus u hu).1
    | apply =>
      obtain ⟨rfl, rfl⟩ := Prod.mk.inj (Option.some.inj hst)
      refine .zero (fun _ => hL) fun u hu => ?_
      have := (hus u hu).1
      cases u <;> exact this

/-- A first message that calls for the effect gets it. -/
theorem first_applied (hp : Start p) (hstored : p.shared.stored = true) (h : machine.Reach oneByOne p q) :
    (q.shared.taken = true → q.shared.first = some true → q.shared.applied = true) ∨
      ∃ t ∈ q.threads, t.active = true := by
  refine h.kept (P := fun s => s.taken = true → s.first = some true → s.applied = true)
    (W := fun t => t.active = true) (.inl fun ht => by simp [hp.taken] at ht) ?_ ?_
  · intro s us good s' ts hr hP hok hev
    obtain ⟨rfl, rfl⟩ := Prod.mk.inj (Option.some.inj hev)
    refine .inl fun ht hf => hP ht ?_
    cases hs : s.first with
    | some b => simpa [hs] using hf
    | none =>
      have harrived := (sat hp hr).shared.arrived ht
      simp [hs] at harrived
  · intro s us vs t e s' ts hr hPW _ hst
    have hL := (first_sat hp hstored hr).locals t (by simp)
    cases t with
    | receive good =>
      simp only [machine] at hst
      split at hst <;> obtain ⟨rfl, rfl⟩ := Prod.mk.inj (Option.some.inj hst)
      · exact .inl (hPW.resolve_right nofun)
      · exact .inr ⟨_, .head _, rfl⟩
    | look good =>
      obtain ⟨rfl, rfl⟩ := Prod.mk.inj (Option.some.inj hst)
      rw [stored_stays hr hstored, Bool.true_and]
      cases good with
      | true => exact .inr ⟨_, .head _, rfl⟩
      | false => exact .inl fun _ hf => absurd (hL.symm.trans hf) (by simp)
    | apply =>
      obtain ⟨rfl, rfl⟩ := Prod.mk.inj (Option.some.inj hst)
      exact .inl fun _ _ => rfl
    | write =>
      obtain ⟨rfl, rfl⟩ := Prod.mk.inj (Option.some.inj hst)
      have hP := hPW.resolve_right nofun
      cases e <;> exact .inl hP

/-- Of a stream of messages about something that can be found, the first decides. -/
theorem applied_iff_first (hp : Start p) (hstored : p.shared.stored = true) (h : machine.Reach oneByOne p q)
    (hidle : q.threads = []) (hfirst : q.shared.first.isSome) :
    q.shared.applied = true ↔ q.shared.first = some true := by
  refine ⟨(first_sat hp hstored h).shared, fun hf => ?_⟩
  rcases first_applied hp hstored h with ha | ⟨t, ht, -⟩
  · exact ha (taken_of_idle hp h hidle hfirst) hf
  · simp [hidle] at ht

end Inbox
