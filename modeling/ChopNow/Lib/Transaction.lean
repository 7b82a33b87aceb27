import Mathlib.Tactic

/-! Database transactions: a body writes statement by statement and may throw at any of them;
what a body that throws has written is rolled back. -/

namespace Transaction

variable {σ ε α β : Type}

/-- The state that a body has written so far stands also when it throws. -/
abbrev Tx (σ ε : Type) := ExceptT ε (StateM σ)

def outcome (body : Tx σ ε α) (s : σ) : Except ε α × σ := Id.run (body.run.run s)

def transaction (body : Tx σ ε α) (s : σ) : σ × Except ε α :=
  match outcome body s with
  | (.ok a, work) => (work, .ok a)
  | (.error err, _) => (s, .error err)

/-- The body gets to its end. -/
def Yields (body : Tx σ ε α) (s : σ) (a : α) (s' : σ) : Prop := outcome body s = (.ok a, s')

theorem transaction_ok_iff {body : Tx σ ε α} {s s' : σ} {a : α} :
    transaction body s = (s', .ok a) ↔ Yields body s a s' := by
  unfold transaction Yields
  split
  · next heq => rw [heq]; simp [and_comm]
  · next heq => rw [heq]; simp

theorem transaction_error {body : Tx σ ε α} {s : σ} {err : ε} (h : (transaction body s).2 = .error err) :
    (transaction body s).1 = s := by
  unfold transaction at h ⊢
  split at h
  · cases h
  · rfl

/-- All of the body is done, or nothing. -/
theorem transaction_cases (body : Tx σ ε α) (s : σ) :
    (∃ a s', Yields body s a s' ∧ transaction body s = (s', .ok a)) ∨ ∃ err, transaction body s = (s, .error err) := by
  cases h : (transaction body s).2 with
  | error err => exact .inr ⟨err, Prod.ext (transaction_error h) h⟩
  | ok a =>
    have hok : transaction body s = ((transaction body s).1, .ok a) := Prod.ext rfl h
    exact .inl ⟨a, _, transaction_ok_iff.1 hok, hok⟩

/-! What each statement yields. -/

@[simp] theorem yields_pure {a b : α} {s s' : σ} : Yields (pure a : Tx σ ε α) s b s' ↔ a = b ∧ s = s' := by
  simp [Yields, outcome]

@[simp] theorem yields_throw {err : ε} {a : α} {s s' : σ} : ¬ Yields (throw err : Tx σ ε α) s a s' := by
  simp [Yields, outcome]

@[simp] theorem yields_get {a : σ} {s s' : σ} : Yields (get : Tx σ ε σ) s a s' ↔ s = a ∧ s = s' := by
  have hget : outcome (get : Tx σ ε σ) s = (.ok s, s) := rfl
  simp [Yields, hget]

@[simp] theorem yields_set {t : σ} {a : PUnit} {s s' : σ} : Yields (set t : Tx σ ε PUnit) s a s' ↔ t = s' := by
  have hset : outcome (set t : Tx σ ε PUnit) s = (.ok ⟨⟩, t) := rfl
  simp [Yields, hset]

@[simp] theorem yields_modify {f : σ → σ} {a : PUnit} {s s' : σ} :
    Yields (modify f : Tx σ ε PUnit) s a s' ↔ f s = s' := by
  have hmodify : outcome (modify f : Tx σ ε PUnit) s = (.ok ⟨⟩, f s) := rfl
  simp [Yields, hmodify]

@[simp] theorem yields_bind {x : Tx σ ε α} {f : α → Tx σ ε β} {s s'' : σ} {b : β} :
    Yields (x >>= f) s b s'' ↔ ∃ a s', Yields x s a s' ∧ Yields (f a) s' b s'' := by
  simp only [Yields, outcome, ExceptT.run_bind, StateT.run_bind]
  rcases h : Id.run (x.run.run s) with ⟨r, s'⟩
  cases r with
  | ok a => simp [h]
  | error err => simp [h]

@[simp] theorem yields_ite {c : Prop} [Decidable c] {x y : Tx σ ε α} {a : α} {s s' : σ} :
    Yields (if c then x else y) s a s' ↔ (c ∧ Yields x s a s') ∨ (¬ c ∧ Yields y s a s') := by
  split
  · next hc => simp [hc]
  · next hc => simp [hc]

end Transaction
