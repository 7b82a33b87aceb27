import Mathlib.Logic.Relation
import Mathlib.Tactic

/-! A thread that runs on its own from one of its points to another, the outside
answering each of its steps with what `lands` admits. -/

namespace Alone

open Relation

variable {σ τ ε : Type*} {step : σ → τ → ε → Option (σ × τ)} {lands : ε → Bool} {s s' s'' : σ} {t t' t'' : τ} {e : ε}

def Runs (step : σ → τ → ε → Option (σ × τ)) (lands : ε → Bool) (s : σ) (t : τ) (s' : σ) (t' : τ) : Prop :=
  ReflTransGen (fun p q : σ × τ => ∃ e, lands e = true ∧ step p.1 p.2 e = some q) (s, t) (s', t')

theorem Runs.refl : Runs step lands s t s t := ReflTransGen.refl

theorem Runs.head (he : lands e = true) (hst : step s t e = some (s', t')) (h : Runs step lands s' t' s'' t'') :
    Runs step lands s t s'' t'' := ReflTransGen.head ⟨e, he, hst⟩ h

/-- A run that is not over has a next step. -/
theorem Runs.next (h : Runs step lands s t s'' t'') (hne : t ≠ t'') :
    ∃ e s' t', lands e = true ∧ step s t e = some (s', t') ∧ Runs step lands s' t' s'' t'' := by
  rcases ReflTransGen.cases_head h with heq | ⟨⟨s', t'⟩, ⟨e, he, hst⟩, hrest⟩
  · exact absurd (Prod.mk.inj heq).2 hne
  · exact ⟨e, s', t', he, hst, hrest⟩

/-- A point without a next step is the last one. -/
theorem Runs.stopped (h : Runs step lands s t s' t') (hstop : ∀ e, step s t e = none) : s' = s ∧ t' = t := by
  rcases ReflTransGen.cases_head h with heq | ⟨q, ⟨e, -, hst⟩, -⟩
  · exact (Prod.mk.inj heq).imp Eq.symm Eq.symm
  · rw [hstop e] at hst
    cases hst

/-- Where the outside has one answer only, the next step is the one that it allows. -/
theorem Runs.forced_iff (hlands : lands e = true) (honly : ∀ e', lands e' = true → e' = e)
    (hst : step s t e = some (s', t')) (hne : t ≠ t'') :
    Runs step lands s t s'' t'' ↔ Runs step lands s' t' s'' t'' := by
  refine ⟨fun h => ?_, fun h => .head hlands hst h⟩
  obtain ⟨e', s₁, t₁, he', hst', hrest⟩ := h.next hne
  obtain rfl := honly e' he'
  obtain ⟨rfl, rfl⟩ := Prod.mk.inj (Option.some.inj (hst.symm.trans hst'))
  exact hrest

/-- Replay answers, stopping at one that is impossible or not admitted. -/
def replay (step : σ → τ → ε → Option (σ × τ)) (lands : ε → Bool) (s : σ) (t : τ) : List ε → Option (σ × τ)
  | [] => some (s, t)
  | e :: es => if lands e then (step s t e).bind fun r => replay step lands r.1 r.2 es else none

theorem runs_of_replay {es : List ε} (h : replay step lands s t es = some (s', t')) : Runs step lands s t s' t' := by
  induction es generalizing s t with
  | nil =>
    obtain ⟨rfl, rfl⟩ := Prod.mk.inj (Option.some.inj h)
    exact .refl
  | cons e es ih =>
    simp only [replay] at h
    split at h
    · next he =>
      obtain ⟨r, hst, hrest⟩ := Option.bind_eq_some_iff.1 h
      exact .head he hst (ih hrest)
    · cases h

end Alone
