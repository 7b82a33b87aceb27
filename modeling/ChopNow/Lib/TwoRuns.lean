import Mathlib.Data.List.Forall2
import Mathlib.Tactic

/-! Two runs of one deterministic system, compared by what they answer. -/

namespace TwoRuns

variable {σ ι ο : Type*} (step : σ → ι → σ × ο)

/-- What a run answers, call by call. -/
def outputs : σ → List ι → List ο
  | _, [] => []
  | s, i :: is => (step s i).2 :: outputs (step s i).1 is

/-- `P` holds before each call of the run. -/
def Along (P : σ → ι → Prop) : σ → List ι → Prop
  | _, [] => True
  | s, i :: is => P s i ∧ Along P (step s i).1 is

variable {step} {R : σ → σ → Prop} {Q : ι → ι → Prop} {P S : σ → ι → Prop} {s t : σ} {is js : List ι}

/-- Where each pair of calls keeps the states related, and answers alike unless `S`, the
runs answer alike unless `S` holds somewhere. -/
theorem outputs_eq_iff
    (hstep : ∀ s t i j, R s t → Q i j → P s i →
      R (step s i).1 (step t j).1 ∧ ((step s i).2 = (step t j).2 ↔ ¬S s i))
    (hst : R s t) (hij : List.Forall₂ Q is js) (hP : Along step P s is) :
    outputs step s is = outputs step t js ↔ Along step (fun s i => ¬S s i) s is := by
  induction hij generalizing s t with
  | nil => simp [outputs, Along]
  | @cons i j is js hi _ ih =>
    obtain ⟨hR, hout⟩ := hstep s t i j hst hi hP.1
    simp only [outputs, Along, List.cons.injEq]
    rw [hout, ih hR hP.2]

end TwoRuns
