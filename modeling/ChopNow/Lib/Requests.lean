import Mathlib.Data.List.Basic
import Mathlib.Tactic

/-! Requests that are served one after the other: which of them spoils a run that was in
order before. -/

namespace Requests

variable {σ ε : Type*} {step : σ → ε → σ} {I P : σ → Prop} {C : σ → ε → Prop} {s : σ} {es : List ε}

/-- `P` holds all along a run if and only if each request meets the condition under which
it keeps `P`. -/
theorem all_along_iff (hI : ∀ s e, I s → P s → I (step s e)) (hstep : ∀ s e, I s → P s → (P (step s e) ↔ C s e))
    (hs : I s) (hP : P s) :
    (∀ m, P ((es.take m).foldl step s)) ↔ ∀ m e, es[m]? = some e → C ((es.take m).foldl step s) e := by
  induction es generalizing s with
  | nil => simp [hP]
  | cons e es ih =>
    constructor
    · intro h
      have hnext : P (step s e) := by simpa using h 1
      have hrest := (ih (hI s e hs hP) hnext).1 fun m => by simpa using h (m + 1)
      rintro (_ | m) e' he'
      · obtain rfl : e = e' := by simpa using he'
        exact (hstep s e hs hP).1 hnext
      · simpa using hrest m e' (by simpa using he')
    · intro h
      have hnext : P (step s e) := (hstep s e hs hP).2 (by simpa using h 0 e)
      have hrest := (ih (hI s e hs hP) hnext).2 fun m e' he' => by simpa using h (m + 1) e' (by simpa using he')
      rintro (_ | m)
      · exact hP
      · simpa using hrest m

end Requests
