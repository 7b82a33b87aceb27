import ChopNow.Lib.Interleave

/-! A check lets through what is only done later, and others may come in between. Counted
together, what is done and what is on its way stay below the limit that the check sees and
the number of calls that are ever at work together. -/

namespace Interleave

variable {σ τ ν ε : Type} {M : Machine σ τ ν ε} {ok : Guard σ τ ν ε} {p q : Pool σ τ}
  {stock : σ → ℕ} {working passed : τ → Bool} {below peak : ℕ}

/-- What is in stock, and what the threads that passed the check will add. -/
def load (stock : σ → ℕ) (passed : τ → Bool) (s : σ) (us : List τ) : ℕ := stock s + us.countP passed

/-- A move either adds nothing to the load, or has just seen less than the limit. -/
def Adds (stock : σ → ℕ) (passed : τ → Bool) (below : ℕ) (s : σ) (us : List τ) (s' : σ) (ts : List τ) : Prop :=
  load stock passed s' ts ≤ load stock passed s us ∨ stock s' ≤ below

theorem load_append {s : σ} {ts us : List τ} :
    load stock passed s (ts ++ us) = load stock passed s ts + us.countP passed := by
  rw [load, load, List.countP_append]
  omega

theorem load_middle {s : σ} {us vs : List τ} {t : τ} :
    load stock passed s (us ++ t :: vs) = load stock passed s [t] + (us ++ vs).countP passed := by
  rw [load, load, countP_middle, List.countP_singleton]
  omega

/-- One move, with `us` the other threads. -/
theorem Adds.load_le {s s' : σ} {ts ts' us : List τ} (h : Adds stock passed below s ts s' ts')
    (hpassed : ∀ t, passed t = true → working t = true) (hload : load stock passed s (ts ++ us) ≤ below + peak)
    (hpeak : (ts' ++ us).countP working ≤ peak) : load stock passed s' (ts' ++ us) ≤ below + peak := by
  rcases h with hle | hbelow
  · rw [load_append] at hload ⊢
    omega
  · have hcount : (ts' ++ us).countP passed ≤ (ts' ++ us).countP working := List.countP_mono_left fun t _ => hpassed t
    unfold load
    omega

/-- The rule: `peak` bounds the calls at work, and each move obeys the check. -/
theorem Machine.Reach.load_le (h : M.Reach ok p q) (hpassed : ∀ t, passed t = true → working t = true)
    (hworking : p.threads.countP working ≤ peak) (hload : load stock passed p.shared p.threads ≤ below + peak)
    (hevent : ∀ s us n s' ts, ok s us (.event n) → M.event s n = some (s', ts) → us.countP working ≤ peak →
      (ts ++ us).countP working ≤ peak ∧ Adds stock passed below s [] s' ts)
    (hstep : ∀ s us t e s' ts, ok s us (.step t e) → M.step s t e = some (s', ts) →
      ts.countP working ≤ [t].countP working ∧ Adds stock passed below s [t] s' ts) :
    load stock passed q.shared q.threads ≤ below + peak := by
  refine (h.invariant (J := fun s us => us.countP working ≤ peak ∧ load stock passed s us ≤ below + peak)
    ⟨hworking, hload⟩ ?_ ?_).2
  · rintro s us n s' ts - ⟨hworking, hload⟩ hok hev
    obtain ⟨hpeak, hadds⟩ := hevent s us n s' ts hok hev hworking
    exact ⟨hpeak, hadds.load_le hpassed hload hpeak⟩
  · rintro s us vs t e s' ts - ⟨hworking, hload⟩ hok hst
    obtain ⟨hfewer, hadds⟩ := hstep s (us ++ vs) t e s' ts hok hst
    rw [countP_middle] at hworking
    rw [List.countP_singleton] at hfewer
    have hpeak : (ts ++ (us ++ vs)).countP working ≤ peak := by
      rw [List.countP_append]
      omega
    rw [load_middle, ← load_append] at hload
    exact ⟨hpeak, hadds.load_le hpassed hload hpeak⟩

end Interleave
