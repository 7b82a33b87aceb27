import Mathlib.Tactic

/-! A batch handles its rows one after the other over one state. Where a row touches nothing
that another one looks at, each comes out as if it had the state for itself. -/

namespace Batch

variable {σ ι ω υ : Type*}

/-- `handle i s o s'`: row `i`, found in `s`, comes out as `o` and leaves `s'` behind. -/
inductive Ran (handle : ι → σ → ω → σ → Prop) : σ → List (ι × ω) → σ → Prop
  | done (s : σ) : Ran handle s [] s
  | row {i : ι} {o : ω} {s s₁ s' : σ} {rows : List (ι × ω)} : handle i s o s₁ → Ran handle s₁ rows s' →
      Ran handle s ((i, o) :: rows) s'

/-- What row `j` looks at is no other row's business. -/
def Separate (handle : ι → σ → ω → σ → Prop) (view : ι → σ → υ) : Prop :=
  ∀ i s o s', handle i s o s' → ∀ j, j ≠ i → view j s' = view j s

variable {handle : ι → σ → ω → σ → Prop} {view : ι → σ → υ} {s s' : σ} {rows : List (ι × ω)} {i j : ι} {o : ω}

/-- The frame of a whole batch. -/
theorem Ran.untouched (h : Ran handle s rows s') (hsep : Separate handle view) (hj : j ∉ rows.map Prod.fst) :
    view j s' = view j s := by
  induction h with
  | done s => rfl
  | row hrow _ ih =>
    rw [List.map_cons, List.mem_cons, not_or] at hj
    rw [ih hj.2, hsep _ _ _ _ hrow _ hj.1]

/-- Each row met what the batch began with, and what it left is there at the end. Meanwhile there holds
whatever every row keeps. -/
theorem Ran.apart {I : σ → Prop} (h : Ran handle s rows s') (hsep : Separate handle view)
    (hkeep : ∀ i s o s', handle i s o s' → I s → I s') (hs : I s) (hnodup : (rows.map Prod.fst).Nodup) (hrow : (i, o) ∈ rows) :
    ∃ s₁ s₂, I s₁ ∧ handle i s₁ o s₂ ∧ view i s₁ = view i s ∧ view i s' = view i s₂ := by
  induction h with
  | done s => cases hrow
  | @row i' o' s s₁ s' rows hhead hrest ih =>
    rw [List.map_cons, List.nodup_cons] at hnodup
    rcases List.mem_cons.1 hrow with heq | htail
    · obtain ⟨rfl, rfl⟩ := Prod.mk.inj heq
      exact ⟨s, s₁, hs, hhead, rfl, hrest.untouched hsep hnodup.1⟩
    · obtain ⟨t₁, t₂, ht, hhandle, hbefore, hafter⟩ := ih (hkeep _ _ _ _ hhead hs) hnodup.2 htail
      have hne : i ≠ i' := by
        rintro rfl
        exact hnodup.1 (List.mem_map.2 ⟨(i, o), htail, rfl⟩)
      exact ⟨t₁, t₂, ht, hhandle, hbefore.trans (hsep _ _ _ _ hhead _ hne), hafter⟩

end Batch
