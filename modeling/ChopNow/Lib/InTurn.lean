import ChopNow.Lib.Interleave

/-! Calls that take turns. `A` holds while nobody is at work; whoever is at work does
so alone, with `L` between its steps. -/

namespace Interleave

variable {σ τ ν ε : Type} {A : σ → Prop} {L : σ → τ → Prop} {busy : τ → Bool} {s s' : σ} {us vs ts : List τ} {t : τ}

/-- Nobody is at work, or one thread is. -/
def InTurn (busy : τ → Bool) (A : σ → Prop) (L : σ → τ → Prop) (s : σ) (us : List τ) : Prop :=
  us.filter busy = [] ∧ A s ∨ ∃ t, us.filter busy = [t] ∧ L s t

theorem InTurn.idle (h : InTurn busy A L s us) (hidle : ∀ u ∈ us, busy u = false) : A s := by
  rcases h with ⟨-, hA⟩ | ⟨t, ht, -⟩
  · exact hA
  · have hmem : t ∈ us.filter busy := by rw [ht]; exact .head _
    obtain ⟨hus, hbusy⟩ := List.mem_filter.1 hmem
    rw [hidle t hus] at hbusy
    cases hbusy

theorem InTurn.of_idle (hidle : ∀ u ∈ us, busy u = false) (hA : A s) : InTurn busy A L s us :=
  .inl ⟨List.filter_eq_nil_iff.2 fun u hu => by simp [hidle u hu], hA⟩

theorem InTurn.append (h : InTurn busy A L s ts) (hus : us.filter busy = []) : InTurn busy A L s (ts ++ us) := by
  unfold InTurn
  rw [List.filter_append, hus, List.append_nil]
  exact h

/-- The one at work is the one that steps. -/
theorem InTurn.alone (h : InTurn busy A L s (us ++ t :: vs)) (ht : busy t = true) :
    (us ++ vs).filter busy = [] ∧ L s t := by
  have hsplit : (us ++ t :: vs).filter busy = us.filter busy ++ t :: vs.filter busy := by
    rw [List.filter_append, List.filter_cons_of_pos ht]
  rcases h with ⟨hnil, -⟩ | ⟨t', hone, hL⟩
  · rw [hsplit] at hnil
    simp at hnil
  · rw [hsplit] at hone
    rw [List.filter_append]
    cases hus : us.filter busy with
    | nil =>
      rw [hus] at hone
      obtain ⟨rfl, hvs⟩ := List.cons.inj hone
      exact ⟨by rw [hvs, List.append_nil], hL⟩
    | cons u rest =>
      rw [hus] at hone
      exact absurd (List.cons.inj hone).2 (by simp)

/-- The rule: an idle thread does nothing, an event starts work only where nobody is at
it, and a step of the one at work leads on or ends where `A` holds again. -/
theorem Machine.Reach.inTurn {M : Machine σ τ ν ε} {ok : Guard σ τ ν ε} {p q : Pool σ τ} (h : M.Reach ok p q)
    (hidle : ∀ s t e, busy t = false → M.step s t e = none) (hp : InTurn busy A L p.shared p.threads)
    (harrive : ∀ s us n s' ts, ok s us (.event n) → M.event s n = some (s', ts) → us.filter busy = [] → A s →
      InTurn busy A L s' ts)
    (hmeanwhile : ∀ s us n s' ts t, ok s us (.event n) → M.event s n = some (s', ts) → t ∈ us → busy t = true → L s t →
      ts.filter busy = [] ∧ L s' t)
    (hstep : ∀ s us t e s' ts, ok s us (.step t e) → M.step s t e = some (s', ts) → L s t → InTurn busy A L s' ts) :
    InTurn busy A L q.shared q.threads := by
  refine h.invariant (J := InTurn busy A L) hp ?_ ?_
  · intro s us n s' ts _ hI hok hev
    rcases hI with ⟨hus, hA⟩ | ⟨t, ht, hL⟩
    · exact (harrive s us n s' ts hok hev hus hA).append hus
    · have hmem : t ∈ us.filter busy := by rw [ht]; exact .head _
      obtain ⟨hts, hL'⟩ := hmeanwhile s us n s' ts t hok hev (List.mem_filter.1 hmem).1 (List.mem_filter.1 hmem).2 hL
      exact .inr ⟨t, by rw [List.filter_append, hts, ht, List.nil_append], hL'⟩
  · intro s us vs t e s' ts _ hI hok hst
    have hbusy : busy t = true := by
      by_contra hnot
      rw [hidle s t e (by simpa using hnot)] at hst
      cases hst
    obtain ⟨hothers, hL⟩ := hI.alone hbusy
    exact (hstep s _ t e s' ts hok hst hL).append hothers

end Interleave
