import ChopNow.Lib.Interleave

/-! One machine seen as another. A state is mapped, a thread is mapped or
forgotten, and each move becomes a move of the other machine or none at all. -/

namespace Interleave

variable {σ τ ν ε σ' τ' ν' ε' : Type}

/-- How the abstract machine answers a move that turns the threads `before` into
`after`, next to `us`. -/
inductive Matched (N : Machine σ' τ' ν' ε') (ok : Guard σ' τ' ν' ε') (us : List τ') (s : σ') :
    List τ' → σ' → List τ' → Prop
  | stutter {ts : List τ'} : Matched N ok us s ts s ts
  | event {n : ν'} {s₁ : σ'} {ts : List τ'} (hok : ok s us (.event n)) (h : N.event s n = some (s₁, ts)) :
      Matched N ok us s [] s₁ ts
  | step {a : τ'} {e : ε'} {s₁ : σ'} {ts : List τ'} (hok : ok s us (.step a e))
      (h : N.step s a e = some (s₁, ts)) : Matched N ok us s [a] s₁ ts

/-- The order of threads in a pool does not matter to a condition. -/
def Guard.Unordered (ok : Guard σ τ ν ε) : Prop := ∀ s us us' m, us.Perm us' → ok s us m → ok s us' m

theorem Matched.reach {N : Machine σ' τ' ν' ε'} {ok : Guard σ' τ' ν' ε'} (hun : ok.Unordered) {p : Pool σ' τ'}
    {us before after as : List τ'} {s s₁ : σ'} (h : Matched N ok us s before s₁ after)
    (hr : N.Reach ok p ⟨s, as⟩) (has : as.Perm (before ++ us)) :
    ∃ as', N.Reach ok p ⟨s₁, as'⟩ ∧ as'.Perm (after ++ us) := by
  cases h with
  | stutter => exact ⟨as, hr, has⟩
  | event hok hev => exact ⟨_, hr.event (hun _ _ _ _ has.symm hok) hev, has.append_left _⟩
  | @step a e _ _ hok hst =>
    obtain ⟨l, r, rfl⟩ := List.append_of_mem (has.mem_iff.2 (List.mem_append_left _ (List.mem_singleton_self a)))
    have hrest : (l ++ r).Perm us := (List.perm_middle.symm.trans has).cons_inv
    exact ⟨_, hr.step (hun _ _ _ _ hrest.symm hok) hst, hrest.append_left _⟩

/-- Stuttering simulation of the runs of `M` from `p`: each move of such a run,
next to any matching run of `N`, is answered. -/
structure Simulates (M : Machine σ τ ν ε) (N : Machine σ' τ' ν' ε') (ok : Guard σ τ ν ε) (ok' : Guard σ' τ' ν' ε')
    (f : σ → σ') (g : τ → Option τ') (p : Pool σ τ) : Prop where
  unordered : ok'.Unordered
  event : ∀ {s us n s' ts as}, M.Reach ok p ⟨s, us⟩ →
    N.Reach ok' ⟨f p.shared, p.threads.filterMap g⟩ ⟨f s, as⟩ → as.Perm (us.filterMap g) →
    ok s us (.event n) → M.event s n = some (s', ts) →
    Matched N ok' (us.filterMap g) (f s) [] (f s') (ts.filterMap g)
  step : ∀ {s us vs t e s' ts as}, M.Reach ok p ⟨s, us ++ t :: vs⟩ →
    N.Reach ok' ⟨f p.shared, p.threads.filterMap g⟩ ⟨f s, as⟩ →
    as.Perm ((g t).toList ++ (us ++ vs).filterMap g) → ok s (us ++ vs) (.step t e) →
    M.step s t e = some (s', ts) →
    Matched N ok' ((us ++ vs).filterMap g) (f s) (g t).toList (f s') (ts.filterMap g)

namespace Simulates

variable {M : Machine σ τ ν ε} {N : Machine σ' τ' ν' ε'} {ok : Guard σ τ ν ε} {ok' : Guard σ' τ' ν' ε'}
  {f : σ → σ'} {g : τ → Option τ'} {p q r : Pool σ τ} {as : List τ'}

/-- From a matched pool on, the rest of a run is a run of `N`, up to the order of threads. -/
theorem extend (h : Simulates M N ok ok' f g p) (hpq : M.Reach ok p q)
    (hra : N.Reach ok' ⟨f p.shared, p.threads.filterMap g⟩ ⟨f q.shared, as⟩) (has : as.Perm (q.threads.filterMap g))
    (hqr : M.Reach ok q r) :
    ∃ bs, N.Reach ok' ⟨f q.shared, as⟩ ⟨f r.shared, bs⟩ ∧ bs.Perm (r.threads.filterMap g) := by
  induction hqr with
  | refl => exact ⟨as, .refl, has⟩
  | @event s us n s' ts hr hok hev ih =>
    obtain ⟨bs, hrb, hbs⟩ := ih
    have hm := h.event (hpq.trans hr) (hra.trans hrb) hbs hok hev
    obtain ⟨bs', hrb', hbs'⟩ := hm.reach h.unordered hrb hbs
    exact ⟨bs', hrb', by simpa using hbs'⟩
  | @step s us vs t e s' ts hr hok hst ih =>
    obtain ⟨bs, hrb, hbs⟩ := ih
    have hbs : bs.Perm ((g t).toList ++ (us ++ vs).filterMap g) := by
      refine hbs.trans ?_
      cases hg : g t with
      | none => simp [hg]
      | some a => simp [hg, List.perm_middle]
    have hm := h.step (hpq.trans hr) (hra.trans hrb) hbs hok hst
    obtain ⟨bs', hrb', hbs'⟩ := hm.reach h.unordered hrb hbs
    exact ⟨bs', hrb', by simpa using hbs'⟩

theorem run (h : Simulates M N ok ok' f g p) (hpq : M.Reach ok p q) :
    ∃ as, N.Reach ok' ⟨f p.shared, p.threads.filterMap g⟩ ⟨f q.shared, as⟩ ∧ as.Perm (q.threads.filterMap g) :=
  h.extend .refl .refl (.refl _) hpq

end Simulates

end Interleave
