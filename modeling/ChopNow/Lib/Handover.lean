import ChopNow.Lib.Interleave

/-! An effect that is handed from thread to thread until one of them applies it. The
request that starts it is recorded first, so a thread that breaks with the effect
still ahead of it loses it for good: the same request, sent again, is turned away. -/

namespace Interleave

variable {σ τ ν ε : Type}

/-- Only steps, and only those whose statement lands. -/
def smooth (lands : ε → Prop) : Guard σ τ ν ε := fun _ _ m =>
  match m with
  | .event _ => False
  | .step _ e => lands e

/-- `pending` and `applied` speak of the state once the request is recorded: the
effect is still to come, or has been applied once. A thread that is `ahead` can
apply it, one that is `spent` has nothing to do with it any more. -/
structure Handover (M : Machine σ τ ν ε) (lands fails : ε → Prop) (pending applied : σ → Prop)
    (ahead : σ → τ → Prop) (spent : τ → Prop) : Prop where
  apart : ∀ s, pending s → ¬applied s
  exclusive : ∀ s t, ahead s t → ¬spent t
  spend : ∀ s t e s' ts, pending s ∨ applied s → spent t → M.step s t e = some (s', ts) →
    (∀ u ∈ ts, spent u) ∧ (pending s → pending s') ∧ (applied s → applied s') ∧ ∀ u, ahead s u → ahead s' u
  carry : ∀ s t e s' ts, pending s → ahead s t → lands e → M.step s t e = some (s', ts) →
    (pending s' ∧ ∃ u rest, ts.Perm (u :: rest) ∧ ahead s' u ∧ ∀ v ∈ rest, spent v) ∨
      applied s' ∧ ∀ u ∈ ts, spent u
  drop : ∀ s t e s' ts, pending s → ahead s t → fails e → M.step s t e = some (s', ts) →
    pending s' ∧ ∀ u ∈ ts, spent u

/-- What breaks an attempt: the process dies, or a statement of one thread throws. -/
inductive Fault (τ : Type)
  | crash
  | throws (t : τ)

def Fault.Strikes (M : Machine σ τ ν ε) (fails : ε → Prop) : Fault τ → Pool σ τ → Pool σ τ → Prop
  | .crash, q, q' => q' = ⟨q.shared, []⟩
  | .throws t, q, q' => ∃ us vs e s' ts, q.threads = us ++ t :: vs ∧ fails e ∧
      M.step q.shared t e = some (s', ts) ∧ q' = ⟨s', ts ++ (us ++ vs)⟩

/-- The fault breaks nothing that is `before` the effect. -/
def Fault.Spares (before : τ → Prop) (q : Pool σ τ) : Fault τ → Prop
  | .crash => ∀ u ∈ q.threads, ¬before u
  | .throws t => ¬before t

namespace Handover

variable {M : Machine σ τ ν ε} {lands fails : ε → Prop} {pending applied : σ → Prop} {ahead : σ → τ → Prop}
  {spent : τ → Prop}

/-- A pool in which the effect is still to come, or is there. -/
def Intact (pending applied : σ → Prop) (ahead : σ → τ → Prop) (spent : τ → Prop) (s : σ) (us : List τ) : Prop :=
  (pending s ∧ ∃ t rest, us.Perm (t :: rest) ∧ ahead s t ∧ ∀ u ∈ rest, spent u) ∨ applied s ∧ ∀ u ∈ us, spent u

/-- A pool in which nobody will apply it. -/
def Lost (pending : σ → Prop) (spent : τ → Prop) (s : σ) (us : List τ) : Prop := pending s ∧ ∀ u ∈ us, spent u

theorem intact_step (H : Handover M lands fails pending applied ahead spent) {s s' : σ} {us vs ts : List τ} {t : τ} {e : ε}
    (h : Intact pending applied ahead spent s (us ++ t :: vs)) (hland : lands e ∨ spent t)
    (hst : M.step s t e = some (s', ts)) : Intact pending applied ahead spent s' (ts ++ (us ++ vs)) := by
  have hmiddle : (us ++ t :: vs).Perm (t :: (us ++ vs)) := List.perm_middle
  rcases h with ⟨hp, u, rest, hperm, hahead, hrest⟩ | ⟨ha, hspent⟩
  · by_cases ht : spent t
    · -- some other thread is ahead
      obtain ⟨hts, hp', -, hframe⟩ := H.spend s t e s' ts (.inl hp) ht hst
      have hne : t ≠ u := fun heq => H.exclusive s u hahead (heq ▸ ht)
      have hmem : u ∈ us ++ vs := by
        have hu : u ∈ t :: (us ++ vs) := (hmiddle.symm.trans hperm).mem_iff.2 (.head _)
        exact (List.mem_cons.1 hu).resolve_left (Ne.symm hne)
      obtain ⟨a, b, hab⟩ := List.append_of_mem hmem
      obtain ⟨rest', hrest'⟩ : ∃ rest', (us ++ vs).Perm (u :: rest') := ⟨a ++ b, hab ▸ List.perm_middle⟩
      refine .inl ⟨hp' hp, u, ts ++ rest', ?_, hframe u hahead, fun v hv => ?_⟩
      · exact (hrest'.append_left ts).trans List.perm_middle
      · rcases List.mem_append.1 hv with hv | hv
        · exact hts v hv
        · have hall : (t :: u :: rest').Perm (u :: rest) :=
            (hrest'.symm.cons t).trans (hmiddle.symm.trans hperm)
          have hswap : (u :: t :: rest').Perm (u :: rest) := (List.Perm.swap t u rest').trans hall
          exact hrest v ((List.perm_cons u).1 hswap |>.mem_iff.1 (.tail _ hv))
    · -- `t` itself is
      have hmem : t ∈ u :: rest := (hmiddle.symm.trans hperm).mem_iff.1 (.head _)
      obtain rfl : t = u := (List.mem_cons.1 hmem).resolve_right fun hr => ht (hrest t hr)
      have hothers : ∀ v ∈ us ++ vs, spent v := fun v hv =>
        hrest v (((List.perm_cons t).1 (hmiddle.symm.trans hperm)).mem_iff.1 hv)
      rcases H.carry s t e s' ts hp hahead (hland.resolve_right ht) hst with ⟨hp', u, rest', hts, hu, hrest'⟩ | ⟨ha, hts⟩
      · refine .inl ⟨hp', u, rest' ++ (us ++ vs), hts.append_right _, hu, fun v hv => ?_⟩
        exact (List.mem_append.1 hv).elim (hrest' v) (hothers v)
      · exact .inr ⟨ha, fun v hv => (List.mem_append.1 hv).elim (hts v) (hothers v)⟩
  · obtain ⟨hts, -, ha', -⟩ := H.spend s t e s' ts (.inr ha) (hspent t (by simp)) hst
    refine .inr ⟨ha' ha, fun v hv => ?_⟩
    rcases List.mem_append.1 hv with hv | hv
    · exact hts v hv
    · exact hspent v (hmiddle.mem_iff.2 (.tail _ hv))

theorem lost_step (H : Handover M lands fails pending applied ahead spent) {s s' : σ} {us vs ts : List τ} {t : τ} {e : ε}
    (h : Lost pending spent s (us ++ t :: vs)) (hst : M.step s t e = some (s', ts)) :
    Lost pending spent s' (ts ++ (us ++ vs)) := by
  obtain ⟨ht, hothers⟩ := forall_middle.1 h.2
  obtain ⟨hts, hp, -, -⟩ := H.spend s t e s' ts (.inl h.1) ht hst
  refine ⟨hp h.1, fun v hv => ?_⟩
  rcases List.mem_append.1 hv with hv | hv
  · exact hts v hv
  · exact hothers v hv

theorem intact_run (H : Handover M lands fails pending applied ahead spent) {p q : Pool σ τ}
    (hp : Intact pending applied ahead spent p.shared p.threads) (h : M.Reach (smooth lands) p q) :
    Intact pending applied ahead spent q.shared q.threads :=
  h.invariant (J := Intact pending applied ahead spent) hp (fun _ _ _ _ _ _ _ hok _ => absurd hok id)
    fun _ _ _ _ _ _ _ _ hi hok hst => H.intact_step hi (.inl hok) hst

theorem lost_run (H : Handover M lands fails pending applied ahead spent) {p q : Pool σ τ}
    (hp : Lost pending spent p.shared p.threads) (h : M.Reach (smooth lands) p q) :
    Lost pending spent q.shared q.threads :=
  h.invariant (J := Lost pending spent) hp (fun _ _ _ _ _ _ _ hok _ => absurd hok id)
    fun _ _ _ _ _ _ _ _ hi _ hst => H.lost_step hi hst

/-- An attempt runs to `q`, a fault strikes, and later the request comes once more: in
the end the effect is there if the fault broke nothing before it, and not otherwise. -/
theorem redelivered (H : Handover M lands fails pending applied ahead spent) {p q q' r : Pool σ τ} {f : Fault τ}
    {s : σ} {t₀ : τ} {before : τ → Prop} (hbefore : ∀ s u, ahead s u → before u) (hspent : ∀ u, spent u → ¬before u)
    (hp : Intact pending applied ahead spent p.shared p.threads) (hq : M.Reach (smooth lands) p q)
    (hf : f.Strikes M fails q q')
    (hlater : (pending q'.shared → pending s) ∧ (applied q'.shared → applied s) ∧ ∀ u, ahead q'.shared u → ahead s u)
    (ht₀ : spent t₀) (hr : M.Reach (smooth lands) ⟨s, t₀ :: q'.threads⟩ r) (hdone : ∀ u ∈ r.threads, spent u) :
    applied r.shared ∧ f.Spares before q ∨ pending r.shared ∧ ¬f.Spares before q := by
  have hcons : ∀ {us : List τ}, (∀ u ∈ us, spent u) → ∀ u ∈ t₀ :: us, spent u := fun h u hu =>
    (List.mem_cons.1 hu).elim (fun heq => heq ▸ ht₀) (h u)
  -- intact after the fault means applied in the end, lost means not
  have hkept : Intact pending applied ahead spent q'.shared q'.threads → applied r.shared := by
    intro hi
    have hi' : Intact pending applied ahead spent s (t₀ :: q'.threads) := by
      rcases hi with ⟨hpend, t, rest, hperm, hahead, hrest⟩ | ⟨ha, hall⟩
      · exact .inl ⟨hlater.1 hpend, t, t₀ :: rest, (hperm.cons t₀).trans (List.Perm.swap t t₀ rest),
          hlater.2.2 t hahead, hcons hrest⟩
      · exact .inr ⟨hlater.2.1 ha, hcons hall⟩
    rcases H.intact_run hi' hr with ⟨-, t, rest, hperm, hahead, -⟩ | ⟨ha, -⟩
    · exact absurd (hdone t (hperm.mem_iff.2 (.head _))) (H.exclusive _ t hahead)
    · exact ha
  have hlost : Lost pending spent q'.shared q'.threads → pending r.shared := fun hl =>
    (H.lost_run (p := ⟨s, t₀ :: q'.threads⟩) ⟨hlater.1 hl.1, hcons hl.2⟩ hr).1
  have hi := H.intact_run hp hq
  cases f with
  | crash =>
    obtain rfl := hf
    rcases hi with ⟨hpend, t, rest, hperm, hahead, -⟩ | ⟨ha, hall⟩
    · have hmem : t ∈ q.threads := hperm.mem_iff.2 (.head _)
      exact .inr ⟨hlost ⟨hpend, by simp⟩, fun hspares => hspares t hmem (hbefore _ t hahead)⟩
    · exact .inl ⟨hkept (.inr ⟨ha, by simp⟩), fun u hu => hspent u (hall u hu)⟩
  | throws t =>
    obtain ⟨us, vs, e, s', ts, hsplit, hfail, hst, rfl⟩ := hf
    rw [hsplit] at hi
    by_cases ht : spent t
    · exact .inl ⟨hkept (H.intact_step hi (.inr ht) hst), hspent t ht⟩
    · rcases hi with ⟨hpend, u, rest, hperm, hahead, hrest⟩ | ⟨-, hall⟩
      · have hmiddle : (us ++ t :: vs).Perm (t :: (us ++ vs)) := List.perm_middle
        have hmem : t ∈ u :: rest := (hmiddle.symm.trans hperm).mem_iff.1 (.head _)
        obtain rfl : t = u := (List.mem_cons.1 hmem).resolve_right fun hr => ht (hrest t hr)
        obtain ⟨hpend', hts⟩ := H.drop q.shared t e s' ts hpend hahead hfail hst
        refine .inr ⟨hlost ⟨hpend', fun v hv => ?_⟩, fun hspares => hspares (hbefore _ t hahead)⟩
        rcases List.mem_append.1 hv with hv | hv
        · exact hts v hv
        · exact hrest v (((List.perm_cons t).1 (hmiddle.symm.trans hperm)).mem_iff.1 hv)
      · exact absurd (hall t (by simp)) ht

end Handover

end Interleave
