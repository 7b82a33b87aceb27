import Mathlib.Order.Basic
import Mathlib.Tactic

/-! Taking turns: whoever has waited longest among the equally good is served next. Two that
could always stand in for each other are then never served more than once apart, but for the
times that nobody kept. -/

namespace Turns

variable {α τ : Type*}

/-- When each was served last as far as anybody kept it, how often, and how often it was not kept. -/
@[ext] structure Served (α τ : Type*) where
  last : α → τ
  count : α → ℕ
  missed : α → ℕ

def Served.serve [DecidableEq α] (s : Served α τ) (a : α) (now : τ) : Served α τ where
  last := Function.update s.last a now
  count := Function.update s.count a (s.count a + 1)
  missed := s.missed

def Served.miss [DecidableEq α] (s : Served α τ) (a : α) : Served α τ where
  last := s.last
  count := Function.update s.count a (s.count a + 1)
  missed := Function.update s.missed a (s.missed a + 1)

section

variable [DecidableEq α] {s : Served α τ} {p a : α} {now : τ}

@[simp] theorem Served.serve_last_self : (s.serve a now).last a = now := Function.update_self ..

@[simp] theorem Served.serve_count_self : (s.serve a now).count a = s.count a + 1 := Function.update_self ..

@[simp] theorem Served.serve_missed : (s.serve a now).missed p = s.missed p := rfl

theorem Served.serve_last_of_ne (h : p ≠ a) : (s.serve a now).last p = s.last p := Function.update_of_ne h ..

theorem Served.serve_count_of_ne (h : p ≠ a) : (s.serve a now).count p = s.count p := Function.update_of_ne h ..

@[simp] theorem Served.miss_last : (s.miss a).last p = s.last p := rfl

@[simp] theorem Served.miss_count_self : (s.miss a).count a = s.count a + 1 := Function.update_self ..

@[simp] theorem Served.miss_missed_self : (s.miss a).missed a = s.missed a + 1 := Function.update_self ..

theorem Served.miss_count_of_ne (h : p ≠ a) : (s.miss a).count p = s.count p := Function.update_of_ne h ..

theorem Served.miss_missed_of_ne (h : p ≠ a) : (s.miss a).missed p = s.missed p := Function.update_of_ne h ..

end

variable [LinearOrder τ]

/-- But for what was not kept `p` is one turn ahead of `q` at most, and then it is `q` that has
waited longer. -/
structure Served.Fair (s : Served α τ) (p q : α) : Prop where
  ahead : s.count p ≤ s.count q + 1 + s.missed p
  waits : s.count p = s.count q + 1 + s.missed p → s.last q < s.last p

/-- Nobody has been served yet. -/
theorem Served.Fair.start {s : Served α τ} (h : ∀ a, s.count a = 0) (p q : α) : s.Fair p q where
  ahead := by
    rw [h p]
    exact Nat.zero_le _
  waits := fun heq => by
    rw [h p, h q] at heq
    omega

variable {s : Served α τ} {p q a : α} {now : τ}

/-- One is served that has waited at least as long as the other. -/
theorem Served.Fair.next [DecidableEq α] (h : s.Fair p q) (hne : p ≠ q) (hfirst : a = p → s.last p ≤ s.last q) (hnow : s.last q < now) :
    (s.serve a now).Fair p q := by
  have hahead := h.ahead
  by_cases hp : p = a
  · subst hp
    have hbehind : s.count p ≠ s.count q + 1 + s.missed p := fun heq =>
      absurd (h.waits heq) (not_lt.2 (hfirst rfl))
    refine ⟨?_, fun _ => ?_⟩
    · rw [serve_count_self, serve_count_of_ne hne.symm, serve_missed]
      omega
    · rwa [serve_last_self, serve_last_of_ne hne.symm]
  · by_cases hq : q = a
    · subst hq
      refine ⟨?_, fun heq => ?_⟩
      · rw [serve_count_self, serve_count_of_ne hp, serve_missed]
        omega
      · rw [serve_count_self, serve_count_of_ne hp, serve_missed] at heq
        omega
    · refine ⟨?_, fun heq => ?_⟩
      · rw [serve_count_of_ne hp, serve_count_of_ne hq]
        exact hahead
      · rw [serve_count_of_ne hp, serve_count_of_ne hq] at heq
        rw [serve_last_of_ne hp, serve_last_of_ne hq]
        exact h.waits heq

/-- One is served and nobody keeps it. -/
theorem Served.Fair.miss [DecidableEq α] (h : s.Fair p q) (hne : p ≠ q) : (s.miss a).Fair p q := by
  have hahead := h.ahead
  have hwaits := h.waits
  by_cases hp : p = a
  · subst hp
    refine ⟨?_, fun heq => hwaits ?_⟩
    · rw [miss_count_self, miss_count_of_ne hne.symm, miss_missed_self]
      omega
    · rw [miss_count_self, miss_count_of_ne hne.symm, miss_missed_self] at heq
      omega
  · by_cases hq : q = a
    · subst hq
      refine ⟨?_, fun heq => ?_⟩
      · rw [miss_count_self, miss_count_of_ne hp, miss_missed_of_ne hp]
        omega
      · rw [miss_count_self, miss_count_of_ne hp, miss_missed_of_ne hp] at heq
        omega
    · refine ⟨?_, fun heq => hwaits ?_⟩
      · rw [miss_count_of_ne hp, miss_count_of_ne hq, miss_missed_of_ne hp]
        exact hahead
      · rwa [miss_count_of_ne hp, miss_count_of_ne hq, miss_missed_of_ne hp] at heq

end Turns
