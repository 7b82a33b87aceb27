import Mathlib.Data.List.Count
import Mathlib.Tactic

/-! A quota for each key: of the things that come, the first few of each key are let
through. A class of keys has no quota of its own. -/

namespace Quota

variable {α κ : Type*} [DecidableEq κ]

/-- What is let through, after `used k` things of each key `k` have come. -/
def admitted (key : α → κ) (limit : ℕ) (used : κ → ℕ) : List α → List α
  | [] => []
  | x :: xs =>
    if limit < used (key x) + 1 then admitted key limit (Function.update used (key x) (used (key x) + 1)) xs
    else x :: admitted key limit (Function.update used (key x) (used (key x) + 1)) xs

variable {key : α → κ} {limit : ℕ} {used : κ → ℕ} {p : κ → Bool} {xs : List α} {x y : α} {k l : κ}

theorem admitted_sublist : (admitted key limit used xs).Sublist xs := by
  induction xs generalizing used with
  | nil => exact .slnil
  | cons x xs ih =>
    unfold admitted
    split
    · exact ih.cons x
    · exact ih.cons_cons x

/-- Of one key: what is left of its quota. -/
theorem countP_admitted (k : κ) : (admitted key limit used xs).countP (fun x => key x = k) =
    min (limit - used k) (xs.countP fun x => key x = k) := by
  induction xs generalizing used with
  | nil => simp [admitted]
  | cons x xs ih =>
    unfold admitted
    by_cases hk : key x = k
    · subst hk
      split <;> simp only [List.countP_cons, ih, Function.update_self, decide_true, if_true] <;> omega
    · have hused : Function.update used (key x) (used (key x) + 1) k = used k := Function.update_of_ne (Ne.symm hk) ..
      split <;> simp only [List.countP_cons, ih, hused, hk, decide_false, Bool.false_eq_true, if_false, add_zero]

/-- Where no key of the class is above its quota, all of the class is let through. -/
theorem countP_admitted_of_le (h : ∀ k, p k = true → used k + xs.countP (fun x => key x = k) ≤ limit) :
    (admitted key limit used xs).countP (fun x => p (key x)) = xs.countP fun x => p (key x) := by
  induction xs generalizing used with
  | nil => rfl
  | cons x xs ih =>
    have hrest : ∀ k, p k = true →
        Function.update used (key x) (used (key x) + 1) k + xs.countP (fun x => key x = k) ≤ limit := by
      intro k hk
      have hle := h k hk
      by_cases hx : key x = k
      · subst hx
        rw [Function.update_self]
        simp only [List.countP_cons, decide_true, if_true] at hle
        omega
      · rw [Function.update_of_ne (Ne.symm hx)]
        simpa [List.countP_cons, hx] using hle
    unfold admitted
    by_cases hx : p (key x) = true
    · have hle := h _ hx
      simp only [List.countP_cons, decide_true, if_true] at hle
      rw [if_neg (by omega), List.countP_cons, List.countP_cons, ih hrest]
    · split <;> simp only [List.countP_cons, ih hrest, hx, Bool.false_eq_true, if_false, add_zero]

theorem countP_add_le (hk : p k = true) (hl : p l = true) (hne : k ≠ l) :
    xs.countP (fun x => key x = k) + xs.countP (fun x => key x = l) ≤ xs.countP fun x => p (key x) := by
  induction xs with
  | nil => simp
  | cons x xs ih =>
    simp only [List.countP_cons]
    by_cases hxk : key x = k
    · simp [hxk, hk, hne]
      omega
    · by_cases hxl : key x = l
      · simp [hxl, hl, Ne.symm hne]
        omega
      · simp only [hxk, hxl, decide_false, Bool.false_eq_true, if_false, add_zero]
        omega

/-- The class keeps to one quota exactly when it has no more things than that, or one key
only (or when nothing is let through at all). -/
theorem class_quota_iff : (admitted key limit (fun _ => 0) xs).countP (fun x => p (key x)) ≤ limit ↔
    limit = 0 ∨ xs.countP (fun x => p (key x)) ≤ limit ∨
      ∀ x ∈ xs, ∀ y ∈ xs, p (key x) = true → p (key y) = true → key x = key y := by
  constructor
  · intro hle
    by_contra hnot
    push Not at hnot
    obtain ⟨hlimit, hmany, x, hx, y, hy, hpx, hpy, hne⟩ := hnot
    by_cases hall : ∀ k, p k = true → xs.countP (fun x => key x = k) ≤ limit
    · rw [countP_admitted_of_le (by simpa using hall)] at hle
      omega
    · push Not at hall
      obtain ⟨k, hk, hover⟩ := hall
      -- one of the two has another key than `k`, and its first thing is let through
      obtain ⟨z, hz, hpz, hzk⟩ : ∃ z ∈ xs, p (key z) = true ∧ k ≠ key z := by
        by_cases hxk : k = key x
        · exact ⟨y, hy, hpy, hxk ▸ hne⟩
        · exact ⟨x, hx, hpx, hxk⟩
      have hsome : 0 < xs.countP fun x => key x = key z := List.countP_pos_iff.2 ⟨z, hz, by simp⟩
      have hboth : (admitted key limit (fun _ => 0) xs).countP (fun x => key x = k) +
          (admitted key limit (fun _ => 0) xs).countP (fun x => key x = key z) ≤
            (admitted key limit (fun _ => 0) xs).countP fun x => p (key x) := countP_add_le hk hpz hzk
      rw [countP_admitted, countP_admitted] at hboth
      omega
  · rintro (rfl | hfew | hone)
    · rw [Nat.le_zero, List.countP_eq_zero]
      intro x hx
      have hzero : (admitted key 0 (fun _ => 0) xs).countP (fun y => key y = key x) =
          min (0 - 0) (xs.countP fun y => key y = key x) := countP_admitted (key x)
      rw [Nat.zero_sub, Nat.zero_min, List.countP_eq_zero] at hzero
      exact absurd (decide_eq_true rfl) (hzero x hx)
    · exact admitted_sublist.countP_le.trans hfew
    · by_cases hany : ∃ x ∈ admitted key limit (fun _ => 0) xs, p (key x) = true
      · obtain ⟨x, hx, hpx⟩ := hany
        have hsame : (admitted key limit (fun _ => 0) xs).countP (fun y => p (key y)) ≤
            (admitted key limit (fun _ => 0) xs).countP fun y => key y = key x :=
          List.countP_mono_left fun y hy hpy =>
            decide_eq_true (hone y (admitted_sublist.mem hy) x (admitted_sublist.mem hx) hpy hpx)
        rw [countP_admitted] at hsame
        omega
      · rw [List.countP_eq_zero.2 fun x hx hpx => hany ⟨x, hx, hpx⟩]
        exact Nat.zero_le _

end Quota
