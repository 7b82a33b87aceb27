import Mathlib.Algebra.Order.Group.Basic
import Mathlib.Algebra.Order.BigOperators.Group.List
import Mathlib.Tactic

/-! A loop that spends a budget: it passes over what it cannot afford and offers the rest,
one by one. What is taken may go uncounted, and then the loop offers more than it has. -/

namespace Budget

/-- What becomes of an offer. -/
inductive Deal
  | declined
  | counted
  | uncounted
  deriving DecidableEq, Repr

variable {α M : Type*} [AddCommGroup M] [LinearOrder M]

/-- What the loop believes is left afterwards. -/
def leftover (cost : α → M) (deal : α → Deal) (budget : M) : List α → M
  | [] => budget
  | x :: xs =>
    if budget < cost x then leftover cost deal budget xs
    else leftover cost deal (if deal x = .counted then budget - cost x else budget) xs

/-- What was taken, in turn. -/
def taken (cost : α → M) (deal : α → Deal) (budget : M) : List α → List α
  | [] => []
  | x :: xs =>
    if budget < cost x then taken cost deal budget xs
    else if deal x = .declined then taken cost deal budget xs
    else x :: taken cost deal (if deal x = .counted then budget - cost x else budget) xs

def spent (cost : α → M) (deal : α → Deal) (budget : M) (xs : List α) : M :=
  ((taken cost deal budget xs).map cost).sum

variable {cost : α → M} {deal : α → Deal} {budget : M} {x y : α} {xs ys : List α}

/-! One offer. -/

theorem spent_declined (h : deal x = .declined) : spent cost deal budget (x :: xs) = spent cost deal budget xs := by
  simp [spent, taken, h]

theorem spent_unaffordable (h : budget < cost x) :
    spent cost deal budget (x :: xs) = spent cost deal budget xs := by simp [spent, taken, h]

theorem spent_counted (hx : deal x = .counted) (h : cost x ≤ budget) :
    spent cost deal budget (x :: xs) = cost x + spent cost deal (budget - cost x) xs := by
  simp [spent, taken, hx, not_lt.2 h]

theorem spent_uncounted (hx : deal x = .uncounted) (h : cost x ≤ budget) :
    spent cost deal budget (x :: xs) = cost x + spent cost deal budget xs := by
  simp [spent, taken, hx, not_lt.2 h]

theorem spent_eq_zero (h : ∀ x ∈ xs, deal x = .declined) : spent cost deal budget xs = 0 := by
  induction xs with
  | nil => rfl
  | cons x xs ih =>
    rw [spent_declined (h x List.mem_cons_self)]
    exact ih fun y hy => h y (.tail _ hy)

variable [IsOrderedAddMonoid M]

theorem spent_nonneg (hcost : ∀ x ∈ xs, 0 < cost x) : 0 ≤ spent cost deal budget xs := by
  induction xs generalizing budget with
  | nil => exact le_rfl
  | cons x xs ih =>
    have hrest : ∀ b, 0 ≤ spent cost deal b xs := fun _ => ih fun y hy => hcost y (.tail _ hy)
    have hx := hcost x List.mem_cons_self
    by_cases hlt : budget < cost x
    · rw [spent_unaffordable hlt]
      exact hrest _
    · cases hdeal : deal x with
      | declined =>
        rw [spent_declined hdeal]
        exact hrest _
      | counted =>
        rw [spent_counted hdeal (not_lt.1 hlt)]
        exact add_nonneg hx.le (hrest _)
      | uncounted =>
        rw [spent_uncounted hdeal (not_lt.1 hlt)]
        exact add_nonneg hx.le (hrest _)

/-- The first taker is offered the whole budget. -/
theorem exists_first_taker (h : ∃ y ∈ xs, deal y ≠ .declined) (hcost : ∀ x ∈ xs, 0 < cost x) :
    ∃ y ∈ xs, ∀ budget, cost y ≤ budget → cost y ≤ spent cost deal budget xs := by
  induction xs with
  | nil => simp at h
  | cons x xs ih =>
    have hrest : ∀ y ∈ xs, 0 < cost y := fun y hy => hcost y (.tail _ hy)
    cases hdeal : deal x with
    | declined =>
      obtain ⟨y, hy, hne⟩ := h
      rcases List.mem_cons.1 hy with rfl | hy
      · exact absurd hdeal hne
      obtain ⟨z, hz, hle⟩ := ih ⟨y, hy, hne⟩ hrest
      refine ⟨z, .tail _ hz, fun budget hb => ?_⟩
      rw [spent_declined hdeal]
      exact hle budget hb
    | counted =>
      refine ⟨x, List.mem_cons_self, fun budget hb => ?_⟩
      rw [spent_counted hdeal hb]
      exact le_add_of_nonneg_right (spent_nonneg hrest)
    | uncounted =>
      refine ⟨x, List.mem_cons_self, fun budget hb => ?_⟩
      rw [spent_uncounted hdeal hb]
      exact le_add_of_nonneg_right (spent_nonneg hrest)

/-- After an offer that was taken and not counted nothing else is taken. -/
def Frugal (deal : α → Deal) (xs : List α) : Prop :=
  xs.Pairwise fun x y => deal x = .uncounted → deal y = .declined

theorem spent_le (hfrugal : Frugal deal xs) (hbudget : 0 ≤ budget) : spent cost deal budget xs ≤ budget := by
  induction xs generalizing budget with
  | nil => exact hbudget
  | cons x xs ih =>
    obtain ⟨hx, hxs⟩ := List.pairwise_cons.1 hfrugal
    by_cases hlt : budget < cost x
    · rw [spent_unaffordable hlt]
      exact ih hxs hbudget
    have hle := not_lt.1 hlt
    cases hdeal : deal x with
    | declined =>
      rw [spent_declined hdeal]
      exact ih hxs hbudget
    | counted =>
      have hrest := ih hxs (sub_nonneg.2 hle)
      calc spent cost deal budget (x :: xs)
          = cost x + spent cost deal (budget - cost x) xs := spent_counted hdeal hle
        _ ≤ cost x + (budget - cost x) := by gcongr
        _ = budget := add_sub_cancel _ _
    | uncounted =>
      rw [spent_uncounted hdeal hle, spent_eq_zero fun y hy => hx y hy hdeal, add_zero]
      exact hle

/-- Otherwise some budget is overspent: the smallest that pays for both offers alone. -/
theorem exists_overspent (hcost : ∀ x ∈ xs, 0 < cost x) (h : ¬Frugal deal xs) :
    ∃ budget, 0 ≤ budget ∧ budget < spent cost deal budget xs := by
  induction xs with
  | nil => exact absurd .nil h
  | cons x xs ih =>
    have hx := hcost x List.mem_cons_self
    have hrest : ∀ y ∈ xs, 0 < cost y := fun y hy => hcost y (.tail _ hy)
    by_cases hxs : Frugal deal xs
    · -- the uncounted offer is the first
      have hpair : deal x = .uncounted ∧ ∃ y ∈ xs, deal y ≠ .declined := by
        by_contra hnot
        push Not at hnot
        exact h (List.pairwise_cons.2 ⟨fun y hy hdeal => hnot hdeal y hy, hxs⟩)
      obtain ⟨y, hy, hle⟩ := exists_first_taker hpair.2 hrest
      refine ⟨max (cost x) (cost y), hx.le.trans (le_max_left _ _), ?_⟩
      rw [spent_uncounted hpair.1 (le_max_left _ _)]
      calc max (cost x) (cost y)
          < cost x + cost y := max_lt (lt_add_of_pos_right _ (hrest y hy)) (lt_add_of_pos_left _ hx)
        _ ≤ cost x + spent cost deal (max (cost x) (cost y)) xs := by
          gcongr
          exact hle _ (le_max_right _ _)
    · obtain ⟨budget, hbudget, hover⟩ := ih hrest hxs
      cases hdeal : deal x with
      | declined => exact ⟨budget, hbudget, by rwa [spent_declined hdeal]⟩
      | counted =>
        refine ⟨cost x + budget, add_nonneg hx.le hbudget, ?_⟩
        rw [spent_counted hdeal (le_add_of_nonneg_right hbudget), add_sub_cancel_left]
        gcongr
      | uncounted =>
        refine ⟨budget, hbudget, ?_⟩
        by_cases hlt : budget < cost x
        · rwa [spent_unaffordable hlt]
        · rw [spent_uncounted hdeal (not_lt.1 hlt)]
          exact hover.trans (lt_add_of_pos_left _ hx)

/-- No budget is overspent exactly when what goes uncounted is the last that is taken. -/
theorem spent_le_iff (hcost : ∀ x ∈ xs, 0 < cost x) :
    (∀ budget, 0 ≤ budget → spent cost deal budget xs ≤ budget) ↔ Frugal deal xs := by
  constructor
  · intro h
    by_contra hnot
    obtain ⟨budget, hbudget, hover⟩ := exists_overspent hcost hnot
    exact absurd (h budget hbudget) (not_le.2 hover)
  · exact fun h budget hbudget => spent_le h hbudget

end Budget
