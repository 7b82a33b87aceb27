import Mathlib.Algebra.BigOperators.Group.List.Basic
import Mathlib.Algebra.Order.Group.Int
import Mathlib.Tactic

/-! Sums over the rows of an append-only table that pass a test, as an SQL
aggregate with a `where` computes them. -/

namespace Tally

variable {α : Type*}

/-- The sum of `f` over the rows of `l` that pass `p`. -/
def tally (p : α → Bool) (f : α → ℤ) (l : List α) : ℤ := ((l.filter p).map f).sum

@[simp] theorem tally_nil (p : α → Bool) (f : α → ℤ) : tally p f [] = 0 := rfl

@[simp] theorem tally_cons (p : α → Bool) (f : α → ℤ) (a : α) (l : List α) :
    tally p f (a :: l) = (if p a then f a else 0) + tally p f l := by
  unfold tally
  cases h : p a <;> simp [h]

@[simp] theorem tally_append (p : α → Bool) (f : α → ℤ) (l m : List α) :
    tally p f (l ++ m) = tally p f l + tally p f m := by
  simp [tally]

/-- Only the rows that pass matter. -/
theorem tally_congr {p q : α → Bool} {f g : α → ℤ} {l : List α}
    (h : ∀ a ∈ l, (if p a then f a else 0) = if q a then g a else 0) : tally p f l = tally q g l := by
  induction l with
  | nil => rfl
  | cons a l ih =>
    rw [tally_cons, tally_cons, h a (.head _), ih fun b hb => h b (.tail _ hb)]

theorem tally_eq_zero {p : α → Bool} {f : α → ℤ} {l : List α}
    (h : ∀ a ∈ l, p a = true → f a = 0) : tally p f l = 0 := by
  induction l with
  | nil => rfl
  | cons a l ih =>
    rw [tally_cons, ih fun b hb => h b (.tail _ hb), add_zero]
    split
    · exact h a (.head _) ‹_›
    · rfl

/-- More rows pass, and none of them counts against the sum. -/
theorem tally_mono {p q : α → Bool} {f : α → ℤ} {l : List α} (h : ∀ a ∈ l, p a = true → q a = true)
    (hf : ∀ a ∈ l, q a = true → 0 ≤ f a) : tally p f l ≤ tally q f l := by
  induction l with
  | nil => exact le_rfl
  | cons a l ih =>
    have hl := ih (fun b hb => h b (.tail _ hb)) fun b hb => hf b (.tail _ hb)
    rw [tally_cons, tally_cons]
    by_cases hq : q a = true
    · have hpos := hf a (.head _) hq
      rw [if_pos hq]
      split <;> omega
    · rw [if_neg hq, if_neg fun hp => hq (h a (.head _) hp)]
      omega

theorem tally_nonneg {p : α → Bool} {f : α → ℤ} {l : List α}
    (h : ∀ a ∈ l, p a = true → 0 ≤ f a) : 0 ≤ tally p f l := by
  induction l with
  | nil => exact le_rfl
  | cons a l ih =>
    rw [tally_cons]
    have hl := ih fun b hb => h b (.tail _ hb)
    split
    · have := h a (.head _) ‹_›
      omega
    · omega

/-- A window and its complement add up to the whole. -/
theorem tally_split (p q : α → Bool) (f : α → ℤ) (l : List α) :
    tally p f l = tally (fun a => p a && q a) f l + tally (fun a => p a && !q a) f l := by
  induction l with
  | nil => rfl
  | cons a l ih =>
    simp only [tally_cons, ih]
    cases p a <;> cases q a <;> simp <;> omega

theorem tally_map {β : Type*} (p : β → Bool) (f : β → ℤ) (g : α → β) (l : List α) :
    tally p f (l.map g) = tally (fun a => p (g a)) (fun a => f (g a)) l := by
  induction l with
  | nil => rfl
  | cons a l ih => rw [List.map_cons, tally_cons, tally_cons, ih]

/-- One row is rewritten, and the sum changes by what it was and what it is. -/
theorem tally_update {key : α → ℕ} {l : List α} (hl : (l.map key).Nodup) {x : α} (hx : x ∈ l) (p : α → Bool) (f : α → ℤ)
    (y : α) : tally p f (l.map fun a => if key a = key x then y else a) + (if p x then f x else 0) =
      tally p f l + if p y then f y else 0 := by
  induction l with
  | nil => cases hx
  | cons a l ih =>
    obtain ⟨ha, hl⟩ := List.nodup_cons.1 hl
    rw [List.map_cons, tally_cons, tally_cons]
    rcases List.mem_cons.1 hx with rfl | hxl
    · have hrest : (l.map fun b => if key b = key x then y else b) = l := by
        conv_rhs => rw [← List.map_id l]
        refine List.map_congr_left fun b hb => if_neg fun hbx => ha ?_
        exact hbx ▸ List.mem_map_of_mem hb
      rw [hrest, if_pos rfl]
      omega
    · have hne : key a ≠ key x := fun hax => ha (hax ▸ List.mem_map_of_mem hxl)
      rw [if_neg hne]
      have hih := ih hl hxl
      omega

/-- A sum of amounts that are not negative is zero where each of them is. -/
theorem tally_eq_zero_iff {p : α → Bool} {f : α → ℤ} {l : List α} (h : ∀ a ∈ l, p a = true → 0 ≤ f a) :
    tally p f l = 0 ↔ ∀ a ∈ l, p a = true → f a = 0 := by
  refine ⟨fun hsum => ?_, tally_eq_zero⟩
  induction l with
  | nil => simp
  | cons a l ih =>
    rw [tally_cons] at hsum
    have hl := tally_nonneg fun b hb => h b (.tail _ hb)
    have ha : 0 ≤ if p a then f a else 0 := by
      split
      · exact h a (.head _) ‹_›
      · exact le_rfl
    intro b hb hpb
    rcases List.mem_cons.1 hb with rfl | hb
    · rw [if_pos hpb] at hsum ha
      omega
    · exact ih (fun b hb => h b (.tail _ hb)) (by omega) b hb hpb

/-- A sum of positive amounts is zero where there are none. -/
theorem tally_eq_zero_iff_of_pos {p : α → Bool} {f : α → ℤ} {l : List α} (h : ∀ a ∈ l, p a = true → 0 < f a) :
    tally p f l = 0 ↔ ∀ a ∈ l, p a = false := by
  rw [tally_eq_zero_iff fun a ha hp => (h a ha hp).le]
  refine forall₂_congr fun a ha => ⟨fun hz => ?_, fun hp hp' => by simp [hp] at hp'⟩
  by_contra hp
  have hp' : p a = true := by simpa using hp
  have hpos := h a ha hp'
  rw [hz hp'] at hpos
  exact lt_irrefl _ hpos

theorem tally_neg (p : α → Bool) (f : α → ℤ) (l : List α) : tally p (fun a => -f a) l = -tally p f l := by
  induction l with
  | nil => rfl
  | cons a l ih =>
    rw [tally_cons, tally_cons, ih, neg_add]
    split <;> simp

theorem tally_sub (p : α → Bool) (f g : α → ℤ) (l : List α) :
    tally p (fun a => f a - g a) l = tally p f l - tally p g l := by
  induction l with
  | nil => rfl
  | cons a l ih =>
    rw [tally_cons, tally_cons, tally_cons, ih]
    split <;> ring

end Tally
