import Mathlib.Order.Basic
import Mathlib.Tactic

/-! Rows that each span the instants after `lo` up to `hi`, laid end to end: each one
starts where the one before it ends, the first at `base`. -/

namespace Periods

variable {α β : Type*} {lo hi : β → α} {base t : α} {rows : List β} {x : β}

/-- Where the next row starts. -/
def finish (hi : β → α) : α → List β → α
  | base, [] => base
  | _, x :: rows => finish hi (hi x) rows

variable [LinearOrder α]

/-- The instants of a row; it starts just after `lo`. -/
def Spans (lo hi : β → α) (x : β) (t : α) : Prop := lo x < t ∧ t ≤ hi x

def Chained (lo hi : β → α) : α → List β → Prop
  | _, [] => True
  | base, x :: rows => lo x = base ∧ base < hi x ∧ Chained lo hi (hi x) rows

theorem Chained.append (h : Chained lo hi base rows) (hx : lo x = finish hi base rows) (hlt : lo x < hi x) :
    Chained lo hi base (rows ++ [x]) := by
  induction rows generalizing base with
  | nil =>
    have hbase : lo x = base := hx
    exact ⟨hbase, hbase ▸ hlt, trivial⟩
  | cons y rows ih => exact ⟨h.1, h.2.1, ih h.2.2 hx⟩

/-- Only what the rows span matters. -/
theorem Chained.congr {rows' : List β} (h : Chained lo hi base rows)
    (he : rows'.map (fun x => (lo x, hi x)) = rows.map fun x => (lo x, hi x)) : Chained lo hi base rows' := by
  induction rows generalizing base rows' with
  | nil =>
    obtain rfl := List.map_eq_nil_iff.1 he
    trivial
  | cons y rows ih =>
    obtain ⟨z, rows', rfl, hz, he⟩ := List.map_eq_cons_iff.1 he
    obtain ⟨hlo, hhi⟩ := Prod.mk.inj hz
    refine ⟨hlo.trans h.1, hhi ▸ h.2.1, ?_⟩
    rw [hhi]
    exact ih h.2.2 he

/-- A place where a row could start and none does is the end of the chain. -/
theorem Chained.eq_finish (h : Chained lo hi base rows) (ht : t = base ∨ ∃ x ∈ rows, t = hi x)
    (hfree : ∀ x ∈ rows, lo x ≠ t) : t = finish hi base rows := by
  induction rows generalizing base with
  | nil => simpa [finish] using ht
  | cons y rows ih =>
    have hnext : t = hi y ∨ ∃ x ∈ rows, t = hi x := by
      rcases ht with rfl | ⟨x, hx, rfl⟩
      · exact absurd h.1 (hfree y (.head _))
      · rcases List.mem_cons.1 hx with rfl | hx
        · exact .inl rfl
        · exact .inr ⟨x, hx, rfl⟩
    exact ih h.2.2 hnext fun x hx => hfree x (.tail _ hx)

theorem Chained.base_le (h : Chained lo hi base rows) : ∀ x ∈ rows, base ≤ lo x := by
  induction rows generalizing base with
  | nil => simp
  | cons y rows ih =>
    intro x hx
    rcases List.mem_cons.1 hx with rfl | hx
    · exact h.1.ge
    · exact h.2.1.le.trans (ih h.2.2 x hx)

/-- An earlier row ends before a later one starts. -/
theorem Chained.pairwise (h : Chained lo hi base rows) : rows.Pairwise fun x y => hi x ≤ lo y := by
  induction rows generalizing base with
  | nil => exact .nil
  | cons y rows ih => exact List.pairwise_cons.2 ⟨h.2.2.base_le, ih h.2.2⟩

/-- No instant belongs to two rows. -/
theorem Chained.apart (h : Chained lo hi base rows) :
    rows.Pairwise fun x y => ∀ t, ¬(Spans lo hi x t ∧ Spans lo hi y t) :=
  h.pairwise.imp fun hle _ hboth => absurd (hboth.1.2.trans hle) (not_le_of_gt hboth.2.1)

/-- There is no gap: every instant of the chain belongs to exactly one row. -/
theorem Chained.covered (h : Chained lo hi base rows) (hbase : base < t) (hfinish : t ≤ finish hi base rows) :
    ∃! x, x ∈ rows ∧ Spans lo hi x t := by
  induction rows generalizing base with
  | nil => exact absurd hbase (not_lt_of_ge hfinish)
  | cons y rows ih =>
    rcases le_or_gt t (hi y) with hy | hy
    · refine ⟨y, ⟨.head _, h.1 ▸ hbase, hy⟩, fun x hx => ?_⟩
      rcases List.mem_cons.1 hx.1 with rfl | hmem
      · rfl
      · exact absurd (hy.trans (h.2.2.base_le x hmem)) (not_le_of_gt hx.2.1)
    · obtain ⟨x, hx, honly⟩ := ih h.2.2 hy hfinish
      refine ⟨x, ⟨.tail _ hx.1, hx.2⟩, fun z hz => ?_⟩
      rcases List.mem_cons.1 hz.1 with rfl | hmem
      · exact absurd hz.2.2 (not_le_of_gt hy)
      · exact honly z ⟨hmem, hz.2⟩

end Periods
