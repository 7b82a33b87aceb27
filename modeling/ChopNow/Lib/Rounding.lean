import Mathlib.Algebra.Order.Floor.Ring
import Mathlib.Algebra.Order.Field.Basic
import Mathlib.Order.Bounds.Basic
import Mathlib.Tactic

/-! Rounding to multiples of a unit, up and down, and to the nearest integer with halves up:
what each result is, least or greatest or near, so that no proof looks at floors again. -/

namespace Rounding

variable {α : Type*} [Field α] [LinearOrder α] [IsStrictOrderedRing α] [FloorRing α] {unit n : ℤ} {x y : α}

def upTo (unit : ℤ) (x : α) : ℤ := ⌈x / unit⌉ * unit

def downTo (unit : ℤ) (x : α) : ℤ := ⌊x / unit⌋ * unit

def halfUp (x : α) : ℤ := ⌊x + 1 / 2⌋

theorem upTo_isLeast (hunit : 0 < unit) (x : α) : IsLeast { n : ℤ | unit ∣ n ∧ x ≤ n } (upTo unit x) := by
  have hunit' : (0 : α) < unit := by exact_mod_cast hunit
  refine ⟨⟨Dvd.intro_left _ rfl, ?_⟩, ?_⟩
  · have hceil : x / unit ≤ ⌈x / unit⌉ := Int.le_ceil _
    rw [div_le_iff₀ hunit'] at hceil
    rw [upTo]
    push_cast
    exact hceil
  · rintro n ⟨⟨k, rfl⟩, hle⟩
    have hk : ⌈x / unit⌉ ≤ k := by
      rw [Int.ceil_le, div_le_iff₀ hunit']
      push_cast at hle
      linarith
    rw [upTo, mul_comm unit k]
    exact mul_le_mul_of_nonneg_right hk hunit.le

theorem downTo_isGreatest (hunit : 0 < unit) (x : α) : IsGreatest { n : ℤ | unit ∣ n ∧ (n : α) ≤ x } (downTo unit x) := by
  have hunit' : (0 : α) < unit := by exact_mod_cast hunit
  refine ⟨⟨Dvd.intro_left _ rfl, ?_⟩, ?_⟩
  · have hfloor : (⌊x / unit⌋ : α) ≤ x / unit := Int.floor_le _
    rw [le_div_iff₀ hunit'] at hfloor
    rw [downTo]
    push_cast
    exact hfloor
  · rintro n ⟨⟨k, rfl⟩, hle⟩
    have hk : k ≤ ⌊x / unit⌋ := by
      rw [Int.le_floor, le_div_iff₀ hunit']
      push_cast at hle
      linarith
    rw [downTo, mul_comm unit k]
    exact mul_le_mul_of_nonneg_right hk hunit.le

theorem upTo_le (hunit : 0 < unit) (hdvd : unit ∣ n) (h : x ≤ n) : upTo unit x ≤ n := (upTo_isLeast hunit x).2 ⟨hdvd, h⟩

theorem upTo_mono (hunit : 0 < unit) (h : x ≤ y) : upTo unit x ≤ upTo unit y := by
  obtain ⟨hdvd, hle⟩ := (upTo_isLeast hunit y).1
  exact upTo_le hunit hdvd (h.trans hle)

omit [IsStrictOrderedRing α] in
theorem halfUp_le (x : α) : (halfUp x : α) ≤ x + 1 / 2 := Int.floor_le _

theorem lt_halfUp (x : α) : x - 1 / 2 < halfUp x := by
  have h := Int.lt_floor_add_one (x + 1 / 2)
  rw [halfUp]
  linarith

theorem abs_halfUp_sub_le (x : α) : |(halfUp x : α) - x| ≤ 1 / 2 := by
  rw [abs_sub_le_iff]
  constructor
  · linarith [halfUp_le x]
  · linarith [lt_halfUp x]

end Rounding
