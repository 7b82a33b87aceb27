import Mathlib.Algebra.BigOperators.Group.List.Lemmas
import Mathlib.Data.List.Dedup
import Mathlib.Tactic

/-! Aggregates of an SQL query with a `group by`, and what they are when no two rows share a group. -/

namespace Grouping

variable {α κ : Type*} [DecidableEq κ] {key : α → κ} {rows : List α}

/-- `COUNT(DISTINCT key)`. -/
def countDistinct (key : α → κ) (rows : List α) : ℕ := (rows.map key).dedup.length

/-- `SELECT key, MIN(value) … GROUP BY key`. -/
def groupMin (key : α → κ) (value : α → ℕ) (rows : List α) : List (κ × ℕ) :=
  (rows.map key).dedup.map fun k => (k, (((rows.filter fun row => key row = k).map value).min?).getD 0)

/-- `SELECT key, COUNT(*) … GROUP BY key`. -/
def groupCount (key : α → κ) (rows : List α) : List (κ × ℕ) :=
  (rows.map key).dedup.map fun k => (k, rows.countP fun row => key row = k)

/-- `… ORDER BY COUNT(*) DESC LIMIT n`. SQL leaves open how the groups of one count stand and which of
them the limit cuts off; here they stand as their keys last come up. -/
def topCounts (key : α → κ) (n : ℕ) (rows : List α) : List (κ × ℕ) :=
  ((groupCount key rows).mergeSort fun a b => b.2 ≤ a.2).take n

theorem countDistinct_of_nodup (h : (rows.map key).Nodup) : countDistinct key rows = rows.length := by
  rw [countDistinct, h.dedup, List.length_map]

/-- A row alone in its group. -/
theorem filter_of_nodup {row : α} (h : (rows.map key).Nodup) (hrow : row ∈ rows) :
    rows.filter (fun other => key other = key row) = [row] := by
  induction rows with
  | nil => cases hrow
  | cons a l ih =>
    obtain ⟨ha, hl⟩ := List.nodup_cons.1 h
    rcases List.mem_cons.1 hrow with rfl | hmem
    · have hrest : l.filter (fun other => key other = key row) = [] := List.filter_eq_nil_iff.2 fun b hb => by
        simpa using fun heq : key b = key row => ha (heq ▸ List.mem_map_of_mem hb)
      rw [List.filter_cons_of_pos (by simp), hrest]
    · have hne : key a ≠ key row := fun heq => ha (heq ▸ List.mem_map_of_mem hmem)
      rw [List.filter_cons_of_neg (by simpa using hne), ih hl hmem]

theorem groupMin_of_nodup (h : (rows.map key).Nodup) (value : α → ℕ) :
    groupMin key value rows = rows.map fun row => (key row, value row) := by
  rw [groupMin, h.dedup, List.map_map]
  refine List.map_congr_left fun row hrow => ?_
  simp [filter_of_nodup h hrow]

theorem mem_groupCount {k : κ} {n : ℕ} :
    (k, n) ∈ groupCount key rows ↔ k ∈ rows.map key ∧ n = rows.countP fun row => key row = k := by
  rw [groupCount, List.mem_map]
  constructor
  · rintro ⟨k', hk', heq⟩
    cases heq
    exact ⟨List.mem_dedup.1 hk', rfl⟩
  · rintro ⟨hk, rfl⟩
    exact ⟨k, List.mem_dedup.2 hk, rfl⟩

theorem groupCount_keys (key : α → κ) (rows : List α) : (groupCount key rows).map Prod.fst = (rows.map key).dedup := by
  rw [groupCount, List.map_map]
  exact List.map_id _

theorem mem_topCounts {k : κ} {m n : ℕ} (h : (k, m) ∈ topCounts key n rows) :
    k ∈ rows.map key ∧ m = rows.countP fun row => key row = k :=
  mem_groupCount.1 (List.mem_mergeSort.1 (List.mem_of_mem_take h))

theorem topCounts_nodup (key : α → κ) (n : ℕ) (rows : List α) : ((topCounts key n rows).map Prod.fst).Nodup := by
  have hkeys : ((groupCount key rows).map Prod.fst).Nodup := by
    rw [groupCount_keys]
    exact List.nodup_dedup _
  have hsorted := (((groupCount key rows).mergeSort_perm fun a b => decide (b.2 ≤ a.2)).map Prod.fst).nodup_iff.2 hkeys
  exact hsorted.sublist ((List.take_sublist _ _).map _)

/-- `ORDER BY … LIMIT n`: who is left out comes after all that are listed, and the list is full. -/
theorem mem_take_or {r : α → α → Prop} {sorted : List α} (hsorted : sorted.Pairwise r) {x : α} (hx : x ∈ sorted) (n : ℕ) :
    x ∈ sorted.take n ∨ (sorted.take n).length = n ∧ ∀ y ∈ sorted.take n, r y x := by
  rw [← List.take_append_drop n sorted] at hx hsorted
  rcases List.mem_append.1 hx with hin | hout
  · exact .inl hin
  · refine .inr ⟨?_, fun y hy => (List.pairwise_append.1 hsorted).2.2 y hy x hout⟩
    have hlong : 0 < (sorted.drop n).length := List.length_pos_of_mem hout
    rw [List.length_drop] at hlong
    exact List.length_take_of_le (by omega)

/-- A group that is left out is no larger than any that is listed. -/
theorem topCounts_or {k : κ} (n : ℕ) (hk : k ∈ rows.map key) :
    (k, rows.countP fun row => key row = k) ∈ topCounts key n rows ∨
      (topCounts key n rows).length = n ∧ ∀ top ∈ topCounts key n rows, (rows.countP fun row => key row = k) ≤ top.2 := by
  have hmem : (k, rows.countP fun row => key row = k) ∈ (groupCount key rows).mergeSort fun a b => b.2 ≤ a.2 :=
    List.mem_mergeSort.2 (mem_groupCount.2 ⟨hk, rfl⟩)
  have hsorted : ((groupCount key rows).mergeSort fun a b => b.2 ≤ a.2).Pairwise fun a b => decide (b.2 ≤ a.2) = true :=
    List.pairwise_mergeSort (fun a b c hab hbc => by simp only [decide_eq_true_eq] at *; omega) (fun a b => by simp; omega) _
  exact (mem_take_or hsorted hmem n).imp_right fun hfull => ⟨hfull.1, fun top htop => of_decide_eq_true (hfull.2 top htop)⟩

end Grouping
