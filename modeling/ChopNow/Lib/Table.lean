import Mathlib.Data.List.Nodup
import Mathlib.Data.List.Range
import Mathlib.Tactic

/-! Tables that rows are only ever added to: the id of a row is its place, so ids are
unique and an update by id meets one row. -/

namespace Table

variable {α : Type*} {id : α → ℕ} {rows : List α} {x y : α}

def Numbered (id : α → ℕ) (rows : List α) : Prop := rows.map id = List.range rows.length

theorem Numbered.nil : Numbered id [] := rfl

theorem Numbered.append (h : Numbered id rows) (hx : id x = rows.length) : Numbered id (rows ++ [x]) := by
  unfold Numbered at h ⊢
  rw [List.map_append, h, List.length_append, List.length_singleton, List.range_succ, List.map_singleton, hx]

theorem Numbered.lt (h : Numbered id rows) (hx : x ∈ rows) : id x < rows.length := by
  have hmem : id x ∈ rows.map id := List.mem_map_of_mem hx
  rw [h] at hmem
  exact List.mem_range.1 hmem

theorem Numbered.nodup (h : Numbered id rows) : (rows.map id).Nodup := by
  rw [h]
  exact List.nodup_range

theorem Numbered.inj (h : Numbered id rows) (hx : x ∈ rows) (hy : y ∈ rows) (he : id x = id y) : x = y :=
  List.inj_on_of_nodup_map h.nodup hx hy he

theorem Numbered.map (h : Numbered id rows) {f : α → α} (hf : ∀ a, id (f a) = id a) : Numbered id (rows.map f) := by
  unfold Numbered at h ⊢
  rw [List.map_map, List.length_map, ← h]
  exact List.map_congr_left fun a _ => hf a

/-- A write that leaves the ids alone. -/
theorem nodup_map {f : α → α} (hf : ∀ a, id (f a) = id a) (h : (rows.map id).Nodup) : ((rows.map f).map id).Nodup := by
  rw [List.map_map, show id ∘ f = id from funext hf]
  exact h

/-- An insert with an id that is free. -/
theorem nodup_append (h : (rows.map id).Nodup) (hnew : ∀ a ∈ rows, id a ≠ id x) : ((rows ++ [x]).map id).Nodup := by
  rw [List.map_append, List.map_singleton]
  refine List.nodup_append'.2 ⟨h, List.nodup_singleton _, ?_⟩
  simpa using hnew

theorem nodup_filter (h : (rows.map id).Nodup) (p : α → Bool) : ((rows.filter p).map id).Nodup :=
  h.sublist (List.filter_sublist.map id)

/-- A view of some of the rows that keeps their ids. -/
theorem nodup_filterMap {β : Type*} {p : α → Option β} {id' : β → ℕ} (hp : ∀ a, ∀ b ∈ p a, id' b = id a)
    (h : (rows.map id).Nodup) : ((rows.filterMap p).map id').Nodup := by
  refine h.sublist ?_
  induction rows with
  | nil => exact .slnil
  | cons a l ih =>
    cases hpa : p a with
    | none =>
      rw [List.filterMap_cons_none hpa]
      exact (ih (List.nodup_cons.1 h).2).cons _
    | some b =>
      rw [List.filterMap_cons_some hpa, List.map_cons, List.map_cons, hp a b hpa]
      exact (ih (List.nodup_cons.1 h).2).cons_cons _

/-- A row of `UPDATE … WHERE id = k`. -/
def onId (id : α → ℕ) (k : ℕ) (f : α → α) (a : α) : α := if id a = k then f a else a

theorem onId_other {k : ℕ} {f : α → α} (h : id x ≠ k) : onId id k f x = x := if_neg h

theorem onId_column {β : Type*} (column : α → β) {k : ℕ} {f : α → α} (hf : ∀ a, column (f a) = column a) (a : α) :
    column (onId id k f a) = column a := by
  unfold onId
  split
  · exact hf a
  · rfl

theorem onId_id (id : α → ℕ) {k : ℕ} {f : α → α} (hf : ∀ a, id (f a) = id a) (a : α) : id (onId id k f a) = id a :=
  onId_column id hf a

/-- A sequence that the ids come from. -/
def Issued (id : α → ℕ) (rows : List α) (next : ℕ) : Prop := ∀ a ∈ rows, id a < next

theorem Issued.map {next : ℕ} (h : Issued id rows next) {f : α → α} (hf : ∀ a, id (f a) = id a) :
    Issued id (rows.map f) next := by
  simpa only [Issued, List.mem_map, forall_exists_index, and_imp, forall_apply_eq_imp_iff₂, hf] using h

theorem Issued.filter {next : ℕ} (h : Issued id rows next) (p : α → Bool) : Issued id (rows.filter p) next :=
  fun a ha => h a (List.mem_of_mem_filter ha)

theorem Issued.append {next : ℕ} (h : Issued id rows next) (hx : id x = next) : Issued id (rows ++ [x]) (next + 1) :=
  List.forall_mem_append.2 ⟨fun a ha => (h a ha).trans (Nat.lt_succ_self _), by simp [hx]⟩

theorem Issued.nodup_append {next : ℕ} (h : Issued id rows next) (hrows : (rows.map id).Nodup) (hx : id x = next) :
    ((rows ++ [x]).map id).Nodup :=
  Table.nodup_append hrows fun a ha => (hx ▸ h a ha).ne

/-- `UPDATE … WHERE id = k`. -/
theorem mem_update (id : α → ℕ) {k : ℕ} {f : α → α} (h : x ∈ rows.map fun a => if id a = k then f a else a) :
    x ∈ rows ∧ id x ≠ k ∨ ∃ a ∈ rows, id a = k ∧ x = f a := by
  obtain ⟨a, ha, rfl⟩ := List.mem_map.1 h
  split
  · next hk => exact .inr ⟨a, ha, hk, rfl⟩
  · next hk => exact .inl ⟨ha, hk⟩

theorem update_mem (id : α → ℕ) {k : ℕ} {f : α → α} (hx : x ∈ rows) :
    (if id x = k then f x else x) ∈ rows.map fun a => if id a = k then f a else a :=
  List.mem_map_of_mem (f := fun a => if id a = k then f a else a) hx

/-- A column that the update leaves alone. -/
theorem column_update {β : Type*} {column : α → β} {p : α → Prop} [DecidablePred p] {f : α → α}
    (hf : ∀ a, column (f a) = column a) : (rows.map fun a => if p a then f a else a).map column = rows.map column := by
  rw [List.map_map]
  refine List.map_congr_left fun a _ => ?_
  simp only [Function.comp]
  split
  · exact hf a
  · rfl

/-- One row leaves the count and comes back rewritten. -/
theorem countP_update {key : α → ℕ} (h : (rows.map key).Nodup) (hx : x ∈ rows) (p : α → Bool) (f : α → α) :
    (rows.map fun a => if key a = key x then f a else a).countP p + (if p x then 1 else 0) =
      rows.countP p + if p (f x) then 1 else 0 := by
  induction rows with
  | nil => cases hx
  | cons a l ih =>
    obtain ⟨ha, hl⟩ := List.nodup_cons.1 h
    rw [List.map_cons, List.countP_cons, List.countP_cons]
    rcases List.mem_cons.1 hx with rfl | hxl
    · have hrest : (l.map fun b => if key b = key x then f b else b) = l := by
        conv_rhs => rw [← List.map_id l]
        refine List.map_congr_left fun b hb => if_neg fun hbx => ha ?_
        exact hbx ▸ List.mem_map_of_mem hb
      rw [hrest, if_pos rfl]
      omega
    · have hne : key a ≠ key x := fun hax => ha (hax ▸ List.mem_map_of_mem hxl)
      rw [if_neg hne]
      have hih := ih hl hxl
      omega

/-- A row that `p` did not select is rewritten. -/
theorem filterMap_update {β : Type*} {key : α → ℕ} (h : (rows.map key).Nodup) (hx : x ∈ rows) {p : α → Option β}
    (hpx : p x = none) (f : α → α) :
    ((rows.map fun a => if key a = key x then f a else a).filterMap p).Perm (rows.filterMap p ++ (p (f x)).toList) := by
  induction rows with
  | nil => cases hx
  | cons a l ih =>
    obtain ⟨ha, hl⟩ := List.nodup_cons.1 h
    rcases List.mem_cons.1 hx with rfl | hxl
    · have hrest : (l.map fun b => if key b = key x then f b else b) = l := by
        conv_rhs => rw [← List.map_id l]
        refine List.map_congr_left fun b hb => if_neg fun hbx => ha ?_
        exact hbx ▸ List.mem_map_of_mem hb
      rw [List.map_cons, if_pos rfl, hrest, List.filterMap_cons_none hpx]
      cases hfx : p (f x) with
      | none => rw [List.filterMap_cons_none hfx, Option.toList_none, List.append_nil]
      | some b =>
        rw [List.filterMap_cons_some hfx]
        exact (List.perm_append_singleton b _).symm
    · have hne : key a ≠ key x := fun hax => ha (hax ▸ List.mem_map_of_mem hxl)
      rw [List.map_cons, if_neg hne]
      cases hpa : p a with
      | none =>
        rw [List.filterMap_cons_none hpa, List.filterMap_cons_none hpa]
        exact ih hl hxl
      | some b =>
        rw [List.filterMap_cons_some hpa, List.filterMap_cons_some hpa]
        exact (ih hl hxl).cons b

theorem find?_of_nodup {key : α → ℕ} (h : (rows.map key).Nodup) (hx : x ∈ rows) :
    rows.find? (fun a => key a == key x) = some x := by
  cases hy : rows.find? fun a => key a == key x with
  | none => exact absurd (beq_self_eq_true (key x)) (List.find?_eq_none.1 hy x hx)
  | some y =>
    rw [List.inj_on_of_nodup_map h (List.mem_of_find?_eq_some hy) hx (by simpa using List.find?_some hy)]

/-- `WHERE id IN (…)` returns a row for each id exactly when no id is asked for twice and each has one. -/
theorem length_filter_contains (h : (rows.map id).Nodup) (wanted : List ℕ) :
    (rows.filter fun a => wanted.contains (id a)).length = wanted.length ↔
      wanted.Nodup ∧ ∀ k ∈ wanted, ∃ a ∈ rows, id a = k := by
  have hnodup : ((rows.filter fun a => wanted.contains (id a)).map id).Nodup := nodup_filter h _
  have hmem : ∀ k, k ∈ (rows.filter fun a => wanted.contains (id a)).map id ↔ k ∈ wanted ∧ ∃ a ∈ rows, id a = k := by
    intro k
    simp only [List.mem_map, List.mem_filter, List.contains_iff_mem]
    constructor
    · rintro ⟨a, ⟨ha, hwanted⟩, rfl⟩
      exact ⟨hwanted, a, ha, rfl⟩
    · rintro ⟨hwanted, a, ha, rfl⟩
      exact ⟨a, ⟨ha, hwanted⟩, rfl⟩
  rw [← List.length_map id]
  constructor
  · intro hlength
    have hperm := (List.subperm_of_subset hnodup fun k hk => ((hmem k).1 hk).1).perm_of_length_le hlength.ge
    exact ⟨hperm.nodup_iff.1 hnodup, fun k hk => ((hmem k).1 (hperm.mem_iff.2 hk)).2⟩
  · rintro ⟨hwanted, hall⟩
    refine ((List.perm_ext_iff_of_nodup hnodup hwanted).2 fun k => (hmem k).trans ?_).length_eq
    exact ⟨And.left, fun hk => ⟨hk, hall k hk⟩⟩

theorem eq_of_countP_le_one {p : α → Bool} (h : rows.countP p ≤ 1) (hx : x ∈ rows) (hpx : p x = true) (hy : y ∈ rows)
    (hpy : p y = true) : x = y := by
  rw [List.countP_eq_length_filter] at h
  have hxf : x ∈ rows.filter p := List.mem_filter.2 ⟨hx, hpx⟩
  have hyf : y ∈ rows.filter p := List.mem_filter.2 ⟨hy, hpy⟩
  cases hfilter : rows.filter p with
  | nil =>
    rw [hfilter] at hxf
    cases hxf
  | cons a l =>
    rw [hfilter] at h hxf hyf
    obtain rfl : l = [] := List.eq_nil_of_length_eq_zero (by simpa using h)
    rw [List.mem_singleton.1 hxf, List.mem_singleton.1 hyf]

end Table
