import ChopNow.Lib.Table

/-! A table whose rows have owners. Owners stay, and ids are not given twice; so what was once seen to
be somebody's row cannot become anybody else's, however much later it is written. -/

namespace Tenancy

variable {α : Type*} {id owner : α → ℕ} {rows rows' : List α} {next next' o k : ℕ} {x : α} {f : α → α}

/-- Nobody but `o` has, or will have, a row with this id. -/
def Holds (id owner : α → ℕ) (rows : List α) (next o k : ℕ) : Prop := k < next ∧ ∀ a ∈ rows, id a = k → owner a = o

theorem holds_of_mem (hissued : Table.Issued id rows next) (hids : (rows.map id).Nodup) (hx : x ∈ rows) :
    Holds id owner rows next (owner x) (id x) :=
  ⟨hissued x hx, fun _ ha hid => congrArg owner (List.inj_on_of_nodup_map hids ha hx hid)⟩

/-- The rows that there are keep their owners, and new rows have new ids. -/
structure Keeps (id owner : α → ℕ) (rows : List α) (next : ℕ) (rows' : List α) (next' : ℕ) : Prop where
  issued : next ≤ next'
  kept : ∀ a' ∈ rows', (∃ a ∈ rows, id a' = id a ∧ owner a' = owner a) ∨ next ≤ id a'

theorem Keeps.refl : Keeps id owner rows next rows next := ⟨le_rfl, fun a ha => .inl ⟨a, ha, rfl, rfl⟩⟩

theorem Keeps.map (hid : ∀ a, id (f a) = id a) (howner : ∀ a, owner (f a) = owner a) :
    Keeps id owner rows next (rows.map f) next := by
  refine ⟨le_rfl, fun a' ha' => ?_⟩
  obtain ⟨a, ha, rfl⟩ := List.mem_map.1 ha'
  exact .inl ⟨a, ha, hid a, howner a⟩

theorem Keeps.filter (p : α → Bool) : Keeps id owner rows next (rows.filter p) next :=
  ⟨le_rfl, fun a ha => .inl ⟨a, List.mem_of_mem_filter ha, rfl, rfl⟩⟩

theorem Keeps.append (hx : id x = next) : Keeps id owner rows next (rows ++ [x]) (next + 1) := by
  refine ⟨Nat.le_succ _, fun a ha => ?_⟩
  rcases List.mem_append.1 ha with ha | ha
  · exact .inl ⟨a, ha, rfl, rfl⟩
  · obtain rfl := List.mem_singleton.1 ha
    exact .inr hx.ge

theorem Keeps.trans {rows'' : List α} {next'' : ℕ} (h : Keeps id owner rows next rows' next')
    (h' : Keeps id owner rows' next' rows'' next'') : Keeps id owner rows next rows'' next'' := by
  refine ⟨h.issued.trans h'.issued, fun a'' ha'' => ?_⟩
  rcases h'.kept a'' ha'' with ⟨a', ha', hid', howner'⟩ | hnew
  · rcases h.kept a' ha' with ⟨a, ha, hid, howner⟩ | hnew
    · exact .inl ⟨a, ha, hid'.trans hid, howner'.trans howner⟩
    · exact .inr (hid' ▸ hnew)
  · exact .inr (h.issued.trans hnew)

theorem Keeps.holds (h : Keeps id owner rows next rows' next') (hold : Holds id owner rows next o k) :
    Holds id owner rows' next' o k := by
  refine ⟨hold.1.trans_le h.issued, fun a' ha' hid => ?_⟩
  rcases h.kept a' ha' with ⟨a, ha, hid', howner⟩ | hnew
  · exact howner.trans (hold.2 a ha (hid'.symm.trans hid))
  · exact absurd (hid ▸ hold.1) (not_lt.2 hnew)

/-! The rows of one owner, while others write theirs. -/

def rowsOf (owner : α → ℕ) (o : ℕ) (rows : List α) : List α := rows.filter fun a => owner a == o

theorem rowsOf_map (howner : ∀ a, owner (f a) = owner a) (hrow : ∀ a ∈ rows, owner a = o → f a = a) :
    rowsOf owner o (rows.map f) = rowsOf owner o rows := by
  rw [rowsOf, List.filter_map]
  simp only [Function.comp_def, howner]
  calc
    (rows.filter fun a => owner a == o).map f = (rows.filter fun a => owner a == o).map fun a => a :=
      List.map_congr_left fun a ha => hrow a (List.mem_of_mem_filter ha) (by simpa using List.of_mem_filter ha)
    _ = rows.filter fun a => owner a == o := List.map_id' _

theorem rowsOf_onId {o' : ℕ} (howner : ∀ a, owner (f a) = owner a) (hold : Holds id owner rows next o' k) (hne : o' ≠ o) :
    rowsOf owner o (rows.map (Table.onId id k f)) = rowsOf owner o rows :=
  rowsOf_map (Table.onId_column owner howner) fun a ha ho => Table.onId_other fun hid => hne ((hold.2 a ha hid).symm.trans ho)

theorem rowsOf_remove {o' : ℕ} (hold : Holds id owner rows next o' k) (hne : o' ≠ o) :
    rowsOf owner o (rows.filter fun a => id a != k) = rowsOf owner o rows := by
  rw [rowsOf, List.filter_filter, rowsOf]
  refine List.filter_congr fun a ha => ?_
  by_cases ho : owner a = o
  · have hid : id a ≠ k := fun hid => hne ((hold.2 a ha hid).symm.trans ho)
    simp [ho, hid]
  · simp [ho]

theorem rowsOf_append (hne : owner x ≠ o) : rowsOf owner o (rows ++ [x]) = rowsOf owner o rows := by
  rw [rowsOf, List.filter_append, List.filter_cons_of_neg (by simpa using hne), List.filter_nil, List.append_nil, rowsOf]

end Tenancy
