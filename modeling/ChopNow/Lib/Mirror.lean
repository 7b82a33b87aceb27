import Mathlib.Data.List.Basic
import Mathlib.Data.List.Nodup

/-! An append-only journal beside a table. Every journal row belongs to an event;
the journal mirrors the table when each table row has its event's journal rows, as
many and as they should be, and no other event of the kind has any. -/

namespace Mirror

variable {E K B α : Type*} [DecidableEq K]

/-- The journal rows of one event. -/
def rowsOf (event : E → K) (k : K) (journal : List E) : List E := journal.filter fun e => event e = k

@[simp] theorem rowsOf_append (event : E → K) (k : K) (l m : List E) :
    rowsOf event k (l ++ m) = rowsOf event k l ++ rowsOf event k m :=
  List.filter_append ..

theorem rowsOf_of_forall {event : E → K} {k : K} {l : List E} (h : ∀ e ∈ l, event e = k) : rowsOf event k l = l :=
  List.filter_eq_self.2 fun e he => decide_eq_true (h e he)

theorem rowsOf_of_forall_ne {event : E → K} {k : K} {l : List E} (h : ∀ e ∈ l, event e ≠ k) : rowsOf event k l = [] :=
  List.filter_eq_nil_iff.2 fun e he => by simpa using h e he

/-- `key` is the event of a table row, `picture` what its journal rows look like
through `look`, and `kind` marks the events that belong to the table. -/
structure Mirrors (event : E → K) (look : E → B) (kind : K → Bool) (key : α → K) (picture : α → List B)
    (table : List α) (journal : List E) : Prop where
  once : (table.map key).Nodup
  paired : ∀ r ∈ table, (rowsOf event (key r) journal).map look = picture r
  absent : ∀ k, kind k = true → k ∉ table.map key → rowsOf event k journal = []

variable {event : E → K} {look : E → B} {kind : K → Bool} {key : α → K} {picture : α → List B}
  {table : List α} {journal : List E}

theorem Mirrors.nil : Mirrors event look kind key picture [] [] := ⟨.nil, by simp, fun _ _ _ => rfl⟩

/-- An event of another kind is journalled. -/
theorem Mirrors.append_other (h : Mirrors event look kind key picture table journal) (hkey : ∀ r, kind (key r) = true)
    {rows : List E} (hrows : ∀ e ∈ rows, kind (event e) = false) :
    Mirrors event look kind key picture table (journal ++ rows) := by
  have hnone : ∀ k, kind k = true → rowsOf event k rows = [] := fun k hk =>
    rowsOf_of_forall_ne fun e he heq => by simp [← heq, hrows e he] at hk
  refine ⟨h.once, fun r hr => ?_, fun k hk hk' => ?_⟩
  · rw [rowsOf_append, hnone _ (hkey r), List.append_nil, h.paired r hr]
  · rw [rowsOf_append, hnone k hk, List.append_nil, h.absent k hk hk']

/-- A table row is written together with its journal rows. -/
theorem Mirrors.append_row (h : Mirrors event look kind key picture table journal) {r : α} {rows : List E}
    (hkind : kind (key r) = true) (hfresh : key r ∉ table.map key) (hrows : ∀ e ∈ rows, event e = key r)
    (hpicture : rows.map look = picture r) :
    Mirrors event look kind key picture (table ++ [r]) (journal ++ rows) := by
  have hother : ∀ k, k ≠ key r → rowsOf event k (journal ++ rows) = rowsOf event k journal := fun k hk => by
    rw [rowsOf_append, rowsOf_of_forall_ne fun e he heq => hk (heq.symm.trans (hrows e he)), List.append_nil]
  refine ⟨?_, fun r' hr' => ?_, fun k hk hk' => ?_⟩
  · rw [List.map_append, List.nodup_append]
    refine ⟨h.once, by simp, ?_⟩
    intro k hk k' hk' heq
    rw [List.map_cons, List.map_nil, List.mem_singleton] at hk'
    exact hfresh (hk' ▸ heq ▸ hk)
  · rcases List.mem_append.1 hr' with hr' | hr'
    · have hne : key r' ≠ key r := fun heq => hfresh (heq ▸ List.mem_map_of_mem hr')
      rw [hother _ hne, h.paired r' hr']
    · obtain rfl := List.mem_singleton.1 hr'
      rw [rowsOf_append, h.absent _ hkind hfresh, List.nil_append, rowsOf_of_forall hrows, hpicture]
  · simp only [List.map_append, List.map_cons, List.map_nil, List.mem_append, List.mem_singleton, not_or] at hk'
    rw [hother k hk'.2, h.absent k hk hk'.1]

/-- Table rows change in what the journal does not show. -/
theorem Mirrors.rewrite (h : Mirrors event look kind key picture table journal) {f : α → α}
    (hkey : ∀ r, key (f r) = key r) (hpicture : ∀ r, picture (f r) = picture r) :
    Mirrors event look kind key picture (table.map f) journal := by
  have hkeys : (table.map f).map key = table.map key := by simp [Function.comp_def, hkey]
  refine ⟨hkeys ▸ h.once, ?_, hkeys ▸ h.absent⟩
  intro r' hr'
  obtain ⟨r, hr, rfl⟩ := List.mem_map.1 hr'
  rw [hkey, hpicture, h.paired r hr]

/-- What a row of the table has in the journal stays as it is. -/
theorem Mirrors.still (h : Mirrors event look kind key picture table journal) {r : α} (hr : r ∈ table) {rows : List E}
    {table' : List α} (h' : Mirrors event look kind key picture table' (journal ++ rows)) {r' : α} (hr' : r' ∈ table')
    (hkey : key r' = key r) (hpicture : picture r' = picture r) :
    rowsOf event (key r) (journal ++ rows) = rowsOf event (key r) journal := by
  have hold := congrArg List.length (h.paired r hr)
  have hnew := congrArg List.length (h'.paired r' hr')
  simp only [hkey, hpicture, rowsOf_append, List.map_append, List.length_append, List.length_map] at hold hnew
  have hnone : rowsOf event (key r) rows = [] := List.length_eq_zero_iff.1 (by omega)
  rw [rowsOf_append, hnone, List.append_nil]

end Mirror
