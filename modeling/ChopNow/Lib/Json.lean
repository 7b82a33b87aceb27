import Mathlib.Data.List.Forall2
import Mathlib.Data.List.Nodup
import Mathlib.Tactic

/-! JSON values as they are held in memory: an object is the list of its own properties, whose
names are distinct. Two values can agree up to what is stored under some of the names. -/

/-- `α` holds what has no parts. -/
inductive Json (α : Type)
  | scalar (a : α)
  | arr (items : List (Json α))
  | obj (fields : List (String × Json α))
  deriving Repr

namespace Json

variable {α β : Type}

mutual

/-- A walk through the whole value, from the inside out. -/
def fold (scalar : α → β) (arr : List β → β) (obj : List (String × β) → β) : Json α → β
  | .scalar a => scalar a
  | .arr items => arr (foldItems scalar arr obj items)
  | .obj fields => obj (foldFields scalar arr obj fields)

def foldItems (scalar : α → β) (arr : List β → β) (obj : List (String × β) → β) : List (Json α) → List β
  | [] => []
  | x :: items => fold scalar arr obj x :: foldItems scalar arr obj items

def foldFields (scalar : α → β) (arr : List β → β) (obj : List (String × β) → β) :
    List (String × Json α) → List (String × β)
  | [] => []
  | (name, x) :: fields => (name, fold scalar arr obj x) :: foldFields scalar arr obj fields

end

section

variable (scalar : α → β) (arr : List β → β) (obj : List (String × β) → β)

theorem foldItems_eq (items : List (Json α)) : foldItems scalar arr obj items = items.map (fold scalar arr obj) := by
  induction items with
  | nil => rfl
  | cons x items ih => rw [foldItems, ih, List.map_cons]

theorem foldFields_eq (fields : List (String × Json α)) :
    foldFields scalar arr obj fields = fields.map fun f => (f.1, fold scalar arr obj f.2) := by
  induction fields with
  | nil => rfl
  | cons f fields ih => rw [foldFields, ih, List.map_cons]

@[simp] theorem fold_scalar (a : α) : fold scalar arr obj (.scalar a) = scalar a := rfl

@[simp] theorem fold_arr (items : List (Json α)) :
    fold scalar arr obj (.arr items) = arr (items.map (fold scalar arr obj)) := by
  rw [fold, foldItems_eq]

@[simp] theorem fold_obj (fields : List (String × Json α)) :
    fold scalar arr obj (.obj fields) = obj (fields.map fun f => (f.1, fold scalar arr obj f.2)) := by
  rw [fold, foldFields_eq]

end

/-- Induction over the nesting. -/
theorem nesting {P : Json α → Prop} (scalar : ∀ a, P (.scalar a)) (arr : ∀ items, (∀ x ∈ items, P x) → P (.arr items))
    (obj : ∀ fields, (∀ f ∈ fields, P f.2) → P (.obj fields)) (x : Json α) : P x :=
  match x with
  | .scalar a => scalar a
  | .arr items => arr items fun x _ => nesting scalar arr obj x
  | .obj fields => obj fields fun f _ => nesting scalar arr obj f.2
termination_by sizeOf x
decreasing_by
  · have := List.sizeOf_lt_of_mem ‹_›
    simp only [Json.arr.sizeOf_spec]
    omega
  · have hf := List.sizeOf_lt_of_mem ‹f ∈ fields›
    obtain ⟨name, x⟩ := f
    simp only [Prod.mk.sizeOf_spec, Json.obj.sizeOf_spec] at hf ⊢
    omega

/-! Distinct names. -/

/-- No object has two properties of one name. -/
def Distinct : Json α → Prop :=
  fold (fun _ => True) (fun items => ∀ p ∈ items, p)
    fun fields => (fields.map Prod.fst).Nodup ∧ ∀ f ∈ fields, f.2

@[simp] theorem distinct_scalar (a : α) : (scalar a).Distinct := trivial

@[simp] theorem distinct_arr {items : List (Json α)} : (arr items).Distinct ↔ ∀ x ∈ items, x.Distinct := by
  rw [Distinct, fold_arr, List.forall_mem_map]

@[simp] theorem distinct_obj {fields : List (String × Json α)} :
    (obj fields).Distinct ↔ (fields.map Prod.fst).Nodup ∧ ∀ f ∈ fields, f.2.Distinct := by
  rw [Distinct, fold_obj, List.map_map, List.forall_mem_map]
  rfl

/-- One value of an object is exchanged for another. -/
theorem Distinct.exchange {fs gs : List (String × Json α)} {name : String} {x y : Json α}
    (h : (obj (fs ++ (name, x) :: gs)).Distinct) (hy : y.Distinct) : (obj (fs ++ (name, y) :: gs)).Distinct := by
  simp only [distinct_obj, List.map_append, List.map_cons, List.forall_mem_append, List.forall_mem_cons] at h ⊢
  obtain ⟨hnames, hfs, -, hgs⟩ := h
  exact ⟨hnames, hfs, hy, hgs⟩

/-- `out[name] = x`. -/
def assign (out : List (String × β)) (name : String) (x : β) : List (String × β) :=
  if name ∈ out.map Prod.fst then out.map fun f => if f.1 = name then (name, x) else f else out ++ [(name, x)]

theorem assign_new {out : List (String × β)} {name : String} {x : β} (h : name ∉ out.map Prod.fst) :
    assign out name x = out ++ [(name, x)] := if_neg h

theorem map_eq_of_forall₂ {γ δ : Type} {R : γ → δ → Prop} {f : γ → β} {g : δ → β} {xs : List γ} {ys : List δ}
    (h : List.Forall₂ R xs ys) (hfg : ∀ x ∈ xs, ∀ y ∈ ys, R x y → f x = g y) : xs.map f = ys.map g := by
  induction h with
  | nil => rfl
  | cons hxy _ ih =>
    rw [List.map_cons, List.map_cons, hfg _ (.head _) _ (.head _) hxy,
      ih fun x hx y hy => hfg x (.tail _ hx) y (.tail _ hy)]

/-! Agreement up to what is stored under the names in `secret`. -/

def Agree (secret : String → Prop) : Json α → Json α → Prop :=
  fold (fun a y => y = .scalar a) (fun items y => ∃ items', y = .arr items' ∧ List.Forall₂ (fun p y => p y) items items')
    fun fields y => ∃ fields', y = .obj fields' ∧
      List.Forall₂ (fun f f' => f.1 = f'.1 ∧ (secret f.1 ∨ f.2 f'.2)) fields fields'

section

variable {secret : String → Prop}

@[simp] theorem agree_scalar {a : α} {y : Json α} : Agree secret (.scalar a) y ↔ y = .scalar a := by
  simp [Agree]

theorem agree_arr {items : List (Json α)} {y : Json α} :
    Agree secret (.arr items) y ↔ ∃ items', y = .arr items' ∧ List.Forall₂ (Agree secret) items items' := by
  simp [Agree, List.forall₂_map_left_iff]

theorem agree_obj {fields : List (String × Json α)} {y : Json α} :
    Agree secret (.obj fields) y ↔ ∃ fields', y = .obj fields' ∧
      List.Forall₂ (fun f f' => f.1 = f'.1 ∧ (secret f.1 ∨ Agree secret f.2 f'.2)) fields fields' := by
  simp [Agree, List.forall₂_map_left_iff]

theorem Agree.refl (x : Json α) : Agree secret x x := by
  induction x using nesting with
  | scalar a => simp
  | arr items ih => exact agree_arr.2 ⟨items, rfl, List.forall₂_same.2 ih⟩
  | obj fields ih => exact agree_obj.2 ⟨fields, rfl, List.forall₂_same.2 fun f hf => ⟨rfl, .inr (ih f hf)⟩⟩

theorem Agree.exchange_item {xs zs : List (Json α)} {x y : Json α} (h : Agree secret x y) :
    Agree secret (.arr (xs ++ x :: zs)) (.arr (xs ++ y :: zs)) :=
  agree_arr.2 ⟨_, rfl, List.rel_append (List.forall₂_same.2 fun a _ => .refl a)
    (.cons h (List.forall₂_same.2 fun a _ => .refl a))⟩

theorem Agree.exchange {fs gs : List (String × Json α)} {name : String} {x y : Json α}
    (h : secret name ∨ Agree secret x y) :
    Agree secret (.obj (fs ++ (name, x) :: gs)) (.obj (fs ++ (name, y) :: gs)) :=
  agree_obj.2 ⟨_, rfl, List.rel_append (List.forall₂_same.2 fun f _ => ⟨rfl, .inr (.refl f.2)⟩)
    (.cons ⟨rfl, h⟩ (List.forall₂_same.2 fun f _ => ⟨rfl, .inr (.refl f.2)⟩))⟩

end

end Json
