import ChopNow.Spec.Audit

/-! The audit log keeps no secrets, as far as `SENSITIVE_KEYS` has the lower-case spelling of a
name, and nothing else of a payload is lost, as far as its names are not `__proto__`. -/

namespace ChopNow

open Json

/-- `JSON.parse` never gives an object two properties of one name. -/
abbrev Payload := {x : JsonValue // x.Distinct}

/-- The name is one of `SENSITIVE_KEYS`, ignoring letter case. -/
def Sensitive (k : String) : Prop := ∃ name ∈ SENSITIVE_KEYS, toLowerCase k = toLowerCase name

/-- The names that `SENSITIVE_KEYS` has with capitals alone. -/
def capitalsOnly : List String := ["accessToken", "refreshToken", "tokenHash"]

/-- One of them, in other letters. -/
def misspelt (k : String) : Bool :=
  (capitalsOnly.map toLowerCase).contains (toLowerCase k) && !capitalsOnly.contains k

/-- Outside what is redacted no name is misspelt, and none is `__proto__`. -/
def WellNamed : JsonValue → Prop :=
  Json.fold (fun _ => True) (fun items => ∀ p ∈ items, p) fun fields =>
    ∀ f ∈ fields, f.1 ≠ "__proto__" ∧ misspelt f.1 = false ∧ (isRedacted f.1 = true ∨ f.2)

@[simp] theorem wellNamed_arr {items : List JsonValue} : WellNamed (.arr items) ↔ ∀ x ∈ items, WellNamed x := by
  rw [WellNamed, fold_arr, List.forall_mem_map]

@[simp] theorem wellNamed_obj {fields : List (String × JsonValue)} : WellNamed (.obj fields) ↔
    ∀ f ∈ fields, f.1 ≠ "__proto__" ∧ misspelt f.1 = false ∧ (isRedacted f.1 = true ∨ WellNamed f.2) := by
  rw [WellNamed, fold_obj, List.forall_mem_map]

/-! Names. -/

theorem toNat_toLower (c : Char) :
    c.toLower.toNat = if 65 ≤ c.toNat ∧ c.toNat ≤ 90 then c.toNat + 32 else c.toNat := by
  have hupper : (c.val ≥ 'A'.val ∧ c.val ≤ 'Z'.val) ↔ 65 ≤ c.toNat ∧ c.toNat ≤ 90 := Iff.rfl
  unfold Char.toLower
  simp only [hupper]
  split
  · next h =>
    change (c.val + 32).toNat = c.toNat + 32
    rw [UInt32.toNat_add]
    change (c.toNat + 32) % 2 ^ 32 = c.toNat + 32
    omega
  · rfl

theorem lowerChar_idem (c : Char) : lowerChar (lowerChar c) = lowerChar c := by
  have hlower := toNat_toLower c
  have htwice := toNat_toLower c.toLower
  unfold lowerChar
  split
  · rfl
  · next hc =>
    -- an ASCII letter stays one, so nothing becomes the Kelvin sign
    rw [if_neg fun he => ?_]
    · refine Char.toNat_inj.1 ?_
      split at hlower <;> split at htwice <;> omega
    · rw [he] at hlower
      change 8490 = _ at hlower
      refine hc (Char.toNat_inj.1 ?_)
      change _ = 8490
      split at hlower <;> omega

theorem toLowerCase_idem (k : String) : toLowerCase (toLowerCase k) = toLowerCase k := by
  unfold toLowerCase
  rw [String.toList_ofList, List.map_map]
  exact congrArg String.ofList (List.map_congr_left fun c _ => lowerChar_idem c)

theorem lower_key : ∀ name ∈ SENSITIVE_KEYS,
    toLowerCase name ∈ SENSITIVE_KEYS ∨ toLowerCase name ∈ capitalsOnly.map toLowerCase := by
  decide +kernel

theorem capitalsOnly_key : ∀ name ∈ capitalsOnly, name ∈ SENSITIVE_KEYS := by decide +kernel

/-- The three names stand among the keys in one spelling. -/
theorem key_capitalsOnly : ∀ name ∈ capitalsOnly, toLowerCase name ∉ SENSITIVE_KEYS ∧
    ∀ key ∈ SENSITIVE_KEYS, toLowerCase key = toLowerCase name → key ∈ capitalsOnly := by
  decide +kernel

theorem sensitive_of_redacted {k : String} (h : isRedacted k = true) : Sensitive k := by
  simp only [isRedacted, Bool.or_eq_true, List.contains_iff_mem] at h
  rcases h with hk | hk
  · exact ⟨k, hk, rfl⟩
  · exact ⟨toLowerCase k, hk, (toLowerCase_idem k).symm⟩

theorem sensitive_iff {k : String} : Sensitive k ↔ isRedacted k = true ∨ misspelt k = true := by
  simp only [misspelt, isRedacted, Bool.and_eq_true, Bool.or_eq_true, Bool.not_eq_true', List.contains_eq_mem,
    decide_eq_false_iff_not, decide_eq_true_eq]
  constructor
  · rintro ⟨name, hname, heq⟩
    rcases lower_key name hname with hkey | htwin
    · exact .inl (.inr (heq ▸ hkey))
    · by_cases hk : k ∈ capitalsOnly
      · exact .inl (.inl (capitalsOnly_key k hk))
      · exact .inr ⟨heq ▸ htwin, hk⟩
  · rintro (hk | ⟨htwin, -⟩)
    · exact sensitive_of_redacted (by simpa [isRedacted] using hk)
    · obtain ⟨name, hname, heq⟩ := List.mem_map.1 htwin
      exact ⟨name, capitalsOnly_key name hname, heq.symm⟩

theorem misspelt_not_redacted {k : String} (h : misspelt k = true) : isRedacted k = false := by
  simp only [misspelt, Bool.and_eq_true, Bool.not_eq_true', List.contains_eq_mem, decide_eq_false_iff_not,
    decide_eq_true_eq] at h
  obtain ⟨name, hname, heq⟩ := List.mem_map.1 h.1
  have hkey := key_capitalsOnly name hname
  simp only [isRedacted, Bool.or_eq_false_iff, List.contains_eq_mem, decide_eq_false_iff_not]
  exact ⟨fun hk => h.2 (hkey.2 k hk heq.symm), heq ▸ hkey.1⟩

/-! What comes out. -/

/-- Where a field goes, and with what value. -/
def cleanField (f : String × JsonValue) : Option (String × JsonValue) :=
  if f.1 = "__proto__" then none else some (f.1, if isRedacted f.1 then REDACTED else sanitize f.2)

theorem cleanField_proto {f : String × JsonValue} (h : f.1 = "__proto__") : cleanField f = none := if_pos h

theorem cleanField_kept {f : String × JsonValue} (h : f.1 ≠ "__proto__") :
    cleanField f = some (f.1, if isRedacted f.1 then REDACTED else sanitize f.2) := if_neg h

theorem cleanField_name {f g : String × JsonValue} (h : cleanField f = some g) : f.1 = g.1 := by
  unfold cleanField at h
  split at h
  · cases h
  · obtain rfl := Option.some.inj h
    rfl

@[simp] theorem sanitize_arr (items : List JsonValue) : sanitize (.arr items) = .arr (items.map sanitize) := by
  rw [sanitize, fold_arr]

theorem setField_all (fields : List (String × JsonValue)) (out : List (String × JsonValue))
    (hnames : (fields.map Prod.fst).Nodup) (hfresh : ∀ f ∈ fields, f.1 ∉ out.map Prod.fst) :
    fields.foldl (fun out f => setField out f.1 (if isRedacted f.1 then REDACTED else sanitize f.2)) out =
      out ++ fields.filterMap cleanField := by
  induction fields generalizing out with
  | nil => simp
  | cons f fields ih =>
    obtain ⟨hf, hnames⟩ := List.nodup_cons.1 hnames
    obtain ⟨hnew, hfresh⟩ := List.forall_mem_cons.1 hfresh
    rw [List.foldl_cons]
    by_cases hproto : f.1 = "__proto__"
    · rw [setField, if_pos hproto, ih out hnames hfresh, List.filterMap_cons_none (cleanField_proto hproto)]
    · rw [setField, if_neg hproto, assign_new hnew, ih _ hnames, List.filterMap_cons_some (cleanField_kept hproto),
        List.append_assoc, List.singleton_append]
      intro g hg hmem
      rw [List.map_append, List.mem_append, List.map_singleton, List.mem_singleton] at hmem
      rcases hmem with hold | heq
      · exact hfresh g hg hold
      · exact hf (heq ▸ List.mem_map_of_mem hg)

theorem sanitize_obj {fields : List (String × JsonValue)} (h : (fields.map Prod.fst).Nodup) :
    sanitize (.obj fields) = .obj (fields.filterMap cleanField) := by
  rw [sanitize, fold_obj, List.foldl_map]
  exact congrArg Json.obj (setField_all fields [] h (by simp))

/-- Names only get fewer. -/
theorem names_sublist (fields : List (String × JsonValue)) :
    ((fields.filterMap cleanField).map Prod.fst).Sublist (fields.map Prod.fst) := by
  induction fields with
  | nil => exact .slnil
  | cons f fields ih =>
    by_cases hproto : f.1 = "__proto__"
    · rw [List.filterMap_cons_none (cleanField_proto hproto), List.map_cons]
      exact ih.cons _
    · rw [List.filterMap_cons_some (cleanField_kept hproto), List.map_cons, List.map_cons]
      exact ih.cons_cons _

theorem sanitize_distinct {x : JsonValue} (h : x.Distinct) : (sanitize x).Distinct := by
  induction x using nesting with
  | scalar a => trivial
  | arr items ih =>
    rw [sanitize_arr, distinct_arr, List.forall_mem_map]
    exact fun x hx => ih x hx (distinct_arr.1 h x hx)
  | obj fields ih =>
    obtain ⟨hnames, hvalues⟩ := distinct_obj.1 h
    rw [sanitize_obj hnames, distinct_obj]
    refine ⟨(names_sublist fields).nodup hnames, fun g hg => ?_⟩
    obtain ⟨f, hf, hclean⟩ := List.mem_filterMap.1 hg
    unfold cleanField at hclean
    split at hclean
    · cases hclean
    · obtain rfl := Option.some.inj hclean
      dsimp only
      split
      · trivial
      · exact ih f hf (hvalues f hf)

def Payload.sanitize (x : Payload) : Payload := ⟨ChopNow.sanitize x.1, sanitize_distinct x.2⟩

theorem sanitize_idem {x : JsonValue} (h : x.Distinct) : sanitize (sanitize x) = sanitize x := by
  induction x using nesting with
  | scalar a => rfl
  | arr items ih =>
    rw [sanitize_arr, sanitize_arr, List.map_map]
    exact congrArg Json.arr (List.map_congr_left fun x hx => ih x hx (distinct_arr.1 h x hx))
  | obj fields ih =>
    obtain ⟨hnames, hvalues⟩ := distinct_obj.1 h
    rw [sanitize_obj hnames, sanitize_obj ((names_sublist fields).nodup hnames), List.filterMap_filterMap]
    refine congrArg Json.obj (List.filterMap_congr fun f hf => ?_)
    by_cases hproto : f.1 = "__proto__"
    · rw [cleanField_proto hproto, Option.bind_none]
    · rw [cleanField_kept hproto, Option.bind_some]
      refine (if_neg hproto).trans (congrArg some (Prod.ext rfl ?_))
      dsimp only
      split
      · rfl
      · rw [ih f hf (hvalues f hf)]

/-- Nothing is named `__proto__`, so every field comes out in its place. -/
theorem filterMap_clean {fields : List (String × JsonValue)} (h : ∀ f ∈ fields, f.1 ≠ "__proto__") :
    fields.filterMap cleanField = fields.map fun f => (f.1, if isRedacted f.1 then REDACTED else sanitize f.2) := by
  rw [← List.filterMap_eq_map]
  exact List.filterMap_congr fun f hf => cleanField_kept (h f hf)

theorem sanitize_agree {x : JsonValue} (h : x.Distinct) (hx : WellNamed x) : Agree Sensitive x (sanitize x) := by
  induction x using nesting with
  | scalar a => exact .refl _
  | arr items ih =>
    refine agree_arr.2 ⟨_, sanitize_arr items, List.forall₂_map_right_iff.2 (List.forall₂_same.2 fun x hx' => ?_)⟩
    exact ih x hx' (distinct_arr.1 h x hx') (wellNamed_arr.1 hx x hx')
  | obj fields ih =>
    obtain ⟨hnames, hvalues⟩ := distinct_obj.1 h
    have hfields := wellNamed_obj.1 hx
    rw [sanitize_obj hnames, filterMap_clean fun f hf => (hfields f hf).1]
    refine agree_obj.2 ⟨_, rfl, List.forall₂_map_right_iff.2 (List.forall₂_same.2 fun f hf => ⟨rfl, ?_⟩)⟩
    obtain ⟨-, -, hred | hvalue⟩ := hfields f hf
    · exact .inl (sensitive_of_redacted hred)
    · dsimp only
      split
      · next hred => exact .inl (sensitive_of_redacted hred)
      · exact .inr (ih f hf (hvalues f hf) hvalue)

/-- A payload that is well named hides what is stored under the names. -/
theorem sanitize_blind {x y : JsonValue} (h : x.Distinct) (hx : WellNamed x) (hy : y.Distinct)
    (hxy : Agree Sensitive x y) : sanitize x = sanitize y := by
  induction x using nesting generalizing y with
  | scalar a => rw [agree_scalar.1 hxy]
  | arr items ih =>
    obtain ⟨items', rfl, hitems⟩ := agree_arr.1 hxy
    rw [sanitize_arr, sanitize_arr]
    refine congrArg Json.arr (map_eq_of_forall₂ hitems fun a ha b hb hab => ?_)
    exact ih a ha (distinct_arr.1 h a ha) (wellNamed_arr.1 hx a ha) (distinct_arr.1 hy b hb) hab
  | obj fields ih =>
    obtain ⟨fields', rfl, hfields'⟩ := agree_obj.1 hxy
    obtain ⟨hnames, hvalues⟩ := distinct_obj.1 h
    obtain ⟨hnames', hvalues'⟩ := distinct_obj.1 hy
    have hfields := wellNamed_obj.1 hx
    have hsame : fields.map Prod.fst = fields'.map Prod.fst := map_eq_of_forall₂ hfields' fun f _ g _ hfg => hfg.1
    have hproto : ∀ g ∈ fields', g.1 ≠ "__proto__" := fun g hg => by
      have hmem : g.1 ∈ fields.map Prod.fst := hsame ▸ List.mem_map_of_mem hg
      obtain ⟨f, hf, heq⟩ := List.mem_map.1 hmem
      exact heq ▸ (hfields f hf).1
    rw [sanitize_obj hnames, sanitize_obj hnames', filterMap_clean fun f hf => (hfields f hf).1, filterMap_clean hproto]
    refine congrArg Json.obj (map_eq_of_forall₂ hfields' fun f hf g hg hfg => ?_)
    obtain ⟨-, hspelt, hkept⟩ := hfields f hf
    rw [← hfg.1]
    cases hred : isRedacted f.1 with
    | true => rfl
    | false =>
      -- the name is not redacted and not misspelt, so it is none of the names
      have hplain : ¬Sensitive f.1 := fun hs => by
        rcases sensitive_iff.1 hs with hr | hm
        · rw [hred] at hr; cases hr
        · rw [hspelt] at hm; cases hm
      have hvalue : WellNamed f.2 := hkept.resolve_left (by simp [hred])
      rw [ih f hf (hvalues f hf) hvalue (hvalues' g hg) (hfg.2.resolve_left hplain)]

/-! And only such a payload is kept so. -/

/-- `sanitize` hides what is stored under the names, and changes nothing else. -/
structure KeepsNoSecrets (x : Payload) : Prop where
  blind : ∀ y : Payload, Agree Sensitive x.1 y.1 → x.sanitize = y.sanitize
  faithful : Agree Sensitive x.1 x.sanitize.1
  idempotent : x.sanitize.sanitize = x.sanitize

/-- What agrees with an item is cleaned to the same. -/
theorem blind_item {before after : List JsonValue} {x y : JsonValue}
    (h : (arr (before ++ x :: after)).Distinct)
    (hblind : ∀ z : JsonValue, z.Distinct → Agree Sensitive (.arr (before ++ x :: after)) z →
      sanitize (.arr (before ++ x :: after)) = sanitize z)
    (hy : y.Distinct) (hxy : Agree Sensitive x y) : sanitize x = sanitize y := by
  rw [distinct_arr, List.forall_mem_append, List.forall_mem_cons] at h
  have hz : (arr (before ++ y :: after)).Distinct := by
    rw [distinct_arr, List.forall_mem_append, List.forall_mem_cons]
    exact ⟨h.1, hy, h.2.2⟩
  have heq := hblind _ hz (.exchange_item hxy)
  rw [sanitize_arr, sanitize_arr, List.map_append, List.map_append, List.map_cons, List.map_cons] at heq
  exact (List.cons.inj (List.append_cancel_left (Json.arr.inj heq))).1

/-- The same for a field that is neither dropped nor redacted, where whatever is under a name that is
to be hidden agrees. -/
theorem blind_field {before after : List (String × JsonValue)} {k : String} {x y : JsonValue}
    (h : (obj (before ++ (k, x) :: after)).Distinct)
    (hblind : ∀ z : JsonValue, z.Distinct → Agree Sensitive (.obj (before ++ (k, x) :: after)) z →
      sanitize (.obj (before ++ (k, x) :: after)) = sanitize z)
    (hproto : k ≠ "__proto__") (hred : isRedacted k = false) (hy : y.Distinct)
    (hxy : Sensitive k ∨ Agree Sensitive x y) : sanitize x = sanitize y := by
  have hz := h.exchange hy
  have heq := hblind _ hz (.exchange hxy)
  have hclean : ∀ z, cleanField (k, z) = some (k, sanitize z) := fun z => by
    rw [cleanField_kept hproto, hred]
    rfl
  rw [sanitize_obj (distinct_obj.1 h).1, sanitize_obj (distinct_obj.1 hz).1, List.filterMap_append,
    List.filterMap_append, List.filterMap_cons_some (hclean x), List.filterMap_cons_some (hclean y)] at heq
  exact (Prod.mk.inj (List.cons.inj (List.append_cancel_left (Json.obj.inj heq))).1).2

/-- No value stands for all of them. -/
theorem exists_other (x : JsonValue) : ∃ a : JsonScalar, x ≠ .scalar a := by
  cases x with
  | scalar a =>
    cases a with
    | null => exact ⟨.bool true, by simp⟩
    | bool | num | str => exact ⟨.null, by simp⟩
  | arr | obj => exact ⟨.null, by simp⟩

theorem kept_names {fields : List (String × JsonValue)}
    (h : fields.map Prod.fst = (fields.filterMap cleanField).map Prod.fst) : ∀ f ∈ fields, f.1 ≠ "__proto__" := by
  intro f hf hproto
  have hmem : f.1 ∈ (fields.filterMap cleanField).map Prod.fst := h ▸ List.mem_map_of_mem hf
  obtain ⟨g, hg, heq⟩ := List.mem_map.1 hmem
  obtain ⟨f', -, hclean⟩ := List.mem_filterMap.1 hg
  have hname := cleanField_name hclean
  rw [cleanField_proto (hname.trans (heq.trans hproto))] at hclean
  cases hclean

theorem wellNamed_of_keeps {x : JsonValue} (h : x.Distinct)
    (hblind : ∀ y : JsonValue, y.Distinct → Agree Sensitive x y → sanitize x = sanitize y)
    (hfaithful : Agree Sensitive x (sanitize x)) : WellNamed x := by
  induction x using nesting with
  | scalar a => trivial
  | arr items ih =>
    obtain ⟨items', heq, hitems⟩ := agree_arr.1 hfaithful
    rw [sanitize_arr] at heq
    obtain rfl := Json.arr.inj heq
    have hall := List.forall₂_same.1 (List.forall₂_map_right_iff.1 hitems)
    refine wellNamed_arr.2 fun x hx => ih x hx (distinct_arr.1 h x hx) (fun y hy hxy => ?_) (hall x hx)
    obtain ⟨before, after, rfl⟩ := List.append_of_mem hx
    exact blind_item h hblind hy hxy
  | obj fields ih =>
    obtain ⟨hnames, hvalues⟩ := distinct_obj.1 h
    obtain ⟨fields', heq, hfields⟩ := agree_obj.1 hfaithful
    rw [sanitize_obj hnames] at heq
    obtain rfl := Json.obj.inj heq
    have hproto := kept_names (map_eq_of_forall₂ hfields fun f _ g _ hfg => hfg.1)
    rw [filterMap_clean hproto] at hfields
    have hall := List.forall₂_same.1 (List.forall₂_map_right_iff.1 hfields)
    refine wellNamed_obj.2 fun f hf => ⟨hproto f hf, ?_⟩
    cases hred : isRedacted f.1 with
    | true =>
      refine ⟨?_, .inl rfl⟩
      by_contra hm
      rw [misspelt_not_redacted (by simpa using hm)] at hred
      cases hred
    | false =>
      have hsame : ∀ y : JsonValue, y.Distinct → Sensitive f.1 ∨ Agree Sensitive f.2 y → sanitize f.2 = sanitize y := by
        obtain ⟨before, after, rfl⟩ := List.append_of_mem hf
        exact fun y hy hxy => blind_field h hblind (hproto f hf) hred hy hxy
      -- under a name that is to be hidden, any scalar would do as well
      have hplain : ¬Sensitive f.1 := fun hs => by
        obtain ⟨a, ha⟩ := exists_other (sanitize f.2)
        exact ha (hsame (.scalar a) trivial (.inl hs))
      refine ⟨?_, .inr (ih f hf (hvalues f hf) (fun y hy hxy => hsame y hy (.inr hxy)) ?_)⟩
      · by_contra hm
        exact hplain (sensitive_iff.2 (.inr (by simpa using hm)))
      · have hagree := (hall f hf).2.resolve_left hplain
        rwa [hred, if_neg Bool.false_ne_true] at hagree

/-- The audit log keeps no secret of a payload, and all the rest of it, if and only if the payload
is well named. -/
theorem sanitize_keeps_iff (x : Payload) : KeepsNoSecrets x ↔ WellNamed x.1 := by
  constructor
  · intro h
    exact wellNamed_of_keeps x.2 (fun y hy hxy => congrArg Subtype.val (h.blind ⟨y, hy⟩ hxy)) h.faithful
  · intro hx
    exact ⟨fun y hxy => Subtype.ext (sanitize_blind x.2 hx y.2 hxy), sanitize_agree x.2 hx,
      Subtype.ext (sanitize_idem x.2)⟩

theorem distinct_oneField (k : String) (a : JsonScalar) : (obj [(k, .scalar a)]).Distinct :=
  distinct_obj.2 ⟨List.nodup_singleton k, by simp⟩

def oneField (k : String) (a : JsonScalar) : Payload := ⟨.obj [(k, .scalar a)], distinct_oneField k a⟩

theorem sanitize_oneField {k : String} (a : JsonScalar) (hproto : k ≠ "__proto__") (hred : isRedacted k = false) :
    (oneField k a).sanitize = oneField k a := by
  refine Subtype.ext ((sanitize_obj (distinct_obj.1 (distinct_oneField k a)).1).trans ?_)
  rw [List.filterMap_cons_some (cleanField_kept hproto), hred]
  rfl

/-- `{ accesstoken: 't' }` goes into the log as it came, and `{ __proto__: 't' }` as `{}`. -/
theorem token_in_clear : (¬∀ x y : Payload, Agree Sensitive x.1 y.1 → x.sanitize = y.sanitize) ∧
    ¬∀ x : Payload, Agree Sensitive x.1 x.sanitize.1 := by
  constructor
  · intro h
    have hname : Sensitive "accesstoken" := ⟨"accessToken", by decide +kernel, by decide +kernel⟩
    have hclear (t : String) : (oneField "accesstoken" (.str t)).sanitize = oneField "accesstoken" (.str t) :=
      sanitize_oneField _ (by decide) (by decide +kernel)
    have heq := h (oneField "accesstoken" (.str "t")) (oneField "accesstoken" (.str "u"))
      (agree_obj.2 ⟨_, rfl, .cons ⟨rfl, .inl hname⟩ .nil⟩)
    rw [hclear, hclear] at heq
    simp [oneField] at heq
  · intro h
    have hlost : (oneField "__proto__" (.str "t")).sanitize.1 = .obj [] := rfl
    obtain ⟨fields, heq, hfields⟩ := agree_obj.1 (h (oneField "__proto__" (.str "t")))
    rw [hlost] at heq
    obtain rfl := Json.obj.inj heq
    cases hfields

end ChopNow
