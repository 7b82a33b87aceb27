import ChopNow.Lib.Tenancy
import ChopNow.Spec.MenuService

/-! The vendors' menus, with the calls of all vendors interleaved. Ownership is checked statements before
the write; what the check saw stays so, and a vendor's calls meet that vendor's rows only. -/

namespace ChopNow

open Interleave Tenancy

/-- What the last statement of a request writes. -/
inductive MenuWrite (db : StoreDb) (vendorId : VendorId) : MenuRequest → StoreDb → Prop
  | read {request : MenuRequest} : MenuWrite db vendorId request db
  | createItem {dto : UpsertItemBody} (h : db.refers dto.categoryId) :
      MenuWrite db vendorId (.createItem dto) (db.insertItem (dto.newRow db.nextItemId vendorId db.clock) rfl h)
  | updateItem {itemId : ItemId} {dto : UpsertItemBody} (h : db.refers dto.categoryId) :
      MenuWrite db vendorId (.updateItem itemId dto)
        (db.writeItem itemId (dto.columns db.clock) (fun _ => rfl) fun _ _ => h)
  | deleteItem {itemId : ItemId} : MenuWrite db vendorId (.deleteItem itemId) (db.deleteItem itemId)
  | setItemStock {itemId : ItemId} {dto : UpdateItemStockDto} :
      MenuWrite db vendorId (.setItemStock itemId dto)
        (db.writeItem itemId (dto.columns db.clock) (fun _ => rfl) db.itemCategory)
  | setItemPhoto {itemId : ItemId} {key : String} :
      MenuWrite db vendorId (.setItemPhoto itemId key)
        (db.writeItem itemId (.setPhoto key db.clock) (fun _ => rfl) db.itemCategory)
  | createCategory {dto : UpsertCategoryDto} (h : namesFree (db.categories ++ [dto.newRow db.nextCategoryId vendorId db.clock])) :
      MenuWrite db vendorId (.createCategory dto) (db.insertCategory (dto.newRow db.nextCategoryId vendorId db.clock) rfl h)
  | updateCategory {id : CategoryId} {dto : UpsertCategoryDto}
      (h : namesFree (db.categories.map (Table.onId (·.id) id (dto.columns db.clock)))) :
      MenuWrite db vendorId (.updateCategory id dto) (db.writeCategory id (dto.columns db.clock) (fun _ => rfl) h)
  | deleteCategory {id : CategoryId} : MenuWrite db vendorId (.deleteCategory id) (db.deleteCategory id)

section

variable {db db' : StoreDb} {vendorId other : VendorId} {request : MenuRequest} {outcome : MenuOutcome} {check : MenuCheck}
  {t t' : MenuCall} {e : Reply}

theorem menuWrite_of_commit (h : request.commit db vendorId = .ok (db', outcome)) : MenuWrite db vendorId request db' := by
  cases request with
  | listItems | listCategories => cases h; exact .read
  | createItem dto =>
    rw [MenuRequest.commit] at h
    split at h <;> cases h
    exact .createItem _
  | createCategory dto =>
    simp only [MenuRequest.commit] at h
    split at h <;> cases h
    exact .createCategory _
  | updateItem itemId dto =>
    rw [MenuRequest.commit] at h
    split at h
    · cases h
    · split at h <;> cases h
      exact .updateItem _
  | updateCategory id dto =>
    rw [MenuRequest.commit] at h
    split at h
    · cases h
    · split at h <;> cases h
      exact .updateCategory _
  | deleteItem itemId => rw [MenuRequest.commit] at h; split at h <;> cases h; exact .deleteItem
  | setItemStock itemId dto => rw [MenuRequest.commit] at h; split at h <;> cases h; exact .setItemStock
  | setItemPhoto itemId key => rw [MenuRequest.commit] at h; split at h <;> cases h; exact .setItemPhoto
  | deleteCategory id => rw [MenuRequest.commit] at h; split at h <;> cases h; exact .deleteCategory

/-- What one statement of a call does. -/
inductive MenuMove (db : StoreDb) : MenuCall → StoreDb → MenuCall → Prop
  | finish {t : MenuCall} (outcome : MenuOutcome) : MenuMove db t db (.done outcome)
  | found {userId : UserId} {request : MenuRequest} {vendor : StoreVendor} (hmem : vendor ∈ db.vendors)
      (huser : vendor.userId = userId) :
      MenuMove db (.requireVendor userId request) db (.next vendor.id request (request.checks vendor.type))
  | passed {vendorId : VendorId} {check : MenuCheck} {checks : List MenuCheck} {request : MenuRequest}
      (h : check.fails db vendorId = none) :
      MenuMove db (.checking vendorId check checks request) db (.next vendorId request checks)
  | committed {vendorId : VendorId} {request : MenuRequest} {db' : StoreDb} (outcome : MenuOutcome)
      (h : MenuWrite db vendorId request db') : MenuMove db (.committing vendorId request) db' (.done outcome)

theorem menuMove_of_step (h : t.step db e = some (db', t')) : MenuMove db t db' t' := by
  cases e with
  | accepted ref => cases t <;> cases h
  | refused reason => cases t <;> cases h
  | lost ref reason => cases t <;> cases h
  | fail err => cases t <;> cases h <;> exact .finish _
  | ok =>
    cases t with
    | done outcome => cases h
    | requireVendor userId request =>
      rw [MenuCall.step] at h
      split at h <;> cases h
      · exact .finish _
      next vendor hfound => exact .found (List.mem_of_find?_eq_some hfound) (by simpa using List.find?_some hfound)
    | checking vendorId check checks request =>
      rw [MenuCall.step] at h
      split at h <;> cases h
      · exact .finish _
      · exact .passed ‹_›
    | committing vendorId request =>
      rw [MenuCall.step] at h
      split at h <;> cases h
      · exact .finish _
      · exact .committed _ (menuWrite_of_commit ‹_›)

theorem menuMachine_step {ts : List MenuCall} (h : menuMachine.step db t e = some (db', ts)) :
    ∃ t', ts = [t'] ∧ MenuMove db t db' t' := by
  obtain ⟨⟨db₁, t'⟩, hst, hr⟩ := Option.map_eq_some_iff.1 h
  obtain ⟨rfl, rfl⟩ := Prod.mk.inj hr
  exact ⟨t', rfl, menuMove_of_step hst⟩

/-! Whose rows they are. -/

/-- The rows that there are keep their vendors. -/
structure KeepsVendors (db db' : StoreDb) : Prop where
  items : Keeps (·.id) (·.vendorId) db.items db.nextItemId db'.items db'.nextItemId
  categories : Keeps (·.id) (·.vendorId) db.categories db.nextCategoryId db'.categories db'.nextCategoryId
  vendors : ∀ v ∈ db.vendors, ∃ v' ∈ db'.vendors, v'.id = v.id ∧ v'.userId = v.userId

def StoreDb.HoldsItem (db : StoreDb) (vendorId : VendorId) (id : ItemId) : Prop :=
  Holds (·.id) (·.vendorId) db.items db.nextItemId vendorId id

def StoreDb.HoldsCategory (db : StoreDb) (vendorId : VendorId) (id : CategoryId) : Prop :=
  Holds (·.id) (·.vendorId) db.categories db.nextCategoryId vendorId id

/-- What a check has found out about its vendor for good. -/
def MenuCheck.Held (db : StoreDb) (vendorId : VendorId) : MenuCheck → Prop
  | .itemBelongs id => db.HoldsItem vendorId id
  | .categoryBelongs id => db.HoldsCategory vendorId id
  | _ => True

theorem KeepsVendors.held (h : KeepsVendors db db') (hheld : check.Held db vendorId) : check.Held db' vendorId := by
  cases check with
  | itemBelongs id => exact h.items.holds hheld
  | categoryBelongs id => exact h.categories.holds hheld
  | _ => trivial

theorem held_of_passed (h : check.fails db vendorId = none) : check.Held db vendorId := by
  cases check with
  | itemBelongs id =>
    rw [MenuCheck.fails] at h
    split at h
    · cases h
    next item hfound =>
    obtain rfl : item.id = id := by simpa using List.find?_some hfound
    obtain rfl : item.vendorId = vendorId := by simpa using h
    exact holds_of_mem db.itemIssued db.itemIds (List.mem_of_find?_eq_some hfound)
  | categoryBelongs id =>
    rw [MenuCheck.fails] at h
    split at h
    · cases h
    next cat hfound =>
    obtain rfl : cat.id = id := by simpa using List.find?_some hfound
    obtain rfl : cat.vendorId = vendorId := by simpa using h
    exact holds_of_mem db.categoryIssued db.categoryIds (List.mem_of_find?_eq_some hfound)
  | itemCount | categoryCount | uploadImage => trivial

theorem ItemRow.leave_vendorId (id : CategoryId) (i : ItemRow) : (i.leave id).vendorId = i.vendorId := by
  unfold leave
  split <;> rfl

theorem keeps_of_writeItem {id : ItemId} {f : ItemRow → ItemRow} (hid : ∀ i, (f i).id = i.id)
    (hrefers : ∀ i ∈ db.items, db.refers (f i).categoryId) (hvendor : ∀ i, (f i).vendorId = i.vendorId) :
    KeepsVendors db (db.writeItem id f hid hrefers) :=
  ⟨.map (Table.onId_id (fun i : ItemRow => i.id) hid) (Table.onId_column (fun i : ItemRow => i.vendorId) hvendor), .refl,
    fun v hv => ⟨v, hv, rfl, rfl⟩⟩

theorem MenuWrite.keeps (h : MenuWrite db vendorId request db') : KeepsVendors db db' := by
  have hvendors : ∀ v ∈ db.vendors, ∃ v' ∈ db.vendors, v'.id = v.id ∧ v'.userId = v.userId := fun v hv => ⟨v, hv, rfl, rfl⟩
  cases h with
  | read => exact ⟨.refl, .refl, hvendors⟩
  | createItem h => exact ⟨.append rfl, .refl, hvendors⟩
  | updateItem h => exact keeps_of_writeItem _ _ fun _ => rfl
  | deleteItem => exact ⟨.filter _, .refl, hvendors⟩
  | setItemStock => exact keeps_of_writeItem _ _ fun _ => rfl
  | setItemPhoto => exact keeps_of_writeItem _ _ fun _ => rfl
  | createCategory h => exact ⟨.refl, .append rfl, hvendors⟩
  | updateCategory h =>
    exact ⟨.refl, .map (Table.onId_id (fun c : CategoryRow => c.id) fun _ => rfl) 
      (Table.onId_column (fun c : CategoryRow => c.vendorId) fun _ => rfl), hvendors⟩
  | deleteCategory => exact ⟨.map (ItemRow.leave_id _) (ItemRow.leave_vendorId _), .filter _, hvendors⟩

theorem MenuMove.keeps (h : MenuMove db t db' t') : KeepsVendors db db' := by
  cases h with
  | committed outcome hwrite => exact hwrite.keeps
  | _ => exact ⟨.refl, .refl, fun v hv => ⟨v, hv, rfl, rfl⟩⟩

/-! What a call knows. -/

/-- The checks that a request goes through whatever the vendor's type. -/
def MenuRequest.guards : MenuRequest → List MenuCheck
  | .listItems => []
  | .createItem dto => dto.categoryId.toList.map .categoryBelongs
  | .updateItem itemId dto => .itemBelongs itemId :: dto.categoryId.toList.map .categoryBelongs
  | .deleteItem itemId => [.itemBelongs itemId]
  | .setItemStock itemId _ => [.itemBelongs itemId]
  | .setItemPhoto itemId _ => [.itemBelongs itemId]
  | .listCategories => []
  | .createCategory _ => []
  | .updateCategory categoryId _ => [.categoryBelongs categoryId]
  | .deleteCategory categoryId => [.categoryBelongs categoryId]

theorem guards_subset (type : VendorType) (request : MenuRequest) : request.guards ⊆ request.checks type := by
  cases request with
  | createItem dto => exact List.subset_append_right _ _
  | createCategory dto => exact List.nil_subset _
  | setItemPhoto itemId key => simp [MenuRequest.guards, MenuRequest.checks]
  | _ => exact List.Subset.refl _

/-- Of the request's guards, those are left that the call has not come to. -/
def MenuCall.Knows (db : StoreDb) : MenuCall → Prop
  | .checking vendorId check checks request => ∀ guard ∈ request.guards, guard ∈ check :: checks ∨ guard.Held db vendorId
  | .committing vendorId request => ∀ guard ∈ request.guards, guard.Held db vendorId
  | _ => True

theorem knows_next {checks : List MenuCheck} (h : ∀ guard ∈ request.guards, guard ∈ checks ∨ guard.Held db vendorId) :
    (MenuCall.next vendorId request checks).Knows db := by
  cases checks with
  | nil => exact fun guard hguard => (h guard hguard).resolve_left (List.not_mem_nil)
  | cons check checks => exact h

theorem MenuCall.Knows.keep (h : t.Knows db) (hkeep : KeepsVendors db db') : t.Knows db' := by
  cases t with
  | checking vendorId check checks request => exact fun guard hguard => (h guard hguard).imp_right hkeep.held
  | committing vendorId request => exact fun guard hguard => hkeep.held (h guard hguard)
  | _ => trivial

theorem MenuMove.knows (h : MenuMove db t db' t') (ht : t.Knows db) : t'.Knows db' := by
  cases h with
  | finish outcome => trivial
  | committed outcome hwrite => trivial
  | found hmem huser => exact knows_next fun guard hguard => .inl (guards_subset _ _ hguard)
  | passed hpassed =>
    refine knows_next fun guard hguard => ?_
    rcases ht guard hguard with hleft | hheld
    · rcases List.mem_cons.1 hleft with rfl | hrest
      · exact .inr (held_of_passed hpassed)
      · exact .inl hrest
    · exact .inr hheld

/-! What every row is like. -/

/-- Its category is one of its vendor's, and the two stock columns agree. -/
structure ItemRow.Sound (db : StoreDb) (i : ItemRow) : Prop where
  filed : ∀ id ∈ i.categoryId, db.HoldsCategory i.vendorId id
  stock : i.isInStock = i.stockLevel.sells
  available : i.isAvailable = true

structure StoreDb.Sound (db : StoreDb) : Prop where
  items : ∀ i ∈ db.items, i.Sound db
  categories : ∀ c ∈ db.categories, c.isActive = true

theorem ItemRow.Sound.keep {i : ItemRow} (h : i.Sound db) (hkeep : KeepsVendors db db') : i.Sound db' :=
  { h with filed := fun id hid => hkeep.categories.holds (h.filed id hid) }

/-- A write to one item. -/
theorem StoreDb.Sound.writeItem (h : db.Sound) {id : ItemId} {f : ItemRow → ItemRow} (hid : ∀ i, (f i).id = i.id)
    (hrefers : ∀ i ∈ db.items, db.refers (f i).categoryId) (hf : ∀ i ∈ db.items, i.id = id → (f i).Sound db) :
    (db.writeItem id f hid hrefers).Sound := by
  refine ⟨List.forall_mem_map.2 fun i hi => ?_, h.categories⟩
  unfold Table.onId
  split
  next heq => exact { hf i hi heq with }
  · exact { h.items i hi with }

theorem MenuWrite.sound (h : MenuWrite db vendorId request db') (hguards : ∀ guard ∈ request.guards, guard.Held db vendorId)
    (hs : db.Sound) : db'.Sound := by
  have hkeep := h.keeps
  cases h with
  | read => exact hs
  | @createItem dto h =>
    refine ⟨List.forall_mem_append.2 ⟨fun i hi => (hs.items i hi).keep hkeep,
        List.forall_mem_singleton.2 ⟨fun id hid => ?_, rfl, rfl⟩⟩,
      hs.categories⟩
    exact hguards _ (List.mem_map_of_mem (Option.mem_toList.2 hid))
  | @updateItem itemId dto h =>
    refine hs.writeItem _ _ fun i hi hid => ⟨fun id hcategory => ?_, ?_, (hs.items i hi).available⟩
    · obtain rfl : i.vendorId = vendorId := (hguards _ (.head _)).2 i hi hid
      exact hguards _ (.tail _ (List.mem_map_of_mem (Option.mem_toList.2 hcategory)))
    · change (dto.stockLevel.map StockLevel.sells).getD i.isInStock = (dto.stockLevel.getD i.stockLevel).sells
      cases dto.stockLevel with
      | none => exact (hs.items i hi).stock
      | some stockLevel => rfl
  | deleteItem => exact ⟨fun i hi => (hs.items i (List.mem_of_mem_filter hi)).keep hkeep, hs.categories⟩
  | setItemStock => exact hs.writeItem _ _ fun i hi _ => { hs.items i hi with stock := rfl }
  | setItemPhoto => exact hs.writeItem _ _ fun i hi _ => { hs.items i hi with }
  | createCategory h =>
    exact ⟨fun i hi => (hs.items i hi).keep hkeep, List.forall_mem_append.2 ⟨hs.categories, List.forall_mem_singleton.2 rfl⟩⟩
  | @updateCategory id dto h =>
    have hactive : ∀ c : CategoryRow, (Table.onId (·.id) id (dto.columns db.clock) c).isActive = c.isActive :=
      Table.onId_column (fun c : CategoryRow => c.isActive) fun _ => rfl
    exact ⟨fun i hi => (hs.items i hi).keep hkeep,
      List.forall_mem_map.2 fun c hc => (hactive c).trans (hs.categories c hc)⟩
  | deleteCategory =>
    refine ⟨List.forall_mem_map.2 fun i hi => ?_, fun c hc => hs.categories c (List.mem_of_mem_filter hc)⟩
    have hi := (hs.items i hi).keep hkeep
    unfold ItemRow.leave
    split
    · exact { hi with filed := fun _ h => by cases h }
    · exact hi

theorem MenuMove.sound (h : MenuMove db t db' t') (ht : t.Knows db) (hs : db.Sound) : db'.Sound := by
  cases h with
  | committed outcome hwrite => exact hwrite.sound ht hs
  | _ => exact hs

/-! The other writes. -/

theorem createMany_spec (vendorId : VendorId) (items : List SubmittedItem) :
    ∀ (db : StoreDb) (sortOrder : ℕ), KeepsVendors db (db.createMany vendorId sortOrder items) ∧
      (db.Sound → (db.createMany vendorId sortOrder items).Sound) ∧
      (db.createMany vendorId sortOrder items).vendors = db.vendors ∧
      (db.createMany vendorId sortOrder items).categories = db.categories ∧
      ∀ other, other ≠ vendorId → (db.createMany vendorId sortOrder items).itemsOf other = db.itemsOf other := by
  induction items with
  | nil => exact fun db _ => ⟨⟨.refl, .refl, fun v hv => ⟨v, hv, rfl, rfl⟩⟩, fun hs => hs, rfl, rfl, fun _ _ => rfl⟩
  | cons item items ih =>
    intro db sortOrder
    have hrefers : db.refers none := fun _ h => by cases h
    have hfirst : KeepsVendors db (db.insertItem (item.row db.nextItemId vendorId sortOrder db.clock) rfl hrefers) :=
      ⟨.append rfl, .refl, fun v hv => ⟨v, hv, rfl, rfl⟩⟩
    obtain ⟨hkeep, hsound, hvendors, hcategories, hothers⟩ :=
      ih (db.insertItem (item.row db.nextItemId vendorId sortOrder db.clock) rfl hrefers) (sortOrder + 1)
    refine ⟨⟨hfirst.items.trans hkeep.items, hfirst.categories.trans hkeep.categories, ?_⟩, fun hs => hsound ?_, hvendors,
      hcategories, fun other hother => (hothers other hother).trans (rowsOf_append hother.symm)⟩
    · exact hkeep.vendors
    · refine ⟨List.forall_mem_append.2 ⟨fun i hi => (hs.items i hi).keep hfirst, List.forall_mem_singleton.2 ⟨?_, rfl, rfl⟩⟩,
        hs.categories⟩
      exact fun _ h => by cases h

/-- What an event keeps, of a vendor that is there. -/
structure EventKeeps (db db' : StoreDb) : Prop where
  vendors : KeepsVendors db db'
  sound : db.Sound → db'.Sound
  items : ∀ v ∈ db.vendors, db'.itemsOf v.id = db.itemsOf v.id
  categories : db'.categories = db.categories

theorem submit_keeps {vendor : StoreVendor} {items : List SubmittedItem} (h : db.submit vendor items = some db') :
    EventKeeps db db' := by
  unfold StoreDb.submit at h
  split at h
  next hfree =>
    obtain rfl := Option.some.inj h
    obtain ⟨hkeep, hsound, hvendors, hcategories, hothers⟩ := createMany_spec vendor.id items { db with
      vendors := db.vendors ++ [vendor]
      vendorIds := StoreDb.vendorKeys_append db.vendorIds fun v hv => (hfree v hv).1
      vendorUsers := StoreDb.vendorKeys_append db.vendorUsers fun v hv => (hfree v hv).2 } 0
    refine ⟨⟨hkeep.items, hkeep.categories, fun v hv => ⟨v, ?_, rfl, rfl⟩⟩, fun hs => hsound ⟨fun i hi => { hs.items i hi with },
      hs.categories⟩, fun v hv => hothers v.id (hfree v hv).1, hcategories⟩
    rw [hvendors]
    exact List.mem_append_left _ hv
  · cases h

theorem storeEvent_keeps {n : StoreEvent} {ts : List MenuCall} (h : storeEvent db n = some (db', ts)) :
    EventKeeps db db' := by
  have hvendors : ∀ v ∈ db.vendors, ∃ v' ∈ db.vendors, v'.id = v.id ∧ v'.userId = v.userId := fun v hv => ⟨v, hv, rfl, rfl⟩
  cases n with
  | tick elapsed =>
    cases h
    exact ⟨⟨.refl, .refl, hvendors⟩, fun hs => ⟨fun i hi => { hs.items i hi with }, hs.categories⟩, fun _ _ => rfl, rfl⟩
  | call userId request => cases h; exact ⟨⟨.refl, .refl, hvendors⟩, fun hs => hs, fun _ _ => rfl, rfl⟩
  | writeVendor columns =>
    cases h
    refine ⟨⟨.refl, .refl, fun v hv => ⟨v.write columns, List.mem_map_of_mem hv, ?_⟩⟩,
      fun hs => ⟨fun i hi => { hs.items i hi with }, hs.categories⟩, fun _ _ => rfl, rfl⟩
    exact ⟨(v.write_keys columns).1, (v.write_keys columns).2.1⟩
  | submit vendor items =>
    obtain ⟨db₁, hsubmit, hr⟩ := Option.map_eq_some_iff.1 h
    obtain ⟨rfl, rfl⟩ := Prod.mk.inj hr
    exact submit_keeps hsubmit

/-! Runs. -/

theorem ItemRow.Sound.category {i : ItemRow} (h : i.Sound db) (hi : i ∈ db.items) {id : CategoryId} (hid : id ∈ i.categoryId) :
    ∃ c ∈ db.categories, c.id = id ∧ c.vendorId = i.vendorId := by
  obtain ⟨c, hc, heq⟩ := List.mem_map.1 (db.itemCategory i hi id hid)
  exact ⟨c, hc, heq, (h.filed id hid).2 c hc heq⟩

/-- A category that one vendor's call knows to be that vendor's holds no items of another. -/
theorem ItemRow.leave_other {i : ItemRow} (h : i.Sound db) (hi : i ∈ db.items) {id : CategoryId}
    (hheld : db.HoldsCategory vendorId id) (hother : i.vendorId ≠ vendorId) : i.leave id = i := by
  refine if_neg fun hid => hother ?_
  have hmem : id ∈ i.categoryId := hid
  obtain ⟨c, hc, heq, hvendor⟩ := h.category hi hmem
  exact hvendor.symm.trans (hheld.2 c hc heq)

/-- A call meets its vendor's rows only. -/
theorem MenuWrite.others (h : MenuWrite db vendorId request db') (hguards : ∀ guard ∈ request.guards, guard.Held db vendorId)
    (hs : db.Sound) (hother : vendorId ≠ other) :
    db'.itemsOf other = db.itemsOf other ∧ db'.categoriesOf other = db.categoriesOf other := by
  cases h with
  | read => exact ⟨rfl, rfl⟩
  | createItem h => exact ⟨rowsOf_append hother, rfl⟩
  | updateItem h => exact ⟨rowsOf_onId (fun _ => rfl) (hguards _ (.head _)) hother, rfl⟩
  | deleteItem => exact ⟨rowsOf_remove (hguards _ (.head _)) hother, rfl⟩
  | setItemStock => exact ⟨rowsOf_onId (fun _ => rfl) (hguards _ (.head _)) hother, rfl⟩
  | setItemPhoto => exact ⟨rowsOf_onId (fun _ => rfl) (hguards _ (.head _)) hother, rfl⟩
  | createCategory h => exact ⟨rfl, rowsOf_append hother⟩
  | updateCategory h => exact ⟨rfl, rowsOf_onId (fun _ => rfl) (hguards _ (.head _)) hother⟩
  | deleteCategory =>
    refine ⟨rowsOf_map (ItemRow.leave_vendorId _) fun i hi ho => ?_, rowsOf_remove (hguards _ (.head _)) hother⟩
    exact ItemRow.leave_other (hs.items i hi) hi (hguards _ (.head _)) (ho ▸ hother.symm)

/-- Which vendor a call is by. -/
def MenuCall.isBy (vendor : StoreVendor) : MenuCall → Prop
  | .requireVendor userId _ => userId = vendor.userId
  | .checking vendorId .. => vendorId = vendor.id
  | .committing vendorId _ => vendorId = vendor.id
  | .done _ => False

theorem isBy_next {vendor : StoreVendor} {checks : List MenuCheck} :
    (MenuCall.next vendorId request checks).isBy vendor ↔ vendorId = vendor.id := by
  cases checks <;> exact Iff.rfl

def StoreDb.Has (db : StoreDb) (vendor : StoreVendor) : Prop := ∃ v ∈ db.vendors, v.id = vendor.id ∧ v.userId = vendor.userId

theorem KeepsVendors.has {vendor : StoreVendor} (h : KeepsVendors db db') (hv : db.Has vendor) : db'.Has vendor := by
  obtain ⟨v, hv, hid, huser⟩ := hv
  obtain ⟨v', hv', hid', huser'⟩ := h.vendors v hv
  exact ⟨v', hv', hid'.trans hid, huser'.trans huser⟩

theorem MenuMove.others {vendor : StoreVendor} (h : MenuMove db t db' t') (ht : t.Knows db) (hs : db.Sound)
    (hv : db.Has vendor) (hby : ¬t.isBy vendor) :
    db'.itemsOf vendor.id = db.itemsOf vendor.id ∧ db'.categoriesOf vendor.id = db.categoriesOf vendor.id ∧ ¬t'.isBy vendor := by
  cases h with
  | finish outcome => exact ⟨rfl, rfl, fun h => h⟩
  | passed h => exact ⟨rfl, rfl, fun h => hby (isBy_next.1 h)⟩
  | @found userId request row hmem huser =>
    refine ⟨rfl, rfl, fun h => hby ?_⟩
    obtain ⟨v, hv, hid, huser'⟩ := hv
    obtain rfl := List.inj_on_of_nodup_map db.vendorIds hmem hv ((isBy_next.1 h).trans hid.symm)
    exact huser.symm.trans huser'
  | committed outcome hwrite =>
    obtain ⟨hitems, hcategories⟩ := hwrite.others ht hs hby
    exact ⟨hitems, hcategories, fun h => h⟩

theorem storeEvent_starts {n : StoreEvent} {ts : List MenuCall} (h : menuMachine.event db n = some (db', ts)) :
    ∀ t ∈ ts, ∃ userId request, n = .call userId request ∧ t = .requireVendor userId request := by
  cases n with
  | tick | writeVendor => cases h; exact List.forall_mem_nil _
  | call userId request => cases h; exact List.forall_mem_singleton.2 ⟨userId, request, rfl, rfl⟩
  | submit vendor items =>
    obtain ⟨db₁, -, hr⟩ := Option.map_eq_some_iff.1 h
    obtain ⟨-, rfl⟩ := Prod.mk.inj hr
    exact List.forall_mem_nil _

end

def emptyStore : StoreDb where
  vendors := []
  categories := []
  items := []
  nextCategoryId := 0
  nextItemId := 0
  clock := 0
  vendorIds := List.nodup_nil
  vendorUsers := List.nodup_nil
  categoryIds := List.nodup_nil
  categoryNames := List.nodup_nil
  categoryIssued := List.forall_mem_nil _
  itemIds := List.nodup_nil
  itemIssued := List.forall_mem_nil _
  itemCategory := List.forall_mem_nil _

section

variable {p q : Pool StoreDb MenuCall}

theorem menus_reach (h : menuMachine.Reach anyMove ⟨emptyStore, []⟩ q) : q.shared.Sound ∧ ∀ t ∈ q.threads, t.Knows q.shared := by
  refine h.stable ⟨List.forall_mem_nil _, List.forall_mem_nil _⟩ (List.forall_mem_nil _) ?_ ?_
  · intro s us n s' ts _ hI _ hev
    have hkeep := storeEvent_keeps hev
    refine ⟨hkeep.sound hI, fun t ht => ?_, fun u hu => hu.keep hkeep.vendors⟩
    obtain ⟨userId, request, -, rfl⟩ := storeEvent_starts hev t ht
    trivial
  · intro s us vs t e s' ts _ hI ht _ hst
    obtain ⟨t', rfl, hmove⟩ := menuMachine_step hst
    exact ⟨hmove.sound ht hI, List.forall_mem_singleton.2 (hmove.knows ht), fun u hu => hu.keep hmove.keeps⟩

/-- Whatever the vendors' calls, and however their statements interleave, an item's category is one of its
own vendor's, and what the catalogue reads of its stock is what the menu screen shows. -/
theorem menus_sound (h : menuMachine.Reach anyMove ⟨emptyStore, []⟩ q) :
    (∀ i ∈ q.shared.items, ∀ id ∈ i.categoryId, ∃ c ∈ q.shared.categories, c.id = id ∧ c.vendorId = i.vendorId) ∧
    (∀ i ∈ q.shared.items, i.isInStock = i.stockLevel.sells ∧ i.isAvailable = true) ∧
    ∀ c ∈ q.shared.categories, c.isActive = true := by
  obtain ⟨hsound, -⟩ := menus_reach h
  refine ⟨fun i hi id hid => (hsound.items i hi).category hi hid, fun i hi => ?_, hsound.categories⟩
  exact ⟨(hsound.items i hi).stock, (hsound.items i hi).available⟩

def exampleVendor (id : VendorId) (userId : UserId) : StoreVendor where
  id := id
  userId := userId
  type := .informal
  status := .active
  isOpen := true
  acceptsPreOrders := true
  commissionRate := 6 / 100
  momoPhone := "+237670000001"
  createdAt := 0
  name := "Chez Mama"
  badge := none
  quartier := "Akwa"
  profilePhotoUrl := none
  description := none
  hours := none

theorem dish_price : (100 : ℤ) ≤ 1500 := by norm_num

theorem dear_price : (100 : ℤ) ≤ 2000 := by norm_num

def ndole : UpsertItemBody where
  name := "Ndolé"
  priceXAF := ⟨2000, dear_price⟩
  categoryId := some 0
  stockLevel := some .lowStock
  priceXAF_max := by decide

/-- Vendor 1 puts its first dish into a new category. -/
def exampleMenu : List (Act StoreEvent Reply) :=
  [.event (.submit (exampleVendor 1 11) [⟨"Ndolé", ⟨1500, dish_price⟩, none⟩]), .event (.submit (exampleVendor 2 12) []),
    .event (.call 11 (.createCategory ⟨"Plats", none⟩)), .step 0 .ok, .step 0 .ok, .step 0 .ok,
    .event (.call 11 (.updateItem 0 ndole)), .step 0 .ok, .step 0 .ok, .step 0 .ok, .step 0 .ok]

theorem dish_in_category : ∃ q, menuMachine.Reach anyMove ⟨emptyStore, []⟩ q ∧
    ((∀ i ∈ q.shared.items, ∀ id ∈ i.categoryId, ∃ c ∈ q.shared.categories, c.id = id ∧ c.vendorId = i.vendorId) ∧
      (∀ i ∈ q.shared.items, i.isInStock = i.stockLevel.sells ∧ i.isAvailable = true) ∧
      ∀ c ∈ q.shared.categories, c.isActive = true) ∧
    q.shared.items.map (·.categoryId) = [some 0] := by
  obtain ⟨q, hq, ht⟩ := menuMachine.reach_of_test anyMove (fun _ _ _ => true) (fun _ _ _ _ => trivial) ⟨emptyStore, []⟩
    exampleMenu (fun q => q.shared.items.map (·.categoryId) == [some 0]) (by decide +kernel)
  exact ⟨q, hq, menus_sound hq, by simpa using ht⟩

/-- No call of this user. -/
def notByUser (userId : UserId) : Guard StoreDb MenuCall StoreEvent Reply :=
  fun _ _ m => ∀ request, m ≠ .event (.call userId request)

/-- Whatever ids the others send, a vendor's items and categories stay as they are while the vendor makes no call. -/
theorem menus_own {vendor : StoreVendor} (hp : menuMachine.Reach anyMove ⟨emptyStore, []⟩ p)
    (hvendor : p.shared.Has vendor) (hidle : ∀ t ∈ p.threads, ¬t.isBy vendor)
    (h : menuMachine.Reach (notByUser vendor.userId) p q) :
    q.shared.itemsOf vendor.id = p.shared.itemsOf vendor.id ∧
      q.shared.categoriesOf vendor.id = p.shared.categoriesOf vendor.id := by
  obtain ⟨hsound, hknows⟩ := menus_reach hp
  have hkept := (h.stable (I := fun s => (s.Sound ∧ s.Has vendor) ∧ s.itemsOf vendor.id = p.shared.itemsOf vendor.id ∧
      s.categoriesOf vendor.id = p.shared.categoriesOf vendor.id) (L := fun s t => t.Knows s ∧ ¬t.isBy vendor)
    ⟨⟨hsound, hvendor⟩, rfl, rfl⟩ (fun t ht => ⟨hknows t ht, hidle t ht⟩) ?_ ?_).1
  · exact hkept.2
  · intro s us n s' ts _ hI hok hev
    obtain ⟨⟨hs, hv⟩, hitems, hcategories⟩ := hI
    have hkeep := storeEvent_keeps hev
    refine ⟨⟨⟨hkeep.sound hs, hkeep.vendors.has hv⟩, ?_, ?_⟩, fun t ht => ?_, fun u hu => ⟨hu.1.keep hkeep.vendors, hu.2⟩⟩
    · obtain ⟨v, hv, hid, -⟩ := hv
      exact (hid ▸ hkeep.items v hv).trans hitems
    · rw [StoreDb.categoriesOf, hkeep.categories]
      exact hcategories
    · obtain ⟨userId, request, rfl, rfl⟩ := storeEvent_starts hev t ht
      exact ⟨trivial, fun heq : userId = vendor.userId => hok request (heq ▸ rfl)⟩
  · intro s us vs t e s' ts _ hI ht _ hst
    obtain ⟨⟨hs, hv⟩, hitems, hcategories⟩ := hI
    obtain ⟨t', rfl, hmove⟩ := menuMachine_step hst
    obtain ⟨hitems', hcategories', hby⟩ := hmove.others ht.1 hs hv ht.2
    refine ⟨⟨⟨hmove.sound ht.1 hs, hmove.keeps.has hv⟩, hitems'.trans hitems, hcategories'.trans hcategories⟩,
      List.forall_mem_singleton.2 ⟨hmove.knows ht.1, hby⟩, fun u hu => ⟨hu.1.keep hmove.keeps, hu.2⟩⟩

end

/-- Vendor 2 tries to delete the category and to change the dish. -/
def exampleIntruder : List (Act StoreEvent Reply) :=
  [.event (.call 12 (.deleteCategory 0)), .event (.call 12 (.updateItem 0 { ndole with categoryId := none })), .step 0 .ok,
    .step 0 .ok, .step 1 .ok, .step 0 .ok]

def StoreEvent.isBy (userId : UserId) : StoreEvent → Bool
  | .call caller _ => caller == userId
  | _ => false

def notByUserB (userId : UserId) (_ : StoreDb) (_ : List MenuCall) : Move MenuCall StoreEvent Reply → Bool
  | .event n => !n.isBy userId
  | .step .. => true

theorem notByUser_of_bool {userId : UserId} {db : StoreDb} {us : List MenuCall} {m : Move MenuCall StoreEvent Reply}
    (h : notByUserB userId db us m = true) : notByUser userId db us m := by
  rintro request rfl
  simp [notByUserB, StoreEvent.isBy] at h

def MenuCall.isDone : MenuCall → Bool
  | .done _ => true
  | _ => false

def menuTest (p q : Pool StoreDb MenuCall) : Bool :=
  p.threads.all MenuCall.isDone && (p.shared.vendors.any fun v => v.id == 1 && v.userId == 11) &&
    (q.shared.itemsOf 1).map (·.categoryId) == [some 0]

theorem intruder_refused : ∃ p q, menuMachine.Reach anyMove ⟨emptyStore, []⟩ p ∧
    menuMachine.Reach (notByUser 11) p q ∧ (q.shared.itemsOf 1 = p.shared.itemsOf 1 ∧
      q.shared.categoriesOf 1 = p.shared.categoriesOf 1) ∧ (q.shared.itemsOf 1).map (·.categoryId) = [some 0] := by
  have hrun : ((menuMachine.run (fun _ _ _ => true) ⟨emptyStore, []⟩ exampleMenu).bind fun p =>
      (menuMachine.run (notByUserB 11) p exampleIntruder).map (menuTest p)) = some true := by decide +kernel
  obtain ⟨p, hp, hrun⟩ := Option.bind_eq_some_iff.1 hrun
  obtain ⟨q, hq, htest⟩ := Option.map_eq_some_iff.1 hrun
  have hreach := Machine.reach_of_run (fun s us m _ => (trivial : anyMove s us m)) hp
  have hreach' := Machine.reach_of_run (fun _ _ _ => notByUser_of_bool) hq
  simp only [menuTest, Bool.and_eq_true, List.all_eq_true, List.any_eq_true, beq_iff_eq] at htest
  obtain ⟨⟨hdone, hvendor⟩, hitems⟩ := htest
  have hhas : p.shared.Has (exampleVendor 1 11) := hvendor
  refine ⟨p, q, hreach, hreach', menus_own hreach hhas (fun t ht hby => ?_) hreach', hitems⟩
  have hd := hdone t ht
  cases t with
  | done outcome => exact hby
  | _ => cases hd

end ChopNow
