import ChopNow.Lib.Interleave
import ChopNow.Lib.Table
import ChopNow.Spec.Hours

/-! MenuService, statement by statement: the vendors' calls over the tables of items and menu
categories, and the other writes to these and to the vendors. -/

namespace ChopNow

open Interleave

def INFORMAL_MAX_CATEGORIES : ℕ := 2

inductive ItemKind
  | food | drink
  deriving DecidableEq, Repr

/-! The tables. -/

structure StoreVendor extends VendorRow where
  name : String
  badge : Option String
  quartier : String
  profilePhotoUrl : Option String
  description : Option String
  hours : Option WeeklyHours

structure CategoryRow extends MenuCategory where
  name : String
  sortOrder : ℕ
  isActive : Bool
  createdAt : Time
  updatedAt : Time

structure ItemRow extends Item where
  categoryId : Option CategoryId
  description : Option String
  photoUrl : Option String
  stockLevel : StockLevel
  kind : ItemKind
  preparationMinutes : Option ℕ
  sortOrder : ℕ
  createdAt : Time
  updatedAt : Time

/-- The unique key of `menu_categories`. -/
def namesFree (categories : List CategoryRow) : Prop := (categories.map fun c => (c.vendorId, c.name)).Nodup

instance (categories : List CategoryRow) : Decidable (namesFree categories) :=
  inferInstanceAs (Decidable (List.Nodup _))

/-- With the keys and the foreign key of `Item.category`; `randomUUID` never gives an id twice. -/
structure StoreDb where
  vendors : List StoreVendor
  categories : List CategoryRow
  items : List ItemRow
  nextCategoryId : CategoryId
  nextItemId : ItemId
  clock : Time
  vendorIds : (vendors.map (·.id)).Nodup
  vendorUsers : (vendors.map (·.userId)).Nodup
  categoryIds : (categories.map (·.id)).Nodup
  categoryNames : namesFree categories
  categoryIssued : Table.Issued (·.id) categories nextCategoryId
  itemIds : (items.map (·.id)).Nodup
  itemIssued : Table.Issued (·.id) items nextItemId
  itemCategory : ∀ i ∈ items, ∀ id ∈ i.categoryId, id ∈ categories.map (·.id)

/-! The requests. -/

structure UpsertItemBody extends UpsertItemDto where
  description : Option String := none
  preparationMinutes : Option ℕ := none
  sortOrder : Option ℕ := none
  kind : Option ItemKind := none

structure UpdateItemStockDto where
  isInStock : Option Bool := none
  stockLevel : Option StockLevel := none
  deriving Repr

structure UpsertCategoryDto where
  name : String
  sortOrder : Option ℕ := none
  deriving Repr

/-- `key` is what the upload makes of `randomUUID`. -/
inductive MenuRequest
  | listItems
  | createItem (dto : UpsertItemBody)
  | updateItem (itemId : ItemId) (dto : UpsertItemBody)
  | deleteItem (itemId : ItemId)
  | setItemStock (itemId : ItemId) (dto : UpdateItemStockDto)
  | setItemPhoto (itemId : ItemId) (key : String)
  | listCategories
  | createCategory (dto : UpsertCategoryDto)
  | updateCategory (categoryId : CategoryId) (dto : UpsertCategoryDto)
  | deleteCategory (categoryId : CategoryId)

inductive MenuFailure
  | vendor_not_found
  | menu_limit_reached
  | category_limit_reached
  | item_not_found
  | item_not_yours
  | category_not_found
  | category_not_yours
  | category_name_taken
  | thrown (err : String)
  deriving DecidableEq, Repr

/-- `delete` answers no row. -/
inductive MenuOutcome
  | items (rows : List ItemRow)
  | categories (rows : List CategoryRow)
  | ok
  | error (err : MenuFailure)

/-! The rows that are written. -/

def StockLevel.sells (stockLevel : StockLevel) : Bool := stockLevel != .outOfStock

def UpsertItemBody.newRow (dto : UpsertItemBody) (id : ItemId) (vendorId : VendorId) (now : Time) : ItemRow where
  id := id
  vendorId := vendorId
  name := dto.name
  description := dto.description
  priceXAF := dto.priceXAF.1
  price_min := dto.priceXAF.2
  categoryId := dto.categoryId
  preparationMinutes := dto.preparationMinutes
  sortOrder := dto.sortOrder.getD 0
  kind := dto.kind.getD .food
  photoUrl := none
  isAvailable := true
  isInStock := (dto.stockLevel.getD .inStock).sells
  stockLevel := dto.stockLevel.getD .inStock
  createdAt := now
  updatedAt := now

/-- A stock level that the body leaves out stays. -/
def UpsertItemBody.columns (dto : UpsertItemBody) (now : Time) (i : ItemRow) : ItemRow :=
  { i with
    name := dto.name
    description := dto.description
    priceXAF := dto.priceXAF.1
    price_min := dto.priceXAF.2
    categoryId := dto.categoryId
    preparationMinutes := dto.preparationMinutes
    sortOrder := dto.sortOrder.getD i.sortOrder
    kind := dto.kind.getD i.kind
    stockLevel := dto.stockLevel.getD i.stockLevel
    isInStock := (dto.stockLevel.map StockLevel.sells).getD i.isInStock
    updatedAt := now }

def UpdateItemStockDto.level (dto : UpdateItemStockDto) : StockLevel :=
  dto.stockLevel.getD <|
    match dto.isInStock with
    | some true => .inStock
    | some false => .outOfStock
    | none => .inStock

def UpdateItemStockDto.columns (dto : UpdateItemStockDto) (now : Time) (i : ItemRow) : ItemRow :=
  { i with stockLevel := dto.level, isInStock := dto.level.sells, updatedAt := now }

def ItemRow.setPhoto (key : String) (now : Time) (i : ItemRow) : ItemRow := { i with photoUrl := some key, updatedAt := now }

/-- `onDelete: SetNull`. -/
def ItemRow.leave (categoryId : CategoryId) (i : ItemRow) : ItemRow :=
  if i.categoryId = some categoryId then { i with categoryId := none } else i

def UpsertCategoryDto.newRow (dto : UpsertCategoryDto) (id : CategoryId) (vendorId : VendorId) (now : Time) : CategoryRow where
  id := id
  vendorId := vendorId
  name := dto.name
  sortOrder := dto.sortOrder.getD 0
  isActive := true
  createdAt := now
  updatedAt := now

def UpsertCategoryDto.columns (dto : UpsertCategoryDto) (now : Time) (c : CategoryRow) : CategoryRow :=
  { c with name := dto.name, sortOrder := dto.sortOrder.getD c.sortOrder, updatedAt := now }

/-! The statements. -/

def StoreDb.countItems (db : StoreDb) (vendorId : VendorId) : ℕ := db.items.countP fun i => i.vendorId == vendorId

def StoreDb.countCategories (db : StoreDb) (vendorId : VendorId) : ℕ := db.categories.countP fun c => c.vendorId == vendorId

def StoreDb.findItem (db : StoreDb) (id : ItemId) : Option ItemRow := db.items.find? fun i => i.id == id

def StoreDb.findCategory (db : StoreDb) (id : CategoryId) : Option CategoryRow := db.categories.find? fun c => c.id == id

/-- The foreign key. -/
def StoreDb.refers (db : StoreDb) (categoryId : Option CategoryId) : Prop := ∀ id ∈ categoryId, id ∈ db.categories.map (·.id)

instance (db : StoreDb) (categoryId : Option CategoryId) : Decidable (db.refers categoryId) :=
  match categoryId with
  | none => isTrue fun _ h => by cases h
  | some id => decidable_of_iff (id ∈ db.categories.map (·.id)) (by simp [StoreDb.refers])

theorem StoreDb.refers_append {db : StoreDb} {row : ItemRow} (h : db.refers row.categoryId) :
    ∀ i ∈ db.items ++ [row], ∀ id ∈ i.categoryId, id ∈ db.categories.map (·.id) :=
  List.forall_mem_append.2 ⟨db.itemCategory, List.forall_mem_singleton.2 h⟩

theorem StoreDb.refers_map {db : StoreDb} {f : ItemRow → ItemRow} (h : ∀ i ∈ db.items, db.refers (f i).categoryId) :
    ∀ i ∈ db.items.map f, ∀ id ∈ i.categoryId, id ∈ db.categories.map (·.id) :=
  List.forall_mem_map.2 h

def StoreDb.insertItem (db : StoreDb) (row : ItemRow) (hid : row.id = db.nextItemId) (hrefers : db.refers row.categoryId) :
    StoreDb :=
  { db with
    items := db.items ++ [row]
    nextItemId := db.nextItemId + 1
    itemIds := db.itemIssued.nodup_append db.itemIds hid
    itemIssued := db.itemIssued.append hid
    itemCategory := StoreDb.refers_append hrefers }

def StoreDb.mapItems (db : StoreDb) (f : ItemRow → ItemRow) (hid : ∀ i, (f i).id = i.id)
    (hrefers : ∀ i ∈ db.items, db.refers (f i).categoryId) : StoreDb :=
  { db with
    items := db.items.map f
    itemIds := Table.nodup_map hid db.itemIds
    itemIssued := db.itemIssued.map hid
    itemCategory := StoreDb.refers_map hrefers }

theorem StoreDb.refers_onId {db : StoreDb} {id : ItemId} {f : ItemRow → ItemRow} (h : ∀ i ∈ db.items, db.refers (f i).categoryId) :
    ∀ i ∈ db.items, db.refers (Table.onId (·.id) id f i).categoryId := by
  intro i hi
  unfold Table.onId
  split
  · exact h i hi
  · exact db.itemCategory i hi

def StoreDb.writeItem (db : StoreDb) (id : ItemId) (f : ItemRow → ItemRow) (hid : ∀ i, (f i).id = i.id)
    (hrefers : ∀ i ∈ db.items, db.refers (f i).categoryId) : StoreDb :=
  db.mapItems (Table.onId (·.id) id f) (Table.onId_id (fun i : ItemRow => i.id) hid) (StoreDb.refers_onId hrefers)

def StoreDb.deleteItem (db : StoreDb) (id : ItemId) : StoreDb :=
  { db with
    items := db.items.filter fun i => i.id != id
    itemIds := Table.nodup_filter db.itemIds fun i => i.id != id
    itemIssued := db.itemIssued.filter fun i => i.id != id
    itemCategory := fun i hi => db.itemCategory i (List.mem_of_mem_filter hi) }

theorem StoreDb.refers_mono {db : StoreDb} {categories : List CategoryRow}
    (h : ∀ id ∈ db.categories.map (·.id), id ∈ categories.map (·.id)) :
    ∀ i ∈ db.items, ∀ id ∈ i.categoryId, id ∈ categories.map (·.id) :=
  fun i hi id hid => h id (db.itemCategory i hi id hid)

def StoreDb.insertCategory (db : StoreDb) (row : CategoryRow) (hid : row.id = db.nextCategoryId)
    (hname : namesFree (db.categories ++ [row])) : StoreDb :=
  { db with
    categories := db.categories ++ [row]
    nextCategoryId := db.nextCategoryId + 1
    categoryIds := db.categoryIssued.nodup_append db.categoryIds hid
    categoryNames := hname
    categoryIssued := db.categoryIssued.append hid
    itemCategory := StoreDb.refers_mono fun _ hmem => List.map_append ▸ List.mem_append_left _ hmem }

theorem StoreDb.categoryIds_map {db : StoreDb} {f : CategoryRow → CategoryRow} (hid : ∀ c, (f c).id = c.id) :
    (db.categories.map f).map (·.id) = db.categories.map (·.id) := by
  rw [List.map_map]
  exact List.map_congr_left fun c _ => hid c

def StoreDb.writeCategory (db : StoreDb) (id : CategoryId) (f : CategoryRow → CategoryRow) (hid : ∀ c, (f c).id = c.id)
    (hname : namesFree (db.categories.map (Table.onId (·.id) id f))) : StoreDb :=
  { db with
    categories := db.categories.map (Table.onId (·.id) id f)
    categoryIds := Table.nodup_map (Table.onId_id (fun c : CategoryRow => c.id) hid) db.categoryIds
    categoryNames := hname
    categoryIssued := db.categoryIssued.map (Table.onId_id (fun c : CategoryRow => c.id) hid)
    itemCategory := StoreDb.refers_mono fun _ hmem => StoreDb.categoryIds_map (Table.onId_id (fun c : CategoryRow => c.id) hid) ▸ hmem }

theorem StoreDb.refers_leave (db : StoreDb) (id : CategoryId) : ∀ i ∈ db.items.map (ItemRow.leave id),
    ∀ k ∈ i.categoryId, k ∈ (db.categories.filter fun c => c.id != id).map (·.id) := by
  intro i' hi' k hk
  obtain ⟨i, hi, rfl⟩ := List.mem_map.1 hi'
  unfold ItemRow.leave at hk
  split at hk
  · cases hk
  next hother =>
  obtain ⟨c, hc, rfl⟩ := List.mem_map.1 (db.itemCategory i hi k hk)
  have hne : c.id ≠ id := fun heq => hother (heq ▸ hk)
  exact List.mem_map.2 ⟨c, List.mem_filter.2 ⟨hc, by simpa using hne⟩, rfl⟩

theorem ItemRow.leave_id (id : CategoryId) (i : ItemRow) : (i.leave id).id = i.id := by
  unfold leave
  split <;> rfl

theorem namesFree_filter {categories : List CategoryRow} (h : namesFree categories) (p : CategoryRow → Bool) :
    namesFree (categories.filter p) := h.sublist (List.filter_sublist.map _)

def StoreDb.deleteCategory (db : StoreDb) (id : CategoryId) : StoreDb :=
  { db with
    categories := db.categories.filter fun c => c.id != id
    items := db.items.map (ItemRow.leave id)
    categoryIds := Table.nodup_filter db.categoryIds fun c => c.id != id
    categoryNames := namesFree_filter db.categoryNames fun c => c.id != id
    categoryIssued := db.categoryIssued.filter fun c => c.id != id
    itemIds := Table.nodup_map (ItemRow.leave_id id) db.itemIds
    itemIssued := db.itemIssued.map (ItemRow.leave_id id)
    itemCategory := db.refers_leave id }

/-! The vendors' rows. -/

/-- An item of the submission form. -/
structure SubmittedItem where
  name : String
  priceXAF : Price
  photoUrl : Option String

def SubmittedItem.row (item : SubmittedItem) (id : ItemId) (vendorId : VendorId) (sortOrder : ℕ) (now : Time) : ItemRow where
  id := id
  vendorId := vendorId
  name := item.name
  priceXAF := item.priceXAF.1
  price_min := item.priceXAF.2
  photoUrl := item.photoUrl
  isAvailable := true
  isInStock := true
  sortOrder := sortOrder
  categoryId := none
  description := none
  stockLevel := .inStock
  kind := .food
  preparationMinutes := none
  createdAt := now
  updatedAt := now

/-- `item.createMany`, row by row. -/
def StoreDb.createMany (db : StoreDb) (vendorId : VendorId) (sortOrder : ℕ) : List SubmittedItem → StoreDb
  | [] => db
  | item :: items =>
    (db.insertItem (item.row db.nextItemId vendorId sortOrder db.clock) rfl fun _ h => by cases h).createMany vendorId
      (sortOrder + 1) items

theorem StoreDb.vendorKeys_append {db : StoreDb} {column : StoreVendor → ℕ} {vendor : StoreVendor}
    (h : (db.vendors.map column).Nodup) (hfree : ∀ v ∈ db.vendors, column v ≠ column vendor) :
    ((db.vendors ++ [vendor]).map column).Nodup := Table.nodup_append h hfree

/-- The transaction of a submission; both keys of the vendor are new. -/
def StoreDb.submit (db : StoreDb) (vendor : StoreVendor) (items : List SubmittedItem) : Option StoreDb :=
  if h : ∀ v ∈ db.vendors, v.id ≠ vendor.id ∧ v.userId ≠ vendor.userId then
    some ({ db with
        vendors := db.vendors ++ [vendor]
        vendorIds := StoreDb.vendorKeys_append db.vendorIds fun v hv => (h v hv).1
        vendorUsers := StoreDb.vendorKeys_append db.vendorUsers fun v hv => (h v hv).2 }.createMany vendor.id 0 items)
  else none

/-- Keys and type of a vendor are never written again. -/
def StoreVendor.write (v columns : StoreVendor) : StoreVendor :=
  if v.id = columns.id then { columns with id := v.id, userId := v.userId, type := v.type } else v

theorem StoreVendor.write_keys (v columns : StoreVendor) :
    (v.write columns).id = v.id ∧ (v.write columns).userId = v.userId ∧ (v.write columns).type = v.type := by
  unfold write
  split <;> exact ⟨rfl, rfl, rfl⟩

theorem StoreDb.vendorKeys_map {db : StoreDb} {column : StoreVendor → ℕ} {f : StoreVendor → StoreVendor}
    (hf : ∀ v, column (f v) = column v) (h : (db.vendors.map column).Nodup) : ((db.vendors.map f).map column).Nodup :=
  Table.nodup_map hf h

def StoreDb.writeVendor (db : StoreDb) (columns : StoreVendor) : StoreDb :=
  { db with
    vendors := db.vendors.map fun v => v.write columns
    vendorIds := StoreDb.vendorKeys_map (fun v => (v.write_keys columns).1) db.vendorIds
    vendorUsers := StoreDb.vendorKeys_map (fun v => (v.write_keys columns).2.1) db.vendorUsers }

/-! The calls. -/

inductive MenuCheck
  | itemCount
  | categoryCount
  | itemBelongs (itemId : ItemId)
  | categoryBelongs (categoryId : CategoryId)
  | uploadImage
  deriving DecidableEq, Repr

/-- What stands between `requireVendor` and the last statement. -/
def MenuRequest.checks (type : VendorType) : MenuRequest → List MenuCheck
  | .listItems => []
  | .createItem dto => (if type = .informal then [.itemCount] else []) ++ dto.categoryId.toList.map .categoryBelongs
  | .updateItem itemId dto => .itemBelongs itemId :: dto.categoryId.toList.map .categoryBelongs
  | .deleteItem itemId => [.itemBelongs itemId]
  | .setItemStock itemId _ => [.itemBelongs itemId]
  | .setItemPhoto itemId _ => [.itemBelongs itemId, .uploadImage]
  | .listCategories => []
  | .createCategory _ => if type = .informal then [.categoryCount] else []
  | .updateCategory categoryId _ => [.categoryBelongs categoryId]
  | .deleteCategory categoryId => [.categoryBelongs categoryId]

def MenuCheck.fails (db : StoreDb) (vendorId : VendorId) : MenuCheck → Option MenuFailure
  | .itemCount => if INFORMAL_MAX_ITEMS ≤ db.countItems vendorId then some .menu_limit_reached else none
  | .categoryCount => if INFORMAL_MAX_CATEGORIES ≤ db.countCategories vendorId then some .category_limit_reached else none
  | .itemBelongs itemId =>
    match db.findItem itemId with
    | none => some .item_not_found
    | some item => if item.vendorId ≠ vendorId then some .item_not_yours else none
  | .categoryBelongs categoryId =>
    match db.findCategory categoryId with
    | none => some .category_not_found
    | some cat => if cat.vendorId ≠ vendorId then some .category_not_yours else none
  | .uploadImage => none

/-- `orderBy: [{ sortOrder: 'asc' }, { createdAt: 'asc' }]`. -/
def menuOrder {α : Type} (sortOrder : α → ℕ) (createdAt : α → Time) (rows : List α) : List α :=
  rows.insertionSort fun a b => sortOrder a < sortOrder b ∨ sortOrder a = sortOrder b ∧ createdAt a ≤ createdAt b

def StoreDb.itemsOf (db : StoreDb) (vendorId : VendorId) : List ItemRow := db.items.filter fun i => i.vendorId == vendorId

def StoreDb.categoriesOf (db : StoreDb) (vendorId : VendorId) : List CategoryRow :=
  db.categories.filter fun c => c.vendorId == vendorId

/-- `P2025`: the row to write is gone; `P2003`: the category is; `P2002`: the name is taken. -/
def MenuRequest.commit (db : StoreDb) (vendorId : VendorId) : MenuRequest → Except MenuFailure (StoreDb × MenuOutcome)
  | .listItems => .ok (db, .items (menuOrder (·.sortOrder) (·.createdAt) (db.itemsOf vendorId)))
  | .createItem dto =>
    if h : db.refers dto.categoryId then
      .ok (db.insertItem (dto.newRow db.nextItemId vendorId db.clock) rfl h, .items [dto.newRow db.nextItemId vendorId db.clock])
    else .error (.thrown "P2003")
  | .updateItem itemId dto =>
    match db.findItem itemId with
    | none => .error (.thrown "P2025")
    | some item =>
      if h : db.refers dto.categoryId then
        .ok (db.writeItem itemId (dto.columns db.clock) (fun _ => rfl) fun _ _ => h, .items [dto.columns db.clock item])
      else .error (.thrown "P2003")
  | .deleteItem itemId =>
    match db.findItem itemId with
    | none => .error (.thrown "P2025")
    | some _ => .ok (db.deleteItem itemId, .ok)
  | .setItemStock itemId dto =>
    match db.findItem itemId with
    | none => .error (.thrown "P2025")
    | some item =>
      .ok (db.writeItem itemId (dto.columns db.clock) (fun _ => rfl) db.itemCategory, .items [dto.columns db.clock item])
  | .setItemPhoto itemId key =>
    match db.findItem itemId with
    | none => .error (.thrown "P2025")
    | some item =>
      .ok (db.writeItem itemId (.setPhoto key db.clock) (fun _ => rfl) db.itemCategory, .items [item.setPhoto key db.clock])
  | .listCategories => .ok (db, .categories (menuOrder (·.sortOrder) (·.createdAt) (db.categoriesOf vendorId)))
  | .createCategory dto =>
    let row := dto.newRow db.nextCategoryId vendorId db.clock
    if h : namesFree (db.categories ++ [row]) then .ok (db.insertCategory row rfl h, .categories [row])
    else .error .category_name_taken
  | .updateCategory categoryId dto =>
    match db.findCategory categoryId with
    | none => .error (.thrown "P2025")
    | some cat =>
      if h : namesFree (db.categories.map (Table.onId (·.id) categoryId (dto.columns db.clock))) then
        .ok (db.writeCategory categoryId (dto.columns db.clock) (fun _ => rfl) h, .categories [dto.columns db.clock cat])
      else .error .category_name_taken
  | .deleteCategory categoryId =>
    match db.findCategory categoryId with
    | none => .error (.thrown "P2025")
    | some _ => .ok (db.deleteCategory categoryId, .ok)

/-- Each is named after the statement that comes next. -/
inductive MenuCall
  | requireVendor (userId : UserId) (request : MenuRequest)
  | checking (vendorId : VendorId) (check : MenuCheck) (checks : List MenuCheck) (request : MenuRequest)
  | committing (vendorId : VendorId) (request : MenuRequest)
  | done (outcome : MenuOutcome)

def MenuCall.next (vendorId : VendorId) (request : MenuRequest) : List MenuCheck → MenuCall
  | [] => .committing vendorId request
  | check :: checks => .checking vendorId check checks request

def MenuCall.step (db : StoreDb) : MenuCall → Reply → Option (StoreDb × MenuCall)
  | .requireVendor userId request, .ok =>
    match db.vendors.find? fun v => v.userId == userId with
    | none => some (db, .done (.error .vendor_not_found))
    | some vendor => some (db, .next vendor.id request (request.checks vendor.type))
  | .checking vendorId check checks request, .ok =>
    match check.fails db vendorId with
    | some err => some (db, .done (.error err))
    | none => some (db, .next vendorId request checks)
  | .committing vendorId request, .ok =>
    match request.commit db vendorId with
    | .error err => some (db, .done (.error err))
    | .ok (db', outcome) => some (db', .done outcome)
  | .done _, _ => none
  | _, .fail err => some (db, .done (.error (.thrown err)))
  | _, _ => none

/-- `writeVendor` is any write to a vendor's other columns. -/
inductive StoreEvent
  | tick (elapsed : Time)
  | submit (vendor : StoreVendor) (items : List SubmittedItem)
  | writeVendor (columns : StoreVendor)
  | call (userId : UserId) (request : MenuRequest)

def storeEvent (db : StoreDb) : StoreEvent → Option (StoreDb × List MenuCall)
  | .tick elapsed => some ({ db with clock := db.clock + elapsed }, [])
  | .submit vendor items => (db.submit vendor items).map (·, [])
  | .writeVendor columns => some (db.writeVendor columns, [])
  | .call userId request => some (db, [.requireVendor userId request])

def menuMachine : Machine StoreDb MenuCall StoreEvent Reply where
  event := storeEvent
  step db t e := (t.step db e).map fun r => (r.1, [r.2])

end ChopNow
