import ChopNow.Spec.Creation

/-! The menus: what VendorService.submitInformal and MenuService write, and the amounts that
createOrder makes of a cart. -/

namespace ChopNow

def INFORMAL_MAX_ITEMS : ℕ := 15

abbrev CategoryId := ℕ

inductive UserRole
  | consumer | vendor | rider | admin | superAdmin | operator | viewer
  deriving DecidableEq, Repr

inductive StockLevel
  | inStock | lowStock | outOfStock
  deriving DecidableEq, Repr

structure User where
  id : UserId
  phone : Phone
  role : UserRole
  deriving Repr

structure VendorRow extends Vendor where
  userId : UserId

structure MenuCategory where
  id : CategoryId
  vendorId : VendorId

structure MenuDb where
  users : List User
  vendors : List VendorRow
  categories : List MenuCategory
  items : List Item

inductive MenuError
  | profilePhotoRequired
  | firstItemPhotoRequired
  | enseignePhotoRequired
  | vendorAlreadySubmitted
  | phoneUsedByOtherRole
  | vendorNotFound
  | menuLimitReached
  | categoryNotFound
  | categoryNotYours
  | itemNotFound
  | itemNotYours
  | uniqueViolation
  | outOfRange
  deriving DecidableEq, Repr

/-- `@IsInt() @Min(100)`. -/
abbrev Price := { priceXAF : ℤ // 100 ≤ priceXAF }

/-! The requests. -/

structure SubmitVendorDto where
  type : Option VendorType
  whatsappPhone : String
  momoPhone : String
  firstItemName : String
  firstItemPriceXAF : Price
  extraItem1Name : Option String
  extraItem1PriceXAF : Option Price
  extraItem2Name : Option String
  extraItem2PriceXAF : Option Price

structure SubmitFiles where
  profilePhoto : Bool
  firstItemPhoto : Bool
  enseignePhoto : Bool

structure UpsertItemDto where
  name : String
  priceXAF : Price
  categoryId : Option CategoryId
  stockLevel : Option StockLevel
  priceXAF_max : priceXAF.1 ≤ 1000000

/-- `randomUUID()` and the ids that the database makes up. -/
structure SubmitSeed where
  vendorId : VendorId
  userId : UserId
  itemIds : ℕ → ItemId

/-! VendorService. -/

def COMMISSION_RATE_BY_TYPE : VendorType → ℚ
  | .informal => 6 / 100
  | .semiFormal => 1 / 10
  | .restaurant => 17 / 100

/-- Both halves of the pair have to be there. -/
def extraItem (name : Option String) (priceXAF : Option Price) : List (String × Price) :=
  match name, priceXAF with
  | some name, some priceXAF => if name = "" then [] else [(name, priceXAF)]
  | _, _ => []

def SubmitVendorDto.dishes (dto : SubmitVendorDto) : List (String × Price) :=
  (dto.firstItemName, dto.firstItemPriceXAF) ::
    (extraItem dto.extraItem1Name dto.extraItem1PriceXAF ++ extraItem dto.extraItem2Name dto.extraItem2PriceXAF)

/-- The user of the phone, as a vendor from now on. -/
def ensureUser (users : List User) (phone : Phone) (id : UserId) : Except MenuError (List User × UserId) :=
  match users.find? fun u => u.phone == phone with
  | none => .ok (users ++ [⟨id, phone, .vendor⟩], id)
  | some user =>
    if user.role ≠ .consumer ∧ user.role ≠ .vendor then .error .phoneUsedByOtherRole
    else .ok (users.map fun u => if u.id = user.id then { u with role := .vendor } else u, user.id)

def MenuDb.insertVendor (db : MenuDb) (row : VendorRow) : Except MenuError MenuDb :=
  if db.vendors.any fun v => v.id == row.id || v.userId == row.userId then .error .uniqueViolation
  else .ok { db with vendors := db.vendors ++ [row] }

/-- `item.createMany`: a row that a column does not hold fails the statement. -/
def MenuDb.insertItems (db : MenuDb) (rows : List Item) : Except MenuError MenuDb :=
  if ¬((db.items ++ rows).map (·.id)).Nodup then .error .uniqueViolation
  else if rows.any fun i => INT_MAX < i.priceXAF then .error .outOfRange
  else .ok { db with items := db.items ++ rows }

def MenuDb.submitInformal (db : MenuDb) (dto : SubmitVendorDto) (files : SubmitFiles) (seed : SubmitSeed)
    (now : Time) : Except MenuError MenuDb :=
  if !files.profilePhoto then .error .profilePhotoRequired
  else if !files.firstItemPhoto then .error .firstItemPhotoRequired
  else if dto.type = some .restaurant ∧ !files.enseignePhoto then .error .enseignePhotoRequired
  else
    let whatsappPhone := normalizePhone dto.whatsappPhone
    if (db.users.find? fun u => u.phone == whatsappPhone).any fun u => db.vendors.any fun v => v.userId == u.id then
      .error .vendorAlreadySubmitted
    else
      match ensureUser db.users whatsappPhone seed.userId with
      | .error err => .error err
      | .ok (users, userId) =>
        let vendorType : VendorType := dto.type.getD .informal
        match MenuDb.insertVendor { db with users } {
            id := seed.vendorId
            type := vendorType
            status := .pendingReview
            isOpen := false
            acceptsPreOrders := vendorType == .informal
            commissionRate := COMMISSION_RATE_BY_TYPE vendorType
            momoPhone := normalizePhone dto.momoPhone
            createdAt := now
            userId := userId } with
        | .error err => .error err
        | .ok db' => db'.insertItems (dto.dishes.mapIdx fun k (dish : String × Price) =>
            (⟨seed.itemIds k, seed.vendorId, dish.1, dish.2.1, true, true, dish.2.2⟩ : Item))

/-! MenuService. -/

def MenuDb.requireVendor (db : MenuDb) (userId : UserId) : Except MenuError VendorRow :=
  match db.vendors.find? fun v => v.userId == userId with
  | none => .error .vendorNotFound
  | some vendor => .ok vendor

def MenuDb.requireItemBelongsTo (db : MenuDb) (vendorId : VendorId) (itemId : ItemId) : Except MenuError Unit :=
  match db.items.find? fun i => i.id == itemId with
  | none => .error .itemNotFound
  | some item => if item.vendorId ≠ vendorId then .error .itemNotYours else .ok ()

def MenuDb.requireCategoryBelongsTo (db : MenuDb) (vendorId : VendorId) (categoryId : Option CategoryId) :
    Except MenuError Unit :=
  match categoryId with
  | none => .ok ()
  | some id =>
    match db.categories.find? fun c => c.id == id with
    | none => .error .categoryNotFound
    | some category => if category.vendorId ≠ vendorId then .error .categoryNotYours else .ok ()

def MenuDb.createItem (db : MenuDb) (userId : UserId) (dto : UpsertItemDto) (id : ItemId) : Except MenuError MenuDb :=
  match db.requireVendor userId with
  | .error err => .error err
  | .ok vendor =>
    if vendor.type = .informal ∧ INFORMAL_MAX_ITEMS ≤ db.items.countP fun i => i.vendorId == vendor.id then
      .error .menuLimitReached
    else
      match db.requireCategoryBelongsTo vendor.id dto.categoryId with
      | .error err => .error err
      | .ok () => db.insertItems
          [⟨id, vendor.id, dto.name, dto.priceXAF.1, true, dto.stockLevel.getD .inStock != .outOfStock, dto.priceXAF.2⟩]

/-- `where: { id: itemId }`. -/
def MenuDb.writeItem (db : MenuDb) (itemId : ItemId) (f : Item → Item) : MenuDb :=
  { db with items := db.items.map fun i => if i.id = itemId then f i else i }

def MenuDb.updateItem (db : MenuDb) (userId : UserId) (itemId : ItemId) (dto : UpsertItemDto) :
    Except MenuError MenuDb :=
  match db.requireVendor userId with
  | .error err => .error err
  | .ok vendor =>
    match db.requireItemBelongsTo vendor.id itemId with
    | .error err => .error err
    | .ok () =>
      match db.requireCategoryBelongsTo vendor.id dto.categoryId with
      | .error err => .error err
      | .ok () => .ok (db.writeItem itemId fun i =>
          { i with
            name := dto.name
            priceXAF := dto.priceXAF.1
            isInStock := (dto.stockLevel.map (· != .outOfStock)).getD i.isInStock
            price_min := dto.priceXAF.2 })

def MenuDb.deleteItem (db : MenuDb) (userId : UserId) (itemId : ItemId) : Except MenuError MenuDb :=
  match db.requireVendor userId with
  | .error err => .error err
  | .ok vendor =>
    match db.requireItemBelongsTo vendor.id itemId with
    | .error err => .error err
    | .ok () => .ok { db with items := db.items.filter fun i => i.id != itemId }

def MenuDb.setItemStock (db : MenuDb) (userId : UserId) (itemId : ItemId) (stockLevel : Option StockLevel)
    (isInStock : Option Bool) : Except MenuError MenuDb :=
  match db.requireVendor userId with
  | .error err => .error err
  | .ok vendor =>
    match db.requireItemBelongsTo vendor.id itemId with
    | .error err => .error err
    | .ok () =>
      let level := stockLevel.getD (if isInStock = some false then .outOfStock else .inStock)
      .ok (db.writeItem itemId fun i => { i with isInStock := level != .outOfStock })

/-! Runs. -/

/-- `vendorColumns` is any other write to a vendor's row, `users` and `categories` are any to theirs. -/
inductive MenuEvent
  | submitInformal (dto : SubmitVendorDto) (files : SubmitFiles) (seed : SubmitSeed) (now : Time)
  | createItem (userId : UserId) (dto : UpsertItemDto) (id : ItemId)
  | updateItem (userId : UserId) (itemId : ItemId) (dto : UpsertItemDto)
  | deleteItem (userId : UserId) (itemId : ItemId)
  | setItemStock (userId : UserId) (itemId : ItemId) (stockLevel : Option StockLevel) (isInStock : Option Bool)
  | vendorColumns (columns : Vendor)
  | users (rows : List User)
  | categories (rows : List MenuCategory)

def MenuEvent.serve (db : MenuDb) : MenuEvent → Except MenuError MenuDb
  | .submitInformal dto files seed now => db.submitInformal dto files seed now
  | .createItem userId dto id => db.createItem userId dto id
  | .updateItem userId itemId dto => db.updateItem userId itemId dto
  | .deleteItem userId itemId => db.deleteItem userId itemId
  | .setItemStock userId itemId stockLevel isInStock => db.setItemStock userId itemId stockLevel isInStock
  | .vendorColumns columns => .ok { db with
      vendors := db.vendors.map fun v => if v.id = columns.id then { columns with userId := v.userId } else v }
  | .users rows => .ok { db with users := rows }
  | .categories rows => .ok { db with categories := rows }

/-- A request that fails writes nothing. -/
def menuStep (db : MenuDb) (n : MenuEvent) : MenuDb :=
  match n.serve db with
  | .error _ => db
  | .ok db' => db'

def menuRun (events : List MenuEvent) : MenuDb := events.foldl menuStep ⟨[], [], [], []⟩

/-! The amounts of a cart. -/

structure Amounts where
  lines : List ℤ
  subtotalXAF : ℤ
  totalXAF : ℤ

/-- What createOrder has worked out when it comes to its checks. -/
def orderAmounts (db : CreationDb) (dto : CreateOrderDto) (distance_m : ℚ) : Except CreateError Amounts :=
  match findVendor db dto.vendorId with
  | .error err => .error err
  | .ok vendor =>
    match loadItems db vendor.id (dto.items.map (·.itemId)) with
    | .error err => .error err
    | .ok items =>
      match priceLines items dto.items with
      | .error err => .error err
      | .ok lines => .ok ⟨lines, lines.sum, lines.sum + computeDeliveryFeeXAF (distance_m / 1000)⟩

end ChopNow
