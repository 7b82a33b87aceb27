import ChopNow.Spec.Api
import ChopNow.Spec.MenuService

/-! BrowseService: what a consumer sees of the vendors before there is a cart. -/

namespace ChopNow

def MOTO_AVG_KMH : ℚ := 25

def DEFAULT_PREP_MINUTES : ℚ := 20

def PLAN_1_RADIUS_KM : ℚ := 2

def PLAN_2_RADIUS_KM : ℚ := 5

structure BrowseCatalogueDto where
  radiusKm : Option ℚ := none
  q : Option String := none
  deriving Repr

structure VendorCard where
  id : VendorId
  name : String
  type : VendorType
  badge : Option String
  quartier : String
  profilePhotoUrl : Option String
  description : Option String
  distanceKm : ℚ
  deliveryFeeXAF : ℤ
  etaMinutes : ℤ
  plan : ℕ
  isOpenNow : Bool
  deriving DecidableEq, Repr

def classifyPlan (distanceKm : ℚ) : ℕ :=
  if distanceKm ≤ PLAN_1_RADIUS_KM then 1
  else if distanceKm ≤ PLAN_2_RADIUS_KM then 2
  else 3

def etaMinutes (distanceKm : ℚ) : ℤ := mathRound (distanceKm / MOTO_AVG_KMH * 60 + DEFAULT_PREP_MINUTES)

/-- `distance_m` is the `ST_Distance` to the dto's point. -/
def StoreVendor.card (v : StoreVendor) (distance_m : ℚ) (now : LocalTime) : VendorCard :=
  let distanceKm := distance_m / 1000
  { id := v.id
    name := v.name
    type := v.type
    badge := v.badge
    quartier := v.quartier
    profilePhotoUrl := v.profilePhotoUrl
    description := v.description
    distanceKm := mathRound (distanceKm * 10) / 10
    deliveryFeeXAF := computeDeliveryFeeXAF distanceKm
    etaMinutes := etaMinutes distanceKm
    plan := classifyPlan distanceKm
    isOpenNow := computeIsOpenNow v.type v.isOpen v.hours now }

/-- `ilike` is the operator of Postgres: the text, and the pattern. -/
def StoreDb.matchesSearch (db : StoreDb) (ilike : String → String → Bool) (v : StoreVendor) (q : String) : Bool :=
  let pattern := "%" ++ q ++ "%"
  ilike v.name pattern || v.badge.any (ilike · pattern) ||
    db.items.any fun i => i.vendorId == v.id && i.isAvailable && ilike i.name pattern

def BrowseCatalogueDto.search (dto : BrowseCatalogueDto) : Option String :=
  (dto.q.map fun q => String.ofList (trim q.toList)).filter (· ≠ "")

/-- The `WHERE`. -/
def StoreDb.listed (db : StoreDb) (ilike : String → String → Bool) (distance_m : VendorId → ℚ) (dto : BrowseCatalogueDto)
    (v : StoreVendor) : Bool :=
  v.status = .active && v.isOpen && distance_m v.id ≤ dto.radiusKm.getD 10 * 1000 &&
    dto.search.all (db.matchesSearch ilike v)

/-- Postgres leaves open how vendors at the same distance stand; here they stand as in the table. -/
def StoreDb.browse (db : StoreDb) (ilike : String → String → Bool) (distance_m : VendorId → ℚ) (dto : BrowseCatalogueDto)
    (now : LocalTime) : List VendorCard :=
  let rows := ((db.vendors.filter (db.listed ilike distance_m dto)).insertionSort fun a b =>
    distance_m a.id ≤ distance_m b.id).take 100
  rows.map fun v => v.card (distance_m v.id) now

/-! The vendor's page. -/

structure PublicVendor where
  id : VendorId
  name : String
  type : VendorType
  badge : Option String
  quartier : String
  profilePhotoUrl : Option String
  description : Option String
  hours : Option WeeklyHours
  isOpenNow : Bool

structure PublicCategory where
  id : CategoryId
  name : String
  sortOrder : ℕ
  deriving DecidableEq, Repr

structure PublicItem where
  id : ItemId
  name : String
  description : Option String
  priceXAF : ℤ
  photoUrl : Option String
  categoryId : Option CategoryId
  isInStock : Bool
  sortOrder : ℕ
  preparationMinutes : Option ℕ
  deriving DecidableEq, Repr

structure VendorPage where
  vendor : PublicVendor
  categories : List PublicCategory
  items : List PublicItem

def StoreVendor.toPublic (v : StoreVendor) (now : LocalTime) : PublicVendor where
  id := v.id
  name := v.name
  type := v.type
  badge := v.badge
  quartier := v.quartier
  profilePhotoUrl := v.profilePhotoUrl
  description := v.description
  hours := v.hours
  isOpenNow := computeIsOpenNow v.type v.isOpen v.hours now

def CategoryRow.toPublic (c : CategoryRow) : PublicCategory := ⟨c.id, c.name, c.sortOrder⟩

def ItemRow.toPublic (i : ItemRow) : PublicItem where
  id := i.id
  name := i.name
  description := i.description
  priceXAF := i.priceXAF
  photoUrl := i.photoUrl
  categoryId := i.categoryId
  isInStock := i.isInStock
  sortOrder := i.sortOrder
  preparationMinutes := i.preparationMinutes

/-- `none` is `vendor_not_found`. -/
def StoreDb.getVendorPublic (db : StoreDb) (vendorId : VendorId) (now : LocalTime) : Option VendorPage :=
  match db.vendors.find? fun v => v.id == vendorId with
  | none => none
  | some vendor =>
    if vendor.status ≠ .active then none
    else some
      { vendor := vendor.toPublic now
        categories := (menuOrder (·.sortOrder) (·.createdAt)
          (db.categories.filter fun c => c.vendorId == vendorId && c.isActive)).map CategoryRow.toPublic
        items := (menuOrder (·.sortOrder) (·.createdAt)
          (db.items.filter fun i => i.vendorId == vendorId && i.isAvailable)).map ItemRow.toPublic }

/-- What createOrder reads of the same tables. -/
def StoreDb.toCreationDb (db : StoreDb) (coupons : List Coupon) (redemptions : List CouponRedemption) (orders : List Order) :
    CreationDb where
  vendors := db.vendors.map (·.toVendor)
  items := db.items.map (·.toItem)
  coupons := coupons
  redemptions := redemptions
  orders := orders

end ChopNow
