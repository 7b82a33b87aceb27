import ChopNow.Spec.Menu

/-! Opening hours: UpdateHoursDto, and setHours and computeIsOpenNow of AvailabilityService. -/

namespace ChopNow

inductive DayKey
  | sun | mon | tue | wed | thu | fri | sat
  deriving DecidableEq, Repr

def DAY_KEYS : List DayKey := [.sun, .mon, .tue, .wed, .thu, .fri, .sat]

structure DayHours where
  opens : String
  close : String
  deriving DecidableEq, Repr

abbrev WeeklyHours := DayKey → Option DayHours

/-! What the DTO accepts. -/

/-- `[0-5]\d`. -/
def isMinutes (tens ones : Char) : Bool := ('0' ≤ tens && tens ≤ '5') && ones.isDigit

/-- `TIME_PATTERN`. -/
def matchesTimePattern (time : String) : Bool :=
  match time.toList with
  | [h, ':', m, n] => h.isDigit && isMinutes m n
  | [g, h, ':', m, n] =>
    ((g == '0' || g == '1') && h.isDigit || g == '2' && ('0' ≤ h && h ≤ '3')) && isMinutes m n
  | _ => false

structure DayHoursDto extends DayHours where
  opensAccepted : matchesTimePattern opens = true
  closeAccepted : matchesTimePattern close = true

structure UpdateHoursDto where
  mon : Option DayHoursDto := none
  tue : Option DayHoursDto := none
  wed : Option DayHoursDto := none
  thu : Option DayHoursDto := none
  fri : Option DayHoursDto := none
  sat : Option DayHoursDto := none
  sun : Option DayHoursDto := none

/-- `dto[day]`. -/
def UpdateHoursDto.day (dto : UpdateHoursDto) : DayKey → Option DayHoursDto
  | .mon => dto.mon
  | .tue => dto.tue
  | .wed => dto.wed
  | .thu => dto.thu
  | .fri => dto.fri
  | .sat => dto.sat
  | .sun => dto.sun

/-! The vendor's row. -/

structure VendorHours where
  userId : UserId
  type : VendorType
  isOpen : Bool
  hours : Option WeeklyHours

def requireVendor (vendors : List VendorHours) (userId : UserId) : Except MenuError VendorHours :=
  match vendors.find? fun vendor => vendor.userId == userId with
  | none => .error .vendorNotFound
  | some vendor => .ok vendor

def UpdateHoursDto.hours (dto : UpdateHoursDto) : WeeklyHours := fun day => (dto.day day).map (·.toDayHours)

def setHours (vendors : List VendorHours) (userId : UserId) (dto : UpdateHoursDto) : Except MenuError (List VendorHours) := do
  let vendor ← requireVendor vendors userId
  return vendors.map fun row => if row.userId = vendor.userId then { row with hours := some dto.hours } else row

/-! The clock. -/

/-- `new Date()`, as its local getters have it. -/
structure LocalTime where
  day : Fin 7
  hours : Fin 24
  minutes : Fin 60
  deriving DecidableEq, Repr

/-- `DAY_KEYS[now.getDay()]`. -/
def LocalTime.today (now : LocalTime) : DayKey := DAY_KEYS.get now.day

/-- `toString().padStart(2, '0')`. -/
def padStart2 (n : ℕ) : String := if (toString n).length < 2 then "0" ++ toString n else toString n

def LocalTime.hhmm (now : LocalTime) : String := padStart2 now.hours ++ ":" ++ padStart2 now.minutes

def computeIsOpenNow (type : VendorType) (isOpen : Bool) (hours : Option WeeklyHours) (now : LocalTime) : Bool :=
  if !isOpen then false
  else if type = .informal then true
  else
    match hours with
    | none => true
    | some hours =>
      if DAY_KEYS.all fun day => (hours day).isNone then true
      else
        match hours now.today with
        | none => false
        | some slot => slot.opens ≤ now.hhmm && now.hhmm < slot.close

/-- `isOpenNow` of `getOwn`. -/
def VendorHours.isOpenNow (vendor : VendorHours) (now : LocalTime) : Bool :=
  computeIsOpenNow vendor.type vendor.isOpen vendor.hours now

end ChopNow
