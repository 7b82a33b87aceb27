import ChopNow.Spec.Hours

/-! When computeIsOpenNow says that a vendor is open. It compares strings, and a time of one
digit comes after every clock reading whose first digit is no larger. -/

namespace ChopNow

def digit (c : Char) : ℕ := c.toNat - '0'.toNat

/-- What an accepted time says, in minutes. -/
def minutesOf (time : String) : ℕ :=
  match time.toList with
  | [h, ':', m, n] => digit h * 60 + (digit m * 10 + digit n)
  | [g, h, ':', m, n] => (digit g * 10 + digit h) * 60 + (digit m * 10 + digit n)
  | _ => 0

/-- What the comparison takes it for: with one digit, the first full ten hours that the clock
shows with a larger digit. -/
def readAs (time : String) : ℕ :=
  match time.toList with
  | [h, ':', _, _] => if h = '0' then 10 * 60 else if h = '1' then 20 * 60 else 24 * 60
  | _ => minutesOf time

def LocalTime.minuteOfDay (now : LocalTime) : ℕ := now.hours * 60 + now.minutes

section

variable {time : String} {now : LocalTime} {c d : Char} {cs ds : List Char}

/-! Characters by their codes. -/

theorem lt_iff_toNat : c < d ↔ c.toNat < d.toNat := by
  rw [Char.lt_def, UInt32.lt_iff_toNat_lt]
  rfl

theorem le_iff_toNat : c ≤ d ↔ c.toNat ≤ d.toNat := by
  rw [Char.le_def, UInt32.le_iff_toNat_le]
  rfl

theorem cons_lt_iff : c :: cs < d :: ds ↔ c.toNat < d.toNat ∨ c.toNat = d.toNat ∧ cs < ds := by
  rw [List.cons_lt_cons_iff, lt_iff_toNat, Char.toNat_inj]

theorem isDigit_iff : c.isDigit = true ↔ 48 ≤ c.toNat ∧ c.toNat ≤ 57 := Char.isDigit_iff_toNat

theorem isMinutes_iff : isMinutes c d = true ↔ (48 ≤ c.toNat ∧ c.toNat ≤ 53) ∧ 48 ≤ d.toNat ∧ d.toNat ≤ 57 := by
  simp only [isMinutes, Bool.and_eq_true, decide_eq_true_eq, le_iff_toNat, isDigit_iff]
  rfl

theorem padStart2_codes : ∀ n < 60, (padStart2 n).toList.map Char.toNat = [48 + n / 10, 48 + n % 10] := by decide +kernel

theorem hhmm_codes (now : LocalTime) : ∃ a b c d, now.hhmm.toList = [a, b, ':', c, d] ∧
    (a.toNat = 48 + now.hours / 10 ∧ b.toNat = 48 + now.hours % 10) ∧
      c.toNat = 48 + now.minutes / 10 ∧ d.toNat = 48 + now.minutes % 10 := by
  have hpad : ∀ n < 60, ∃ a b, (padStart2 n).toList = [a, b] ∧ a.toNat = 48 + n / 10 ∧ b.toNat = 48 + n % 10 := by
    intro n hn
    obtain ⟨a, as, has, ha, htail⟩ := List.map_eq_cons_iff.1 (padStart2_codes n hn)
    obtain ⟨b, bs, rfl, hb, hnil⟩ := List.map_eq_cons_iff.1 htail
    obtain rfl := List.map_eq_nil_iff.1 hnil
    exact ⟨a, b, has, ha, hb⟩
  obtain ⟨a, b, hab, hhours⟩ := hpad now.hours (now.hours.isLt.trans (by decide))
  obtain ⟨c, d, hcd, hminutes⟩ := hpad now.minutes now.minutes.isLt
  refine ⟨a, b, c, d, ?_, hhours, hminutes⟩
  simp [LocalTime.hhmm, hab, hcd]

/-! The comparison. -/

theorem clock_lt_iff (h : matchesTimePattern time = true) : now.hhmm < time ↔ now.minuteOfDay < readAs time := by
  obtain ⟨a, b, c, d, hclock, ⟨ha, hb⟩, hc, hd⟩ := hhmm_codes now
  have hhours := now.hours.isLt
  have hminutes := now.minutes.isLt
  have hcolon : ':'.toNat = 58 := rfl
  change now.hhmm.toList < time.toList ↔ _
  unfold matchesTimePattern at h
  split at h
  · -- the first digits decide, or the colon against a digit
    next h₁ m n htime =>
    rw [Bool.and_eq_true, isDigit_iff] at h
    simp only [hclock, readAs, htime, cons_lt_iff, LocalTime.minuteOfDay, ← Char.toNat_inj]
    have hzero : '0'.toNat = 48 := rfl
    have hone : '1'.toNat = 49 := rfl
    have hb₁ : b.toNat < ':'.toNat := by omega
    simp only [hb₁, true_or, and_true, hzero, hone]
    split_ifs <;> omega
  · next g h₁ m n htime =>
    have hg : (48 ≤ g.toNat ∧ g.toNat ≤ 50) ∧ (48 ≤ h₁.toNat ∧ h₁.toNat ≤ 57) ∧ (g.toNat = 50 → h₁.toNat ≤ 51) := by
      simp only [Bool.and_eq_true, Bool.or_eq_true, beq_iff_eq, decide_eq_true_eq, isDigit_iff, le_iff_toNat,
        ← Char.toNat_inj, Char.reduceToNat] at h
      omega
    rw [Bool.and_eq_true, isMinutes_iff] at h
    have hlt : ¬([] : List Char) < [] := List.not_lt_nil _
    simp only [hclock, readAs, minutesOf, digit, htime, cons_lt_iff, LocalTime.minuteOfDay, hlt, and_false, or_false,
      lt_self_iff_false, true_and, false_or]
    have hzero : '0'.toNat = 48 := rfl
    rw [hzero]
    omega
  · cases h

/-- A time is taken for a later one, if for another. -/
theorem minutesOf_le_readAs (h : matchesTimePattern time = true) : minutesOf time ≤ readAs time := by
  unfold matchesTimePattern at h
  split at h
  · next h₁ m n htime =>
    rw [Bool.and_eq_true, isDigit_iff, isMinutes_iff] at h
    have hzero : '0'.toNat = 48 := rfl
    have hone : '1'.toNat = 49 := rfl
    simp only [readAs, minutesOf, digit, htime, ← Char.toNat_inj, hzero, hone]
    split_ifs <;> omega
  · next g h₁ m n htime => simp only [readAs, htime, le_refl]
  · cases h

/-! A slot, and a week. -/

/-- The clock stands inside the slot. -/
def DayHours.contains (slot : DayHours) (now : LocalTime) : Prop :=
  minutesOf slot.opens ≤ now.minuteOfDay ∧ now.minuteOfDay < minutesOf slot.close

/-- Inside the slot the clock is past what the opening time is taken for; after it, it is past
what the closing time is taken for, or not yet past the other. -/
def DayHours.readsTrue (slot : DayHours) (now : LocalTime) : Prop :=
  (slot.contains now → readAs slot.opens ≤ now.minuteOfDay) ∧
    (minutesOf slot.close ≤ now.minuteOfDay → now.minuteOfDay < readAs slot.close →
      now.minuteOfDay < readAs slot.opens)

theorem slot_iff (slot : DayHoursDto) : (slot.opens ≤ now.hhmm && now.hhmm < slot.close) = true ↔
    readAs slot.opens ≤ now.minuteOfDay ∧ now.minuteOfDay < readAs slot.close := by
  have hopens : slot.opens ≤ now.hhmm ↔ readAs slot.opens ≤ now.minuteOfDay :=
    (not_congr (clock_lt_iff slot.opensAccepted)).trans not_lt
  rw [Bool.and_eq_true, decide_eq_true_iff, decide_eq_true_iff, hopens, clock_lt_iff slot.closeAccepted]

theorem slot_reads_true_iff (slot : DayHoursDto) :
    ((slot.opens ≤ now.hhmm && now.hhmm < slot.close) = true ↔ slot.contains now) ↔ slot.readsTrue now := by
  have hopens := minutesOf_le_readAs slot.opensAccepted
  have hclose := minutesOf_le_readAs slot.closeAccepted
  rw [slot_iff, DayHours.readsTrue, DayHours.contains]
  omega

theorem noDays_iff {dto : UpdateHoursDto} :
    (DAY_KEYS.all fun day => (dto.hours day).isNone) = true ↔ ∀ day, dto.day day = none := by
  simp only [List.all_eq_true, UpdateHoursDto.hours, Option.isNone_map, Option.isNone_iff_eq_none]
  refine ⟨fun h day => h day ?_, fun h day _ => h day⟩
  cases day <;> decide

theorem setHours_hours {vendors vendors' : List VendorHours} {userId : UserId} {dto : UpdateHoursDto} {vendor : VendorHours}
    (h : setHours vendors userId dto = .ok vendors') (hmem : vendor ∈ vendors') (huser : vendor.userId = userId) :
    vendor.hours = some dto.hours := by
  unfold setHours requireVendor at h
  split at h
  · cases h
  · next own hown =>
    have hsame : own.userId = userId := by simpa using List.find?_some hown
    obtain rfl := Except.ok.inj h
    obtain ⟨row, -, rfl⟩ := List.mem_map.1 hmem
    split at huser
    · rw [if_pos ‹_›]
    · next hother => exact absurd (huser.trans hsame.symm) hother

theorem computed_iff {type : VendorType} {dto : UpdateHoursDto} (htype : type ≠ .informal) :
    (computeIsOpenNow type true (some dto.hours) now = true ↔ (∀ day, dto.day day = none) ∨
        ∃ slot ∈ dto.day now.today, slot.contains now) ↔
      ∀ slot ∈ dto.day now.today, slot.readsTrue now := by
  simp only [computeIsOpenNow, Bool.not_true, Bool.false_eq_true, if_false, htype]
  by_cases hnone : ∀ day, dto.day day = none
  · rw [if_pos (noDays_iff.2 hnone)]
    simp [hnone]
  · rw [if_neg (noDays_iff.not.2 hnone), or_iff_right hnone]
    cases hslot : dto.day now.today with
    | none => simp [UpdateHoursDto.hours, hslot]
    | some slot =>
      simp only [UpdateHoursDto.hours, hslot, Option.map_some, Option.mem_def, Option.some.injEq, exists_eq_left',
        forall_eq']
      exact slot_reads_true_iff slot

/-- computeIsOpenNow says what the stored week says, exactly when the day's slot is read true. -/
theorem open_now_iff {vendors vendors' : List VendorHours} {userId : UserId} {dto : UpdateHoursDto} {vendor : VendorHours}
    (h : setHours vendors userId dto = .ok vendors') (hmem : vendor ∈ vendors') (huser : vendor.userId = userId)
    (htype : vendor.type ≠ .informal) (hopen : vendor.isOpen = true) (now : LocalTime) :
    (vendor.isOpenNow now = true ↔ (∀ day, dto.day day = none) ∨
        ∃ slot ∈ dto.day now.today, slot.contains now) ↔
      ∀ slot ∈ dto.day now.today, slot.readsTrue now := by
  rw [VendorHours.isOpenNow, hopen, setHours_hours h hmem huser]
  exact computed_iff htype

end

/-- Sundays, from one time to another. -/
def sundays (opens close : String) (hopens : matchesTimePattern opens = true) (hclose : matchesTimePattern close = true) :
    UpdateHoursDto where
  sun := some { opens := opens, close := close, opensAccepted := hopens, closeAccepted := hclose }

def restaurant (dto : UpdateHoursDto) : VendorHours := ⟨1, .restaurant, true, some dto.hours⟩

/-- With two digits, the vendor is open at half past ten. -/
theorem two_digits_open :
    (restaurant (sundays "09:00" "21:00" (by decide) (by decide))).isOpenNow ⟨0, 10, 30⟩ = true := by
  have hstored : setHours [⟨1, .restaurant, true, none⟩] 1 (sundays "09:00" "21:00" (by decide) (by decide)) =
    .ok [restaurant (sundays "09:00" "21:00" (by decide) (by decide))] := rfl
  refine ((open_now_iff hstored List.mem_cons_self rfl (by decide) rfl _).2 ?_).2 (.inr ⟨_, rfl, ?_⟩)
  · rintro slot ⟨⟩
    unfold DayHours.readsTrue DayHours.contains
    decide
  · unfold DayHours.contains
    decide

/-- Open from 9:00, and closed at half past ten. -/
theorem one_digit_closed : ¬∀ (vendors vendors' : List VendorHours) (userId : UserId) (dto : UpdateHoursDto)
    (vendor : VendorHours) (now : LocalTime), setHours vendors userId dto = .ok vendors' → vendor ∈ vendors' →
      vendor.userId = userId → vendor.type ≠ .informal → vendor.isOpen = true →
        (vendor.isOpenNow now = true ↔ (∀ day, dto.day day = none) ∨ ∃ slot ∈ dto.day now.today, slot.contains now) := by
  intro h
  have hclosed : (restaurant (sundays "9:00" "21:00" (by decide) (by decide))).isOpenNow ⟨0, 10, 30⟩ = false := by
    decide +kernel
  have hnine := (h [⟨1, .restaurant, true, none⟩] _ 1 (sundays "9:00" "21:00" (by decide) (by decide))
    (restaurant (sundays "9:00" "21:00" (by decide) (by decide))) ⟨0, 10, 30⟩ rfl List.mem_cons_self rfl (by decide)
    rfl).2 (.inr ⟨_, rfl, ?_⟩)
  · rw [hclosed] at hnine
    cases hnine
  · unfold DayHours.contains
    decide

end ChopNow
