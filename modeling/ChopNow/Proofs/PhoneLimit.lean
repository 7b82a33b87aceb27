import ChopNow.Lib.Quota
import ChopNow.Spec.RateLimit

/-! How many requests for one number pass the guard in one window. The guard counts the
strings that it is sent, and `requestOtp` sends its code to what normalizePhone makes of them:
a number has as many quotas as it has spellings. -/

namespace ChopNow

open Quota

/-- No spelling of the number is being counted when the window starts, and all requests
arrive before the first counter can expire. -/
structure Window (redis : Counters) (path : String) (number : Phone) (start ttlSeconds : Time)
    (requests : List (Time × RequestOtpDto)) : Prop where
  fresh : ∀ phone, normalizePhone phone = number → ∀ counter, redis (rateLimitKey path phone) = some counter →
    counter.2 ≤ start
  within : ∀ r ∈ requests, start ≤ r.1 ∧ r.1 < start + ttlSeconds * 1000

def isFor (number : Phone) (dto : RequestOtpDto) : Bool := decide (dto.number = number)

section

variable {path phone phone' : String} {limit used : ℕ} {now start ttlSeconds : Time} {redis : Counters}
  {held : Option (ℕ × Time)} {dto : RequestOtpDto} {number : Phone} {requests : List (Time × RequestOtpDto)}

/-! One counter, and one request. -/

/-- In the window the counter stands for `used` requests. -/
def Stands (held : Option (ℕ × Time)) (start ttlSeconds : Time) (used : ℕ) : Prop :=
  match held with
  | none => used = 0
  | some (count, expiry) => (expiry ≤ start ∧ used = 0) ∨ (start + ttlSeconds * 1000 ≤ expiry ∧ count = used)

theorem Stands.incr (h : Stands held start ttlSeconds used) (hlo : start ≤ now) (hhi : now < start + ttlSeconds * 1000) :
    (incrWithTTL held now ttlSeconds).1 = used + 1 ∧
      Stands (some (incrWithTTL held now ttlSeconds)) start ttlSeconds (used + 1) := by
  have hnew : start + ttlSeconds * 1000 ≤ now + ttlSeconds * 1000 := Nat.add_le_add_right hlo _
  unfold incrWithTTL
  split
  · obtain rfl : used = 0 := h
    exact ⟨rfl, .inr ⟨hnew, rfl⟩⟩
  · next count expiry =>
    rcases h with ⟨hexpired, rfl⟩ | ⟨hlive, rfl⟩
    · rw [if_neg (not_lt.2 (hexpired.trans hlo))]
      exact ⟨rfl, .inr ⟨hnew, rfl⟩⟩
    · rw [if_pos (hhi.trans_le hlive)]
      exact ⟨rfl, .inr ⟨hlive, rfl⟩⟩

theorem rateLimitKey_inj : rateLimitKey path phone = rateLimitKey path phone' ↔ phone = phone' := by
  simp [rateLimitKey]

theorem pattern_empty : matchesPhonePattern "" = false := by decide +kernel

/-- What the guard does with a body that the DTO accepts. -/
theorem canActivate_request : PhoneRateLimitGuard.canActivate (some { limit, ttlSeconds }) redis now (dto.request path) =
    (Function.update redis (rateLimitKey path dto.phone)
        (some (incrWithTTL (redis (rateLimitKey path dto.phone)) now ttlSeconds)),
      if limit < (incrWithTTL (redis (rateLimitKey path dto.phone)) now ttlSeconds).1
      then .error { retryAfterSeconds := ttlSeconds } else .ok true) := by
  have hbody : (dto.request path).body ((none : Option String).getD "phone") = some dto.phone := rfl
  simp only [PhoneRateLimitGuard.canActivate, hbody]
  split
  · next h => cases h
  · next h =>
    have haccepted := dto.accepted
    rw [Option.some.inj h, pattern_empty] at haccepted
    cases haccepted
  · next h =>
    obtain rfl := Option.some.inj h
    rfl

theorem passing_cons : passing { limit, ttlSeconds } path redis ((now, dto) :: requests) =
    (if limit < (incrWithTTL (redis (rateLimitKey path dto.phone)) now ttlSeconds).1 then [] else [dto]) ++
      passing { limit, ttlSeconds } path (Function.update redis (rateLimitKey path dto.phone)
        (some (incrWithTTL (redis (rateLimitKey path dto.phone)) now ttlSeconds))) requests := by
  by_cases hover : limit < (incrWithTTL (redis (rateLimitKey path dto.phone)) now ttlSeconds).1 <;>
    simp [passing, canActivate_request, hover]

/-! The requests for the number are let through by quota, whatever arrives in between. -/

theorem filter_passing {used : String → ℕ} (hstands : ∀ phone, normalizePhone phone = number →
      Stands (redis (rateLimitKey path phone)) start ttlSeconds (used phone))
    (hwithin : ∀ r ∈ requests, start ≤ r.1 ∧ r.1 < start + ttlSeconds * 1000) :
    (passing { limit, ttlSeconds } path redis requests).filter (isFor number) =
      admitted RequestOtpDto.phone limit used ((requests.map Prod.snd).filter (isFor number)) := by
  induction requests generalizing redis used with
  | nil => rfl
  | cons r rest ih =>
    obtain ⟨now, dto⟩ := r
    obtain ⟨⟨hlo, hhi⟩, hrest⟩ := List.forall_mem_cons.1 hwithin
    rw [passing_cons, List.filter_append, List.map_cons]
    by_cases hn : dto.number = number
    · obtain ⟨hcount, hnext⟩ := (hstands dto.phone hn).incr hlo hhi
      have hothers : ∀ phone, normalizePhone phone = number →
          Stands (Function.update redis (rateLimitKey path dto.phone)
            (some (incrWithTTL (redis (rateLimitKey path dto.phone)) now ttlSeconds)) (rateLimitKey path phone))
            start ttlSeconds (Function.update used dto.phone (used dto.phone + 1) phone) := by
        intro phone hphone
        by_cases heq : phone = dto.phone
        · rw [heq, Function.update_self, Function.update_self]
          exact hnext
        · rw [Function.update_of_ne (rateLimitKey_inj.not.2 heq), Function.update_of_ne heq]
          exact hstands phone hphone
      rw [ih hothers hrest, List.filter_cons_of_pos (by simpa [isFor] using hn), admitted, hcount]
      split <;> simp [isFor, hn]
    · have hothers : ∀ phone, normalizePhone phone = number →
          Stands (Function.update redis (rateLimitKey path dto.phone)
            (some (incrWithTTL (redis (rateLimitKey path dto.phone)) now ttlSeconds)) (rateLimitKey path phone))
            start ttlSeconds (used phone) := by
        intro phone hphone
        have hne : phone ≠ dto.phone := by
          rintro rfl
          exact hn hphone
        rw [Function.update_of_ne (rateLimitKey_inj.not.2 hne)]
        exact hstands phone hphone
      rw [ih hothers hrest, List.filter_cons_of_neg (by simpa [isFor] using hn)]
      split <;> simp [isFor, hn]

/-- Those that pass keep to the limit exactly when there are no more requests than that, or
they all spell the number alike (or when the limit lets nothing pass). -/
theorem phone_limit_iff (h : Window redis path number start ttlSeconds requests) :
    (passing { limit, ttlSeconds } path redis requests).countP (isFor number) ≤ limit ↔
      limit = 0 ∨ (requests.map Prod.snd).countP (isFor number) ≤ limit ∨
        ∀ r ∈ requests, ∀ r' ∈ requests, r.2.number = number → r'.2.number = number → r.2.phone = r'.2.phone := by
  have hfresh : ∀ phone, normalizePhone phone = number →
      Stands (redis (rateLimitKey path phone)) start ttlSeconds 0 := by
    intro phone hphone
    cases hheld : redis (rateLimitKey path phone) with
    | none => rfl
    | some counter => exact .inl ⟨h.fresh phone hphone counter hheld, rfl⟩
  have hself : ∀ dtos : List RequestOtpDto,
      (dtos.filter (isFor number)).countP (isFor number) = dtos.countP (isFor number) := fun dtos => by
    simp only [List.countP_filter, Bool.and_self]
  have hmem : ∀ dto, dto ∈ (requests.map Prod.snd).filter (isFor number) ↔
      ∃ r ∈ requests, r.2 = dto ∧ dto.number = number := by simp [isFor]
  calc (passing { limit, ttlSeconds } path redis requests).countP (isFor number) ≤ limit
      ↔ (admitted RequestOtpDto.phone limit (fun _ => 0) ((requests.map Prod.snd).filter (isFor number))).countP
          (isFor number) ≤ limit := by rw [← filter_passing hfresh h.within, hself]
    _ ↔ _ := class_quota_iff (p := fun phone => decide (normalizePhone phone = number))
    _ ↔ _ := by
        refine or_congr_right (or_congr (Iff.of_eq (congrArg (· ≤ limit) (hself _))) ⟨?_, ?_⟩)
        · intro halike r hr r' hr' hn hn'
          exact halike _ ((hmem _).2 ⟨r, hr, rfl, hn⟩) _ ((hmem _).2 ⟨r', hr', rfl, hn'⟩) (decide_eq_true hn)
            (decide_eq_true hn')
        · intro halike dto hdto dto' hdto' _ _
          obtain ⟨r, hr, rfl, hn⟩ := (hmem _).1 hdto
          obtain ⟨r', hr', rfl, hn'⟩ := (hmem _).1 hdto'
          exact halike r hr r' hr' hn hn'

end

/-- A request at the start for each of these spellings. -/
def spellings (phones : List String) : List (Time × RequestOtpDto) :=
  phones.filterMap fun phone => if h : matchesPhonePattern phone = true then some (0, ⟨phone, h⟩) else none

def nothingCounted : Counters := fun _ => none

/-- Seven requests with one spelling. -/
theorem one_spelling_stays_within :
    (passing requestOtpRateLimit "/auth/request-otp" nothingCounted
      (spellings (List.replicate 7 "670000000"))).countP (isFor "+237670000000") ≤ 5 := by
  have hwindow : Window nothingCounted "/auth/request-otp" "+237670000000" 0 900
      (spellings (List.replicate 7 "670000000")) := ⟨fun _ _ _ h => (by cases h), by decide +kernel⟩
  exact (phone_limit_iff hwindow).2 (.inr (.inr (by decide +kernel)))

/-- Three with one spelling and three with another all pass. -/
theorem spellings_multiply_the_limit : ¬∀ limit ttlSeconds path redis number start requests,
    Window redis path number start ttlSeconds requests →
      (passing { limit, ttlSeconds } path redis requests).countP (isFor number) ≤ limit := by
  intro h
  have hsix := h 5 900 "/auth/request-otp" nothingCounted "+237670000000" 0
    (spellings (List.replicate 3 "670000000" ++ List.replicate 3 "+237670000000"))
    ⟨fun _ _ _ h => (by cases h), by decide +kernel⟩
  revert hsix
  decide +kernel

end ChopNow
