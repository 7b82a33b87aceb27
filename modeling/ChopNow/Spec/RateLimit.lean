import ChopNow.Spec.Payment

/-! The counters that RedisService keeps with `incrWithTTL`, and PhoneRateLimitGuard in front
of POST /auth/request-otp. -/

namespace ChopNow

/-- A counter with its expiry: INCR, and EXPIRE … NX in the same transaction. -/
def incrWithTTL (held : Option (ℕ × Time)) (now ttlSeconds : Time) : ℕ × Time :=
  match held with
  | none => (1, now + ttlSeconds * 1000)
  | some (count, expiry) => if now < expiry then (count + 1, expiry) else (1, now + ttlSeconds * 1000)

structure PhoneRateLimitOptions where
  limit : ℕ
  ttlSeconds : Time
  bodyKey : Option String := none
  deriving DecidableEq, Repr

/-- The decorator of `requestOtp`. -/
def requestOtpRateLimit : PhoneRateLimitOptions where
  limit := 5
  ttlSeconds := 15 * 60

/-- `req`, as far as the guard reads it: the route's path, and the fields of the body that are strings. -/
structure HttpRequest where
  path : String
  body : String → Option String

structure TooManyRequests where
  statusCode : ℕ := 429
  message : String := "too_many_requests_for_phone"
  retryAfterSeconds : Time
  deriving DecidableEq, Repr

abbrev Counters := String → Option (ℕ × Time)

def rateLimitKey (path phone : String) : String := "phonerl:" ++ path ++ ":" ++ phone

/-- In front of the route; a refusal is thrown. -/
def PhoneRateLimitGuard.canActivate (opts : Option PhoneRateLimitOptions) (redis : Counters) (now : Time) (req : HttpRequest) :
    Counters × Except TooManyRequests Bool :=
  match opts with
  | none => (redis, .ok true)
  | some opts =>
    match req.body (opts.bodyKey.getD "phone") with
    | none | some "" => (redis, .ok true)
    | some phone =>
      let key := rateLimitKey req.path phone
      let counter := incrWithTTL (redis key) now opts.ttlSeconds
      (Function.update redis key (some counter),
        if opts.limit < counter.1 then .error { retryAfterSeconds := opts.ttlSeconds } else .ok true)

/-! RequestOtpDto. -/

/-- `^\+?[1-9]\d{7,14}$`. -/
def isInternationalNumber (input : String) : Bool :=
  match (if input.startsWith "+" then input.toList.tail else input.toList) with
  | d :: rest => ('1' ≤ d && d ≤ '9') && rest.all Char.isDigit && 7 ≤ rest.length && rest.length ≤ 14
  | [] => false

/-- `PHONE_PATTERN`. -/
def matchesPhonePattern (input : String) : Bool := isLocalNumber input || isInternationalNumber input

structure RequestOtpDto where
  phone : String
  accepted : matchesPhonePattern phone = true

def RequestOtpDto.number (dto : RequestOtpDto) : Phone := normalizePhone dto.phone

def RequestOtpDto.request (dto : RequestOtpDto) (path : String) : HttpRequest where
  path := path
  body := fun field => if field = "phone" then some dto.phone else none

/-! A route behind the guard. -/

/-- Of the requests that arrive, with their times, those that pass. -/
def passing (opts : PhoneRateLimitOptions) (path : String) (redis : Counters) :
    List (Time × RequestOtpDto) → List RequestOtpDto
  | [] => []
  | (now, dto) :: rest =>
    match PhoneRateLimitGuard.canActivate (some opts) redis now (dto.request path) with
    | (redis', .ok _) => dto :: passing opts path redis' rest
    | (redis', .error _) => passing opts path redis' rest

end ChopNow
