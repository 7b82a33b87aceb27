import ChopNow.Lib.Json
import Mathlib.Data.Rat.Defs

/-! What AdminAuditService keeps of an admin's request: `sanitize` of its body and query. -/

namespace ChopNow

inductive JsonScalar
  | null
  | bool (b : Bool)
  | num (n : ℚ)
  | str (s : String)
  deriving DecidableEq, Repr

abbrev JsonValue := Json JsonScalar

def REDACTED : JsonValue := .scalar (.str "[REDACTED]")

def SENSITIVE_KEYS : List String :=
  ["password", "passwordhash", "passwordHash", "code", "recoveryCode", "recoverycode", "token", "accessToken",
    "refreshToken", "tokenHash", "secret", "pin", "twofactorcode", "twoFactorCode"]

/-- Of the characters beyond ASCII only the Kelvin sign has an ASCII letter as its lower case;
the others stay beyond ASCII, where no name is. -/
def lowerChar (c : Char) : Char := if c = Char.ofNat 0x212A then 'k' else c.toLower

def toLowerCase (s : String) : String := String.ofList (s.toList.map lowerChar)

/-- `SENSITIVE_KEYS.has(k) || SENSITIVE_KEYS.has(k.toLowerCase())`. -/
def isRedacted (k : String) : Bool := SENSITIVE_KEYS.contains k || SENSITIVE_KEYS.contains (toLowerCase k)

/-- `out[k] = v` where `out` began as an object literal: `__proto__` sets its prototype, and
makes no property. -/
def setField (out : List (String × JsonValue)) (k : String) (v : JsonValue) : List (String × JsonValue) :=
  if k = "__proto__" then out else Json.assign out k v

/-- A field goes in with its value walked through already. -/
def sanitize : JsonValue → JsonValue :=
  Json.fold .scalar .arr fun entries =>
    .obj (entries.foldl (fun out e => setField out e.1 (if isRedacted e.1 then REDACTED else e.2)) [])

end ChopNow
