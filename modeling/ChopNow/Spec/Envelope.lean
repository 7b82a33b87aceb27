import ChopNow.Lib.Encodings

/-! secret-envelope: secrets that the application must read back, sealed with `aes-256-gcm`.
A string is the list of its UTF-16 code units. -/

namespace ChopNow

open Encodings

abbrev JsString := List UInt16

def IV_BYTES : ℕ := 12

def AUTH_TAG_LENGTH : ℕ := 16

/-- `randomBytes(IV_BYTES)`. -/
abbrev Iv := {iv : List UInt8 // iv.length = IV_BYTES}

/-- What is used of node:crypto. `encrypt` gives the ciphertext and the tag; `decrypt` gives back
what was encrypted under the same key and nonce, and refuses everything else. -/
structure NodeCrypto (κ : Type) where
  sha256 : List UInt8 → κ
  encrypt : κ → List UInt8 → List UInt8 → List UInt8 × List UInt8
  decrypt : κ → List UInt8 → List UInt8 → List UInt8 → Option (List UInt8)
  encrypt_tag : ∀ key iv plaintext, (encrypt key iv plaintext).2.length = AUTH_TAG_LENGTH
  decrypt_iff : ∀ key iv authTag ciphertext plaintext,
    decrypt key iv authTag ciphertext = some plaintext ↔ encrypt key iv plaintext = (ciphertext, authTag)

/-- `thrown` is what createDecipheriv and `final` throw. -/
inductive EnvelopeError
  | keyNotConfigured
  | invalidFormat
  | invalidAuthTagLength
  | thrown
  deriving DecidableEq, Repr

variable {κ : Type}

/-- `'.'`. -/
def DOT : UInt16 := 46

/-- `Buffer.from(s, 'utf8')`, as the hash and the cipher read their strings. -/
def utf8Bytes (s : JsString) : List UInt8 := toUtf8 (ofUtf16 s)

/-- `toString('utf8')`. -/
def utf8String (bytes : List UInt8) : JsString := toUtf16 (ofUtf8 bytes)

def deriveKey (crypto : NodeCrypto κ) (passphrase : JsString) : Except EnvelopeError κ :=
  if passphrase.isEmpty then .error .keyNotConfigured else .ok (crypto.sha256 (utf8Bytes passphrase))

def encryptSecret (crypto : NodeCrypto κ) (iv : Iv) (plaintext passphrase : JsString) : Except EnvelopeError JsString := do
  let key ← deriveKey crypto passphrase
  let (ciphertext, authTag) := crypto.encrypt key iv.1 (utf8Bytes plaintext)
  return toHex iv.1 ++ DOT :: (toHex authTag ++ DOT :: toHex ciphertext)

def decryptSecret (crypto : NodeCrypto κ) (envelope passphrase : JsString) : Except EnvelopeError JsString :=
  match envelope.splitOn DOT with
  | [ivHex, authTagHex, ciphertextHex] => do
    let key ← deriveKey crypto passphrase
    let iv := ofHex ivHex
    let authTag := ofHex authTagHex
    if authTag.length ≠ AUTH_TAG_LENGTH then .error .invalidAuthTagLength
    -- createDecipheriv takes a nonce of any length but 0
    else if iv.isEmpty then .error .thrown
    else
      match crypto.decrypt key iv authTag (ofHex ciphertextHex) with
      | none => .error .thrown
      | some plaintext => .ok (utf8String plaintext)
  | _ => .error .invalidFormat

end ChopNow
