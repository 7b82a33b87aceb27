import ChopNow.Spec.Envelope

/-! Sealed secrets come back, and what opens was sealed under the same key. -/

namespace ChopNow

open Encodings

variable {κ : Type} {crypto : NodeCrypto κ} {s p k v : JsString}

theorem deriveKey_ok (crypto : NodeCrypto κ) (hk : k ≠ []) : deriveKey crypto k = .ok (crypto.sha256 (utf8Bytes k)) :=
  if_neg (by simpa using hk)

theorem utf8String_utf8Bytes (hp : WellFormed p) : utf8String (utf8Bytes p) = p := by
  obtain ⟨cs, rfl⟩ := hp
  rw [utf8Bytes, ofUtf16_toUtf16, utf8String, ofUtf8_toUtf8]

theorem dot_not_mem (bytes : List UInt8) : DOT ∉ toHex bytes := fun h => by
  have hsome := hexValue_of_mem h
  revert hsome
  decide

theorem splitOn_envelope (iv authTag ciphertext : List UInt8) :
    (toHex iv ++ DOT :: (toHex authTag ++ DOT :: toHex ciphertext)).splitOn DOT =
      [toHex iv, toHex authTag, toHex ciphertext] := by
  rw [List.splitOn_append_cons_self_of_not_mem (dot_not_mem iv),
    List.splitOn_append_cons_self_of_not_mem (dot_not_mem authTag), List.splitOn_eq_singleton (dot_not_mem ciphertext)]

theorem encryptSecret_ok (crypto : NodeCrypto κ) (iv : Iv) (p : JsString) (hk : k ≠ []) :
    encryptSecret crypto iv p k = .ok (toHex iv.1 ++
      DOT :: (toHex (crypto.encrypt (crypto.sha256 (utf8Bytes k)) iv.1 (utf8Bytes p)).2 ++
        DOT :: toHex (crypto.encrypt (crypto.sha256 (utf8Bytes k)) iv.1 (utf8Bytes p)).1)) := by
  rw [encryptSecret, deriveKey_ok crypto hk]
  rfl

/-- Three parts, and a passphrase: what is left are the tag, the nonce and the cipher. -/
theorem decryptSecret_parts (crypto : NodeCrypto κ) {ivHex authTagHex ciphertextHex : JsString} (hk : k ≠ [])
    (hparts : s.splitOn DOT = [ivHex, authTagHex, ciphertextHex]) : decryptSecret crypto s k =
      if (ofHex authTagHex).length ≠ AUTH_TAG_LENGTH then .error .invalidAuthTagLength
      else if (ofHex ivHex).isEmpty then .error .thrown
      else
        match crypto.decrypt (crypto.sha256 (utf8Bytes k)) (ofHex ivHex) (ofHex authTagHex) (ofHex ciphertextHex) with
        | none => .error .thrown
        | some plaintext => .ok (utf8String plaintext) := by
  rw [decryptSecret, hparts]
  simp only [deriveKey_ok crypto hk]
  rfl

theorem decryptSecret_encryptSecret (crypto : NodeCrypto κ) (iv : Iv) (hp : WellFormed p) (hk : k ≠ []) :
    (encryptSecret crypto iv p k).bind (decryptSecret crypto · k) = .ok p := by
  rw [encryptSecret_ok crypto iv p hk]
  generalize hkey : crypto.sha256 (utf8Bytes k) = key
  obtain ⟨ciphertext, authTag, hsealed⟩ : ∃ c t, crypto.encrypt key iv.1 (utf8Bytes p) = (c, t) := ⟨_, _, rfl⟩
  have htag : authTag.length = AUTH_TAG_LENGTH := by
    have hlength := crypto.encrypt_tag key iv.1 (utf8Bytes p)
    rwa [hsealed] at hlength
  have hiv : ¬iv.1.isEmpty = true := by
    rw [List.isEmpty_iff, ← List.length_eq_zero_iff, iv.2]
    decide
  rw [hsealed]
  change decryptSecret crypto _ k = _
  rw [decryptSecret_parts crypto hk (splitOn_envelope _ _ _), ofHex_toHex, ofHex_toHex, ofHex_toHex,
    if_neg (not_not.2 htag), if_neg hiv, hkey, (crypto.decrypt_iff _ _ _ _ _).2 hsealed]
  exact congrArg Except.ok (utf8String_utf8Bytes hp)

/-- What an envelope that opens is made of. -/
theorem decryptSecret_ok (h : decryptSecret crypto s k = .ok v) : ∃ ivHex authTagHex ciphertextHex plaintext,
    s.splitOn DOT = [ivHex, authTagHex, ciphertextHex] ∧ (ofHex authTagHex).length = AUTH_TAG_LENGTH ∧
    crypto.encrypt (crypto.sha256 (utf8Bytes k)) (ofHex ivHex) plaintext = (ofHex ciphertextHex, ofHex authTagHex) ∧
    utf8String plaintext = v := by
  obtain ⟨ivHex, authTagHex, ciphertextHex, hparts⟩ : ∃ x y z, s.splitOn DOT = [x, y, z] := by
    unfold decryptSecret at h
    split at h
    · exact ⟨_, _, _, ‹_›⟩
    · cases h
  have hk : k ≠ [] := fun hnil => by
    rw [decryptSecret, hparts, hnil] at h
    cases h
  rw [decryptSecret_parts crypto hk hparts] at h
  split at h
  · cases h
  · next htag =>
    split at h
    · cases h
    · split at h
      · cases h
      · next plaintext hplain =>
        exact ⟨_, _, _, plaintext, hparts, not_not.1 htag, (crypto.decrypt_iff _ _ _ _ _).1 hplain, Except.ok.inj h⟩

/-- What is well-formed UTF-8 is read as what it encodes. -/
theorem utf8Bytes_utf8String {bytes : List UInt8} (h : ∃ cs, bytes = toUtf8 cs) :
    utf8Bytes (utf8String bytes) = bytes := by
  obtain ⟨cs, rfl⟩ := h
  rw [utf8String, ofUtf8_toUtf8, utf8Bytes, ofUtf16_toUtf16]

/-- A sealed secret comes back; and what opens has three parts, a whole tag, and was sealed under the
same key, as bytes that read as the value and are its own bytes if they are UTF-8. -/
theorem sealed_secret_opens (crypto : NodeCrypto κ) :
    (∀ (iv : Iv) p k, WellFormed p → k ≠ [] →
      (encryptSecret crypto iv p k).bind (decryptSecret crypto · k) = .ok p) ∧
    ∀ s k v, decryptSecret crypto s k = .ok v → ∃ ivHex authTagHex ciphertextHex plaintext,
      s.splitOn DOT = [ivHex, authTagHex, ciphertextHex] ∧ (ofHex authTagHex).length = AUTH_TAG_LENGTH ∧
      crypto.encrypt (crypto.sha256 (utf8Bytes k)) (ofHex ivHex) plaintext = (ofHex ciphertextHex, ofHex authTagHex) ∧
      utf8String plaintext = v ∧ ((∃ cs, plaintext = toUtf8 cs) → plaintext = utf8Bytes v) := by
  refine ⟨fun iv p k hp hk => decryptSecret_encryptSecret crypto iv hp hk, fun s k v h => ?_⟩
  obtain ⟨ivHex, authTagHex, ciphertextHex, plaintext, hparts, htag, hsealed, rfl⟩ := decryptSecret_ok h
  exact ⟨ivHex, authTagHex, ciphertextHex, plaintext, hparts, htag, hsealed, rfl,
    fun hutf8 => (utf8Bytes_utf8String hutf8).symm⟩

/-! Two sealings of AES-256-GCM, with the hash of `k` as the key and a nonce of zeros. -/

def zeroTag : List UInt8 := List.replicate AUTH_TAG_LENGTH 0

/-- The cipher, of which one sealing is known and the others are made up. -/
def knownSealing (nonce known sealed tag : List UInt8) (hlength : tag.length = AUTH_TAG_LENGTH) (htag : tag ≠ zeroTag) :
    NodeCrypto Unit where
  sha256 _ := ()
  encrypt _ iv plaintext := if iv = nonce ∧ plaintext = known then (sealed, tag) else (plaintext, zeroTag)
  decrypt _ iv authTag ciphertext :=
    if authTag = zeroTag then if iv = nonce ∧ ciphertext = known then none else some ciphertext
    else if iv = nonce ∧ authTag = tag ∧ ciphertext = sealed then some known else none
  encrypt_tag _ iv plaintext := by
    split
    · exact hlength
    · rfl
  decrypt_iff _ iv authTag ciphertext plaintext := by
    grind

def zeroIv : List UInt8 := List.replicate IV_BYTES 0

theorem zeroIv_length : zeroIv.length = IV_BYTES := rfl

def accentTag : List UInt8 :=
  [0x35, 0xd1, 0x0c, 0xe5, 0x90, 0x19, 0x91, 0xed, 0x84, 0x6c, 0x18, 0xd7, 0x65, 0x4b, 0x03, 0x10]

theorem accentTag_length : accentTag.length = AUTH_TAG_LENGTH := rfl

theorem accentTag_ne : accentTag ≠ zeroTag := by decide

def accentCrypto : NodeCrypto Unit := knownSealing zeroIv [0xc3, 0xa9] [0xa0, 0x3a] accentTag accentTag_length accentTag_ne

def accentEnvelope : JsString := toHex zeroIv ++ DOT :: (toHex accentTag ++ DOT :: toHex [0xa0, 0x3a])

/-- `é` comes back. -/
theorem accent_sealed : encryptSecret accentCrypto ⟨zeroIv, zeroIv_length⟩ [0xE9] [107] = .ok accentEnvelope ∧
    (encryptSecret accentCrypto ⟨zeroIv, zeroIv_length⟩ [0xE9] [107]).bind (decryptSecret accentCrypto · [107]) = .ok [0xE9] :=
  ⟨encryptSecret_ok _ _ _ (by decide), (sealed_secret_opens accentCrypto).1 _ _ _ ⟨['é'], by decide⟩ (by decide)⟩

/-- The tag of the byte 0xff alone, which is no UTF-8. -/
def strayTag : List UInt8 := [0xc1, 0x15, 0xd8, 0x25, 0x9d, 0x92, 0xff, 0x3b, 0xa4, 0x8a, 0x6f, 0x75, 0x1f, 0x99, 0xe8, 0x9d]

theorem strayTag_length : strayTag.length = AUTH_TAG_LENGTH := rfl

theorem strayTag_ne : strayTag ≠ zeroTag := by decide

def strayCrypto : NodeCrypto Unit := knownSealing zeroIv [0xff] [0x9c] strayTag strayTag_length strayTag_ne

/-- `000000000000000000000000.c115d8259d92ff3ba48a6f751f99e89d.9c`. -/
def strayEnvelope : JsString := toHex zeroIv ++ DOT :: (toHex strayTag ++ DOT :: toHex [0x9c])

theorem stray_opens : decryptSecret strayCrypto strayEnvelope [107] = .ok [0xFFFD] := by
  rw [strayEnvelope, decryptSecret_parts _ (by decide) (splitOn_envelope _ _ _), ofHex_toHex, ofHex_toHex, ofHex_toHex]
  rfl

/-- The byte opens as U+FFFD, whose own bytes are others and were never sealed. -/
theorem replacement_not_sealed : ¬∀ (crypto : NodeCrypto Unit) s k v, decryptSecret crypto s k = .ok v →
    ∃ ivHex authTagHex ciphertextHex, s.splitOn DOT = [ivHex, authTagHex, ciphertextHex] ∧
      (ofHex authTagHex).length = AUTH_TAG_LENGTH ∧
      crypto.encrypt (crypto.sha256 (utf8Bytes k)) (ofHex ivHex) (utf8Bytes v) = (ofHex ciphertextHex, ofHex authTagHex) := by
  intro h
  obtain ⟨ivHex, authTagHex, ciphertextHex, hparts, -, hsealed⟩ := h strayCrypto strayEnvelope [107] _ stray_opens
  rw [strayEnvelope, splitOn_envelope] at hparts
  obtain ⟨rfl, rfl, rfl⟩ : toHex zeroIv = ivHex ∧ toHex strayTag = authTagHex ∧ toHex [0x9c] = ciphertextHex := by
    simpa using hparts
  rw [ofHex_toHex, ofHex_toHex, ofHex_toHex] at hsealed
  revert hsealed
  decide +kernel

end ChopNow
