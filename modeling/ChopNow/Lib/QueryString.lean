import ChopNow.Lib.Encodings

/-! Query strings: the fields of a URL, percent-encoded and put one after the other. Whatever
characters a key or a value is made of, it is read back as it was written. -/

namespace QueryString

open Encodings

abbrev Text := List Char

/-! Percent-encoding. -/

/-- What stands for itself. -/
def isUnreserved (c : Char) : Bool := c.isAlphanum || "-_.!~*'()".toList.contains c

def digit (d : ℕ) : Char := Char.ofNat (if d < 10 then 48 + d else 55 + d)

def digitValue (c : Char) : Option ℕ :=
  if 48 ≤ c.toNat ∧ c.toNat ≤ 57 then some (c.toNat - 48)
  else if 65 ≤ c.toNat ∧ c.toNat ≤ 70 then some (c.toNat - 55)
  else if 97 ≤ c.toNat ∧ c.toNat ≤ 102 then some (c.toNat - 87)
  else none

def encodeByte (b : UInt8) : Text := ['%', digit (b.toNat / 16), digit (b.toNat % 16)]

def encodeChar (c : Char) : Text := if isUnreserved c then [c] else (String.utf8EncodeChar c).flatMap encodeByte

def encode (cs : Text) : Text := cs.flatMap encodeChar

/-- The byte of `%` and two digits. -/
def escaped (c u v : Char) : Option UInt8 :=
  if c = '%' then
    match digitValue u, digitValue v with
    | some x, some y => some (UInt8.ofNat (16 * x + y))
    | _, _ => none
  else none

def plain (c : Char) : List UInt8 := if c = '+' then [32] else String.utf8EncodeChar c

def decodeBytes : Text → List UInt8
  | [] => []
  | [c] => plain c
  | [c, u] => plain c ++ plain u
  | c :: u :: v :: rest =>
    match escaped c u v with
    | some b => b :: decodeBytes rest
    | none => plain c ++ decodeBytes (u :: v :: rest)

def decode (cs : Text) : Text := ofUtf8 (decodeBytes cs)

/-! Fields. -/

def segment (field : Text × Text) : Text := encode field.1 ++ '=' :: encode field.2

def format (fields : List (Text × Text)) : Text := ['&'].intercalate (fields.map segment)

/-- Up to the first `=`, and what comes after it. -/
def readField (cs : Text) : Text × Text :=
  (decode (cs.takeWhile (· != '=')), decode (cs.dropWhile (· != '=')).tail)

def parse (query : Text) : List (Text × Text) := ((query.splitOn '&').filter (· != [])).map readField

def values (key : Text) (query : Text) : List Text := ((parse query).filter fun field => field.1 == key).map Prod.snd

/-! Decoding what was encoded. -/

theorem digit_toNat {d : ℕ} (h : d < 16) : (digit d).toNat = if d < 10 then 48 + d else 55 + d := by
  have hall : ∀ d < 16, (digit d).toNat = if d < 10 then 48 + d else 55 + d := by decide
  exact hall d h

theorem digitValue_digit {d : ℕ} (h : d < 16) : digitValue (digit d) = some d := by
  unfold digitValue
  rw [digit_toNat h]
  by_cases hd : d < 10
  · rw [if_pos hd, if_pos (by omega)]
    exact congrArg some (by omega)
  · rw [if_neg hd, if_neg (by omega), if_pos (by omega)]
    exact congrArg some (by omega)

theorem decodeBytes_cons {c : Char} (h : c ≠ '%') (rest : Text) : decodeBytes (c :: rest) = plain c ++ decodeBytes rest := by
  match rest with
  | [] => simp [decodeBytes]
  | [u] => simp [decodeBytes]
  | u :: v :: rest => rw [decodeBytes, escaped, if_neg h]

theorem decodeBytes_encodeByte (b : UInt8) (rest : Text) : decodeBytes (encodeByte b ++ rest) = b :: decodeBytes rest := by
  have hb := b.toNat_lt
  have hbyte : UInt8.ofNat (16 * (b.toNat / 16) + b.toNat % 16) = b := by
    rw [show 16 * (b.toNat / 16) + b.toNat % 16 = b.toNat by omega, UInt8.ofNat_toNat]
  simp only [encodeByte, List.cons_append, List.nil_append, decodeBytes, escaped, if_true,
    digitValue_digit (show b.toNat / 16 < 16 by omega), digitValue_digit (show b.toNat % 16 < 16 by omega), hbyte]

theorem decodeBytes_encodeBytes (bytes : List UInt8) (rest : Text) :
    decodeBytes (bytes.flatMap encodeByte ++ rest) = bytes ++ decodeBytes rest := by
  induction bytes with
  | nil => rfl
  | cons b bytes ih => rw [List.flatMap_cons, List.append_assoc, decodeBytes_encodeByte, ih, List.cons_append]

theorem isUnreserved_ne {c : Char} (h : isUnreserved c = true) : c ≠ '%' ∧ c ≠ '+' ∧ c ≠ '=' ∧ c ≠ '&' := by
  refine ⟨?_, ?_, ?_, ?_⟩ <;> rintro rfl <;> exact absurd h (by decide)

theorem decodeBytes_encodeChar (c : Char) (rest : Text) :
    decodeBytes (encodeChar c ++ rest) = String.utf8EncodeChar c ++ decodeBytes rest := by
  unfold encodeChar
  split
  next h =>
    obtain ⟨hpercent, hplus, -⟩ := isUnreserved_ne h
    rw [List.singleton_append, decodeBytes_cons hpercent, plain, if_neg hplus]
  · exact decodeBytes_encodeBytes _ rest

theorem decodeBytes_encode (cs : Text) : decodeBytes (encode cs) = toUtf8 cs := by
  induction cs with
  | nil => rfl
  | cons c cs ih => rw [encode, List.flatMap_cons, decodeBytes_encodeChar, ← encode, ih, toUtf8, toUtf8, List.flatMap_cons]

theorem decode_encode (cs : Text) : decode (encode cs) = cs := by
  rw [decode, decodeBytes_encode, ofUtf8_toUtf8]

/-! Nothing that was encoded looks like a border between fields. -/

theorem not_mem_encode {c : Char} (h : c = '=' ∨ c = '&') (cs : Text) : c ∉ encode cs := by
  have hdigit : ∀ {d : ℕ}, d < 16 → c ≠ digit d := by
    intro d hd heq
    have hcode := digit_toNat hd
    rw [← heq] at hcode
    rcases h with rfl | rfl <;> split at hcode <;> simp at hcode <;> omega
  intro hc
  obtain ⟨a, -, hca⟩ := List.mem_flatMap.1 hc
  unfold encodeChar at hca
  split at hca
  next hunreserved =>
    obtain ⟨-, -, heq, hamp⟩ := isUnreserved_ne hunreserved
    obtain rfl := List.mem_singleton.1 hca
    exact h.elim heq hamp
  · obtain ⟨b, -, hcb⟩ := List.mem_flatMap.1 hca
    have hb := b.toNat_lt
    simp only [encodeByte, List.mem_cons, List.not_mem_nil, or_false] at hcb
    rcases hcb with rfl | hcb | hcb
    · exact h.elim (by decide) (by decide)
    · exact hdigit (by omega) hcb
    · exact hdigit (by omega) hcb

theorem readField_segment (field : Text × Text) : readField (segment field) = field := by
  have hall : ∀ c ∈ encode field.1, (c != '=') = true := fun c hc =>
    bne_iff_ne.2 fun heq => not_mem_encode (.inl heq) field.1 hc
  have htake : (segment field).takeWhile (· != '=') = encode field.1 := by
    rw [segment, List.takeWhile_append_of_pos hall]
    simp
  have hdrop : (segment field).dropWhile (· != '=') = '=' :: encode field.2 := by
    rw [segment, List.dropWhile_append_of_pos hall]
    simp
  rw [readField, htake, hdrop, List.tail_cons, decode_encode, decode_encode]

theorem segment_ne_nil (field : Text × Text) : segment field ≠ [] := by simp [segment]

theorem amp_not_mem_segment (field : Text × Text) : '&' ∉ segment field := by
  unfold segment
  simp only [List.mem_append, List.mem_cons, not_or]
  exact ⟨not_mem_encode (.inr rfl) _, by decide, not_mem_encode (.inr rfl) _⟩

theorem parse_format (fields : List (Text × Text)) : parse (format fields) = fields := by
  cases fields with
  | nil => rfl
  | cons field fields =>
    have hsplit : (format (field :: fields)).splitOn '&' = (field :: fields).map segment :=
      List.splitOn_intercalate '&' (List.forall_mem_map.2 fun f _ => amp_not_mem_segment f) (by simp)
    have hkept : ((field :: fields).map segment).filter (· != []) = (field :: fields).map segment :=
      List.filter_eq_self.2 fun cs hcs => by
        obtain ⟨f, -, rfl⟩ := List.mem_map.1 hcs
        exact bne_iff_ne.2 (segment_ne_nil f)
    rw [parse, hsplit, hkept, List.map_map]
    calc
      (field :: fields).map (readField ∘ segment) = (field :: fields).map id :=
        List.map_congr_left fun f _ => readField_segment f
      _ = field :: fields := List.map_id _

theorem values_format (key : Text) (fields : List (Text × Text)) :
    values key (format fields) = (fields.filter fun field => field.1 == key).map Prod.snd := by
  rw [values, parse_format]

end QueryString
