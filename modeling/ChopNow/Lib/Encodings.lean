import Mathlib.Tactic

/-! How a program holds text and bytes: UTF-16 code units in memory, UTF-8 on the wire, and
hexadecimal digits. Every decoder accepts any input, and reads back what its encoder wrote. -/

namespace Encodings

def replacement : Char := Char.ofNat 0xFFFD

/-! UTF-16. -/

def utf16Char (c : Char) : List UInt16 :=
  if c.toNat < 0x10000 then [UInt16.ofNat c.toNat]
  else [UInt16.ofNat (0xD800 + (c.toNat - 0x10000) / 0x400), UInt16.ofNat (0xDC00 + (c.toNat - 0x10000) % 0x400)]

def toUtf16 (cs : List Char) : List UInt16 := cs.flatMap utf16Char

def isHigh (u : UInt16) : Bool := 0xD800 ≤ u.toNat && u.toNat < 0xDC00

def isLow (u : UInt16) : Bool := 0xDC00 ≤ u.toNat && u.toNat < 0xE000

/-- A unit that stands alone. -/
def unitChar (u : UInt16) : Char := if isHigh u || isLow u then replacement else Char.ofNat u.toNat

def ofUtf16 : List UInt16 → List Char
  | [] => []
  | [u] => [unitChar u]
  | u :: v :: rest =>
    if isHigh u && isLow v then
      Char.ofNat (0x10000 + (u.toNat - 0xD800) * 0x400 + (v.toNat - 0xDC00)) :: ofUtf16 rest
    else unitChar u :: ofUtf16 (v :: rest)

/-- No surrogate stands alone. -/
def WellFormed (units : List UInt16) : Prop := ∃ cs, units = toUtf16 cs

theorem char_range (c : Char) : c.toNat < 0xD800 ∨ 0xDFFF < c.toNat ∧ c.toNat < 0x110000 := c.valid

theorem ofUtf16_cons {u : UInt16} (h : isHigh u = false) (rest : List UInt16) :
    ofUtf16 (u :: rest) = unitChar u :: ofUtf16 rest := by
  cases rest with
  | nil => rfl
  | cons v rest => rw [ofUtf16, h, Bool.false_and, if_neg Bool.false_ne_true]

theorem ofUtf16_utf16Char (c : Char) (rest : List UInt16) : ofUtf16 (utf16Char c ++ rest) = c :: ofUtf16 rest := by
  have hrange := char_range c
  unfold utf16Char
  split
  · next hbmp =>
    have hunit : (UInt16.ofNat c.toNat).toNat = c.toNat := UInt16.toNat_ofNat_of_lt' hbmp
    have hhigh : isHigh (UInt16.ofNat c.toNat) = false := by
      rw [isHigh, hunit]
      simp only [Bool.and_eq_false_iff, decide_eq_false_iff_not]
      omega
    have hlow : isLow (UInt16.ofNat c.toNat) = false := by
      rw [isLow, hunit]
      simp only [Bool.and_eq_false_iff, decide_eq_false_iff_not]
      omega
    rw [List.singleton_append, ofUtf16_cons hhigh, unitChar, hhigh, hlow, hunit, Char.ofNat_toNat]
    rfl
  · next hbeyond =>
    have hu : (UInt16.ofNat (0xD800 + (c.toNat - 0x10000) / 0x400)).toNat = 0xD800 + (c.toNat - 0x10000) / 0x400 :=
      UInt16.toNat_ofNat_of_lt' (by change _ < 65536; omega)
    have hv : (UInt16.ofNat (0xDC00 + (c.toNat - 0x10000) % 0x400)).toNat = 0xDC00 + (c.toNat - 0x10000) % 0x400 :=
      UInt16.toNat_ofNat_of_lt' (by change _ < 65536; omega)
    have hhigh : isHigh (UInt16.ofNat (0xD800 + (c.toNat - 0x10000) / 0x400)) = true := by
      rw [isHigh, hu]
      simp only [Bool.and_eq_true, decide_eq_true_eq]
      omega
    have hlow : isLow (UInt16.ofNat (0xDC00 + (c.toNat - 0x10000) % 0x400)) = true := by
      rw [isLow, hv]
      simp only [Bool.and_eq_true, decide_eq_true_eq]
      omega
    rw [List.cons_append, List.singleton_append, ofUtf16, hhigh, hlow, Bool.true_and, if_pos rfl, hu, hv,
      show 0x10000 + (0xD800 + (c.toNat - 0x10000) / 0x400 - 0xD800) * 0x400 +
        (0xDC00 + (c.toNat - 0x10000) % 0x400 - 0xDC00) = c.toNat by omega, Char.ofNat_toNat]

theorem ofUtf16_toUtf16 (cs : List Char) : ofUtf16 (toUtf16 cs) = cs := by
  induction cs with
  | nil => rfl
  | cons c cs ih => rw [toUtf16, List.flatMap_cons, ofUtf16_utf16Char, ← toUtf16, ih]

/-! UTF-8. -/

def toUtf8 (cs : List Char) : List UInt8 := cs.flatMap String.utf8EncodeChar

def isTail (b : UInt8) : Bool := 0x80 ≤ b.toNat && b.toNat < 0xC0

/-- The second byte that a first one allows. -/
def isSecond (a b : UInt8) : Bool :=
  if a = 0xE0 then 0xA0 ≤ b.toNat && b.toNat < 0xC0
  else if a = 0xED then 0x80 ≤ b.toNat && b.toNat < 0xA0
  else if a = 0xF0 then 0x90 ≤ b.toNat && b.toNat < 0xC0
  else if a = 0xF4 then 0x80 ≤ b.toNat && b.toNat < 0x90
  else isTail b

/-- How many bytes one replacement character stands for, where no character begins: as many as begin
one, and one at least. -/
def badPrefix : List UInt8 → ℕ
  | a :: b :: rest =>
    if 0xE0 ≤ a.toNat ∧ a.toNat < 0xF5 ∧ isSecond a b then
      if 0xF0 ≤ a.toNat ∧ rest.head?.any isTail then 3 else 2
    else 1
  | _ => 1

/-- The first `skip` bytes belong to what has been read. -/
def readUtf8 : ℕ → List UInt8 → List Char
  | _, [] => []
  | skip + 1, _ :: rest => readUtf8 skip rest
  | 0, b :: rest =>
    match (b :: rest).toByteArray.utf8DecodeChar? 0 with
    | some c => c :: readUtf8 (c.utf8Size - 1) rest
    | none => replacement :: readUtf8 (badPrefix (b :: rest) - 1) rest

def ofUtf8 (bytes : List UInt8) : List Char := readUtf8 0 bytes

theorem readUtf8_skip (bytes rest : List UInt8) : readUtf8 bytes.length (bytes ++ rest) = readUtf8 0 rest := by
  induction bytes with
  | nil => rfl
  | cons b bytes ih => exact ih

theorem readUtf8_char (c : Char) (rest : List UInt8) :
    readUtf8 0 (String.utf8EncodeChar c ++ rest) = c :: readUtf8 0 rest := by
  have hlength := String.length_utf8EncodeChar c
  have hread : (String.utf8EncodeChar c ++ rest).toByteArray.utf8DecodeChar? 0 = some c := by
    rw [List.toByteArray_append]
    exact ByteArray.utf8DecodeChar?_utf8EncodeChar_append
  cases hbytes : String.utf8EncodeChar c with
  | nil => exact absurd hbytes String.utf8EncodeChar_ne_nil
  | cons b bytes =>
    rw [hbytes] at hlength hread
    rw [List.cons_append] at hread ⊢
    have hskip : c.utf8Size - 1 = bytes.length := by
      rw [← hlength, List.length_cons, Nat.add_sub_cancel]
    rw [readUtf8, hread]
    exact congrArg (c :: ·) (hskip ▸ readUtf8_skip bytes rest)

theorem ofUtf8_toUtf8 (cs : List Char) : ofUtf8 (toUtf8 cs) = cs := by
  induction cs with
  | nil => rfl
  | cons c cs ih => rw [ofUtf8, toUtf8, List.flatMap_cons, readUtf8_char, ← toUtf8, ← ofUtf8, ih]

/-! Hexadecimal. -/

def hexDigit (d : ℕ) : UInt16 := UInt16.ofNat (if d < 10 then 48 + d else 87 + d)

def toHex (bytes : List UInt8) : List UInt16 := bytes.flatMap fun b => [hexDigit (b.toNat / 16), hexDigit (b.toNat % 16)]

/-- A lenient reader: of a unit beyond a byte the low byte counts. -/
def hexValue (u : UInt16) : Option ℕ :=
  let low := u.toNat % 256
  if 48 ≤ low ∧ low ≤ 57 then some (low - 48)
  else if 97 ≤ low ∧ low ≤ 102 then some (low - 87)
  else if 65 ≤ low ∧ low ≤ 70 then some (low - 55)
  else none

/-- Stops at the first two units that are no byte. -/
def ofHex : List UInt16 → List UInt8
  | u :: v :: rest =>
    match hexValue u, hexValue v with
    | some x, some y => UInt8.ofNat (16 * x + y) :: ofHex rest
    | _, _ => []
  | _ => []

theorem hexDigit_toNat {d : ℕ} (h : d < 16) : (hexDigit d).toNat = if d < 10 then 48 + d else 87 + d :=
  UInt16.toNat_ofNat_of_lt' (by change _ < 65536; split <;> omega)

theorem hexValue_hexDigit {d : ℕ} (h : d < 16) : hexValue (hexDigit d) = some d := by
  have hlow : (hexDigit d).toNat % 256 = if d < 10 then 48 + d else 87 + d := by
    rw [hexDigit_toNat h, Nat.mod_eq_of_lt (by split <;> omega)]
  unfold hexValue
  dsimp only
  rw [hlow]
  by_cases hd : d < 10
  · rw [if_pos hd, if_pos (by omega)]
    exact congrArg some (by omega)
  · rw [if_neg hd, if_neg (by omega), if_pos (by omega)]
    exact congrArg some (by omega)

theorem ofHex_toHex (bytes : List UInt8) : ofHex (toHex bytes) = bytes := by
  induction bytes with
  | nil => rfl
  | cons b bytes ih =>
    have hb := b.toNat_lt
    rw [toHex, List.flatMap_cons, ← toHex, List.cons_append, List.singleton_append, ofHex,
      hexValue_hexDigit (by omega), hexValue_hexDigit (by omega)]
    dsimp only
    rw [ih, show 16 * (b.toNat / 16) + b.toNat % 16 = b.toNat by omega, UInt8.ofNat_toNat]

/-- Nothing but digits. -/
theorem hexValue_of_mem {bytes : List UInt8} {u : UInt16} (h : u ∈ toHex bytes) : (hexValue u).isSome := by
  obtain ⟨b, -, hu⟩ := List.mem_flatMap.1 h
  have hb := b.toNat_lt
  simp only [List.mem_cons, List.not_mem_nil, or_false] at hu
  rcases hu with rfl | rfl <;> rw [hexValue_hexDigit (by omega)] <;> rfl

end Encodings
