/-
Module: RngGamePlatform.Encoding.Text
Purpose: Text as sequences of code points, with UTF-8, decimal, hexadecimal and
  UUID forms.
Trusted boundary: human-reviewed semantics
Main exports: CodePoint, PyStr, py, Bytes, encodeAscii, encodeUtf8, decimal,
  hexOfBytes, bytesOfHex, bigEndian, Uuid, uuidStr
-/
import Mathlib.Data.Nat.Digits.Defs

namespace RngGamePlatform.Encoding

/-- A code point, surrogates included. -/
abbrev CodePoint := Fin 0x110000

instance (priority := 2000) codePoint_neZero : NeZero (0x110000 : Nat) := ⟨Nat.succ_ne_zero _⟩

instance (priority := 2000) codePoint_lawful : LawfulBEq CodePoint := instLawfulBEq

/-- A text string. -/
abbrev PyStr := List CodePoint

instance (priority := 2000) pyStr_lawful : LawfulBEq PyStr := List.instLawfulBEq

abbrev Bytes := List UInt8

private theorem char_lt (c : Char) : c.toNat < 0x110000 := by
  rcases c.valid with low | high
  · exact Nat.lt_trans low (by decide)
  · exact high.2

/-- The code point of a character. -/
def codePoint (c : Char) : CodePoint := ⟨c.toNat, char_lt c⟩

/-- A literal as a text string. -/
def py (s : String) : PyStr := s.toList.map codePoint

/-- Literals are told apart by their texts. -/
theorem py_inj {one other : String} : py one = py other ↔ one = other := by
  have injective : ∀ c d, codePoint c = codePoint d → c = d := by
    intro c d same
    have values : c.toNat = d.toNat := by simpa [codePoint] using same
    exact Char.ext (UInt32.toNat_inj.mp values)
  rw [py, py, List.map_inj_right injective]
  exact String.toList_inj

/-- The bytes of a string of ASCII characters. -/
def encodeAscii (text : PyStr) : Bytes := text.map fun c => UInt8.ofNat c.val

/-- The ASCII bytes of a text; none when it has another character. -/
def encodeStrictAscii (text : PyStr) : Option Bytes :=
  if text.all (fun c => c.val < 128) then some (encodeAscii text) else none

/-- The UTF-8 bytes of one code point; none for a surrogate. -/
def utf8Bytes (c : CodePoint) : Option Bytes :=
  let n := c.val
  if n < 0x80 then some [UInt8.ofNat n]
  else if n < 0x800 then
    some [UInt8.ofNat (0xC0 + n / 64), UInt8.ofNat (0x80 + n % 64)]
  else if 0xD800 ≤ n ∧ n < 0xE000 then none
  else if n < 0x10000 then
    some [UInt8.ofNat (0xE0 + n / 4096), UInt8.ofNat (0x80 + n / 64 % 64),
      UInt8.ofNat (0x80 + n % 64)]
  else
    some [UInt8.ofNat (0xF0 + n / 262144), UInt8.ofNat (0x80 + n / 4096 % 64),
      UInt8.ofNat (0x80 + n / 64 % 64), UInt8.ofNat (0x80 + n % 64)]

/-- UTF-8; none when the text has a surrogate. -/
def encodeUtf8 (text : PyStr) : Option Bytes :=
  (text.mapM utf8Bytes).map List.flatten

/-- The character of a digit below sixteen. -/
def digit (d : Nat) : CodePoint :=
  if d < 10 then Fin.ofNat _ (48 + d) else Fin.ofNat _ (87 + d)

/-- Decimal digits of a natural number. -/
def decimalNat (n : Nat) : PyStr :=
  if n = 0 then [digit 0] else (Nat.digits 10 n).reverse.map digit

/-- Decimal text of an integer. -/
def decimal (i : Int) : PyStr :=
  if i < 0 then codePoint '-' :: decimalNat i.natAbs else decimalNat i.natAbs

/-- Decimal text filled with zeros up to `width`, after the sign. -/
def zeroPadded (width : Nat) (i : Int) : PyStr :=
  let digits := decimalNat i.natAbs
  if i < 0 then
    codePoint '-' ::
      (List.replicate (width - 1 - digits.length) (digit 0) ++ digits)
  else List.replicate (width - digits.length) (digit 0) ++ digits

/-- Two lowercase hexadecimal digits. -/
def hexByte (byte : UInt8) : PyStr :=
  [digit (byte.toNat / 16), digit (byte.toNat % 16)]

/-- Lowercase hexadecimal text. -/
def hexOfBytes (bytes : Bytes) : PyStr := bytes.flatMap hexByte

/-- The value of a lowercase hexadecimal digit. -/
def hexValue (c : CodePoint) : Option Nat :=
  if 48 ≤ c.val ∧ c.val ≤ 57 then some (c.val - 48)
  else if 97 ≤ c.val ∧ c.val ≤ 102 then some (c.val - 87)
  else none

/-- The bytes of lowercase hexadecimal text. -/
def bytesOfHex : PyStr → Option Bytes
  | [] => some []
  | [_] => none
  | high :: low :: rest => do
      let h ← hexValue high
      let l ← hexValue low
      let bytes ← bytesOfHex rest
      return UInt8.ofNat (16 * h + l) :: bytes

/-- Every character is a lowercase hexadecimal digit. -/
def IsHex (text : PyStr) : Prop := ∀ c ∈ text, (hexValue c).isSome

instance (text : PyStr) : Decidable (IsHex text) :=
  List.decidableBAll _ text

/-- The natural number of big-endian bytes. -/
def bigEndian (bytes : Bytes) : Nat :=
  bytes.foldl (fun value byte => 256 * value + byte.toNat) 0

/-- A UUID. -/
abbrev Uuid := BitVec 128

/-- The 32 hexadecimal digits of a UUID. -/
def uuidHex (id : Uuid) : PyStr :=
  (List.range 32).map fun position => digit (id.toNat / 16 ^ (31 - position) % 16)

/-- The canonical text of a UUID. -/
def uuidStr (id : Uuid) : PyStr :=
  let hex := uuidHex id
  let hyphen := codePoint '-'
  hex.take 8 ++ hyphen :: (hex.drop 8).take 4 ++ hyphen :: (hex.drop 12).take 4 ++
    hyphen :: (hex.drop 16).take 4 ++ hyphen :: hex.drop 20

example : uuidStr 0x1234 = py "00000000-0000-0000-0000-000000001234" := by decide

theorem hexValue_digit {d : Nat} (small : d < 16) :
    hexValue (digit d) = some d := by
  have checked : ∀ d : Fin 16, hexValue (digit d) = some d.val := by decide
  exact checked ⟨d, small⟩

@[simp] theorem hexOfBytes_nil : hexOfBytes [] = [] := rfl

@[simp] theorem hexOfBytes_cons (byte : UInt8) (bytes : Bytes) :
    hexOfBytes (byte :: bytes) =
      digit (byte.toNat / 16) :: digit (byte.toNat % 16) :: hexOfBytes bytes := rfl

private theorem nibbles (byte : UInt8) :
    byte.toNat / 16 < 16 ∧ byte.toNat % 16 < 16 := by
  have bound := byte.toNat_lt
  omega

@[simp] theorem length_hexOfBytes (bytes : Bytes) :
    (hexOfBytes bytes).length = 2 * bytes.length := by
  induction bytes with
  | nil => rfl
  | cons byte bytes ih => simp [ih]; omega

/-- Hexadecimal text is hexadecimal. -/
theorem isHex_hexOfBytes (bytes : Bytes) : IsHex (hexOfBytes bytes) := by
  induction bytes with
  | nil => simp [IsHex]
  | cons byte bytes ih =>
      intro c member
      rcases nibbles byte with ⟨high, low⟩
      simp only [hexOfBytes_cons, List.mem_cons] at member
      rcases member with rfl | rfl | inRest
      · simp [hexValue_digit high]
      · simp [hexValue_digit low]
      · exact ih c inRest

/-- Hexadecimal text reads back as its bytes. -/
theorem bytesOfHex_hexOfBytes (bytes : Bytes) :
    bytesOfHex (hexOfBytes bytes) = some bytes := by
  induction bytes with
  | nil => rfl
  | cons byte bytes ih =>
      rcases nibbles byte with ⟨high, low⟩
      have whole : 16 * (byte.toNat / 16) + byte.toNat % 16 = byte.toNat := by
        omega
      simp only [hexOfBytes_cons, bytesOfHex, hexValue_digit high,
        hexValue_digit low, ih, whole, Option.bind_eq_bind, Option.bind_some,
        Option.pure_def, UInt8.ofNat_toNat]

/-- Two texts are equal up to their first colon, and after it. -/
theorem colon_cancel {one two x y : PyStr} (plainOne : codePoint ':' ∉ one)
    (plainTwo : codePoint ':' ∉ two)
    (same : one ++ codePoint ':' :: x = two ++ codePoint ':' :: y) : one = two ∧ x = y := by
  induction one generalizing two with
  | nil =>
      cases two with
      | nil => exact ⟨rfl, (List.cons.inj same).2⟩
      | cons c two =>
          have isColon : codePoint ':' = c := (List.cons.inj same).1
          exact absurd (isColon ▸ List.mem_cons_self) plainTwo
  | cons c one ih =>
      cases two with
      | nil =>
          have isColon : c = codePoint ':' := (List.cons.inj same).1
          exact absurd (isColon ▸ List.mem_cons_self) plainOne
      | cons d two =>
          obtain ⟨rfl, rest⟩ := List.cons.inj same
          obtain ⟨rfl, after⟩ := ih (fun member => plainOne (List.mem_cons_of_mem _ member))
            (fun member => plainTwo (List.mem_cons_of_mem _ member)) rest
          exact ⟨rfl, after⟩

end RngGamePlatform.Encoding
