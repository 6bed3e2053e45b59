/-
Module: RngGamePlatform.Encoding.Bytes
Purpose: Byte forms of text that can be read back: UTF-8, ASCII, decimal numbers
  in bytes, and canonical hexadecimal text.
Trusted boundary: none
Main exports: readUtf8, encodeUtf8_injective, encodeAscii_injective,
  decimalBytes_cancel, prefixedBytes_cancel, asciiBytes_cancel,
  hexOfBytes_bytesOfHex, exists_bytesOfHex
-/
import RngGamePlatform.Encoding.Readable

namespace RngGamePlatform.Encoding

section Utf8

/-- Read one code point of UTF-8. -/
def readUtf8 : Bytes → Option (Nat × Bytes)
  | [] => none
  | lead :: rest =>
      let first := lead.toNat
      if first < 0x80 then some (first, rest)
      else
        match rest with
        | [] => none
        | one :: rest =>
            let second := one.toNat - 0x80
            if first < 0xE0 then some ((first - 0xC0) * 64 + second, rest)
            else
              match rest with
              | [] => none
              | two :: rest =>
                  let third := two.toNat - 0x80
                  if first < 0xF0 then
                    some ((first - 0xE0) * 4096 + second * 64 + third, rest)
                  else
                    match rest with
                    | [] => none
                    | three :: rest =>
                        some ((first - 0xF0) * 262144 + second * 4096 + third * 64 +
                          (three.toNat - 0x80), rest)

theorem toNat_ofNat {n : Nat} (small : n < 256) : (UInt8.ofNat n).toNat = n := by
  rw [UInt8.toNat_ofNat']
  omega

/-- The bytes of a code point read back as it. -/
theorem readUtf8_utf8Bytes {c : CodePoint} {bytes : Bytes}
    (encoded : utf8Bytes c = some bytes) (rest : Bytes) :
    readUtf8 (bytes ++ rest) = some (c.val, rest) := by
  have bound := c.isLt
  unfold utf8Bytes at encoded
  simp only at encoded
  split at encoded
  · next ascii =>
      cases encoded
      simp only [List.cons_append, List.nil_append, readUtf8]
      rw [toNat_ofNat (by omega), if_pos ascii]
  next notAscii =>
  split at encoded
  · next two =>
      cases encoded
      simp only [List.cons_append, List.nil_append, readUtf8]
      rw [toNat_ofNat (by omega), toNat_ofNat (by omega), if_neg (by omega),
        if_pos (by omega), Option.some.injEq, Prod.mk.injEq]
      exact ⟨by omega, rfl⟩
  next notTwo =>
  split at encoded
  · cases encoded
  next notSurrogate =>
  split at encoded
  · next three =>
      cases encoded
      simp only [List.cons_append, List.nil_append, readUtf8]
      rw [toNat_ofNat (by omega), toNat_ofNat (by omega), toNat_ofNat (by omega),
        if_neg (by omega), if_neg (by omega), if_pos (by omega), Option.some.injEq,
        Prod.mk.injEq]
      exact ⟨by omega, rfl⟩
  · next four =>
      cases encoded
      simp only [List.cons_append, List.nil_append, readUtf8]
      rw [toNat_ofNat (by omega), toNat_ofNat (by omega), toNat_ofNat (by omega),
        toNat_ofNat (by omega), if_neg (by omega), if_neg (by omega),
        if_neg (by omega), Option.some.injEq, Prod.mk.injEq]
      exact ⟨by omega, rfl⟩

theorem utf8Bytes_ne_nil {c : CodePoint} {bytes : Bytes}
    (encoded : utf8Bytes c = some bytes) : bytes ≠ [] := by
  intro empty
  subst empty
  have read := readUtf8_utf8Bytes encoded []
  simp [readUtf8] at read

/-- One more code point. -/
theorem encodeUtf8_cons {c : CodePoint} {text : PyStr} {bytes : Bytes} :
    encodeUtf8 (c :: text) = some bytes ↔
      ∃ first rest, utf8Bytes c = some first ∧ encodeUtf8 text = some rest ∧
        bytes = first ++ rest := by
  simp only [encodeUtf8, List.mapM_cons, Option.pure_def, Option.bind_eq_bind]
  cases utf8Bytes c with
  | none => simp
  | some first =>
      cases text.mapM utf8Bytes with
      | none => simp
      | some rest => simp [eq_comm]

@[simp] theorem encodeUtf8_nil : encodeUtf8 [] = some [] := rfl

/-- Texts with the same UTF-8 are the same. -/
theorem encodeUtf8_injective {one other : PyStr} {bytes : Bytes}
    (isOne : encodeUtf8 one = some bytes) (isOther : encodeUtf8 other = some bytes) :
    one = other := by
  induction one generalizing other bytes with
  | nil =>
      cases isOne
      cases other with
      | nil => rfl
      | cons c other =>
          obtain ⟨first, rest, isFirst, _, split⟩ := encodeUtf8_cons.mp isOther
          have empty : first = [] := (List.append_eq_nil_iff.mp split.symm).1
          exact absurd empty (utf8Bytes_ne_nil isFirst)
  | cons c one ih =>
      obtain ⟨first, rest, isFirst, isRest, split⟩ := encodeUtf8_cons.mp isOne
      cases other with
      | nil =>
          cases isOther
          have empty : first = [] := (List.append_eq_nil_iff.mp split.symm).1
          exact absurd empty (utf8Bytes_ne_nil isFirst)
      | cons d other =>
          obtain ⟨first', rest', isFirst', isRest', split'⟩ :=
            encodeUtf8_cons.mp isOther
          have read := readUtf8_utf8Bytes isFirst rest
          have read' := readUtf8_utf8Bytes isFirst' rest'
          rw [← split, split', read', Option.some.injEq, Prod.mk.injEq] at read
          obtain ⟨sameChar, sameRest⟩ := read
          rw [Fin.ext sameChar, ih isRest (sameRest ▸ isRest')]

end Utf8

section Ascii

/-- The code points of bytes. -/
def latin (bytes : Bytes) : PyStr :=
  bytes.map fun byte => ⟨byte.toNat, Nat.lt_trans byte.toNat_lt (by decide)⟩

theorem latin_append (one other : Bytes) :
    latin (one ++ other) = latin one ++ latin other := List.map_append

theorem latin_injective {one other : Bytes} (same : latin one = latin other) :
    one = other := by
  refine List.map_injective_iff.mpr (fun a b equal => ?_) same
  have values : a.toNat = b.toNat := by simpa using equal
  exact UInt8.toNat_inj.mp values

theorem encodeAscii_append (one other : PyStr) :
    encodeAscii (one ++ other) = encodeAscii one ++ encodeAscii other :=
  List.map_append

/-- ASCII text reads back. -/
theorem latin_encodeAscii {text : PyStr} (ascii : ∀ c ∈ text, c.val < 128) :
    latin (encodeAscii text) = text := by
  rw [latin, encodeAscii, List.map_map]
  refine (List.map_congr_left fun c member => ?_).trans (List.map_id text)
  have small := ascii c member
  exact Fin.ext (toNat_ofNat (by omega))

/-- ASCII texts with the same bytes are the same. -/
theorem encodeAscii_injective {one other : PyStr} (asciiOne : ∀ c ∈ one, c.val < 128)
    (asciiOther : ∀ c ∈ other, c.val < 128)
    (same : encodeAscii one = encodeAscii other) : one = other := by
  rw [← latin_encodeAscii asciiOne, same, latin_encodeAscii asciiOther]

theorem ascii_py (literal : String)
    (ascii : (literal.toList.all fun c => c.toNat < 128) = true) :
    ∀ c ∈ py literal, c.val < 128 := by
  intro c member
  obtain ⟨char, inLiteral, rfl⟩ := List.mem_map.mp member
  exact of_decide_eq_true (List.all_eq_true.mp ascii char inLiteral)

theorem ascii_decimal {i : Int} {c : CodePoint} (member : c ∈ decimal i) :
    c.val < 128 := by
  have isNumeral := numeral_decimal member
  simp only [numeral, decide_eq_true_eq] at isNumeral
  omega

/-- A decimal number in bytes ends where the first byte that no number has
stands. -/
theorem decimalBytes_cancel {i j : Int} {x y : Bytes} (delimitedX : Delimited (latin x))
    (delimitedY : Delimited (latin y))
    (same : encodeAscii (decimal i) ++ x = encodeAscii (decimal j) ++ y) :
    i = j ∧ x = y := by
  have texts := congrArg latin same
  rw [latin_append, latin_append, latin_encodeAscii fun _ => ascii_decimal,
    latin_encodeAscii fun _ => ascii_decimal] at texts
  obtain ⟨sameNumber, sameRest⟩ := decimal_cancel delimitedX delimitedY texts
  exact ⟨sameNumber, latin_injective sameRest⟩

theorem latin_newline (rest : Bytes) :
    latin (encodeAscii (py "\n") ++ rest) = codePoint '\n' :: latin rest := by
  rw [latin_append, latin_encodeAscii (ascii_py _ rfl)]
  rfl

theorem delimited_newline (rest : Bytes) :
    Delimited (latin (encodeAscii (py "\n") ++ rest)) := by
  rw [latin_newline]
  exact Json.delimited_cons (by decide) _

theorem delimited_colon (rest : Bytes) :
    Delimited (latin (encodeAscii (py ":") ++ rest)) := by
  rw [latin_append, latin_encodeAscii (ascii_py _ rfl)]
  exact Json.delimited_cons (by decide) _

/-- Bytes after their length and a colon end where the length says. -/
theorem prefixedBytes_cancel {one other x y : Bytes}
    (same : encodeAscii (decimal one.length) ++ (encodeAscii (py ":") ++ (one ++ x)) =
      encodeAscii (decimal other.length) ++ (encodeAscii (py ":") ++ (other ++ y))) :
    one = other ∧ x = y := by
  obtain ⟨lengths, same⟩ :=
    decimalBytes_cancel (delimited_colon _) (delimited_colon _) same
  exact List.append_inj (List.append_cancel_left same) (by exact_mod_cast lengths)

/-- ASCII texts of one length in bytes. -/
theorem asciiBytes_cancel {one other : PyStr} {x y : Bytes}
    (asciiOne : ∀ c ∈ one, c.val < 128) (asciiOther : ∀ c ∈ other, c.val < 128)
    (lengths : one.length = other.length)
    (same : encodeAscii one ++ x = encodeAscii other ++ y) : one = other ∧ x = y := by
  obtain ⟨texts, rest⟩ := List.append_inj same (by simpa [encodeAscii] using lengths)
  exact ⟨encodeAscii_injective asciiOne asciiOther texts, rest⟩

theorem ascii_digit (d : Nat) : (digit (d % 16)).val < 128 := by
  have isDigit : (hexValue (digit (d % 16))).isSome = true := by
    rw [hexValue_digit (Nat.mod_lt _ (by decide))]
    rfl
  have digits := hexDigit_val isDigit
  omega

theorem ascii_unicodeEscape {unit : Nat} {c : CodePoint}
    (member : c ∈ Json.unicodeEscape unit) : c.val < 128 := by
  cases List.mem_append.mp member with
  | inl lead => exact ascii_py "\\u" rfl c lead
  | inr digits =>
    simp only [List.mem_cons, List.not_mem_nil, or_false] at digits
    rcases digits with rfl | rfl | rfl | rfl
    · exact ascii_digit _
    · exact ascii_digit _
    · exact ascii_digit _
    · exact ascii_digit _

theorem ascii_escape {d c : CodePoint} (member : c ∈ Json.escape d) : c.val < 128 := by
  unfold Json.escape at member
  split at member
  · exact ascii_py "\\\"" rfl c member
  split at member
  · exact ascii_py "\\\\" rfl c member
  split at member
  · exact ascii_py "\\n" rfl c member
  split at member
  · exact ascii_py "\\r" rfl c member
  split at member
  · exact ascii_py "\\t" rfl c member
  split at member
  · exact ascii_py "\\f" rfl c member
  split at member
  · exact ascii_py "\\b" rfl c member
  split at member
  case isTrue printable =>
    rw [List.mem_singleton.mp member]
    omega
  split at member
  · exact ascii_unicodeEscape member
  · cases List.mem_append.mp member with
    | inl high => exact ascii_unicodeEscape high
    | inr low => exact ascii_unicodeEscape low

theorem ascii_quote {text : PyStr} {c : CodePoint} (member : c ∈ Json.quote text) :
    c.val < 128 := by
  simp only [Json.quote, List.mem_cons, List.mem_append, List.mem_flatMap,
    List.not_mem_nil, or_false] at member
  rcases member with rfl | ⟨d, _, escaped⟩ | rfl
  · decide
  · exact ascii_escape escaped
  · decide

mutual

/-- Canonical JSON is ASCII text. -/
theorem ascii_dumps : ∀ (value : Json) {c : CodePoint}, c ∈ value.dumps → c.val < 128
  | .null, c, member => ascii_py "null" rfl c member
  | .bool true, c, member => ascii_py "true" rfl c member
  | .bool false, c, member => ascii_py "false" rfl c member
  | .int _, _, member => ascii_decimal member
  | .float value, c, member => by
      have isNumeral := value.numerals c member
      simp only [numeral, decide_eq_true_eq] at isNumeral
      omega
  | .str _, _, member => ascii_quote member
  | .arr items, c, member => by
      simp only [Json.dumps, List.mem_cons, List.mem_append, List.not_mem_nil,
        or_false] at member
      rcases member with rfl | inItems | rfl
      · decide
      · exact ascii_dumpsItems items inItems
      · decide
  | .obj fields, c, member => by
      simp only [Json.dumps, List.mem_cons, List.mem_append, List.not_mem_nil,
        or_false] at member
      rcases member with rfl | inFields | rfl
      · decide
      · exact ascii_dumpsFields fields inFields
      · decide

theorem ascii_dumpsItems : ∀ (items : List Json) {c : CodePoint},
    c ∈ Json.dumpsItems items → c.val < 128
  | [], _, member => by cases member
  | [item], _, member => ascii_dumps item member
  | item :: next :: items, c, member => by
      simp only [Json.dumpsItems, List.mem_cons, List.mem_append] at member
      rcases member with inItem | rfl | inRest
      · exact ascii_dumps item inItem
      · decide
      · exact ascii_dumpsItems (next :: items) inRest

theorem ascii_dumpsFields : ∀ (fields : List (PyStr × Json)) {c : CodePoint},
    c ∈ Json.dumpsFields fields → c.val < 128
  | [], _, member => by cases member
  | [(key, value)], c, member => by
      simp only [Json.dumpsFields, List.mem_cons, List.mem_append] at member
      rcases member with inKey | rfl | inValue
      · exact ascii_quote inKey
      · decide
      · exact ascii_dumps value inValue
  | (key, value) :: next :: fields, c, member => by
      simp only [Json.dumpsFields, List.mem_cons, List.mem_append] at member
      rcases member with (inKey | rfl | inValue) | rfl | inRest
      · exact ascii_quote inKey
      · decide
      · exact ascii_dumps value inValue
      · decide
      · exact ascii_dumpsFields (next :: fields) inRest

end

end Ascii

section Hexadecimal

theorem digit_hexValue {c : CodePoint} {d : Nat} (isValue : hexValue c = some d) :
    digit d = c ∧ d < 16 := by
  unfold hexValue at isValue
  split at isValue
  · next isDigit =>
      have value : c.val - 48 = d := Option.some.inj isValue
      refine ⟨Fin.ext ?_, by omega⟩
      rw [digit_val (by omega)]
      omega
  next notDigit =>
  split at isValue
  · next isLetter =>
      have value : c.val - 87 = d := Option.some.inj isValue
      have checked : ∀ d : Fin 16, 10 ≤ d.val → (digit d.val).val = 87 + d.val := by
        decide
      refine ⟨Fin.ext ?_, by omega⟩
      rw [checked ⟨d, by omega⟩ (by simp only; omega)]
      simp only
      omega
  · cases isValue

/-- Hexadecimal text is the text of the bytes that it reads as. -/
theorem hexOfBytes_bytesOfHex {text : PyStr} {bytes : Bytes}
    (read : bytesOfHex text = some bytes) : hexOfBytes bytes = text := by
  induction text using bytesOfHex.induct generalizing bytes with
  | case1 =>
      cases read
      rfl
  | case2 c => cases read
  | case3 high low rest ih =>
      simp only [bytesOfHex, Option.bind_eq_bind, Option.bind_eq_some_iff,
        Option.pure_def, Option.some.injEq] at read
      obtain ⟨h, isHigh, l, isLow, tail, isTail, rfl⟩ := read
      obtain ⟨highDigit, highSmall⟩ := digit_hexValue isHigh
      obtain ⟨lowDigit, lowSmall⟩ := digit_hexValue isLow
      have whole : (UInt8.ofNat (16 * h + l)).toNat = 16 * h + l :=
        toNat_ofNat (by omega)
      have top : (16 * h + l) / 16 = h := by omega
      have bottom : (16 * h + l) % 16 = l := by omega
      rw [hexOfBytes_cons, whole, top, bottom, highDigit, lowDigit, ih isTail]

/-- Hexadecimal text of even length reads as half as many bytes. -/
theorem exists_bytesOfHex {text : PyStr} {count : Nat} (isHex : IsHex text)
    (even : text.length = 2 * count) :
    ∃ bytes, bytesOfHex text = some bytes ∧ bytes.length = count := by
  induction text using bytesOfHex.induct generalizing count with
  | case1 =>
      refine ⟨[], rfl, ?_⟩
      simp only [List.length_nil] at even ⊢
      omega
  | case2 c =>
      simp only [List.length_singleton] at even
      omega
  | case3 high low rest ih =>
      simp only [List.length_cons] at even
      obtain ⟨bytes, read, isLength⟩ := @ih (count - 1)
        (fun c member => isHex c (by simp [member])) (by omega)
      obtain ⟨h, isHigh⟩ := Option.isSome_iff_exists.mp (isHex high (by simp))
      obtain ⟨l, isLow⟩ := Option.isSome_iff_exists.mp (isHex low (by simp))
      refine ⟨UInt8.ofNat (16 * h + l) :: bytes, by simp [bytesOfHex, isHigh, isLow, read], ?_⟩
      simp only [List.length_cons, isLength]
      omega

end Hexadecimal

end RngGamePlatform.Encoding
