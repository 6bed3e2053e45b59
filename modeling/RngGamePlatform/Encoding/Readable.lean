/-
Module: RngGamePlatform.Encoding.Readable
Purpose: Texts that can be read in one way only: numbers, UUIDs, hexadecimal
  bytes and canonical JSON.
Trusted boundary: none
Main exports: Basic, Scalar, Separates, decimal_cancel, uuidStr_injective,
  Json.All, Json.dumps_cancel, Json.dumps_injective, Json.dumps_scalar_injective
-/
import RngGamePlatform.Encoding.Json
import Mathlib.Data.Nat.Digits.Lemmas

namespace RngGamePlatform.Encoding

/-!
Escaping sends a code point above the basic plane to two escaped surrogates, so
text with lone surrogates can have the literal of other text.  Text of the basic
plane without surrogates is told apart from every text by its literal, and texts
without surrogates are told apart from each other.
-/

section Literals

/-- Text of the basic plane without surrogates. -/
def Basic (text : PyStr) : Prop :=
  ∀ c ∈ text, c.val < 0x10000 ∧ ¬(0xD800 ≤ c.val ∧ c.val < 0xE000)

/-- Text without surrogates. -/
def Scalar (text : PyStr) : Prop :=
  ∀ c ∈ text, ¬(0xD800 ≤ c.val ∧ c.val < 0xE000)

instance : DecidablePred Scalar := fun text => List.decidableBAll _ text

/-- The literals of the texts of one class and of another class tell the texts
apart, whatever follows them. -/
def Separates (ours theirs : PyStr → Prop) : Prop :=
  ∀ s t x y, ours s → theirs t → Json.quote s ++ x = Json.quote t ++ y →
    s = t ∧ x = y

/-- The value of an escape of one character. -/
def escapedUnit (kind : CodePoint) : Nat :=
  if kind = codePoint 'n' then 10
  else if kind = codePoint 'r' then 13
  else if kind = codePoint 't' then 9
  else if kind = codePoint 'f' then 12
  else if kind = codePoint 'b' then 8
  else kind.val

/-- The value of four hexadecimal digits, and what follows them. -/
def readHex : PyStr → Option (Nat × PyStr)
  | a :: b :: c :: d :: rest => do
      let a ← hexValue a
      let b ← hexValue b
      let c ← hexValue c
      let d ← hexValue d
      return (4096 * a + 256 * b + 16 * c + d, rest)
  | _ => none

/-- The first code unit inside a string literal, and what follows it. -/
def readUnit : PyStr → Option (Nat × PyStr)
  | [] => none
  | head :: rest =>
      if head = codePoint '\\' then
        match rest with
        | [] => none
        | kind :: rest =>
            if kind = codePoint 'u' then readHex rest
            else some (escapedUnit kind, rest)
      else some (head.val, rest)

theorem readUnit_unicodeEscape {unit : Nat} (small : unit < 0x10000)
    (rest : PyStr) :
    readUnit (Json.unicodeEscape unit ++ rest) = some (unit, rest) := by
  have whole : 4096 * (unit / 4096 % 16) + 256 * (unit / 256 % 16) +
      16 * (unit / 16 % 16) + unit % 16 = unit := by omega
  have hex : ∀ n, hexValue (digit (n % 16)) = some (n % 16) :=
    fun n => hexValue_digit (Nat.mod_lt n (by decide))
  have text : Json.unicodeEscape unit ++ rest =
      codePoint '\\' :: codePoint 'u' :: digit (unit / 4096 % 16) ::
        digit (unit / 256 % 16) :: digit (unit / 16 % 16) :: digit (unit % 16) ::
          rest := rfl
  simp only [text, readUnit, if_true, readHex, hex, Option.bind_eq_bind,
    Option.bind_some, Option.pure_def, whole]

/-- A character of the basic plane is read back from its escape. -/
theorem readUnit_escape {c : CodePoint} (small : c.val < 0x10000) (rest : PyStr) :
    readUnit (Json.escape c ++ rest) = some (c.val, rest) := by
  have pair : ∀ kind : CodePoint, kind ≠ codePoint 'u' →
      readUnit (codePoint '\\' :: kind :: rest) = some (escapedUnit kind, rest) := by
    intro kind other
    simp only [readUnit, if_true, if_neg other]
  unfold Json.escape
  split
  · next same =>
      rw [same]
      exact pair _ (by decide)
  · split
    · next same =>
        rw [same]
        exact pair _ (by decide)
    · next notSlash =>
        split
        · next same =>
            rw [same]
            exact pair _ (by decide)
        · split
          · next same =>
              rw [same]
              exact pair _ (by decide)
          · split
            · next same =>
                rw [same]
                exact pair _ (by decide)
            · split
              · next same =>
                  rw [same]
                  exact pair _ (by decide)
              · split
                · next same =>
                    rw [same]
                    exact pair _ (by decide)
                · split
                  · simp only [List.singleton_append, readUnit, if_neg notSlash]
                  · exact readUnit_unicodeEscape small rest

theorem escape_high {c : CodePoint} (large : 0x10000 ≤ c.val) :
    Json.escape c =
      Json.unicodeEscape (0xD800 + (c.val - 0x10000) / 1024) ++
        Json.unicodeEscape (0xDC00 + (c.val - 0x10000) % 1024) := by
  have notQuote : c ≠ codePoint '"' := by
    rintro rfl
    exact absurd large (by decide)
  have notSlash : c ≠ codePoint '\\' := by
    rintro rfl
    exact absurd large (by decide)
  unfold Json.escape
  rw [if_neg notQuote, if_neg notSlash, if_neg (by omega), if_neg (by omega),
    if_neg (by omega), if_neg (by omega), if_neg (by omega), if_neg (by omega),
    if_neg (by omega)]

/-- What is read of a character above the basic plane is a surrogate. -/
theorem readUnit_escape_high {c : CodePoint} (large : 0x10000 ≤ c.val)
    (rest : PyStr) :
    ∃ unit rest', readUnit (Json.escape c ++ rest) = some (unit, rest') ∧
      0xD800 ≤ unit ∧ unit < 0xDC00 := by
  have bound : c.val < 0x110000 := c.isLt
  refine ⟨_, _, by rw [escape_high large, List.append_assoc,
    readUnit_unicodeEscape (by omega)], by omega, by omega⟩

/-- Characters above the basic plane are told apart by their escapes. -/
theorem escape_high_cancel {c d : CodePoint} {x y : PyStr} (largeC : 0x10000 ≤ c.val)
    (largeD : 0x10000 ≤ d.val) (same : Json.escape c ++ x = Json.escape d ++ y) :
    c = d ∧ x = y := by
  have boundC : c.val < 0x110000 := c.isLt
  have boundD : d.val < 0x110000 := d.isLt
  rw [escape_high largeC, escape_high largeD, List.append_assoc, List.append_assoc] at same
  have first := congrArg readUnit same
  rw [readUnit_unicodeEscape (by omega), readUnit_unicodeEscape (by omega),
    Option.some.injEq, Prod.mk.injEq] at first
  obtain ⟨high, rest⟩ := first
  have second := congrArg readUnit rest
  rw [readUnit_unicodeEscape (by omega), readUnit_unicodeEscape (by omega),
    Option.some.injEq, Prod.mk.injEq] at second
  obtain ⟨low, after⟩ := second
  exact ⟨Fin.ext (by omega), after⟩

/-- A character of the basic plane that is no surrogate is told apart from every
character by its escape. -/
theorem escape_cancel {c d : CodePoint} {x y : PyStr}
    (basic : c.val < 0x10000 ∧ ¬(0xD800 ≤ c.val ∧ c.val < 0xE000))
    (same : Json.escape c ++ x = Json.escape d ++ y) : c = d ∧ x = y := by
  have left := readUnit_escape basic.1 x
  rw [same] at left
  by_cases small : d.val < 0x10000
  · rw [readUnit_escape small, Option.some.injEq, Prod.mk.injEq] at left
    have isChar : c = d := Fin.ext left.1.symm
    exact ⟨isChar, left.2.symm⟩
  · rcases readUnit_escape_high (Nat.le_of_not_lt small) y with
      ⟨unit, rest, isUnit, low, high⟩
    rw [isUnit, Option.some.injEq, Prod.mk.injEq] at left
    omega

/-- Characters that are no surrogates are told apart by their escapes. -/
theorem escape_scalar_cancel {c d : CodePoint} {x y : PyStr}
    (scalarC : ¬(0xD800 ≤ c.val ∧ c.val < 0xE000))
    (scalarD : ¬(0xD800 ≤ d.val ∧ d.val < 0xE000))
    (same : Json.escape c ++ x = Json.escape d ++ y) : c = d ∧ x = y := by
  by_cases smallC : c.val < 0x10000
  · exact escape_cancel ⟨smallC, scalarC⟩ same
  · by_cases smallD : d.val < 0x10000
    · obtain ⟨isChar, rest⟩ := escape_cancel ⟨smallD, scalarD⟩ same.symm
      exact ⟨isChar.symm, rest.symm⟩
    · exact escape_high_cancel (Nat.le_of_not_lt smallC) (Nat.le_of_not_lt smallD) same

/-- No escape begins with the end of a literal. -/
theorem escape_ne_quote (c : CodePoint) (x y : PyStr) :
    Json.escape c ++ x ≠ codePoint '"' :: y := by
  intro same
  have left : readUnit (Json.escape c ++ x) = some (34, y) := by
    rw [same]
    rfl
  by_cases small : c.val < 0x10000
  · rw [readUnit_escape small, Option.some.injEq, Prod.mk.injEq] at left
    have isQuote : c = codePoint '"' := Fin.ext left.1
    subst isQuote
    exact absurd same (by simp [Json.escape, py, codePoint])
  · rcases readUnit_escape_high (Nat.le_of_not_lt small) x with
      ⟨unit, rest, isUnit, low, high⟩
    rw [isUnit, Option.some.injEq, Prod.mk.injEq] at left
    omega

/-- Texts whose characters are told apart by their escapes are told apart by their
literals. -/
theorem separates_of_escapes {ours theirs : CodePoint → Prop}
    (apart : ∀ c d x y, ours c → theirs d → Json.escape c ++ x = Json.escape d ++ y →
      c = d ∧ x = y) :
    Separates (fun s => ∀ c ∈ s, ours c) (fun t => ∀ d ∈ t, theirs d) := by
  intro s t x y isOurs isTheirs same
  simp only [Json.quote, List.cons_append, List.cons.injEq, true_and,
    List.append_assoc] at same
  induction s generalizing t with
  | nil =>
      cases t with
      | nil => exact ⟨rfl, (List.cons.inj same).2⟩
      | cons d t =>
          rw [List.flatMap_cons, List.append_assoc] at same
          exact absurd same.symm (escape_ne_quote _ _ _)
  | cons c s ih =>
      rw [List.flatMap_cons, List.append_assoc] at same
      cases t with
      | nil => exact absurd same (escape_ne_quote _ _ _)
      | cons d t =>
          rw [List.flatMap_cons, List.append_assoc] at same
          rcases apart c d _ _ (isOurs c List.mem_cons_self)
            (isTheirs d List.mem_cons_self) same with ⟨rfl, rest⟩
          rcases ih t (fun c member => isOurs c (List.mem_cons_of_mem _ member))
            (fun d member => isTheirs d (List.mem_cons_of_mem _ member)) rest with
            ⟨rfl, isRest⟩
          exact ⟨rfl, isRest⟩

/-- Basic text is told apart from every text. -/
theorem basic_separates : Separates Basic fun _ => True := by
  intro s t x y basic _ same
  have apart : ∀ c d x y, (c.val < 0x10000 ∧ ¬(0xD800 ≤ c.val ∧ c.val < 0xE000)) → True →
      Json.escape c ++ x = Json.escape d ++ y → c = d ∧ x = y :=
    fun _ _ _ _ isBasic _ => escape_cancel isBasic
  exact separates_of_escapes apart s t x y basic (fun _ _ => trivial) same

/-- Texts without surrogates are told apart. -/
theorem scalar_separates : Separates Scalar Scalar :=
  separates_of_escapes fun _ _ _ _ => escape_scalar_cancel

end Literals

section Numbers

/-- What may follow a value: nothing, or a character that no number has. -/
def Delimited (rest : PyStr) : Prop := ∀ c ∈ rest.head?, numeral c = false

theorem digit_val {d : Nat} (small : d < 10) : (digit d).val = 48 + d := by
  have checked : ∀ d : Fin 10, (digit d.val).val = 48 + d.val := by decide
  exact checked ⟨d, small⟩

/-- The value of decimal digits. -/
def decimalValue (text : PyStr) : Nat :=
  Nat.ofDigits 10 (text.reverse.map fun c => c.val - 48)

theorem decimalNat_digits (n : Nat) :
    ∃ digits : List Nat, decimalNat n = digits.reverse.map digit ∧ digits ≠ [] ∧
      (∀ d ∈ digits, d < 10) ∧ Nat.ofDigits 10 digits = n := by
  unfold decimalNat
  split
  · next isZero => exact ⟨[0], rfl, by simp, by simp, by simp [isZero]⟩
  · next positive =>
      exact ⟨Nat.digits 10 n, rfl, Nat.digits_ne_nil_iff_ne_zero.mpr positive,
        fun d member => Nat.digits_lt_base (by decide) member, Nat.ofDigits_digits 10 n⟩

theorem decimalValue_decimalNat (n : Nat) : decimalValue (decimalNat n) = n := by
  rcases decimalNat_digits n with ⟨digits, isText, _, small, value⟩
  have back : (digits.map digit).map (fun c => c.val - 48) = digits := by
    rw [List.map_map]
    refine (List.map_congr_left fun d member => ?_).trans (List.map_id digits)
    simp [digit_val (small d member)]
  rw [decimalValue, isText, ← List.map_reverse, List.reverse_reverse, back, value]

theorem digits_of_decimalNat {n : Nat} {c : CodePoint} (member : c ∈ decimalNat n) :
    48 ≤ c.val ∧ c.val ≤ 57 := by
  rcases decimalNat_digits n with ⟨digits, isText, _, small, _⟩
  rw [isText, List.mem_map] at member
  rcases member with ⟨d, inDigits, rfl⟩
  have bound := small d (List.mem_reverse.mp inDigits)
  rw [digit_val bound]
  omega

theorem decimalNat_ne_nil (n : Nat) : decimalNat n ≠ [] := by
  rcases decimalNat_digits n with ⟨digits, isText, notNil, _⟩
  simp [isText, notNil]

theorem decimalNat_injective {m n : Nat} (same : decimalNat m = decimalNat n) :
    m = n := by
  rw [← decimalValue_decimalNat m, same, decimalValue_decimalNat]

theorem minus_not_mem (n : Nat) : codePoint '-' ∉ decimalNat n := fun member =>
  absurd (digits_of_decimalNat member) (by decide)

theorem decimal_injective {i j : Int} (same : decimal i = decimal j) : i = j := by
  unfold decimal at same
  split at same
  · next negative =>
      split at same
      · next negative' =>
          have := decimalNat_injective (List.cons.inj same).2
          omega
      · exact absurd (same ▸ List.mem_cons_self) (minus_not_mem _)
  · next positive =>
      split at same
      · exact absurd (same ▸ List.mem_cons_self) (minus_not_mem _)
      · have := decimalNat_injective same
        omega

theorem numeral_decimal {i : Int} {c : CodePoint} (member : c ∈ decimal i) :
    numeral c = true := by
  have digits : ∀ n, c ∈ decimalNat n → numeral c = true := by
    intro n inText
    simp [numeral, digits_of_decimalNat inText]
  unfold decimal at member
  split at member
  · rcases List.mem_cons.mp member with rfl | inText
    · decide
    · exact digits _ inText
  · exact digits _ member

/-- A number ends where the first character that no number has stands. -/
theorem takeWhile_number {text rest : PyStr} (numerals : ∀ c ∈ text, numeral c = true)
    (delimited : Delimited rest) : (text ++ rest).takeWhile numeral = text := by
  rw [List.takeWhile_append_of_pos numerals]
  cases rest with
  | nil => simp
  | cons c rest =>
      have stops : numeral c = false := delimited c rfl
      simp [stops]

/-- Numbers are told apart by their texts, whatever follows them. -/
theorem number_cancel {one other x y : PyStr} (numeralsOne : ∀ c ∈ one, numeral c = true)
    (numeralsOther : ∀ c ∈ other, numeral c = true) (delimitedX : Delimited x)
    (delimitedY : Delimited y) (same : one ++ x = other ++ y) : one = other ∧ x = y := by
  have taken := congrArg (List.takeWhile numeral) same
  rw [takeWhile_number numeralsOne delimitedX, takeWhile_number numeralsOther delimitedY]
    at taken
  rw [taken] at same
  exact ⟨taken, List.append_cancel_left same⟩

theorem decimal_cancel {i j : Int} {x y : PyStr} (delimitedX : Delimited x)
    (delimitedY : Delimited y) (same : decimal i ++ x = decimal j ++ y) :
    i = j ∧ x = y := by
  obtain ⟨taken, rest⟩ := number_cancel (fun _ => numeral_decimal)
    (fun _ => numeral_decimal) delimitedX delimitedY same
  exact ⟨decimal_injective taken, rest⟩

/-- A float has another text than an integer. -/
theorem FloatText.text_ne_decimal (value : FloatText) (i : Int) : value.text ≠ decimal i := by
  intro same
  obtain ⟨c, member, isMark⟩ := value.marked
  have digits : ∀ n, c ∈ decimalNat n → False := by
    intro n inText
    have bounds := digits_of_decimalNat inText
    rcases isMark with rfl | rfl
    · exact absurd bounds (by decide)
    · exact absurd bounds (by decide)
  rw [same] at member
  unfold decimal at member
  split at member
  · cases List.mem_cons.mp member with
    | inl isSign =>
      rw [isSign] at isMark
      exact absurd isMark (by decide)
    | inr inText => exact digits _ inText
  · exact digits _ member

theorem FloatText.text_injective {one other : FloatText} (same : one.text = other.text) :
    one = other := by
  cases one
  cases other
  cases same
  rfl

end Numbers

section Identifiers

theorem hexOfBytes_injective {a b : Bytes} (same : hexOfBytes a = hexOfBytes b) :
    a = b := by
  have read := congrArg bytesOfHex same
  rwa [bytesOfHex_hexOfBytes, bytesOfHex_hexOfBytes, Option.some.injEq] at read

/-- Numbers with the same hexadecimal digits are the same. -/
theorem eq_of_hexDigits {a b : Nat} (count : Nat)
    (digits : ∀ position < count, a / 16 ^ position % 16 = b / 16 ^ position % 16) :
    a % 16 ^ count = b % 16 ^ count := by
  induction count with
  | zero => simp [Nat.mod_one]
  | succ count ih =>
      rw [Nat.mod_pow_succ, Nat.mod_pow_succ, digits count (Nat.lt_succ_self _),
        ih fun position below => digits position (Nat.lt_succ_of_lt below)]

theorem digit_injective {d e : Nat} (smallD : d < 16) (smallE : e < 16)
    (same : digit d = digit e) : d = e := by
  have read := congrArg hexValue same
  rwa [hexValue_digit smallD, hexValue_digit smallE, Option.some.injEq] at read

theorem uuidHex_injective {a b : Uuid} (same : uuidHex a = uuidHex b) : a = b := by
  have digits : ∀ position < 32,
      a.toNat / 16 ^ position % 16 = b.toNat / 16 ^ position % 16 := by
    intro position below
    have there : (31 - position) < 32 := by omega
    have sameDigit := congrArg (fun text : PyStr => text[31 - position]?) same
    simp only [uuidHex, List.getElem?_map, List.getElem?_range there, Option.map_some,
      Option.some.injEq, Nat.sub_sub_self (Nat.le_of_lt_succ below)] at sameDigit
    exact digit_injective (Nat.mod_lt _ (by decide)) (Nat.mod_lt _ (by decide)) sameDigit
  have whole := eq_of_hexDigits 32 digits
  have boundA : a.toNat < 16 ^ 32 := a.isLt
  have boundB : b.toNat < 16 ^ 32 := b.isLt
  rw [Nat.mod_eq_of_lt boundA, Nat.mod_eq_of_lt boundB] at whole
  exact BitVec.eq_of_toNat_eq whole

/-- A hexadecimal digit is one of sixteen characters. -/
theorem isHex_uuidHex (id : Uuid) : IsHex (uuidHex id) := by
  intro c member
  obtain ⟨position, _, rfl⟩ := List.mem_map.mp member
  rw [hexValue_digit (Nat.mod_lt _ (by decide))]
  rfl

/-- Hexadecimal digits are ASCII letters and digits. -/
theorem hexDigit_val {c : CodePoint} (isDigit : (hexValue c).isSome = true) :
    48 ≤ c.val ∧ c.val ≤ 57 ∨ 97 ≤ c.val ∧ c.val ≤ 102 := by
  unfold hexValue at isDigit
  split at isDigit
  case isTrue decimal => exact .inl decimal
  case isFalse =>
    split at isDigit
    case isTrue letter => exact .inr letter
    case isFalse => cases isDigit

/-- The digits of a UUID text. -/
theorem uuidStr_digits (id : Uuid) :
    (uuidStr id).filter (· ≠ codePoint '-') = uuidHex id := by
  have kept : ∀ part : PyStr, (∀ c ∈ part, c ∈ uuidHex id) →
      part.filter (· ≠ codePoint '-') = part := by
    intro part within
    refine List.filter_eq_self.mpr fun c member => ?_
    have isDigit := hexDigit_val (isHex_uuidHex id c (within c member))
    have notHyphen : c ≠ codePoint '-' := by
      rintro rfl
      revert isDigit
      decide
    simpa using notHyphen
  have taken : ∀ n m, ∀ c ∈ ((uuidHex id).drop n).take m, c ∈ uuidHex id :=
    fun n m c member => List.mem_of_mem_drop (List.mem_of_mem_take member)
  simp only [uuidStr, List.filter_append, List.filter_cons]
  rw [kept _ (fun c member => List.mem_of_mem_take member), kept _ (taken 8 4),
    kept _ (taken 12 4), kept _ (taken 16 4),
    kept _ (fun c member => List.mem_of_mem_drop member)]
  have parts : ∀ text : PyStr, text.take 8 ++ ((text.drop 8).take 4 ++
      ((text.drop 12).take 4 ++ ((text.drop 16).take 4 ++ text.drop 20))) = text := by
    intro text
    have last := List.take_append_drop 4 (text.drop 16)
    have third := List.take_append_drop 4 (text.drop 12)
    have second := List.take_append_drop 4 (text.drop 8)
    simp only [List.drop_drop] at last third second
    rw [last, third, second, List.take_append_drop]
  simpa using parts (uuidHex id)

theorem uuidStr_injective {a b : Uuid} (same : uuidStr a = uuidStr b) : a = b := by
  have digits := congrArg (List.filter (· ≠ codePoint '-')) same
  rw [uuidStr_digits, uuidStr_digits] at digits
  exact uuidHex_injective digits

theorem basic_of_ascii {text : PyStr} (ascii : ∀ c ∈ text, c.val < 128) :
    Basic text := by
  intro c member
  have bound := ascii c member
  omega

theorem basic_py (literal : String)
    (ascii : ((py literal).all fun c => c.val < 128) = true) : Basic (py literal) := by
  refine basic_of_ascii fun c member => ?_
  simpa using List.all_eq_true.mp ascii c member

/-- The characters of a UUID text. -/
theorem uuidStr_char {id : Uuid} {c : CodePoint} (member : c ∈ uuidStr id) :
    c = codePoint '-' ∨ (hexValue c).isSome = true := by
  by_cases isHyphen : c = codePoint '-'
  · exact .inl isHyphen
  · have kept : c ∈ (uuidStr id).filter (· ≠ codePoint '-') := by
      simp [member, isHyphen]
    rw [uuidStr_digits] at kept
    exact .inr (isHex_uuidHex id c kept)

theorem basic_uuidStr (id : Uuid) : Basic (uuidStr id) := by
  apply basic_of_ascii
  intro c member
  cases uuidStr_char member with
  | inl isHyphen =>
    rw [isHyphen]
    decide
  | inr isDigit =>
    have digits := hexDigit_val isDigit
    omega

end Identifiers

section Lines

/-- ASCII text without a line feed. -/
def Line (text : PyStr) : Prop := ∀ c ∈ text, c.val < 128 ∧ c.val ≠ 10

theorem Line.append {one other : PyStr} (lineOne : Line one) (lineOther : Line other) :
    Line (one ++ other) := by
  intro c member
  cases List.mem_append.mp member with
  | inl inOne => exact lineOne c inOne
  | inr inOther => exact lineOther c inOther

theorem line_py (literal : String) (plain : (literal.toList.all fun c =>
    decide (c.toNat < 128) && decide (c.toNat ≠ 10)) = true) : Line (py literal) := by
  intro c member
  obtain ⟨char, inLiteral, rfl⟩ := List.mem_map.mp member
  simpa [codePoint] using List.all_eq_true.mp plain char inLiteral

theorem line_decimal (i : Int) : Line (decimal i) := by
  intro c member
  have isNumeral := numeral_decimal member
  simp only [numeral, decide_eq_true_eq] at isNumeral
  omega

theorem Line.scalar {text : PyStr} (line : Line text) : Scalar text := by
  intro c member
  have small := (line c member).1
  omega

theorem line_hex {text : PyStr} (isHex : IsHex text) : Line text := by
  intro c member
  have digits := hexDigit_val (isHex c member)
  omega

theorem line_uuidStr (id : Uuid) : Line (uuidStr id) := by
  intro c member
  cases uuidStr_char member with
  | inl isHyphen =>
    rw [isHyphen]
    decide
  | inr isDigit =>
    have digits := hexDigit_val isDigit
    omega

/-- The first line of a text is read in one way. -/
theorem Line.cancel {one other x y : PyStr} (lineOne : Line one) (lineOther : Line other)
    (same : one ++ (py "\n" ++ x) = other ++ (py "\n" ++ y)) : one = other ∧ x = y := by
  induction one generalizing other with
  | nil =>
    cases other with
    | nil => exact ⟨rfl, List.append_cancel_left same⟩
    | cons c other =>
      have isBreak : codePoint '\n' = c := (List.cons.inj same).1
      exact absurd (isBreak ▸ rfl) (lineOther c List.mem_cons_self).2
  | cons c one ih =>
    cases other with
    | nil =>
      have isBreak : c = codePoint '\n' := (List.cons.inj same).1
      exact absurd (isBreak ▸ rfl) (lineOne c List.mem_cons_self).2
    | cons d other =>
      obtain ⟨rfl, rest⟩ := List.cons.inj same
      obtain ⟨rfl, after⟩ := ih (fun c member => lineOne c (List.mem_cons_of_mem _ member))
        (fun c member => lineOther c (List.mem_cons_of_mem _ member)) rest
      exact ⟨rfl, after⟩

/-- The last line of a text is read in one way. -/
theorem Line.cancel_last {one other x y : PyStr} (lineOne : Line one)
    (lineOther : Line other) (same : x ++ py "\n" ++ one = y ++ py "\n" ++ other) :
    x = y ∧ one = other := by
  have reversed := congrArg List.reverse same
  have isBreak : (py "\n").reverse = py "\n" := rfl
  simp only [List.reverse_append, isBreak] at reversed
  have lineReverse : ∀ {text : PyStr}, Line text → Line text.reverse :=
    fun line c member => line c (List.mem_reverse.mp member)
  obtain ⟨sameLast, sameRest⟩ :=
    (lineReverse lineOne).cancel (lineReverse lineOther) reversed
  exact ⟨List.reverse_injective sameRest, List.reverse_injective sameLast⟩

end Lines

namespace Json

section Values

mutual

/-- Every text of a value, keys included, is of the class. -/
def All (ours : PyStr → Prop) : Json → Prop
  | .str value => ours value
  | .arr items => AllItems ours items
  | .obj fields => AllFields ours fields
  | _ => True

def AllItems (ours : PyStr → Prop) : List Json → Prop
  | [] => True
  | item :: items => All ours item ∧ AllItems ours items

def AllFields (ours : PyStr → Prop) : List (PyStr × Json) → Prop
  | [] => True
  | (key, value) :: fields => ours key ∧ All ours value ∧ AllFields ours fields

end

mutual

/-- Whether every text of a value is of a decidable class. -/
def decidableAll {ours : PyStr → Prop} [DecidablePred ours] :
    ∀ value : Json, Decidable (All ours value)
  | .null => isTrue trivial
  | .bool _ => isTrue trivial
  | .int _ => isTrue trivial
  | .float _ => isTrue trivial
  | .str value => inferInstanceAs (Decidable (ours value))
  | .arr items => decidableAllItems items
  | .obj fields => decidableAllFields fields

def decidableAllItems {ours : PyStr → Prop} [DecidablePred ours] :
    ∀ items : List Json, Decidable (AllItems ours items)
  | [] => isTrue trivial
  | item :: items =>
      have := @decidableAll ours _ item
      have := @decidableAllItems ours _ items
      inferInstanceAs (Decidable (All ours item ∧ AllItems ours items))

def decidableAllFields {ours : PyStr → Prop} [DecidablePred ours] :
    ∀ fields : List (PyStr × Json), Decidable (AllFields ours fields)
  | [] => isTrue trivial
  | (key, value) :: fields =>
      have := @decidableAll ours _ value
      have := @decidableAllFields ours _ fields
      inferInstanceAs (Decidable (ours key ∧ All ours value ∧ AllFields ours fields))

end

instance {ours : PyStr → Prop} [DecidablePred ours] (value : Json) :
    Decidable (All ours value) := decidableAll value

/-- All text of a value is basic. -/
abbrev IsBasic : Json → Prop := All Basic

mutual

theorem all_true : ∀ value : Json, All (fun _ => True) value
  | .null => trivial
  | .bool _ => trivial
  | .int _ => trivial
  | .float _ => trivial
  | .str _ => trivial
  | .arr items => allItems_true items
  | .obj fields => allFields_true fields

theorem allItems_true : ∀ items : List Json, AllItems (fun _ => True) items
  | [] => trivial
  | item :: items => ⟨all_true item, allItems_true items⟩

theorem allFields_true : ∀ fields : List (PyStr × Json), AllFields (fun _ => True) fields
  | [] => trivial
  | (_, value) :: fields => ⟨trivial, all_true value, allFields_true fields⟩

end

/-- The first character of a value; zero for all that begin a number. -/
def lead (c : CodePoint) : Nat := if numeral c then 0 else c.val

/-- What the text of a value begins with. -/
def leadOf : Json → Nat
  | .null => 110
  | .bool true => 116
  | .bool false => 102
  | .int _ => 0
  | .float _ => 0
  | .str _ => 34
  | .arr _ => 91
  | .obj _ => 123

theorem dumps_lead (value : Json) :
    ∃ c rest, dumps value = c :: rest ∧ lead c = leadOf value := by
  cases value with
  | null => exact ⟨_, _, rfl, by decide⟩
  | bool value => cases value <;> exact ⟨_, _, rfl, by decide⟩
  | str value => exact ⟨codePoint '"', _, rfl, by rw [leadOf]; decide⟩
  | arr items => exact ⟨codePoint '[', _, rfl, by rw [leadOf]; decide⟩
  | obj fields => exact ⟨codePoint '{', _, rfl, by rw [leadOf]; decide⟩
  | float value =>
      obtain ⟨c, member, -⟩ := value.marked
      cases isText : value.text with
      | nil =>
          rw [isText] at member
          cases member
      | cons c rest =>
          have isNumeral := value.numerals c (isText ▸ List.mem_cons_self)
          exact ⟨c, rest, isText, by simp [lead, isNumeral, leadOf]⟩
  | int value =>
      cases isText : decimal value with
      | nil =>
          unfold decimal at isText
          split at isText
          · cases isText
          · exact absurd isText (decimalNat_ne_nil _)
      | cons c rest =>
          have isNumeral : numeral c = true :=
            numeral_decimal (isText ▸ List.mem_cons_self)
          exact ⟨c, rest, isText, by simp [lead, isNumeral, leadOf]⟩

/-- Values with texts that agree from the beginning are of one kind. -/
theorem leadOf_eq {a b : Json} {x y : PyStr} (same : dumps a ++ x = dumps b ++ y) :
    leadOf a = leadOf b := by
  rcases dumps_lead a with ⟨c, rest, isA, leadA⟩
  rcases dumps_lead b with ⟨d, rest', isB, leadB⟩
  rw [isA, isB] at same
  have isChar : c = d := (List.cons.inj same).1
  rw [← leadA, ← leadB, isChar]

/-- No value begins with the end of an array or of an object. -/
theorem dumps_ne_end (value : Json) {c : CodePoint} (x y : PyStr)
    (isEnd : c.val = 93 ∨ c.val = 125) : dumps value ++ x ≠ c :: y := by
  intro same
  rcases dumps_lead value with ⟨d, rest, isText, isLead⟩
  rw [isText] at same
  have isChar : d = c := (List.cons.inj same).1
  have notNumeral : numeral c = false := by
    simp only [numeral, decide_eq_false_iff_not]
    omega
  have isValue : c.val = leadOf value := by
    rw [← isLead, isChar, lead, notNumeral]
    rfl
  cases value with
  | bool value => cases value <;> simp only [leadOf] at isValue <;> omega
  | _ => simp only [leadOf] at isValue; omega

/-- The items of an array after the first one. -/
def moreItems : List Json → PyStr
  | [] => []
  | items => codePoint ',' :: dumpsItems items

theorem dumpsItems_cons (item : Json) (items : List Json) :
    dumpsItems (item :: items) = dumps item ++ moreItems items := by
  cases items with
  | nil => simp [dumpsItems, moreItems]
  | cons next rest => simp [dumpsItems, moreItems]

/-- The fields of an object after the first one. -/
def moreFields : List (PyStr × Json) → PyStr
  | [] => []
  | fields => codePoint ',' :: dumpsFields fields

theorem dumpsFields_cons (key : PyStr) (value : Json)
    (fields : List (PyStr × Json)) :
    dumpsFields ((key, value) :: fields) =
      quote key ++ codePoint ':' :: (dumps value ++ moreFields fields) := by
  cases fields with
  | nil => simp [dumpsFields, moreFields]
  | cons next rest => simp [dumpsFields, moreFields]

theorem delimited_cons {c : CodePoint} (notNumeral : numeral c = false) (rest : PyStr) :
    Delimited (c :: rest) := by
  intro d isHead
  cases isHead
  exact notNumeral

theorem delimited_moreItems (items : List Json) (rest : PyStr) :
    Delimited (moreItems items ++ codePoint ']' :: rest) := by
  cases items with
  | nil => exact delimited_cons (by decide) _
  | cons item items => exact delimited_cons (by decide) _

theorem delimited_moreFields (fields : List (PyStr × Json)) (rest : PyStr) :
    Delimited (moreFields fields ++ codePoint '}' :: rest) := by
  cases fields with
  | nil => exact delimited_cons (by decide) _
  | cons field fields => exact delimited_cons (by decide) _

section Apart

variable {ours theirs : PyStr → Prop}

mutual

/-- Values of separate texts are told apart by their texts, whatever follows
them. -/
theorem dumps_cancel (separates : Separates ours theirs) :
    ∀ {a b : Json} {x y : PyStr}, All ours a → All theirs b →
    Delimited x → Delimited y → dumps a ++ x = dumps b ++ y → a = b ∧ x = y
  | .null, b, x, y, isOurs, isTheirs, delimitedX, delimitedY, same => by
      have kind := leadOf_eq same
      cases b with
      | null => exact ⟨rfl, List.append_cancel_left same⟩
      | bool value => cases value <;> simp [leadOf] at kind
      | _ => simp [leadOf] at kind
  | .bool left, b, x, y, isOurs, isTheirs, delimitedX, delimitedY, same => by
      have kind := leadOf_eq same
      cases b with
      | bool right =>
          cases left <;> cases right <;> simp [leadOf] at kind
          · exact ⟨rfl, List.append_cancel_left same⟩
          · exact ⟨rfl, List.append_cancel_left same⟩
      | _ => cases left <;> simp [leadOf] at kind
  | .int left, b, x, y, isOurs, isTheirs, delimitedX, delimitedY, same => by
      have kind := leadOf_eq same
      cases b with
      | int right =>
          rcases decimal_cancel delimitedX delimitedY same with ⟨rfl, rest⟩
          exact ⟨rfl, rest⟩
      | float right =>
          rcases number_cancel (fun _ => numeral_decimal) right.numerals delimitedX
            delimitedY same with ⟨isText, -⟩
          exact absurd isText.symm (right.text_ne_decimal left)
      | bool value => cases value <;> simp [leadOf] at kind
      | _ => simp [leadOf] at kind
  | .float left, b, x, y, isOurs, isTheirs, delimitedX, delimitedY, same => by
      have kind := leadOf_eq same
      cases b with
      | int right =>
          rcases number_cancel left.numerals (fun _ => numeral_decimal) delimitedX
            delimitedY same with ⟨isText, -⟩
          exact absurd isText (left.text_ne_decimal right)
      | float right =>
          rcases number_cancel left.numerals right.numerals delimitedX delimitedY same
            with ⟨isText, rest⟩
          exact ⟨congrArg Json.float (FloatText.text_injective isText), rest⟩
      | bool value => cases value <;> simp [leadOf] at kind
      | _ => simp [leadOf] at kind
  | .str left, b, x, y, isOurs, isTheirs, delimitedX, delimitedY, same => by
      have kind := leadOf_eq same
      cases b with
      | str right =>
          rcases separates _ _ _ _ isOurs isTheirs same with ⟨rfl, rest⟩
          exact ⟨rfl, rest⟩
      | bool value => cases value <;> simp [leadOf] at kind
      | _ => simp [leadOf] at kind
  | .arr left, b, x, y, isOurs, isTheirs, delimitedX, delimitedY, same => by
      have kind := leadOf_eq same
      cases b with
      | arr right =>
          simp only [dumps, List.cons_append, List.cons.injEq, true_and,
            List.append_assoc, List.nil_append] at same
          rcases dumpsItems_cancel separates isOurs isTheirs same with ⟨rfl, rest⟩
          exact ⟨rfl, rest⟩
      | bool value => cases value <;> simp [leadOf] at kind
      | _ => simp [leadOf] at kind
  | .obj left, b, x, y, isOurs, isTheirs, delimitedX, delimitedY, same => by
      have kind := leadOf_eq same
      cases b with
      | obj right =>
          simp only [dumps, List.cons_append, List.cons.injEq, true_and,
            List.append_assoc, List.nil_append] at same
          rcases dumpsFields_cancel separates isOurs isTheirs same with ⟨rfl, rest⟩
          exact ⟨rfl, rest⟩
      | bool value => cases value <;> simp [leadOf] at kind
      | _ => simp [leadOf] at kind

theorem dumpsItems_cancel (separates : Separates ours theirs) :
    ∀ {as bs : List Json} {x y : PyStr}, AllItems ours as →
    AllItems theirs bs →
    dumpsItems as ++ codePoint ']' :: x = dumpsItems bs ++ codePoint ']' :: y →
      as = bs ∧ x = y
  | [], [], x, y, isOurs, isTheirs, same => ⟨rfl, (List.cons.inj same).2⟩
  | [], b :: bs, x, y, isOurs, isTheirs, same => by
      rw [dumpsItems_cons, List.append_assoc] at same
      exact absurd same.symm (dumps_ne_end b _ _ (Or.inl rfl))
  | a :: as, [], x, y, isOurs, isTheirs, same => by
      rw [dumpsItems_cons, List.append_assoc] at same
      exact absurd same (dumps_ne_end a _ _ (Or.inl rfl))
  | a :: as, b :: bs, x, y, isOurs, isTheirs, same => by
      rw [dumpsItems_cons, dumpsItems_cons, List.append_assoc, List.append_assoc] at same
      rcases dumps_cancel separates isOurs.1 isTheirs.1 (delimited_moreItems as x)
        (delimited_moreItems bs y) same with ⟨isItem, rest⟩
      cases as with
      | nil =>
          cases bs with
          | nil => exact ⟨by rw [isItem], (List.cons.inj rest).2⟩
          | cons next bs => exact absurd (List.cons.inj rest).1 (by decide)
      | cons next as =>
          cases bs with
          | nil => exact absurd (List.cons.inj rest).1 (by decide)
          | cons next' bs =>
              rcases dumpsItems_cancel separates isOurs.2 isTheirs.2
                (List.cons.inj rest).2 with
                ⟨isRest, isEnd⟩
              exact ⟨by rw [isItem, isRest], isEnd⟩

theorem dumpsFields_cancel (separates : Separates ours theirs) :
    ∀ {as bs : List (PyStr × Json)} {x y : PyStr},
    AllFields ours as → AllFields theirs bs →
    dumpsFields as ++ codePoint '}' :: x = dumpsFields bs ++ codePoint '}' :: y →
      as = bs ∧ x = y
  | [], [], x, y, isOurs, isTheirs, same => ⟨rfl, (List.cons.inj same).2⟩
  | [], (key, value) :: bs, x, y, isOurs, isTheirs, same => by
      rw [dumpsFields_cons] at same
      exact absurd (List.cons.inj same).1 (by decide)
  | (key, value) :: as, [], x, y, isOurs, isTheirs, same => by
      rw [dumpsFields_cons] at same
      exact absurd (List.cons.inj same).1 (by decide)
  | (key, a) :: as, (key', b) :: bs, x, y, isOurs, isTheirs, same => by
      rw [dumpsFields_cons, dumpsFields_cons, List.append_assoc, List.append_assoc,
        List.cons_append, List.cons_append, List.append_assoc, List.append_assoc] at same
      rcases separates _ _ _ _ isOurs.1 isTheirs.1 same with ⟨isKey, afterKey⟩
      rcases dumps_cancel separates isOurs.2.1 isTheirs.2.1 (delimited_moreFields as x)
        (delimited_moreFields bs y) (List.cons.inj afterKey).2 with ⟨isValue, rest⟩
      cases as with
      | nil =>
          cases bs with
          | nil => exact ⟨by rw [isKey, isValue], (List.cons.inj rest).2⟩
          | cons next bs => exact absurd (List.cons.inj rest).1 (by decide)
      | cons next as =>
          cases bs with
          | nil => exact absurd (List.cons.inj rest).1 (by decide)
          | cons next' bs =>
              rcases dumpsFields_cancel separates isOurs.2.2 isTheirs.2.2
                (List.cons.inj rest).2 with
                ⟨isRest, isEnd⟩
              exact ⟨by rw [isKey, isValue, isRest], isEnd⟩

end

end Apart

/-- A value of basic text is told apart from every value by its text. -/
theorem dumps_injective {a b : Json} (basic : IsBasic a) (same : dumps a = dumps b) :
    a = b := by
  have nothing : Delimited [] := by
    intro c isHead
    cases isHead
  have appended : dumps a ++ [] = dumps b ++ [] := by rw [same]
  exact (dumps_cancel basic_separates basic (all_true b) nothing nothing appended).1

/-- Values without surrogates are told apart by their texts. -/
theorem dumps_scalar_injective {a b : Json} (scalarA : All Scalar a)
    (scalarB : All Scalar b) (same : dumps a = dumps b) : a = b := by
  have nothing : Delimited [] := by
    intro c isHead
    cases isHead
  have appended : dumps a ++ [] = dumps b ++ [] := by rw [same]
  exact (dumps_cancel scalar_separates scalarA scalarB nothing nothing appended).1

end Values

section Objects

variable {ours : PyStr → Prop}

/-- A field is set among fields of its class. -/
theorem allFields_setField {key : PyStr} {value : Json}
    {fields : List (PyStr × Json)} (isKey : ours key) (isValue : All ours value)
    (isFields : AllFields ours fields) : AllFields ours (setField key value fields) := by
  induction fields with
  | nil => exact ⟨isKey, isValue, trivial⟩
  | cons field rest ih =>
      rcases field with ⟨other, old⟩
      rcases isFields with ⟨isOther, isOld, isRest⟩
      simp only [setField]
      split
      · exact ⟨isKey, isValue, isRest⟩
      · split
        · exact ⟨isKey, isValue, isOther, isOld, isRest⟩
        · exact ⟨isOther, isOld, ih isRest⟩

theorem all_object {fields : List (PyStr × Json)}
    (isFields : ∀ field ∈ fields, ours field.1 ∧ All ours field.2) :
    All ours (object fields) := by
  have step : ∀ kept, AllFields ours kept →
      AllFields ours (fields.foldl (fun kept field => setField field.1 field.2 kept)
        kept) := by
    induction fields with
    | nil => exact fun kept isKept => isKept
    | cons field rest ih =>
        intro kept isKept
        have here := isFields field List.mem_cons_self
        exact ih (fun other member => isFields other (List.mem_cons_of_mem _ member)) _
          (allFields_setField here.1 here.2 isKept)
  exact step [] trivial

/-- Objects of basic fields are basic. -/
theorem isBasic_object {fields : List (PyStr × Json)}
    (basic : ∀ field ∈ fields, Basic field.1 ∧ IsBasic field.2) :
    IsBasic (object fields) :=
  all_object basic

end Objects

end Json

end RngGamePlatform.Encoding
