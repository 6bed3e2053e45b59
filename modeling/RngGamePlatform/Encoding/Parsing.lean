/-
Module: RngGamePlatform.Encoding.Parsing
Purpose: Integers and UUIDs read from texts, with every spelling that Python's `int`
  and `UUID` accept.
Trusted boundary: human-reviewed semantics
Main exports: UnicodeDigits, pyInt, uuidOf, pyInt_zeroPadded, pyInt_decimal,
  uuidOf_uuidStr
-/
import RngGamePlatform.Encoding.Collation

namespace RngGamePlatform.Encoding

/-! What `int` reads. -/

/-- What a character outside ASCII stands for in a number: the decimal digit or the
blank that the Unicode database gives for it, or a character that no number has. -/
abbrev UnicodeDigits := CodePoint → CodePoint

def asciiForm (unicode : UnicodeDigits) (text : PyStr) : PyStr :=
  text.map fun c => if c.val < 128 then c else unicode c

/-- The blanks that may surround a number. -/
def isBlank (c : CodePoint) : Bool := c.val = 32 ∨ 9 ≤ c.val ∧ c.val ≤ 13

/-- The text without its characters of a class at both ends. -/
def stripped (ends : CodePoint → Bool) (text : PyStr) : PyStr :=
  ((text.dropWhile ends).reverse.dropWhile ends).reverse

/-- The value of a digit or a letter in a base. -/
def digitIn (base : Nat) (c : CodePoint) : Option Nat :=
  let value :=
    if 48 ≤ c.val ∧ c.val ≤ 57 then c.val - 48
    else if 97 ≤ c.val ∧ c.val ≤ 122 then c.val - 87
    else if 65 ≤ c.val ∧ c.val ≤ 90 then c.val - 55
    else base
  if value < base then some value else none

/-- The number of digits, between any two of which one underscore may stand. -/
def digitsIn (base : Nat) : (total : Nat) → (afterDigit : Bool) → PyStr → Option Nat
  | total, afterDigit, [] => if afterDigit then some total else none
  | total, afterDigit, c :: rest =>
      if c = codePoint '_' then
        if afterDigit then digitsIn base total false rest else none
      else
        match digitIn base c with
        | some value => digitsIn base (base * total + value) true rest
        | none => none

/-- A number without sign; a hexadecimal one may begin with `0x`, and an underscore
after it. -/
def unsignedIn (base : Nat) (text : PyStr) : Option Nat :=
  if base = 16 ∧ (text.take 2 = py "0x" ∨ text.take 2 = py "0X") then
    let digits := text.drop 2
    digitsIn base 0 false (if digits.head? = some (codePoint '_') then digits.tail else digits)
  else digitsIn base 0 false text

/-- `int(text, base)`; none for a `ValueError`. -/
def pyInt (unicode : UnicodeDigits) (base : Nat) (text : PyStr) : Option Int :=
  match stripped isBlank (asciiForm unicode text) with
  | [] => none
  | sign :: rest =>
      if sign = codePoint '+' then (unsignedIn base rest).map Int.ofNat
      else if sign = codePoint '-' then (unsignedIn base rest).map fun n => -Int.ofNat n
      else (unsignedIn base (sign :: rest)).map Int.ofNat

/-! What `UUID` reads. -/

/-- `text.replace(pattern, '')`; the first `skip` characters belong to an occurrence. -/
def without (pattern : PyStr) : (skip : Nat) → PyStr → PyStr
  | _, [] => []
  | skip + 1, _ :: rest => without pattern skip rest
  | 0, c :: rest =>
      if pattern.isPrefixOf (c :: rest) then without pattern (pattern.length - 1) rest
      else c :: without pattern 0 rest

def isBrace (c : CodePoint) : Bool := c = codePoint '{' ∨ c = codePoint '}'

/-- `UUID(text)`; none for a `ValueError`. -/
def uuidOf (unicode : UnicodeDigits) (text : PyStr) : Option Uuid :=
  let hex := without (py "uuid:") 0 (without (py "urn:") 0 text)
  let hex := (stripped isBrace hex).filter (· ≠ codePoint '-')
  if hex.length ≠ 32 then none
  else
    match pyInt unicode 16 hex with
    | some n => if 0 ≤ n ∧ n < 2 ^ 128 then some (BitVec.ofInt 128 n) else none
    | none => none

example : (uuidOf id (py "\x7b00000000-0000-0000-0000-0000000000_f\x7d"),
    pyInt id 10 (py " -0_12\n")) = (some 0xf, some (-12)) := by decide +kernel

section Reading

variable (unicode : UnicodeDigits)

theorem asciiForm_ascii {text : PyStr} (ascii : ∀ c ∈ text, c.val < 128) :
    asciiForm unicode text = text := by
  rw [asciiForm]
  apply (List.map_congr_left fun c member => if_pos (ascii c member)).trans
  exact List.map_id' text

/-- A text without such characters is kept. -/
theorem stripped_eq {ends : CodePoint → Bool} {text : PyStr}
    (none : ∀ c ∈ text, ends c = false) : stripped ends text = text := by
  have kept : ∀ {list : PyStr}, (∀ c ∈ list, ends c = false) →
      list.dropWhile ends = list := by
    intro list noneOfList
    cases list with
    | nil => rfl
    | cons c rest =>
      rw [List.dropWhile_cons_of_neg]
      simp [noneOfList c List.mem_cons_self]
  rw [stripped, kept none, kept fun c member => none c (List.mem_reverse.mp member),
    List.reverse_reverse]

theorem digitIn_digit {base d : Nat} (hexadecimal : base ≤ 16) (small : d < base) :
    digitIn base (digit d) = some d := by
  have checked : ∀ d : Fin 16, let value := (digit d.val).val
      (48 ≤ value ∧ value ≤ 57 → value - 48 = d.val) ∧
      (97 ≤ value ∧ value ≤ 122 → value - 87 = d.val) ∧
      (48 ≤ value ∧ value ≤ 57 ∨ 97 ≤ value ∧ value ≤ 122) := by decide
  obtain ⟨decimal, letter, either⟩ := checked ⟨d, by omega⟩
  unfold digitIn
  rcases either with isDecimal | isLetter
  · rw [if_pos isDecimal, decimal isDecimal, if_pos small]
  · have notDecimal : ¬(48 ≤ (digit d).val ∧ (digit d).val ≤ 57) := by
      have low : 97 ≤ (digit d).val := isLetter.1
      omega
    rw [if_neg notDecimal, if_pos isLetter, letter isLetter, if_pos small]

/-- Digits are read as their number. -/
theorem digitsIn_digits {base : Nat} (hexadecimal : base ≤ 16) {ds : List Nat}
    (small : ∀ d ∈ ds, d < base) (total : Nat) (afterDigit : Bool)
    (nonempty : afterDigit = true ∨ ds ≠ []) :
    digitsIn base total afterDigit (ds.map digit) =
      some (valueAfter base nibble total (ds.map digit)) := by
  induction ds generalizing total afterDigit with
  | nil =>
    have isAfter : afterDigit = true := nonempty.resolve_right fun notEmpty => notEmpty rfl
    rw [isAfter]
    rfl
  | cons d ds ih =>
    have smallHere := small d List.mem_cons_self
    have notUnderscore : digit d ≠ codePoint '_' := by
      have checked : ∀ d : Fin 16, digit d.val ≠ codePoint '_' := by decide
      exact checked ⟨d, by omega⟩
    rw [List.map_cons, digitsIn, if_neg notUnderscore, digitIn_digit hexadecimal smallHere]
    have rest := ih (fun e member => small e (List.mem_cons_of_mem _ member))
      (base * total + d) true (.inl rfl)
    rw [valueAfter, List.foldl_cons, nibble_digit (by omega)]
    exact rest

/-- A sign and digits are read as their number. -/
theorem pyInt_digits {base : Nat} (hexadecimal : base ≤ 16) {ds : List Nat}
    (small : ∀ d ∈ ds, d < base) (notEmpty : ds ≠ []) :
    pyInt unicode base (ds.map digit) =
        some (valueAfter base nibble 0 (ds.map digit) : Int) ∧
      pyInt unicode base (codePoint '-' :: ds.map digit) =
        some (-(valueAfter base nibble 0 (ds.map digit) : Int)) := by
  have characters : ∀ c ∈ ds.map digit, c.val < 128 ∧ isBlank c = false ∧
      c ≠ codePoint '+' ∧ c ≠ codePoint '-' ∧ c ≠ codePoint 'x' ∧ c ≠ codePoint 'X' := by
    have checked : ∀ d : Fin 16, (digit d.val).val < 128 ∧ isBlank (digit d.val) = false ∧
        digit d.val ≠ codePoint '+' ∧ digit d.val ≠ codePoint '-' ∧
          digit d.val ≠ codePoint 'x' ∧ digit d.val ≠ codePoint 'X' := by decide
    intro c member
    obtain ⟨d, inDigits, rfl⟩ := List.mem_map.mp member
    have below := small d inDigits
    exact checked ⟨d, by omega⟩
  have unsigned : unsignedIn base (ds.map digit) =
      some (valueAfter base nibble 0 (ds.map digit)) := by
    have noPrefix : ¬(base = 16 ∧ ((ds.map digit).take 2 = py "0x" ∨
        (ds.map digit).take 2 = py "0X")) := by
      rintro ⟨-, isPrefix | isPrefix⟩
      · have member : codePoint 'x' ∈ (ds.map digit).take 2 := by
          rw [isPrefix]
          decide
        exact (characters _ (List.mem_of_mem_take member)).2.2.2.2.1 rfl
      · have member : codePoint 'X' ∈ (ds.map digit).take 2 := by
          rw [isPrefix]
          decide
        exact (characters _ (List.mem_of_mem_take member)).2.2.2.2.2 rfl
    rw [unsignedIn, if_neg noPrefix]
    exact digitsIn_digits hexadecimal small 0 false (.inr notEmpty)
  constructor
  · rw [pyInt, asciiForm_ascii unicode fun c member => (characters c member).1,
      stripped_eq fun c member => (characters c member).2.1]
    cases ds with
    | nil => exact absurd rfl notEmpty
    | cons d ds =>
      obtain ⟨-, -, notPlus, notMinus, -, -⟩ := characters (digit d) List.mem_cons_self
      rw [List.map_cons] at unsigned ⊢
      simp only [if_neg notPlus, if_neg notMinus, unsigned, Option.map_some]
      rfl
  · have ascii : ∀ c ∈ codePoint '-' :: ds.map digit, c.val < 128 := by
      intro c member
      cases member with
      | head => decide
      | tail _ inDigits => exact (characters c inDigits).1
    have noBlank : ∀ c ∈ codePoint '-' :: ds.map digit, isBlank c = false := by
      intro c member
      cases member with
      | head => decide
      | tail _ inDigits => exact (characters c inDigits).2.1
    have isMinus : codePoint '-' ≠ codePoint '+' := by decide
    rw [pyInt, asciiForm_ascii unicode ascii, stripped_eq noBlank]
    simp only [if_neg isMinus, if_true, unsigned, Option.map_some]
    rfl

/-- A padded number is read back. -/
theorem pyInt_zeroPadded (width : Nat) (i : Int) :
    pyInt unicode 10 (zeroPadded width i) = some i := by
  simp only [zeroPadded]
  split
  case isTrue negative =>
    obtain ⟨ds, isText, notEmpty, small, value⟩ := padded_digits
      (width - 1 - (decimalNat i.natAbs).length) i.natAbs
    rw [isText, (pyInt_digits unicode (by decide) small notEmpty).2, value]
    congr 1
    omega
  case isFalse nonneg =>
    obtain ⟨ds, isText, notEmpty, small, value⟩ := padded_digits
      (width - (decimalNat i.natAbs).length) i.natAbs
    rw [isText, (pyInt_digits unicode (by decide) small notEmpty).1, value]
    congr 1
    omega

theorem pyInt_decimal (i : Int) : pyInt unicode 10 (decimal i) = some i := by
  have unpadded : decimal i = zeroPadded 0 i := by
    simp [decimal, zeroPadded]
  rw [unpadded, pyInt_zeroPadded]

/-- A text in which the first character of the pattern does not occur is kept. -/
theorem without_eq {pattern text : PyStr} {c : CodePoint} (isHead : pattern.head? = some c)
    (absent : c ∉ text) : without pattern 0 text = text := by
  induction text with
  | nil => rfl
  | cons d text ih =>
    have notPrefix : pattern.isPrefixOf (d :: text) = false := by
      cases pattern with
      | nil => cases isHead
      | cons e pattern =>
        cases isHead
        have differs : c ≠ d := fun same => absent (same ▸ List.mem_cons_self)
        simp [List.isPrefixOf, differs]
    rw [without, notPrefix, ih fun member => absent (List.mem_cons_of_mem _ member)]
    rfl

/-- The canonical text of a UUID is read back. -/
theorem uuidOf_uuidStr (id : Uuid) : uuidOf unicode (uuidStr id) = some id := by
  have absent : ∀ c, c ∈ uuidStr id → c ≠ codePoint 'u' ∧ isBrace c = false := by
    intro c member
    cases uuidStr_char member with
    | inl isHyphen =>
      rw [isHyphen]
      decide
    | inr isDigit =>
      have digits := hexDigit_val isDigit
      have brace : isBrace c = false := by
        simp only [isBrace, decide_eq_false_iff_not, Fin.ext_iff]
        have isBrace : (codePoint '{').val = 123 := by decide
        have close : (codePoint '}').val = 125 := by decide
        omega
      constructor
      · intro isU
        rw [isU] at digits
        revert digits
        decide
      · exact brace
  have noU : codePoint 'u' ∉ uuidStr id := fun member => (absent _ member).1 rfl
  have hex : ∃ ds : List Nat, uuidHex id = ds.map digit ∧ (∀ d ∈ ds, d < 16) ∧ ds ≠ [] := by
    refine ⟨(List.range 32).map fun position => id.toNat / 16 ^ (31 - position) % 16,
      ?_, ?_, by simp⟩
    · rw [List.map_map]
      rfl
    · intro d member
      obtain ⟨_, -, rfl⟩ := List.mem_map.mp member
      exact Nat.mod_lt _ (by decide)
  obtain ⟨ds, isHex, small, notEmpty⟩ := hex
  have value : valueAfter 16 nibble 0 (ds.map digit) = id.toNat := by
    rw [← isHex, valueAfter_uuidHex]
  have read := (pyInt_digits unicode (le_refl 16) small notEmpty).1
  rw [value, ← isHex] at read
  unfold uuidOf
  have noUrn : without (py "urn:") 0 (uuidStr id) = uuidStr id := without_eq rfl noU
  have noLabel : without (py "uuid:") 0 (uuidStr id) = uuidStr id := without_eq rfl noU
  have noBrace : stripped isBrace (uuidStr id) = uuidStr id :=
    stripped_eq fun c member => (absent c member).2
  simp only [noUrn, noLabel, noBrace, uuidStr_digits, length_uuidHex, read, ne_eq,
    not_true_eq_false, if_false]
  have bounds : 0 ≤ (id.toNat : Int) ∧ (id.toNat : Int) < 2 ^ 128 := by
    have bound := id.isLt
    omega
  rw [if_pos bounds]
  congr 1
  exact BitVec.eq_of_toNat_eq (by simp)

end Reading

end RngGamePlatform.Encoding
