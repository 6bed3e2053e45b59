/-
Module: RngGamePlatform.Encoding.Binary64
Purpose: Correctly rounded binary64 quotients of natural numbers, and finite floats
  as the texts that identify them.
Trusted boundary: human-reviewed semantics
Main exports: Binary64, Binary64.ofQuotient, Binary64.times, Binary64.trunc,
  Binary64.nearestTimes, numeral, FloatText, FloatText.integer?
-/
import Mathlib.Data.Nat.Log
import RngGamePlatform.Encoding.Text

namespace RngGamePlatform.Encoding

/-- The nonnegative binary64 number `mantissa * 2 ^ exponent`, away from the
ends of the exponent range. -/
structure Binary64 where
  mantissa : Nat
  exponent : Int
deriving DecidableEq

namespace Binary64

/-- The nearest natural number to a quotient, ties to even. -/
def roundHalfEven (n d : Nat) : Nat :=
  let low := n / d
  let twice := 2 * (n % d)
  if twice < d then low
  else if d < twice then low + 1
  else if low % 2 = 0 then low else low + 1

/-- Round `n / d` to a multiple of `2 ^ exponent`. -/
def roundAt (n d : Nat) (exponent : Int) : Binary64 :=
  let mantissa :=
    if 0 ≤ exponent then roundHalfEven n (d * 2 ^ exponent.toNat)
    else roundHalfEven (n * 2 ^ (-exponent).toNat) d
  ⟨mantissa, exponent⟩

/-- Whether `n / d` has 53 bits or more before the point of the exponent. -/
def fills (n d : Nat) (exponent : Int) : Bool :=
  if 0 ≤ exponent then 2 ^ 52 * (d * 2 ^ exponent.toNat) ≤ n
  else 2 ^ 52 * d ≤ n * 2 ^ (-exponent).toNat

/-- The binary64 number nearest to `n / d`: the mantissa has 53 bits. -/
def ofQuotient (n d : Nat) : Binary64 :=
  if n = 0 then ⟨0, 0⟩
  else
    let guess : Int := (Nat.log2 n : Int) - Nat.log2 d - 52
    if fills n d guess then roundAt n d guess else roundAt n d (guess - 1)

/-- The rounded product with a natural number. -/
def times (x : Binary64) (k : Nat) : Binary64 :=
  if 0 ≤ x.exponent then ofQuotient (x.mantissa * k * 2 ^ x.exponent.toNat) 1
  else ofQuotient (x.mantissa * k) (2 ^ (-x.exponent).toNat)

/-- The integer part. -/
def trunc (x : Binary64) : Nat :=
  if 0 ≤ x.exponent then x.mantissa * 2 ^ x.exponent.toNat
  else x.mantissa / 2 ^ (-x.exponent).toNat

/-- The integer nearest to the product with a natural number, ties to even. -/
def nearestTimes (x : Binary64) (k : Nat) : Nat :=
  if 0 ≤ x.exponent then x.mantissa * k * 2 ^ x.exponent.toNat
  else roundHalfEven (x.mantissa * k) (2 ^ (-x.exponent).toNat)

/-- A product that binary64 rounds below the exact one. -/
example : ((ofQuotient 1001000 1000000).times 1000).trunc = 1000 := by decide +kernel

end Binary64

/-! Floats as texts. -/

/-- The characters of a number. -/
def numeral (c : CodePoint) : Bool :=
  c.val = 43 ∨ c.val = 45 ∨ c.val = 46 ∨ c.val = 101 ∨ 48 ≤ c.val ∧ c.val ≤ 57

def isDigit (c : CodePoint) : Bool := 48 ≤ c.val ∧ c.val ≤ 57

/-- The number of decimal digits. -/
def digitsValue (text : PyStr) : Nat :=
  text.foldl (fun value c => 10 * value + (c.val - 48)) 0

/-- The power of ten after the digits of a float. -/
def exponentValue : PyStr → Option Int
  | [] => some 0
  | mark :: sign :: digits =>
      if mark = codePoint 'e' ∧ digits ≠ [] ∧ digits.all isDigit then
        if sign = codePoint '+' then some (digitsValue digits)
        else if sign = codePoint '-' then some (-digitsValue digits)
        else none
      else none
  | _ => none

/-- The sign, the digits and the power of ten that the text of a float gives; none for
another text. -/
def floatParts (text : PyStr) : Option (Bool × Nat × Int) :=
  let negative := text.head? = some (codePoint '-')
  let body := if negative then text.tail else text
  let whole := body.takeWhile isDigit
  let rest := body.dropWhile isDigit
  let fraction := if rest.head? = some (codePoint '.') then rest.tail.takeWhile isDigit else []
  let exponentPart := if rest.head? = some (codePoint '.') then rest.tail.dropWhile isDigit else rest
  if whole = [] then none
  else (exponentValue exponentPart).map fun exponent =>
    (decide negative, digitsValue (whole ++ fraction), exponent - fraction.length)

/-- A finite float, as the text that `repr` gives it: no two floats share one, and the
text of an integer is no float's. -/
structure FloatText where
  text : PyStr
  numerals : ∀ c ∈ text, numeral c = true
  marked : ∃ c ∈ text, c = codePoint '.' ∨ c = codePoint 'e'
  shape : (floatParts text).isSome
deriving DecidableEq

/-- The integer that a float equals. -/
def FloatText.integer? (value : FloatText) : Option Int :=
  match floatParts value.text with
  | none => none
  | some (negative, digits, exponent) =>
      let x :=
        if 0 ≤ exponent then Binary64.ofQuotient (digits * 10 ^ exponent.toNat) 1
        else Binary64.ofQuotient digits (10 ^ (-exponent).toNat)
      let whole : Bool :=
        0 ≤ x.exponent ∨ x.mantissa % 2 ^ (-x.exponent).toNat = 0
      if whole then some (if negative then -x.trunc else x.trunc) else none

example : (floatParts (py "-0.0"), floatParts (py "1.5e-07")) =
    (some (true, 0, -1), some (false, 15, -8)) := by decide

end RngGamePlatform.Encoding
