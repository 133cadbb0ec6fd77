import Casework.Json.Basic
import Casework.Text.Numeral

set_option autoImplicit false

namespace Casework.Json

open Casework.Text

def nearestDouble (value : Nat) : Nat :=
  let step := Nat.pow 2 (value.log2 - 52)
  let below := value / step
  let twice := 2 * (value % step)
  if twice < step ∨ (twice = step ∧ below % 2 = 0) then below * step else (below + 1) * step

-- The least number that rounds to no double: half a step above the largest.
def doubleLimit : Nat := (1 <<< 1024) - (1 <<< 970)

-- A number counts as the digits that fit into 64 bits times a power of ten. Both are rounded to
-- doubles and multiplied, so that a number just below the range of doubles may be out of it.
structure Scaled where
  significand : Nat
  power : Int
deriving DecidableEq, Repr

namespace Scaled

-- The number that `digits` make after a significand. Where they stop fitting, each is a place.
def ofWhole : Nat → List Char → Scaled
  | significand, [] => ⟨significand, 0⟩
  | significand, digit :: digits =>
    let longer := Nat.ofDigitChars 10 [digit] significand
    if longer ≤ largestWord then ofWhole longer digits
    else ⟨significand, digits.length + 1⟩

def withFraction (number : Scaled) : List Char → Scaled
  | [] => number
  | digit :: digits =>
    let longer := Nat.ofDigitChars 10 [digit] number.significand
    if longer ≤ largestWord then withFraction ⟨longer, number.power - 1⟩ digits else number

def raised (number : Scaled) (power : Int) : Scaled := { number with power := number.power + power }

-- No step on the way to a double leaves the range of doubles.
def isHeld (number : Scaled) : Bool :=
  if number.significand = 0 ∨ number.power < 0 then true
  -- The largest power of ten that is a double.
  else if 308 < number.power then false
  else
    nearestDouble number.significand * nearestDouble (Nat.pow 10 number.power.toNat) < doubleLimit

end Scaled

def readFraction : List Char → Option (List Char × List Char)
  | '.' :: rest =>
    let digits := rest.takeWhile Char.isDigit
    if digits = [] then none else some (digits, rest.drop digits.length)
  | input => some ([], input)

def readExponent (input : List Char) : Option (Option Int × List Char) :=
  match input with
  | mark :: rest =>
    if mark = 'e' ∨ mark = 'E' then
      let (negative, spelled) := match rest with
        | '-' :: spelled => (true, spelled)
        | '+' :: spelled => (false, spelled)
        | spelled => (false, spelled)
      let digits := spelled.takeWhile Char.isDigit
      if digits = [] then none
      else
        let power : Int := Nat.ofDigitChars 10 digits 0
        some (some (if negative then -power else power), spelled.drop digits.length)
    else some (none, input)
  | [] => some (none, [])

def readNumber (negative : Bool) (input : List Char) : Option (Json × List Char) :=
  let digits := input.takeWhile Char.isDigit
  if digits = [] ∨ (digits.head? = some '0' ∧ 1 < digits.length) then none
  else
    (readFraction (input.drop digits.length)).bind fun (fraction, afterFraction) =>
      (readExponent afterFraction).map fun (exponent, after) =>
        let whole := Scaled.ofWhole 0 digits
        let number := (whole.withFraction fraction).raised (exponent.getD 0)
        -- Minus zero is no integer.
        let isInteger := fraction = [] ∧ exponent = none ∧ whole.power = 0 ∧
          (negative → whole.significand ≠ 0)
        let value :=
          if isInteger then
            .integer (if negative then -Int.ofNat whole.significand else whole.significand)
          else if number.isHeld then .real
          else .unfit .real
        (value, after)

end Casework.Json
