import AutoReply.Number.Reading

/-!
The shortest decimal that reads back as a given number.
-/

namespace AutoReply.Number

/-- The number `digits * 10 ^ exponent`. -/
structure Decimal where
  digits : Nat
  exponent : Int
  deriving DecidableEq

/-- Moves trailing zeros from the digits into the exponent; `fuel` bounds their number. -/
def Decimal.strip (fuel : Nat) (decimal : Decimal) : Decimal :=
  match fuel with
  | 0 => decimal
  | fuel + 1 =>
      if decimal.digits ≠ 0 ∧ decimal.digits % 10 = 0 then
        strip fuel ⟨decimal.digits / 10, decimal.exponent + 1⟩
      else decimal

/-- A quarter of a unit is fine enough for the ends of every rounding interval. -/
def quartersInOne : Nat := 4 * unitsInOne

/-- The lower end, in quarters of a unit, of the reals that round to the magnitude at a place. -/
def lowerEnd (place : Nat) : Nat :=
  if significand place = leadingBit ∧ 0 < scale place then 4 * units place - spacing place
  else 4 * units place - 2 * spacing place

def upperEnd (place : Nat) : Nat :=
  4 * units place + 2 * spacing place

def Decimal.quarters (decimal : Decimal) : Nat × Nat :=
  if 0 ≤ decimal.exponent then
    (decimal.digits * tenTo decimal.exponent.toNat * quartersInOne, 1)
  else (decimal.digits * quartersInOne, tenTo (-decimal.exponent).toNat)

/-- The decimal rounds to the magnitude at the place; the ends do so when the significand is
even. -/
def Decimal.roundsTo (place : Nat) (decimal : Decimal) : Bool :=
  let (numerator, denominator) := decimal.quarters
  let lower := lowerEnd place * denominator
  let upper := upperEnd place * denominator
  if significand place % 2 = 0 then lower ≤ numerator && numerator ≤ upper
  else lower < numerator && numerator < upper

def decimalPoint (place : Nat) : Int :=
  (digitCount (units place * tenTo 400 / unitsInOne) : Int) - 400

def quotientAt (place : Nat) (exponent : Int) : Nat × Nat :=
  if 0 ≤ exponent then (units place, unitsInOne * tenTo exponent.toNat)
  else (units place * tenTo (-exponent).toNat, unitsInOne)

/-- The better of the decimals just below and just above a quotient, if they round to the place. -/
def besideQuotient (place : Nat) (exponent : Int) (numerator denominator : Nat) : Option Decimal :=
  let below : Decimal := ⟨numerator / denominator, exponent⟩
  let above : Decimal := ⟨numerator / denominator + 1, exponent⟩
  match below.roundsTo place, above.roundsTo place with
  | true, true => some (if denominator ≤ 2 * (numerator % denominator) then above else below)
  | true, false => some below
  | false, true => some above
  | false, false => none

/-- The best decimal with `length` digits that rounds to the magnitude, if there is one. -/
def candidate (place length : Nat) : Option Decimal :=
  let exponent := decimalPoint place - length
  let quotient := quotientAt place exponent
  besideQuotient place exponent quotient.1 quotient.2

def exactDecimal (place : Nat) : Decimal :=
  ⟨units place * Nat.pow 5 1074, -1074⟩

/-- The decimal with the fewest digits that reads back, the nearest of those. -/
def shortest (place : Nat) : Decimal :=
  if place = 0 then ⟨0, 0⟩
  else
    let found := ((List.range 17).findSome? fun index => candidate place (index + 1)).getD
      (exactDecimal place)
    found.strip 1100

end AutoReply.Number
