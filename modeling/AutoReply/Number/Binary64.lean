/-!
Binary floating-point numbers with 53 significant bits, rounded to nearest, ties to even. A finite
magnitude is known by its place among all finite magnitudes, and every operation rounds the exact
result once.
-/

namespace AutoReply.Number

/-- The highest of the 53 bits of a significand, which all but the smallest magnitudes have. -/
def leadingBit : Nat := 0x10000000000000

def magnitudeCount : Nat := 2047 * leadingBit

/-- The finite magnitudes are multiples of one `unitsInOne`-th. -/
def unitsInOne : Nat := Nat.pow 2 1074

/-- `place` numbers the finite magnitudes in ascending order, from zero on. -/
inductive Binary64
  | notANumber
  | infinite (negative : Bool)
  | finite (negative : Bool) (place : Fin magnitudeCount)
  deriving DecidableEq

def significand (place : Nat) : Nat :=
  if place < 2 * leadingBit then place else leadingBit + place % leadingBit

def scale (place : Nat) : Nat :=
  if place < 2 * leadingBit then 0 else place / leadingBit - 1

/-- The distance from the magnitude at a place to the next one, in units. -/
def spacing (place : Nat) : Nat :=
  Nat.pow 2 (scale place)

def units (place : Nat) : Nat :=
  significand place * spacing place

def roundHalfEven (numerator denominator : Nat) : Nat :=
  let whole := numerator / denominator
  let rest := numerator % denominator
  if denominator < 2 * rest || (2 * rest == denominator && whole % 2 == 1) then whole + 1
  else whole

/-- The place of the magnitude nearest to a quotient; `magnitudeCount` or more for a quotient that
rounds beyond all of them. -/
def nearestPlace (numerator denominator : Nat) : Nat :=
  let scaled := numerator * unitsInOne
  let shift := Nat.log2 (scaled / denominator) + 1 - 53
  shift * leadingBit + roundHalfEven scaled (denominator * Nat.pow 2 shift)

namespace Binary64

def ofRatio (negative : Bool) (numerator denominator : Nat) : Binary64 :=
  if bound : nearestPlace numerator denominator < magnitudeCount then
    .finite negative ⟨nearestPlace numerator denominator, bound⟩
  else .infinite negative

def ofNat (number : Nat) : Binary64 :=
  ofRatio false number 1

def signedUnits (negative : Bool) (place : Nat) : Int :=
  if negative then -(units place : Int) else units place

def negate : Binary64 → Binary64
  | notANumber => notANumber
  | infinite negative => infinite !negative
  | finite negative place => finite (!negative) place

def add : Binary64 → Binary64 → Binary64
  | finite negative place, finite otherNegative otherPlace =>
      let sum := signedUnits negative place + signedUnits otherNegative otherPlace
      if sum = 0 then ofRatio (negative && otherNegative) 0 1
      else ofRatio (sum < 0) sum.natAbs unitsInOne
  | infinite negative, infinite otherNegative =>
      if negative = otherNegative then infinite negative else notANumber
  | infinite negative, finite _ _ => infinite negative
  | finite _ _, infinite negative => infinite negative
  | notANumber, _ => notANumber
  | _, notANumber => notANumber

def subtract (left right : Binary64) : Binary64 :=
  add left right.negate

def multiply : Binary64 → Binary64 → Binary64
  | finite negative place, finite otherNegative otherPlace =>
      ofRatio (negative != otherNegative) (units place * units otherPlace)
        (unitsInOne * unitsInOne)
  | infinite negative, infinite otherNegative => infinite (negative != otherNegative)
  | infinite negative, finite otherNegative place =>
      if place.val = 0 then notANumber else infinite (negative != otherNegative)
  | finite negative place, infinite otherNegative =>
      if place.val = 0 then notANumber else infinite (negative != otherNegative)
  | notANumber, _ => notANumber
  | _, notANumber => notANumber

def divide : Binary64 → Binary64 → Binary64
  | finite negative place, finite otherNegative otherPlace =>
      if otherPlace.val = 0 then
        if place.val = 0 then notANumber else infinite (negative != otherNegative)
      else ofRatio (negative != otherNegative) (units place) (units otherPlace)
  | infinite _, infinite _ => notANumber
  | infinite negative, finite otherNegative _ => infinite (negative != otherNegative)
  | finite negative _, infinite otherNegative => ofRatio (negative != otherNegative) 0 1
  | notANumber, _ => notANumber
  | _, notANumber => notANumber

def round : Binary64 → Binary64
  | finite negative place =>
      ofRatio negative ((2 * units place + unitsInOne) / (2 * unitsInOne)) 1
  | other => other

def isWhole : Binary64 → Bool
  | finite _ place => units place % unitsInOne == 0
  | _ => false

def signBit (negative : Bool) : Nat :=
  if negative then 0x8000000000000000 else 0

def bits : Binary64 → Nat
  | notANumber => 0x7FF8000000000000
  | infinite negative => signBit negative + magnitudeCount
  | finite negative place => signBit negative + place

end Binary64

end AutoReply.Number
