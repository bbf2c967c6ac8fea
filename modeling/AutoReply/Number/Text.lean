import AutoReply.Number.Shortest

/-!
Numbers as text: the shortest positional form, and forms with a fixed count of places.
-/

namespace AutoReply.Number

def digitsOf (number : Nat) : List Char :=
  Nat.toDigits 10 number

def Decimal.positional (decimal : Decimal) : List Char :=
  let digits := digitsOf decimal.digits
  if 0 ≤ decimal.exponent then
    if decimal.digits = 0 then ['0']
    else digits ++ List.replicate decimal.exponent.toNat '0'
  else
    let places := (-decimal.exponent).toNat
    let padded := List.replicate (places + 1 - digits.length) '0' ++ digits
    padded.take (padded.length - places) ++ '.' :: padded.drop (padded.length - places)

def integerText (number : Int) : List Char :=
  if number < 0 then '-' :: digitsOf number.natAbs else digitsOf number.natAbs

/-- Writes a decimal with a point or with an exponent: a point from five zeros behind it to sixteen
digits before it. -/
def Decimal.compact (decimal : Decimal) : List Char :=
  let digits := digitsOf decimal.digits
  let point := (digits.length : Int) + decimal.exponent
  if decimal.digits = 0 then ['0', '.', '0']
  else if 0 ≤ decimal.exponent ∧ point ≤ 16 then decimal.positional ++ ['.', '0']
  else if -5 < point ∧ point ≤ 16 then decimal.positional
  else
    let fraction := if digits.length = 1 then [] else '.' :: digits.drop 1
    digits.take 1 ++ fraction ++ 'e' :: integerText (point - 1)

/-- A quotient with a fixed count of places, rounded to nearest, ties to even. -/
def fixedRatio (numerator denominator places : Nat) : List Char :=
  let rounded := roundHalfEven (numerator * tenTo places) denominator
  if places = 0 then digitsOf rounded
  else Decimal.positional ⟨rounded, -(places : Int)⟩

namespace Binary64

def signed (negative : Bool) (text : List Char) : List Char :=
  if negative then '-' :: text else text

def shown : Binary64 → List Char
  | notANumber => "NaN".toList
  | infinite negative => signed negative "inf".toList
  | finite negative place => signed negative (shortest place).positional

/-- The fewest digits that read back, with an exponent when the point would be far off. -/
def compact : Binary64 → List Char
  | notANumber => "NaN".toList
  | infinite negative => signed negative "inf".toList
  | finite negative place => signed negative (shortest place).compact

def fixed (places : Nat) : Binary64 → List Char
  | notANumber => "NaN".toList
  | infinite negative => signed negative "inf".toList
  | finite negative place => signed negative (fixedRatio (units place) unitsInOne places)

end Binary64

end AutoReply.Number
