import AutoReply.Number.Binary64

/-!
Reading numbers from text: whole numbers, and decimal numbers rounded to the nearest `Binary64`.
-/

namespace AutoReply.Number

def digitValue (digit : Char) : Nat :=
  digit.toNat - 48

def ofDigits (value : Nat) (digits : List Char) : Nat :=
  digits.foldl (fun total digit => total * 10 + digitValue digit) value

def natural? (text : List Char) : Option Nat :=
  let digits := match text with
    | '+' :: rest => rest
    | other => other
  if !digits.isEmpty && digits.all Char.isDigit then some (ofDigits 0 digits) else none

def wordCount : Nat := 0x10000000000000000

def word64? (text : List Char) : Option Nat :=
  (natural? text).filter (· < wordCount)

def integer? : List Char → Option Int
  | '-' :: rest =>
      if !rest.isEmpty && rest.all Char.isDigit then some (-(ofDigits 0 rest : Int)) else none
  | text => (natural? text).map Int.ofNat

def tenTo (exponent : Nat) : Nat :=
  Nat.pow 10 exponent

def digitCount (number : Nat) : Nat :=
  (Nat.toDigits 10 number).length

namespace Binary64

def ofDecimal (negative : Bool) (digits : Nat) (exponent : Int) : Binary64 :=
  if digits = 0 then ofRatio negative 0 1
  else if 400 < exponent + digitCount digits then .infinite negative
  else if exponent + digitCount digits < -400 then ofRatio negative 0 1
  else if 0 ≤ exponent then ofRatio negative (digits * tenTo exponent.toNat) 1
  else ofRatio negative digits (tenTo (-exponent).toNat)

/-- The power of ten at the end of a number: nothing, or `e` and a signed whole number. -/
def exponent? : List Char → Option Int
  | [] => some 0
  | mark :: rest => if mark = 'e' || mark = 'E' then integer? rest else none

/-- Digits with an optional point among or beside them, then an optional exponent. -/
def unsigned? (negative : Bool) (text : List Char) : Option Binary64 :=
  let whole := text.takeWhile Char.isDigit
  let rest := text.dropWhile Char.isDigit
  let (fraction, rest) := match rest with
    | '.' :: rest => (rest.takeWhile Char.isDigit, rest.dropWhile Char.isDigit)
    | other => ([], other)
  if whole.isEmpty && fraction.isEmpty then none
  else (exponent? rest).map fun exponent =>
    ofDecimal negative (ofDigits 0 (whole ++ fraction)) (exponent - fraction.length)

def magnitude? (negative : Bool) (text : List Char) : Option Binary64 :=
  match String.ofList (text.map Char.toLower) with
  | "inf" => some (.infinite negative)
  | "infinity" => some (.infinite negative)
  | "nan" => some .notANumber
  | _ => unsigned? negative text

def ofText? : List Char → Option Binary64
  | '-' :: rest => magnitude? true rest
  | '+' :: rest => magnitude? false rest
  | text => magnitude? false text

end Binary64

end AutoReply.Number
