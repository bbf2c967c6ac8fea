import AutoReply.Number.Reading
import AutoReply.Toml.Scan
import AutoReply.Time.Calendar

/-!
Numbers, truth values, dates and times.
-/

namespace AutoReply.Toml

open AutoReply.Number AutoReply.Time Scan

/-- The digits of a number; a single underscore may stand between two of them. -/
def digitRun (isDigit : Char → Bool) : Scan (List Char) := do
  let run ← takeWhile fun character => isDigit character || character == '_'
  let groups := Text.splitWhere (· == '_') run
  guard (groups.all fun group => !group.isEmpty)
  return groups.flatten

def sign : Scan Bool := do
  if ← accept ['-'] then return true
  let _ ← accept ['+']
  return false

def wholePart : Scan (List Char) := do
  if ← accept ['0'] then return ['0']
  digitRun Char.isDigit

def fitsWord (number : Int) : Bool :=
  -0x8000000000000000 ≤ number && number < 0x8000000000000000

def digitOfBase (base : Nat) (character : Char) : Bool :=
  let value :=
    if character.isDigit then character.toNat - 48
    else if 'a' ≤ character ∧ character ≤ 'f' then character.toNat - 87
    else if 'A' ≤ character ∧ character ≤ 'F' then character.toNat - 55
    else base
  value < base

def valueOfBase (base : Nat) (digits : List Char) : Nat :=
  digits.foldl (fun value digit =>
    value * base +
      (if digit.isDigit then digit.toNat - 48 else digit.toLower.toNat - 87)) 0

def basedNumber (base : Nat) : Scan Int := do
  let number : Int := valueOfBase base (← digitRun (digitOfBase base))
  guard (fitsWord number)
  return number

def integer : Scan Int := do
  if ← accept "0x".toList then basedNumber 16
  else if ← accept "0o".toList then basedNumber 8
  else if ← accept "0b".toList then basedNumber 2
  else
    let negative ← sign
    let digits ← wholePart
    let number : Int := ofDigits 0 digits
    let number := if negative then -number else number
    guard (fitsWord number)
    return number

def places : Scan (List Char) := do
  if ← accept ['.'] then digitRun Char.isDigit else return []

def exponent : Scan (Option Int) := do
  let mark ← peek
  if mark == some 'e' || mark == some 'E' then
    dropCount 1
    let negative ← sign
    let number : Int := ofDigits 0 (← digitRun Char.isDigit)
    return some (if negative then -number else number)
  else return none

/-- A number with places or an exponent; one that is too great is refused. -/
def decimal : Scan Binary64 := do
  let negative ← sign
  let whole ← wholePart
  let fraction ← places
  let power ← exponent
  guard (!fraction.isEmpty || power.isSome)
  let number := Binary64.ofDecimal negative (ofDigits 0 (whole ++ fraction))
    (power.getD 0 - fraction.length)
  match number with
  | .infinite false => failure
  | _ => return number

def specialNumber : Scan Binary64 := do
  let negative ← sign
  if ← accept "inf".toList then return .infinite negative
  expect "nan".toList
  return .notANumber

def flag : Scan Bool := do
  if ← accept "true".toList then return true
  expect "false".toList
  return false

def fixedNumber (count least most : Nat) : Scan Nat := fun text =>
  let digits := text.take count
  let number := ofDigits 0 digits
  if digits.length = count && digits.all Char.isDigit && least ≤ number && number ≤ most then
    some (number, text.drop count)
  else none

def date : Scan Unit := do
  let year ← fixedNumber 4 0 9999
  expect ['-']
  let month ← fixedNumber 2 1 12
  expect ['-']
  let _ ← fixedNumber 2 1 (daysInMonth year month)

def timeOfDay : Scan Unit := do
  let _ ← fixedNumber 2 0 23
  expect [':']
  let _ ← fixedNumber 2 0 59
  expect [':']
  let _ ← fixedNumber 2 0 60
  if ← accept ['.'] then
    let fraction ← takeWhile Char.isDigit
    guard (!fraction.isEmpty)

def offset : Scan Unit := do
  let mark ← peek
  if mark == some 'Z' || mark == some 'z' then dropCount 1
  else if mark == some '+' || mark == some '-' then
    dropCount 1
    let _ ← fixedNumber 2 0 23
    expect [':']
    let _ ← fixedNumber 2 0 59

def dateOrTime : Scan Unit := do
  if (← optional date).isSome then
    let _ ← optional do
      let mark ← next
      guard (mark == 'T' || mark == 't' || mark == ' ')
      timeOfDay
      offset
  else timeOfDay

end AutoReply.Toml
