import AutoReply.Number.Reading
import AutoReply.Text.Blank
import AutoReply.Time.Calendar
import AutoReply.Time.Timestamp

/-!
The RFC 3339 text of a timestamp, and a reader that also accepts blanks around the parts, a blank
for the `T`, and offsets without a colon.
-/

namespace AutoReply.Time

open AutoReply.Text AutoReply.Number

def padStart (width : Nat) (digits : List Char) : List Char :=
  List.replicate (width - digits.length) '0' ++ digits

def paddedNumber (width number : Nat) : List Char :=
  padStart width (Nat.toDigits 10 number)

/-- Four digits; a sign comes first when the year has more digits or lies before year zero. -/
def yearText (year : Int) : List Char :=
  if 0 ≤ year ∧ year ≤ 9999 then paddedNumber 4 year.toNat
  else (if year < 0 then '-' else '+') :: paddedNumber 4 year.natAbs

def fractionText (nanos : Nat) : List Char :=
  if nanos = 0 then []
  else if nanos % 1000000 = 0 then '.' :: paddedNumber 3 (nanos / 1000000)
  else if nanos % 1000 = 0 then '.' :: paddedNumber 6 (nanos / 1000)
  else '.' :: paddedNumber 9 nanos

namespace Timestamp

def toChars (time : Timestamp) : List Char :=
  let date := Date.ofDays (time.seconds / 86400)
  let second := time.secondOfDay.toNat
  let leap := if time.isLeap then 1 else 0
  yearText date.year ++ '-' :: paddedNumber 2 date.month ++ '-' :: paddedNumber 2 date.day ++
    'T' :: paddedNumber 2 (second / 3600) ++ ':' :: paddedNumber 2 (second / 60 % 60) ++
    ':' :: paddedNumber 2 (second % 60 + leap) ++
    fractionText (time.nanos - leap * nanosInSecond) ++ ['Z']

def toText (time : Timestamp) : String :=
  String.ofList time.toChars

def readDigits (most : Nat) (text : List Char) : Option (List Char × List Char) :=
  let digits := (text.take most).takeWhile Char.isDigit
  if digits.isEmpty then none else some (digits, text.drop digits.length)

def readNumber (most : Nat) (text : List Char) : Option (Nat × List Char) :=
  (readDigits most (dropBlanks text)).map fun read => (ofDigits 0 read.1, read.2)

def readYear (text : List Char) : Option (Int × List Char) :=
  match dropBlanks text with
  | '-' :: rest =>
      (readDigits rest.length rest).map fun read => (-(ofDigits 0 read.1 : Int), read.2)
  | '+' :: rest => (readDigits rest.length rest).map fun read => ((ofDigits 0 read.1 : Int), read.2)
  | rest => (readDigits 4 rest).map fun read => ((ofDigits 0 read.1 : Int), read.2)

def readMark (mark : Char) (text : List Char) : Option (List Char) :=
  afterStart [mark] (dropBlanks text)

def readFraction (text : List Char) : Option (Nat × List Char) :=
  match text with
  | '.' :: rest =>
      (readDigits 9 rest).map fun read =>
        (ofDigits 0 read.1 * tenTo (9 - read.1.length), read.2.dropWhile Char.isDigit)
  | rest => some (0, rest)

def readDate (text : List Char) : Option (Date × List Char) := do
  let (year, rest) ← readYear text
  let rest ← readMark '-' rest
  let (month, rest) ← readNumber 2 rest
  let rest ← readMark '-' rest
  let (day, rest) ← readNumber 2 rest
  if Date.isValid ⟨year, month, day⟩ then some (⟨year, month, day⟩, rest) else none

/-- Seconds of the day and nanoseconds; second 60 is the leap second after second 59. -/
def readTime (text : List Char) : Option ((Nat × Nat) × List Char) := do
  let (hour, rest) ← readNumber 2 text
  let rest ← readMark ':' rest
  let (minute, rest) ← readNumber 2 rest
  let rest ← readMark ':' rest
  let (second, rest) ← readNumber 2 rest
  let (nanos, rest) ← readFraction rest
  if 23 < hour || 59 < minute || 60 < second then none
  else
    let leap := if second = 60 then 1 else 0
    some ((hour * 3600 + minute * 60 + second - leap, nanos + leap * nanosInSecond), rest)

def readOffset (text : List Char) : Option (Nat × List Char) :=
  match text with
  | tens :: ones :: rest =>
      if tens.isDigit && ones.isDigit then
        match rest.dropWhile fun mark => mark = ':' || isBlank mark with
        | minuteTens :: minuteOnes :: rest =>
            if minuteTens.isDigit && minuteOnes.isDigit && digitValue minuteTens < 6 then
              some (ofDigits 0 [tens, ones] * 3600 + ofDigits 0 [minuteTens, minuteOnes] * 60, rest)
            else none
        | _ => none
      else none
  | _ => none

def readZone (text : List Char) : Option (Int × List Char) :=
  if (text.take 3).map Char.toUpper = ['U', 'T', 'C'] then some (0, text.drop 3)
  else match text with
    | 'Z' :: rest => some (0, rest)
    | 'z' :: rest => some (0, rest)
    | '+' :: rest => (readOffset rest).map fun read => ((read.1 : Int), read.2)
    | '-' :: rest => (readOffset rest).map fun read => (-(read.1 : Int), read.2)
    | '−' :: rest => (readOffset rest).map fun read => (-(read.1 : Int), read.2)
    | _ => none

def ofChars? (text : List Char) : Option Timestamp := do
  let (date, rest) ← readDate text
  let rest ← match rest with
    | mark :: rest => if mark = 'T' || mark = 't' || mark = ' ' then some rest else none
    | [] => none
  let ((second, nanos), rest) ← readTime rest
  let (offset, rest) ← readZone (dropBlanks rest)
  if !(dropBlanks rest).isEmpty || 86400 ≤ offset || offset ≤ -86400 then none
  else
    let time : Timestamp := ⟨date.toDays * 86400 + second - offset, nanos⟩
    if (Date.ofDays (time.seconds / 86400)).isValid then some time else none

def ofText? (text : String) : Option Timestamp :=
  ofChars? text.toList

end Timestamp

end AutoReply.Time
