import AutoReply.Json.Fault
import AutoReply.Json.Tree

/-!
Reading JSON piece by piece. A reader takes a value from the front of a text and leaves the rest; it
fails with the cause of the fault and its place.
-/

namespace AutoReply.Json

open AutoReply.Number AutoReply.Text

abbrev Rest := List Symbol

inductive Read (α : Type)
  | done (value : α) (rest : Rest)
  | failed (fault : Fault) (rest : Rest)

def Reader (α : Type) := Rest → Read α

namespace Reader

variable {α β : Type}

def pure (value : α) : Reader α := fun rest => .done value rest

def bind (reader : Reader α) (next : α → Reader β) : Reader β := fun rest =>
  match reader rest with
  | .done value rest => next value rest
  | .failed fault rest => .failed fault rest

instance : Monad Reader where
  pure := pure
  bind := bind

def fail (cause : Cause) : Reader α := fun rest => .failed ⟨cause, some ⟨rest, false⟩⟩ rest

def failWithin (cause : Cause) : Reader α := fun rest => .failed ⟨cause, some ⟨rest, true⟩⟩ rest

/-- Fails without a place; the value around it supplies one. -/
def failUnplaced (cause : Cause) : Reader α := fun rest => .failed ⟨cause, none⟩ rest

def liftExcept : Except Cause α → Reader α
  | .ok value => pure value
  | .error cause => failUnplaced cause

def placed (reader : Reader α) : Reader α := fun rest =>
  match reader rest with
  | .failed ⟨cause, none⟩ rest => .failed ⟨cause, some ⟨rest, false⟩⟩ rest
  | other => other

def peek : Reader (Option Symbol) := fun rest => .done rest.head? rest

def drop : Reader Unit := fun rest => .done () rest.tail

def rest : Reader Rest := fun rest => .done rest rest

def leave (rest : Rest) : Reader Unit := fun _ => .done () rest

def isBlank (symbol : Symbol) : Bool :=
  symbol == some ' ' || symbol == some '\n' || symbol == some '\t' || symbol == some '\r'

def dropBlanks : Reader Unit := fun rest => .done () (rest.dropWhile isBlank)

def next : Reader (Option Symbol) := do
  dropBlanks
  peek

def word : List Char → Reader Unit
  | [] => pure ()
  | expected :: others => fun rest =>
      match rest with
      | [] => fail .endInValue rest
      | symbol :: behind =>
          if symbol = some expected then word others behind else failWithin .identExpected rest

end Reader

open Reader

def isDigit (symbol : Symbol) : Bool :=
  symbol.any Char.isDigit

def digits : Reader (List Char) := fun rest =>
  .done ((rest.takeWhile isDigit).filterMap id) (rest.dropWhile isDigit)

inductive Numeral
  | integer (value : Int)
  | real (value : Binary64)

def Numeral.json : Numeral → Json
  | integer value => .integer value
  | real value => .real value

def fraction : Reader (List Char) := do
  match ← peek with
  | some (some '.') =>
      drop
      let read ← digits
      if read.isEmpty then
        match ← peek with
        | some _ => failWithin .invalidNumber
        | none => fail .endInValue
      else return read
  | _ => return []

/-- An optional sign; a minus sign gives `true`. -/
def sign : Reader Bool := do
  match ← peek with
  | some (some '-') => drop; return true
  | some (some '+') => drop; return false
  | _ => return false

/-- The number behind an exponent mark; none without a mark. -/
def exponent : Reader (Option Int) := do
  let mark ← peek
  if mark == some (some 'e') || mark == some (some 'E') then
    drop
    let negative ← sign
    let read ← digits
    if read.isEmpty then
      match ← peek with
      | some _ => failWithin .invalidNumber
      | none => fail .endInValue
    else return some (if negative then -(ofDigits 0 read : Int) else ofDigits 0 read)
  else return none

/-- A whole number of 64 bits stays whole; any other number is rounded. -/
def numeralOf (negative : Bool) (whole places : List Char) (power : Option Int) : Numeral :=
  let number := ofDigits 0 whole
  let rounded := Binary64.ofDecimal negative (ofDigits 0 (whole ++ places))
    (power.getD 0 - places.length)
  if !places.isEmpty || power.isSome then .real rounded
  else if negative then
    if 0 < number && number ≤ 0x8000000000000000 then .integer (-number) else .real rounded
  else if number < wordCount then .integer number
  else .real rounded

def unsigned (negative : Bool) : Reader Numeral := do
  let whole ← digits
  match whole with
  | [] =>
      match ← peek with
      | some _ => failWithin .invalidNumber
      | none => fail .endInValue
  | '0' :: second :: _ =>
      let behind ← rest
      leave ((second :: whole.drop 2).map some ++ behind)
      failWithin .invalidNumber
  | _ =>
      let places ← fraction
      let power ← exponent
      match numeralOf negative whole places power with
      | .real (.infinite _) => fail .numberOutOfRange
      | numeral => return numeral

def numeral : Reader Numeral := do
  match ← peek with
  | some (some '-') => drop; unsigned true
  | _ => unsigned false

def hexValue? (symbol : Symbol) : Option Nat :=
  symbol.bind fun digit =>
    if digit.isDigit then some (digit.toNat - 48)
    else if 'a' ≤ digit ∧ digit ≤ 'f' then some (digit.toNat - 87)
    else if 'A' ≤ digit ∧ digit ≤ 'F' then some (digit.toNat - 55)
    else none

def hexEscape : Reader Nat := fun rest =>
  let four := rest.take 4
  if four.length < 4 then fail .endInString []
  else match four.mapM hexValue? with
    | some values => .done (values.foldl (fun value digit => value * 16 + digit) 0) (rest.drop 4)
    | none => fail .invalidEscape (rest.drop 4)

def pairPart (expected : Char) : Reader Unit := do
  match ← peek with
  | none => fail .endInString
  | some symbol => if symbol = some expected then drop else failWithin .endOfEscape

/-- A character by its number, or by two numbers when it does not fit into sixteen bits. -/
def unicodeEscape : Reader Char := do
  let first ← hexEscape
  if 0xDC00 ≤ first && first ≤ 0xDFFF then fail .loneSurrogate
  else if first < 0xD800 || 0xDBFF < first then return Char.ofNat first
  else
    pairPart '\\'
    pairPart 'u'
    let second ← hexEscape
    if second < 0xDC00 || 0xDFFF < second then fail .loneSurrogate
    else return Char.ofNat ((first - 0xD800) * 0x400 + (second - 0xDC00) + 0x10000)

def shortUnescape? : Char → Option Char
  | '"' => some '"'
  | '\\' => some '\\'
  | '/' => some '/'
  | 'b' => some '\x08'
  | 'f' => some '\x0c'
  | 'n' => some '\n'
  | 'r' => some '\r'
  | 't' => some '\t'
  | _ => none

def unescape : Reader Char := do
  match ← peek with
  | none => fail .endInString
  | some none => failWithin .invalidEscape
  | some (some letter) =>
      if letter = 'u' then
        drop
        unicodeEscape
      else match shortUnescape? letter with
        | some character => drop; return character
        | none => failWithin .invalidEscape

/-- Reads a text behind its opening quotation mark; `read` holds the symbols read, last first. -/
def textBehind : Nat → List Symbol → Reader String
  | 0, _ => fail .endInString
  | fuel + 1, read => do
      match ← peek with
      | none => fail .endInString
      | some (some '"') =>
          drop
          match textOf? read.reverse with
          | some whole => return whole
          | none => fail .invalidCharacter
      | some (some '\\') =>
          drop
          let character ← unescape
          textBehind fuel (some character :: read)
      | some symbol =>
          if symbol.any fun character => character.toNat < 0x20 then
            failWithin .controlCharacterInString
          else
            drop
            textBehind fuel (symbol :: read)

def textBody : Reader String := fun rest => textBehind (rest.length + 1) [] rest

end AutoReply.Json
