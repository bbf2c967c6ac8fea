import AutoReply.Toml.Scan

/-!
Texts and keys: in double quotes with escapes, in single quotes as they are, each on one line or on
many.
-/

namespace AutoReply.Toml

open Scan

def hexValue? (digit : Char) : Option Nat :=
  if digit.isDigit then some (digit.toNat - 48)
  else if 'a' ≤ digit ∧ digit ≤ 'f' then some (digit.toNat - 87)
  else if 'A' ≤ digit ∧ digit ≤ 'F' then some (digit.toNat - 55)
  else none

/-- A character by its number, written with a fixed count of hexadecimal digits. -/
def numberedCharacter (count : Nat) : Scan Char := fun text =>
  let digits := text.take count
  if digits.length < count then none
  else match digits.mapM hexValue? with
    | none => none
    | some values =>
        let number := values.foldl (fun value digit => value * 16 + digit) 0
        if number.isValidChar then some (Char.ofNat number, text.drop count) else none

def unescape : Scan Char := do
  match ← next with
  | '"' => return '"'
  | '\\' => return '\\'
  | 'b' => return '\x08'
  | 'f' => return '\x0c'
  | 'n' => return '\n'
  | 'r' => return '\r'
  | 't' => return '\t'
  | 'u' => numberedCharacter 4
  | 'U' => numberedCharacter 8
  | _ => failure

/-- A text in double quotes behind its opening one; `read` holds its characters, last first. -/
def escapedText : Nat → List Char → Scan (List Char)
  | 0, _ => failure
  | fuel + 1, read => do
      match ← next with
      | '"' => return read.reverse
      | '\\' => do
          let character ← unescape
          escapedText fuel (character :: read)
      | character => do
          guard (isPlain character)
          escapedText fuel (character :: read)

def rawText : Scan (List Char) := do
  let inside ← takeWhile fun character => character != '\'' && isPlain character
  expect ['\'']
  return inside

/-- The rest of a line end that a backslash takes away: blanks, the line end, and all blanks and
line ends behind it. -/
def foldedLines : Nat → Scan Unit
  | 0 => return ()
  | fuel + 1 => do
      blanks
      if ← lineEnd then foldedLines fuel

/-- A run of quotation marks inside a text on many lines: fewer than three belong to the text, three
end it, and up to two before those still belong to it. -/
def quoteRun (mark : Char) : Scan (Nat × Bool) := do
  let marks ← takeWhile (· == mark)
  if marks.length < 3 then return (marks.length, false)
  else if marks.length ≤ 5 then return (marks.length - 3, true)
  else failure

/-- A text on many lines behind its opening marks; backslashes escape between double quotes. -/
def manyLines (mark : Char) : Nat → List Char → Scan (List Char)
  | 0, _ => failure
  | fuel + 1, read => do
      if ← lineEnd then manyLines mark fuel ('\n' :: read)
      else
        let character ← peek
        if character == some mark then
          let (count, ends) ← quoteRun mark
          let read := List.replicate count mark ++ read
          if ends then return read.reverse else manyLines mark fuel read
        else if mark == '"' && character == some '\\' then
          dropCount 1
          let folded ← optional do
            blanks
            guard (← lineEnd)
            foldedLines fuel
          match folded with
          | some () => manyLines mark fuel read
          | none => do
              let character ← unescape
              manyLines mark fuel (character :: read)
        else
          let character ← next
          guard (isPlain character)
          manyLines mark fuel (character :: read)

def fuelFor : Scan Nat := fun text => some (2 * text.length + 2, text)

/-- The text behind three opening marks; a line end right behind them is left out. -/
def manyLinesBody (mark : Char) : Scan (List Char) := do
  let _ ← lineEnd
  manyLines mark (← fuelFor) []

def lineText : Scan (List Char) := do
  match ← next with
  | '"' => escapedText (← fuelFor) []
  | '\'' => rawText
  | _ => failure

def anyText : Scan String := do
  let read ←
    if ← accept ['"', '"', '"'] then manyLinesBody '"'
    else if ← accept ['\'', '\'', '\''] then manyLinesBody '\''
    else lineText
  return String.ofList read

def isKeyCharacter (character : Char) : Bool :=
  character.isAlphanum || character == '_' || character == '-'

def simpleKey : Scan String := do
  let first ← peek
  if first == some '"' || first == some '\'' then return String.ofList (← lineText)
  else
    let name ← takeWhile isKeyCharacter
    guard (!name.isEmpty)
    return String.ofList name

def maxDepth : Nat := 80

def keyParts : Nat → Scan (List String)
  | 0 => failure
  | fuel + 1 => do
      blanks
      let part ← simpleKey
      blanks
      if ← accept ['.'] then return part :: (← keyParts fuel) else return [part]

def key : Scan (List String) := keyParts (maxDepth - 1)

end AutoReply.Toml
