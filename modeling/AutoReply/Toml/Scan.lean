import AutoReply.Text.Parts

/-!
Reading a text from the front: each step takes characters away or fails.
-/

namespace AutoReply.Toml

abbrev Scan := StateT (List Char) Option

namespace Scan

def peek : Scan (Option Char) := fun text => some (text.head?, text)

def next : Scan Char
  | [] => none
  | character :: rest => some (character, rest)

def dropCount (count : Nat) : Scan Unit := fun text => some ((), text.drop count)

def takeWhile (test : Char → Bool) : Scan (List Char) := fun text =>
  some (text.takeWhile test, text.dropWhile test)

def accept (word : List Char) : Scan Bool := fun text =>
  match Text.afterStart word text with
  | some rest => some (true, rest)
  | none => some (false, text)

def expect (word : List Char) : Scan Unit := do
  if ← accept word then return () else failure

end Scan

open Scan

def isBlank (character : Char) : Bool :=
  character == ' ' || character == '\t'

def blanks : Scan Unit := do
  let _ ← takeWhile isBlank

def lineEnd : Scan Bool := do
  if ← accept ['\n'] then return true else accept ['\r', '\n']

/-- Characters that may stand as they are: no control characters but the tab. -/
def isPlain (character : Char) : Bool :=
  character == '\t' || (0x20 ≤ character.toNat && character.toNat != 0x7F)

def comment : Scan Unit := do
  if ← accept ['#'] then
    let _ ← takeWhile isPlain

def gap : Nat → Scan Unit
  | 0 => return ()
  | fuel + 1 => do
      blanks
      comment
      if ← lineEnd then gap fuel

def lineRest : Scan Unit := do
  blanks
  comment
  match ← peek with
  | none => return ()
  | some _ => guard (← lineEnd)

end AutoReply.Toml
