import AutoReply.Pattern.ClassName
import AutoReply.Pattern.Flags

/-!
What follows a backslash in a pattern.
-/

namespace AutoReply.Pattern.Escape

open AutoReply.Text

def dropComment (text : List Char) : List Char :=
  (text.dropWhile (· != '\n')).drop 1

/-- Passes over blanks and comments; every comment shortens the text, which bounds `fuel`. -/
def dropGaps : Nat → List Char → List Char
  | 0, text => text
  | fuel + 1, text =>
      match dropBlanks text with
      | '#' :: rest => dropGaps fuel (dropComment rest)
      | rest => rest

def gap (flags : Flags) (text : List Char) : List Char :=
  if flags.verbose then dropGaps (text.length + 1) text else text

def hexDigit? (digit : Char) : Option Nat :=
  if digit.isDigit then some (digit.toNat - 48)
  else if 'a' ≤ digit ∧ digit ≤ 'f' then some (digit.toNat - 87)
  else if 'A' ≤ digit ∧ digit ≤ 'F' then some (digit.toNat - 55)
  else none

def scalar? (value : Nat) : Option Char :=
  if value.isValidChar then some (Char.ofNat value) else none

/-- The character of a number of `count` hexadecimal digits, the first digits of which make up
`value`. -/
def hexDigits? (flags : Flags) : Nat → Nat → List Char → Option (Char × List Char)
  | 0, value, text => (scalar? value).map fun character => (character, text)
  | count + 1, value, text =>
      match text with
      | [] => none
      | digit :: rest =>
          (hexDigit? digit).bind fun next =>
            hexDigits? flags count (value * 16 + next) (gap flags rest)

/-- Hexadecimal digits up to a closing brace; `some` value after at least one digit. -/
def hexBrace? (flags : Flags) : Nat → Option Nat → List Char → Option (Char × List Char)
  | 0, _, _ => none
  | fuel + 1, value, text =>
      match text with
      | [] => none
      | '\x7d' :: rest => value.bind scalar? |>.map fun character => (character, gap flags rest)
      | digit :: rest =>
          (hexDigit? digit).bind fun next =>
            hexBrace? flags fuel (some (value.getD 0 * 16 + next)) (gap flags rest)

def hex? (flags : Flags) (count : Nat) (text : List Char) : Option (Letter × List Char) :=
  match gap flags text with
  | '\x7b' :: rest =>
      let rest := gap flags rest
      (hexBrace? flags (rest.length + 1) none rest).map fun read => (⟨read.1, false⟩, read.2)
  | rest => (hexDigits? flags count 0 rest).map fun read => (⟨read.1, count == 2⟩, read.2)

def braceName? (flags : Flags) : Nat → List Char → Option (List Char × List Char)
  | 0, _ => none
  | fuel + 1, text =>
      match text with
      | [] => none
      | '\x7d' :: rest => some ([], rest)
      | character :: rest =>
          (braceName? flags fuel (gap flags rest)).map fun read => (character :: read.1, read.2)

def splitUnequal : List Char → Option (List Char × List Char)
  | [] => none
  | '!' :: '=' :: rest => some ([], rest)
  | character :: rest =>
      (splitUnequal rest).map fun sides => (character :: sides.1, sides.2)

/-- The set of a name in braces, which may be a kind and a name of that kind. -/
def named? (flags : Flags) (negated : Bool) (name : List Char) : Option CharSet :=
  match splitUnequal name with
  | some (kind, value) => flags.namedClass? (!negated) (ClassName.lookupOf? kind value)
  | none =>
      match (splitFirst ':' name).orElse fun _ => splitFirst '=' name with
      | some (kind, value) => flags.namedClass? negated (ClassName.lookupOf? kind value)
      | none => flags.namedClass? negated (ClassName.lookup? name)

def class? (flags : Flags) (negated : Bool) (text : List Char) : Option (CharSet × List Char) :=
  match gap flags text with
  | [] => none
  | '\\' :: _ => none
  | '\x7b' :: rest => do
      let rest := gap flags rest
      let (name, rest) ← braceName? flags (rest.length + 1) rest
      let set ← named? flags negated name
      some (set, rest)
  | letter :: rest =>
      (flags.namedClass? negated (ClassName.lookup? [letter])).map fun set => (set, gap flags rest)

/-- The side of a word named in braces behind `\b`; a brace that cannot begin such a name is left
alone. -/
def wordSide? (flags : Flags) (text : List Char) : Option (WordSide × List Char) :=
  let isNamePart := fun character : Char => character.isAlpha || character = '-'
  match text with
  | '\x7b' :: rest =>
      match gap flags rest with
      | [] => none
      | first :: more =>
          if !isNamePart first then some (.boundary, text)
          else do
            let (name, rest) ← braceName? flags ((first :: more).length + 1) (first :: more)
            match String.ofList name with
            | "start" => some (.start, rest)
            | "end" => some (.ending, rest)
            | "start-half" => some (.startHalf, rest)
            | "end-half" => some (.endingHalf, rest)
            | _ => none
  | _ => some (.boundary, text)

/-- Characters that stand for themselves behind a backslash: all of ASCII apart from letters,
digits and angles. -/
def isPlain (character : Char) : Bool :=
  character.toNat < 128 && !character.isAlphanum && character != '<' && character != '>'

def read? (flags : Flags) : List Char → Option (Primitive × List Char)
  | [] => none
  | mark :: rest =>
      let plain := fun character : Char => some (Primitive.letter ⟨character, false⟩, rest)
      let check := fun assertion : Assertion => some (Primitive.check assertion, rest)
      match mark with
      | 'x' => (hex? flags 2 rest).map fun read => (.letter read.1, read.2)
      | 'u' => (hex? flags 4 rest).map fun read => (.letter read.1, read.2)
      | 'U' => (hex? flags 8 rest).map fun read => (.letter read.1, read.2)
      | 'p' => (class? flags false rest).map fun read => (.set read.1, read.2)
      | 'P' => (class? flags true rest).map fun read => (.set read.1, read.2)
      | 'a' => plain '\x07'
      | 'f' => plain '\x0c'
      | 't' => plain '\t'
      | 'n' => plain '\n'
      | 'r' => plain '\r'
      | 'v' => plain '\x0b'
      | 'A' => check .textStart
      | 'z' => check .textEnd
      | 'B' => check (.word .inside flags.wordSet)
      | '<' => check (.word .start flags.wordSet)
      | '>' => check (.word .ending flags.wordSet)
      | 'b' => (wordSide? flags rest).map fun read =>
          (.check (.word read.1 flags.wordSet), read.2)
      | _ =>
          if mark = 'd' || mark = 's' || mark = 'w' || mark = 'D' || mark = 'S' || mark = 'W' then
            (flags.letterClass? mark).map fun set => (.set set, rest)
          else if isPlain mark then plain mark
          else none

end AutoReply.Pattern.Escape
