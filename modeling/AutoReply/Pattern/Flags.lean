import AutoReply.Pattern.Node

/-!
The switches of a pattern, and what single letters, dots and marks mean under them.
-/

namespace AutoReply.Pattern

open AutoReply.Text

structure Flags where
  ignoreCase : Bool := true
  multiLine : Bool := true
  dotAll : Bool := false
  lazyFirst : Bool := false
  unicode : Bool := true
  anyLineEnd : Bool := false
  verbose : Bool := false
  deriving DecidableEq

/-- A character that a pattern names; `byte` tells that it is written as a byte of two digits. -/
structure Letter where
  character : Char
  byte : Bool := false

/-- What a pattern can name without brackets and parentheses. -/
inductive Primitive
  | letter (letter : Letter)
  | set (set : CharSet)
  | check (assertion : Assertion)

namespace Flags

def switch? (flags : Flags) (letter : Char) (value : Bool) : Option Flags :=
  match letter with
  | 'i' => some { flags with ignoreCase := value }
  | 'm' => some { flags with multiLine := value }
  | 's' => some { flags with dotAll := value }
  | 'U' => some { flags with lazyFirst := value }
  | 'u' => some { flags with unicode := value }
  | 'R' => some { flags with anyLineEnd := value }
  | 'x' => some { flags with verbose := value }
  | _ => none

def fold (flags : Flags) (set : CharSet) : CharSet :=
  if flags.ignoreCase then set.fold else set

/-- Without Unicode, characters beyond ASCII do not count as other cases of a member. -/
def confined (flags : Flags) (set : CharSet) : CharSet :=
  if flags.unicode then set else .both set .asciiOnly

def checked (flags : Flags) (set : CharSet) : Option CharSet :=
  if flags.unicode || set.isAsciiByteSet then some set else none

def letterSet? (flags : Flags) (letter : Letter) : Option CharSet :=
  if letter.byte && !flags.unicode && 128 ≤ letter.character.toNat then none
  else if letter.character.toNat < 128 || flags.unicode then
    some (flags.confined (flags.fold (.single letter.character)))
  else some (.single letter.character)

/-- A letter inside brackets; the whole brackets are folded later. -/
def memberPoint? (flags : Flags) (letter : Letter) : Option Char :=
  if flags.unicode || letter.character.toNat < 128 then some letter.character else none

def dot? (flags : Flags) : Option CharSet :=
  if !flags.unicode then none
  else if flags.dotAll then some (.complement .none)
  else if flags.anyLineEnd then some (.complement (.points [(10, 10), (13, 13)]))
  else some (.complement (.single '\n'))

def lineStart (flags : Flags) : Assertion :=
  if !flags.multiLine then .textStart
  else if flags.anyLineEnd then .anyLineStart
  else .lineStart

def lineEnd (flags : Flags) : Assertion :=
  if !flags.multiLine then .textEnd
  else if flags.anyLineEnd then .anyLineEnd
  else .lineEnd

def wordSet (flags : Flags) : CharSet :=
  if flags.unicode then .word else .asciiWord

/-- The class of one of the letters `d`, `s` and `w`; a capital negates it. -/
def letterClass? (flags : Flags) (letter : Char) : Option CharSet :=
  let set := match letter.toLower with
    | 'd' => if flags.unicode then CharSet.digit else .asciiDigit
    | 's' => if flags.unicode then .blank else .asciiBlank
    | _ => flags.wordSet
  flags.checked (set.negatedIf letter.isUpper)

/-- A class with a name; there are none without Unicode. -/
def namedClass? (flags : Flags) (negated : Bool) (found : Option CharSet) : Option CharSet :=
  if flags.unicode then found.map fun set => (flags.fold set).negatedIf negated else none

end Flags

end AutoReply.Pattern
