import AutoReply.Text.Blank
import AutoReply.Text.Case
import AutoReply.Text.Category
import AutoReply.Text.Letter

/-!
Sets of characters as a pattern writes them, and which characters they have.
-/

namespace AutoReply.Pattern

open AutoReply.Text

inductive CharSet
  | points (ranges : Ranges)
  | union (left right : CharSet)
  | both (left right : CharSet)
  | except (left right : CharSet)
  | either (left right : CharSet)
  | complement (set : CharSet)
  /-- All characters that differ from one of the set only in case. -/
  | folded (set : CharSet)
  deriving DecidableEq

namespace CharSet

def has : CharSet → Nat → Bool
  | points ranges, point => ranges.has point
  | union left right, point => left.has point || right.has point
  | both left right, point => left.has point && right.has point
  | except left right, point => left.has point && !right.has point
  | either left right, point => left.has point != right.has point
  | complement set, point => !set.has point
  | folded set, point => set.has point || (caseVariants point).any set.has

def none : CharSet := points []

def single (character : Char) : CharSet :=
  points [(character.toNat, character.toNat)]

def between (first last : Char) : CharSet :=
  points [(first.toNat, last.toNat)]

def asciiOnly : CharSet := points [(0, 127)]

def ofCategories (test : Category → Bool) : CharSet :=
  points (categoryRanges test)

def negatedIf (negated : Bool) (set : CharSet) : CharSet :=
  if negated then complement set else set

def digit : CharSet := ofCategories (· == .decimalNumber)

def blank : CharSet := points blankRanges

def Category.isWordPart : Category → Bool
  | .nonspacingMark | .spacingMark | .enclosingMark | .decimalNumber | .connectorPunctuation => true
  | _ => false

/-- Letters, marks, digits and connectors of all scripts, and the two joiners. -/
def word : CharSet :=
  union (points (alphabeticRanges ++ [(0x200C, 0x200D)])) (ofCategories Category.isWordPart)

def asciiDigit : CharSet := between '0' '9'

def asciiBlank : CharSet := points [(9, 13), (32, 32)]

def asciiWord : CharSet :=
  points [(48, 57), (65, 90), (95, 95), (97, 122)]

def named? : List Char → Option CharSet := fun name =>
  match String.ofList name with
  | "alnum" => some (points [(48, 57), (65, 90), (97, 122)])
  | "alpha" => some (points [(65, 90), (97, 122)])
  | "ascii" => some asciiOnly
  | "blank" => some (points [(9, 9), (32, 32)])
  | "cntrl" => some (points [(0, 31), (127, 127)])
  | "digit" => some asciiDigit
  | "graph" => some (points [(33, 126)])
  | "lower" => some (between 'a' 'z')
  | "print" => some (points [(32, 126)])
  | "punct" => some (points [(33, 47), (58, 64), (91, 96), (123, 126)])
  | "space" => some asciiBlank
  | "upper" => some (between 'A' 'Z')
  | "word" => some asciiWord
  | "xdigit" => some (points [(48, 57), (65, 70), (97, 102)])
  | _ => Option.none

/-- Each part of the set already holds what differs from its members only in case. -/
def isFolded : CharSet → Bool
  | points _ => false
  | union left right => left.isFolded && right.isFolded
  | both left right => left.isFolded && right.isFolded
  | except left right => left.isFolded && right.isFolded
  | either left right => left.isFolded && right.isFolded
  | complement set => set.isFolded
  | folded _ => true

/-- Adds what differs from a member only in case; a union is folded part by part. -/
def fold : CharSet → CharSet
  | union left right => union left.fold right.fold
  | set => if set.isFolded then set else folded set

def isAsciiByteSet (set : CharSet) : Bool :=
  (List.range 128).all fun offset => !set.has (128 + offset)

end CharSet

end AutoReply.Pattern
