import AutoReply.Text.CategoryTable
import AutoReply.Text.Ranges

/-!
Unicode general categories.
-/

namespace AutoReply.Text

inductive Category
  | uppercaseLetter | lowercaseLetter | titlecaseLetter | modifierLetter | otherLetter
  | nonspacingMark | spacingMark | enclosingMark
  | decimalNumber | letterNumber | otherNumber
  | connectorPunctuation | dashPunctuation | openPunctuation | closePunctuation
  | initialPunctuation | finalPunctuation | otherPunctuation
  | mathSymbol | currencySymbol | modifierSymbol | otherSymbol
  | spaceSeparator | lineSeparator | paragraphSeparator
  | control | format | surrogate | privateUse | unassigned
  deriving DecidableEq, Repr

open Category in
def Category.all : List Category :=
  [uppercaseLetter, lowercaseLetter, titlecaseLetter, modifierLetter, otherLetter,
    nonspacingMark, spacingMark, enclosingMark, decimalNumber, letterNumber, otherNumber,
    connectorPunctuation, dashPunctuation, openPunctuation, closePunctuation,
    initialPunctuation, finalPunctuation, otherPunctuation, mathSymbol, currencySymbol,
    modifierSymbol, otherSymbol, spaceSeparator, lineSeparator, paragraphSeparator,
    control, format, surrogate, privateUse, unassigned]

def Category.ofLetter (letter : Char) : Category :=
  let index := if letter.isUpper then letter.toNat - 65 else letter.toNat - 97 + 26
  (all[index]?).getD .unassigned

abbrev CategoryRun := Category × Nat × Nat

/-- Reads the runs; `size` is the part of the current run's length that has been read. -/
def readCategoryRuns (start : Nat) (current : Category) (size : Nat) :
    List Char → List CategoryRun
  | [] => [(current, start, start + max size 1 - 1)]
  | character :: rest =>
      if character.isDigit then
        readCategoryRuns start current (size * 10 + (character.toNat - 48)) rest
      else
        (current, start, start + max size 1 - 1) ::
          readCategoryRuns (start + max size 1) (.ofLetter character) 0 rest

def categoryTable : List CategoryRun :=
  match categoryRuns.toList with
  | [] => []
  | letter :: rest => readCategoryRuns 0 (.ofLetter letter) 0 rest

def category (character : Char) : Category :=
  match categoryTable.find? fun run => character.toNat ≤ run.2.2 with
  | some run => run.1
  | none => .unassigned

def categoryRanges (test : Category → Bool) : Ranges :=
  (categoryTable.filter fun run => test run.1).map fun run => run.2

end AutoReply.Text
