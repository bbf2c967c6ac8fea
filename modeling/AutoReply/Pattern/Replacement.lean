import AutoReply.Number.Reading
import AutoReply.Text.Parts

/-!
Replacement texts, which refer to the groups of a match by number or by name.
-/

namespace AutoReply.Pattern

open AutoReply.Text AutoReply.Number

/-- The group with a number or a name; `names` gives the numbers of the named groups. -/
def groupNumber? (names : List (List Char × Nat)) (reference : List Char) : Option Nat :=
  match natural? reference with
  | some number => some number
  | none => names.lookup reference

/-- The text of a group; nothing for one that took no part in the match. -/
def groupText (names : List (List Char × Nat)) (groups : List (Nat × List Char))
    (reference : List Char) : List Char :=
  ((groupNumber? names reference).bind fun number => groups.lookup number).getD []

def isReferenceCharacter (character : Char) : Bool :=
  character.isAlphanum || character = '_'

def reference? (text : List Char) : Option (List Char × Nat) :=
  match text with
  | '\x7b' :: rest =>
      (splitFirst '\x7d' rest).map fun sides => (sides.1, sides.1.length + 2)
  | text =>
      let name := text.takeWhile isReferenceCharacter
      if name.isEmpty then none else some (name, name.length)

/-- The replacement after its first `skip` characters, with the groups put in. Two dollar signs
stand for one, and a sign without a reference for itself. -/
def expandAfter (names : List (List Char × Nat)) (groups : List (Nat × List Char)) :
    Nat → List Char → List Char
  | _, [] => []
  | skip + 1, _ :: rest => expandAfter names groups skip rest
  | 0, '$' :: '$' :: rest => '$' :: expandAfter names groups 1 ('$' :: rest)
  | 0, '$' :: rest =>
      match reference? rest with
      | some (reference, length) =>
          groupText names groups reference ++ expandAfter names groups length rest
      | none => '$' :: expandAfter names groups 0 rest
  | 0, character :: rest => character :: expandAfter names groups 0 rest

def expand (names : List (List Char × Nat)) (groups : List (Nat × List Char))
    (replacement : List Char) : List Char :=
  expandAfter names groups 0 replacement

end AutoReply.Pattern
