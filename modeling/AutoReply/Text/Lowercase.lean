import AutoReply.Text.LowercaseTable

/-!
Full Unicode lowercasing of a text. All characters are mapped one by one, except that a capital
sigma at the end of a word becomes a final sigma.
-/

namespace AutoReply.Text

def isCased (character : Char) : Bool :=
  casedRanges.has character.toNat

def isCaseIgnorable (character : Char) : Bool :=
  caseIgnorableRanges.has character.toNat

def lowerCharacter (character : Char) : List Char :=
  if character.toNat < 0x80 then [character.toLower]
  else if character = '\u0130' then ['i', '\u0307']
  else match lowercaseRuns.find? fun run => run.has character.toNat with
    | some run => [Char.ofNat (run.image + (character.toNat - run.first))]
    | none => [character]

def leadsToCased (text : List Char) : Bool :=
  match text.dropWhile isCaseIgnorable with
  | [] => false
  | character :: _ => isCased character

/-- A sigma ends a word when a cased character comes before it and none after it. -/
def lowerSigma (before after : List Char) : Char :=
  if leadsToCased before && !leadsToCased after then 'ς' else 'σ'

def lowerAfter (before : List Char) : List Char → List Char
  | [] => []
  | character :: rest =>
      (if character = 'Σ' then [lowerSigma before rest] else lowerCharacter character) ++
        lowerAfter (character :: before) rest

def lowerChars (text : List Char) : List Char :=
  lowerAfter [] text

def lower (text : String) : String :=
  String.ofList (lowerChars text.toList)

end AutoReply.Text
