/-!
Cutting texts at characters, finding one text in another, and joining texts.
-/

namespace AutoReply.Text

/-- The pieces between the characters that pass `test`; always at least one piece. -/
def splitWhere (test : Char → Bool) : List Char → List (List Char)
  | [] => [[]]
  | character :: rest =>
      if test character then [] :: splitWhere test rest
      else match splitWhere test rest with
        | [] => [[character]]
        | piece :: pieces => (character :: piece) :: pieces

def splitFirst (mark : Char) : List Char → Option (List Char × List Char)
  | [] => none
  | character :: rest =>
      if character = mark then some ([], rest)
      else (splitFirst mark rest).map fun sides => (character :: sides.1, sides.2)

def splitLast (mark : Char) : List Char → Option (List Char × List Char)
  | [] => none
  | character :: rest =>
      match splitLast mark rest with
      | some sides => some (character :: sides.1, sides.2)
      | none => if character = mark then some ([], rest) else none

def afterStart : (start text : List Char) → Option (List Char)
  | [], text => some text
  | _ :: _, [] => none
  | expected :: start, character :: text =>
      if expected = character then afterStart start text else none

def contains (phrase : List Char) : List Char → Bool
  | [] => phrase.isEmpty
  | character :: rest => phrase.isPrefixOf (character :: rest) || contains phrase rest

def join (separator : List Char) : List (List Char) → List Char
  | [] => []
  | [text] => text
  | text :: texts => text ++ separator ++ join separator texts

/-- Every occurrence of `{}` replaced by `value`, which is not looked at again. -/
def fillBraces (value : List Char) : List Char → List Char
  | '\x7b' :: '\x7d' :: rest => value ++ fillBraces value rest
  | character :: rest => character :: fillBraces value rest
  | [] => []

def equalIgnoringAsciiCase (left right : String) : Bool :=
  left.toList.map Char.toLower == right.toList.map Char.toLower

def padEnd (width : Nat) (text : List Char) : List Char :=
  text ++ List.replicate (width - text.length) ' '

end AutoReply.Text
