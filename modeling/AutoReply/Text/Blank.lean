import AutoReply.Text.Ranges
import AutoReply.Text.Parts

/-!
Blank characters (Unicode `White_Space`), trimming, and the words between blanks.
-/

namespace AutoReply.Text

def blankRanges : Ranges :=
  [(0x9, 0xD), (0x20, 0x20), (0x85, 0x85), (0xA0, 0xA0), (0x1680, 0x1680), (0x2000, 0x200A),
    (0x2028, 0x2029), (0x202F, 0x202F), (0x205F, 0x205F), (0x3000, 0x3000)]

def isBlank (character : Char) : Bool :=
  blankRanges.has character.toNat

def dropBlanks (text : List Char) : List Char :=
  text.dropWhile isBlank

def dropEndWhile (test : Char → Bool) (text : List Char) : List Char :=
  (text.reverse.dropWhile test).reverse

def trimEnd (text : List Char) : List Char :=
  dropEndWhile isBlank text

def trim (text : List Char) : List Char :=
  trimEnd (dropBlanks text)

def trimWhere (test : Char → Bool) (text : List Char) : List Char :=
  dropEndWhile test (text.dropWhile test)

def words (text : List Char) : List (List Char) :=
  (splitWhere isBlank text).filter fun word => !word.isEmpty

end AutoReply.Text
