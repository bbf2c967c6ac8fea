import AutoReply.Chat.Message
import AutoReply.Number.Text
import AutoReply.Talk.Sha256
import AutoReply.Text.Parts
import AutoReply.Time.Calendar
import AutoReply.Time.Rfc3339

/-!
Ratings. The verdict on something depends only on its text and on the day.
-/

namespace AutoReply.Talk

open AutoReply.Chat AutoReply.Number AutoReply.Text AutoReply.Time

def intros : List String :=
  ["\x7b\x7d, eh?", "About \x7b\x7d?", "\x7b\x7d?", "What do I think about \x7b\x7d?"]

def comments : List (List String) :=
  [["Not looking good.", "Not a big fan.", "It's... something."],
    ["I'm not sure about this.", "Feels a little bit off.", "Could use work"],
    ["Quite average", "Not much to say about it.", "It's alright,"],
    ["Not bad at all.", "Quite good.", "I like it."],
    ["Pretty damn good.", "I'm a big fan.", "Looks great."]]

/-- The member of a list that a byte chooses when the bytes are shared out evenly. -/
def pickBy (items : List String) (byte : Nat) : String :=
  (items[byte * items.length / 256]?).getD ""

def scaleText (rating : Nat) (byte : Nat) : List Char :=
  match byte * 3 / 256 with
  | 0 => fixedRatio (rating * 5) 256 1 ++ " out of 5 stars.".toList
  | 1 => fixedRatio (rating * 100) 256 0 ++ ['%', '.']
  | _ => fixedRatio (rating * 10) 256 0 ++ " out of 10.".toList

/-- The first byte is the rating; the others choose the words. -/
def ratingText (something : String) (rating intro scale comment : Nat) : String :=
  String.ofList (fillBraces something.toList (pickBy intros intro).toList) ++ " " ++
    pickBy ((comments[rating * 5 / 256]?).getD []) comment ++ " " ++
    String.ofList (scaleText rating scale)

def dayText (day : Date) : String :=
  String.ofList (paddedNumber 2 day.day ++ paddedNumber 2 day.month ++ yearText day.year)

def rate (something : String) (day : Date) : RichMessage :=
  let bytes := (Sha256.digest (something ++ dayText day).toUTF8.toList).map UInt8.toNat
  let byte := fun index => bytes[index]?.getD 0
  .untitled (ratingText something (byte 0) (byte 1) (byte 2) (byte 3))

end AutoReply.Talk
