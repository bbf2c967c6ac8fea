import AutoReply.Chat.Id

/-!
Messages that go out: coloured blocks of text with fields, and custom emojis.
-/

namespace AutoReply.Chat

structure RichField where
  name : String
  value : String
  inline : Bool
  deriving DecidableEq

structure RichMessage where
  title : String
  description : String
  color : UInt32
  fields : List RichField := []
  deriving DecidableEq

def defaultColor : UInt32 := 0x521414
def errorColor : UInt32 := 0xab0306
def successColor : UInt32 := 0x079100

namespace RichMessage

def titled (title description : String) : RichMessage :=
  ⟨title, description, defaultColor, []⟩

def untitled (text : String) : RichMessage :=
  titled "" text

def error (text : String) : RichMessage :=
  ⟨"Error", text, errorColor, []⟩

def success (text : String) : RichMessage :=
  ⟨"Success", text, successColor, []⟩

def addField (message : RichMessage) (field : RichField) : RichMessage :=
  { message with fields := message.fields ++ [field] }

end RichMessage

structure Emoji where
  id : EmojiId
  name : String
  animated : Bool := false
  deriving DecidableEq

def Emoji.markup (emoji : Emoji) : String :=
  let start := if emoji.animated then "<a:" else "<:"
  start ++ emoji.name ++ ":" ++ toString emoji.id ++ ">"

end AutoReply.Chat
