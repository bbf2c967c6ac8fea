import AutoReply.Chat.Message
import AutoReply.Json.Record

/-!
The JSON form of outgoing messages and of emojis.
-/

namespace AutoReply.Chat

open AutoReply.Json AutoReply.Text

namespace RichField

def toJson (field : RichField) : Json :=
  .object [("name", .text field.name), ("value", .text field.value),
    ("inline", .bool field.inline)]

structure Draft where
  name : Option String := none
  value : Option String := none
  inline : Option Bool := none

def record : Record Draft RichField where
  name := "RichField"
  fields :=
    [.of "name" (·.name) (fun draft name => { draft with name := some name }) Reader.text,
      .of "value" (·.value) (fun draft value => { draft with value := some value }) Reader.text,
      .of "inline" (·.inline) (fun draft inline => { draft with inline := some inline })
        Reader.bool]
  start := {}
  finish draft := do
    let name ← required "name" draft.name
    let value ← required "value" draft.value
    let inline ← required "inline" draft.inline
    return { name, value, inline }

end RichField

namespace RichMessage

def toJson (message : RichMessage) : Json :=
  .object [("title", .text message.title), ("description", .text message.description),
    ("color", .number message.color.toNat), ("fields", .list (message.fields.map RichField.toJson))]

structure Draft where
  title : Option String := none
  description : Option String := none
  color : Option UInt32 := none
  fields : Option (List RichField) := none

def record : Record Draft RichMessage where
  name := "RichMessage"
  fields :=
    [.of "title" (·.title) (fun draft title => { draft with title := some title }) Reader.text,
      .of "description" (·.description)
        (fun draft description => { draft with description := some description }) Reader.text,
      .of "color" (·.color) (fun draft color => { draft with color := some color }) Reader.word32,
      .of "fields" (·.fields) (fun draft fields => { draft with fields := some fields })
        (Reader.list RichField.record.reader) true]
  start := {}
  finish draft := do
    let title ← required "title" draft.title
    let description ← required "description" draft.description
    let color ← required "color" draft.color
    return { title, description, color, fields := draft.fields.getD [] }

def ofJsonText (content : List Symbol) : Except Fault RichMessage :=
  Reader.whole record.reader content

end RichMessage

namespace Emoji

def toJson (emoji : Emoji) : Json :=
  .object [("id", .number emoji.id.number.toNat), ("name", .text emoji.name),
    ("animated", .bool emoji.animated)]

structure Draft where
  id : Option EmojiId := none
  name : Option String := none
  animated : Option Bool := none

def record : Record Draft Emoji where
  name := "Emoji"
  fields :=
    [.of "id" (·.id) (fun draft id => { draft with id := some id }) (EmojiId.mk <$> Reader.word64),
      .of "name" (·.name) (fun draft name => { draft with name := some name }) Reader.text,
      .of "animated" (·.animated) (fun draft animated => { draft with animated := some animated })
        Reader.bool true]
  start := {}
  finish draft := do
    let id ← required "id" draft.id
    let name ← required "name" draft.name
    return { id, name, animated := draft.animated.getD false }

def ofJsonText (content : List Symbol) : Except Fault Emoji :=
  Reader.whole record.reader content

end Emoji

end AutoReply.Chat
