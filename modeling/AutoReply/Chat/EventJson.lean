import AutoReply.Chat.Event
import AutoReply.Json.Record
import AutoReply.Json.TreeReader
import AutoReply.Time.Rfc3339

/-!
The JSON form of incoming messages.
-/

namespace AutoReply.Chat

open AutoReply.Json AutoReply.Number AutoReply.Time

namespace Author

def toJson (author : Author) : Json :=
  .object [("id", .number author.id.number.toNat), ("name", .text author.name),
    ("nick", .option .text author.nick)]

structure Draft where
  id : Option UserId := none
  name : Option String := none
  nick : Option (Option String) := none

def record : Record Draft Author where
  name := "Author"
  fields :=
    [.of "id" (·.id) (fun draft id => { draft with id := some id }) (UserId.mk <$> Reader.word64),
      .of "name" (·.name) (fun draft name => { draft with name := some name }) Reader.text,
      .of "nick" (·.nick) (fun draft nick => { draft with nick := some nick })
        (Reader.optional Reader.text) true]
  start := {}
  finish draft := do
    let id ← required "id" draft.id
    let name ← required "name" draft.name
    return { id, name, nick := draft.nick.getD none }

end Author

namespace Mention

def toJson (mention : Mention) : Json :=
  .object [("id", .number mention.id.number.toNat), ("name", .text mention.name)]

structure Draft where
  id : Option UserId := none
  name : Option String := none

def record : Record Draft Mention where
  name := "Mention"
  fields :=
    [.of "id" (·.id) (fun draft id => { draft with id := some id }) (UserId.mk <$> Reader.word64),
      .of "name" (·.name) (fun draft name => { draft with name := some name }) Reader.text]
  start := {}
  finish draft := do
    let id ← required "id" draft.id
    let name ← required "name" draft.name
    return { id, name }

end Mention

namespace Reply

def toJson : Reply → Json
  | toMessageOf author =>
      .object [("kind", .text "resolved"), ("author_id", .number author.number.toNat)]
  | toDeleted => .object [("kind", .text "deleted")]

def expected : String := "internally tagged enum ReplyReference"

def authorOf (json : Json) : Except Cause Reply :=
  match json with
  | .integer value =>
      (Reader.checkedNatural wordCount "u64" (.integer value)).map fun number =>
        toMessageOf ⟨UInt64.ofNat number⟩
  | .real value =>
      (Reader.checkedNatural wordCount "u64" (.real value)).map fun _ => toDeleted
  | _ => .error (.wrongType "value" "u64")

def ofMembers (kind : String) (members : List (String × Json)) : Except Cause Reply :=
  if kind = "deleted" then .ok toDeleted
  else if kind = "resolved" then
    match members.filter fun member => member.1 == "author_id" with
    | [] => .error (.missingField "author_id")
    | [(_, author)] => authorOf author
    | _ => .error (.duplicateField "author_id")
  else .error (.unknownVariant kind "`resolved` or `deleted`")

def ofItems (kind : String) (items : List Json) : Except Cause Reply :=
  if kind = "deleted" then
    if items.isEmpty then .ok toDeleted else .error (.wrongLength items.length expected)
  else if kind = "resolved" then
    match items with
    | [author] => authorOf author
    | _ => .error (.wrongLength items.length "struct variant ReplyReference::Resolved")
  else .error (.unknownVariant kind "`resolved` or `deleted`")

def ofJson : Json → Except Cause Reply
  | .object members =>
      match members.filter fun member => member.1 == "kind" with
      | [] => .error (.missingField "kind")
      | [(_, .text kind)] => ofMembers kind (members.filter fun member => member.1 != "kind")
      | [_] => .error (.wrongType "value" "variant identifier")
      | _ => .error (.duplicateField "kind")
  | .list (.text kind :: items) => ofItems kind items
  | .list _ => .error (.missingField "kind")
  | _ => .error (.wrongType "value" expected)

def reader : Reader Reply := Reader.placed do
  Reader.liftExcept (ofJson (← Reader.tree 1))

end Reply

def readTime : Reader Timestamp := Reader.placed do
  let written ← Reader.text
  match Timestamp.ofText? written with
  | some time => return time
  | none =>
      Reader.failUnplaced
        (.wrongValue (AutoReply.Text.quoted written) "an RFC 3339 formatted date and time string")

namespace MessageEvent

def toJson (event : MessageEvent) : Json :=
  .object
    [("message_id", .number event.id.number.toNat),
      ("channel_id", .number event.channel.number.toNat), ("author", event.author.toJson),
      ("text", .text event.text), ("mentions", .list (event.mentions.map Mention.toJson)),
      ("reply", .option Reply.toJson event.reply), ("timestamp", .text event.time.toText)]

structure Draft where
  id : Option MessageId := none
  channel : Option ChannelId := none
  author : Option Author := none
  text : Option String := none
  mentions : Option (List Mention) := none
  reply : Option (Option Reply) := none
  time : Option Timestamp := none

def record : Record Draft MessageEvent where
  name := "MessageEvent"
  fields :=
    [.of "message_id" (·.id) (fun draft id => { draft with id := some id })
        (MessageId.mk <$> Reader.word64),
      .of "channel_id" (·.channel) (fun draft channel => { draft with channel := some channel })
        (ChannelId.mk <$> Reader.word64),
      .of "author" (·.author) (fun draft author => { draft with author := some author })
        Author.record.reader,
      .of "text" (·.text) (fun draft text => { draft with text := some text }) Reader.text,
      .of "mentions" (·.mentions) (fun draft mentions => { draft with mentions := some mentions })
        (Reader.list Mention.record.reader) true,
      .of "reply" (·.reply) (fun draft reply => { draft with reply := some reply })
        (Reader.optional Reply.reader) true,
      .of "timestamp" (·.time) (fun draft time => { draft with time := some time }) readTime]
  start := {}
  finish draft := do
    let id ← required "message_id" draft.id
    let channel ← required "channel_id" draft.channel
    let author ← required "author" draft.author
    let text ← required "text" draft.text
    let time ← required "timestamp" draft.time
    return { id, channel, author, text, time,
             mentions := draft.mentions.getD [], reply := draft.reply.getD none }

def ofJsonText (content : List AutoReply.Text.Symbol) : Except Fault MessageEvent :=
  Reader.whole record.reader content

end MessageEvent

end AutoReply.Chat
