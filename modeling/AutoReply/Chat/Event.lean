import AutoReply.Chat.Id
import AutoReply.Time.Timestamp

/-!
A chat message that has come in: its author, its text, whom it mentions and what it replies to.
-/

namespace AutoReply.Chat

open AutoReply.Time

structure Author where
  id : UserId
  name : String
  nick : Option String := none
  deriving DecidableEq

def Author.displayName (author : Author) : String :=
  author.nick.getD author.name

structure Mention where
  id : UserId
  name : String
  deriving DecidableEq

/-- What a reply points at; a deleted message has no author any more. -/
inductive Reply
  | toMessageOf (author : UserId)
  | toDeleted
  deriving DecidableEq

def Reply.author? : Reply → Option UserId
  | toMessageOf author => some author
  | toDeleted => none

structure MessageEvent where
  id : MessageId
  channel : ChannelId
  author : Author
  text : String
  mentions : List Mention := []
  reply : Option Reply := none
  time : Timestamp
  deriving DecidableEq

namespace MessageEvent

def mentionsUser (event : MessageEvent) (user : UserId) : Bool :=
  event.mentions.any fun mention => mention.id = user

def replyAuthor (event : MessageEvent) : Option UserId :=
  event.reply.bind Reply.author?

end MessageEvent

end AutoReply.Chat
