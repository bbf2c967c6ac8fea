import AutoReply.Chat.Id
import AutoReply.SortedMap

/-!
The messages of a terminal session, channel by channel, with their authors.
-/

namespace AutoReply.Console

open AutoReply.Chat

structure History where
  /-- The number of the next message, in whatever channel it comes. -/
  next : UInt64 := 1
  /-- The messages of each channel, the oldest first. -/
  channels : SortedMap ChannelId (List (MessageId × UserId)) := .empty

namespace History

def messages (history : History) (channel : ChannelId) : List (MessageId × UserId) :=
  (history.channels.lookup channel).getD []

def record (history : History) (channel : ChannelId) (author : UserId) : MessageId × History :=
  let id : MessageId := ⟨history.next⟩
  (id,
    { next := history.next + 1
      channels := history.channels.insert channel (history.messages channel ++ [(id, author)]) })

def precedingAuthor (history : History) (channel : ChannelId) (before : MessageId) :
    Option UserId :=
  (((history.messages channel).takeWhile fun message => message.1 != before).getLast?).map Prod.snd

end History

end AutoReply.Console
