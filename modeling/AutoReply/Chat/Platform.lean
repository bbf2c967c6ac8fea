import AutoReply.Chat.Event
import AutoReply.Chat.Message

/-!
The chat platform as the bot sees it: who the bot is, what it may ask and what it may do. A platform
answers questions about the past and may refuse effects; it never decides which rule applies.
-/

namespace AutoReply.Chat

inductive ApiError
  | notConnected
  | timeout
  | notFound (kind id : String)
  | forbidden (what : String)
  | sendFailed (reason : String)
  | other (reason : String)
  deriving DecidableEq

def ApiError.message : ApiError → String
  | notConnected => "bot is not connected"
  | timeout => "API call timed out"
  | notFound kind id => kind ++ " '" ++ id ++ "' not found"
  | forbidden what => "missing permission: " ++ what
  | sendFailed reason => "failed to send message: " ++ reason
  | other reason => "API error: " ++ reason

/-- The bot's own account and the emojis it may use. -/
structure Bot where
  id : UserId
  name : String
  emoji? : EmojiId → Option Emoji

/-- What the bot asks the platform to do. -/
inductive Effect
  | sendText (channel : ChannelId) (text : String)
  | sendRich (channel : ChannelId) (message : RichMessage)
  | react (channel : ChannelId) (message : MessageId) (emoji : Emoji)
  deriving DecidableEq

structure Platform extends Bot where
  /-- The author of the message just before another one of its channel, if there is one. -/
  precedingAuthor : ChannelId → MessageId → Except ApiError (Option UserId)
  /-- The error with which an effect fails, if it does. -/
  failure? : Effect → Option ApiError

end AutoReply.Chat
