import AutoReply.Service
import AutoReply.Text.Quoted
import AutoReply.Time.Rfc3339

/-!
Descriptions of values for those who look into a running bot: names of kinds with their fields.
-/

namespace AutoReply.Describe

open AutoReply.Chat AutoReply.Control AutoReply.Rule AutoReply.Text AutoReply.Time

def commaSeparated (texts : List String) : String :=
  ", ".intercalate texts

def flag (value : Bool) : String :=
  if value then "true" else "false"

def number (value : Nat) : String :=
  toString value

def tuple (name : String) (parts : List String) : String :=
  name ++ "(" ++ commaSeparated parts ++ ")"

def fields (name : String) (members : List (String × String)) : String :=
  name ++ " \x7b " ++ commaSeparated (members.map fun (field, value) => field ++ ": " ++ value) ++
    " \x7d"

def list (parts : List String) : String :=
  "[" ++ commaSeparated parts ++ "]"

def option {α : Type} (describe : α → String) : Option α → String
  | some value => tuple "Some" [describe value]
  | none => "None"

def user (id : UserId) : String := tuple "UserId" [toString id]

def author (author : Author) : String :=
  fields "Author"
    [("id", user author.id), ("name", quoted author.name), ("nick", option quoted author.nick)]

def mention (mention : Mention) : String :=
  fields "Mention" [("id", user mention.id), ("name", quoted mention.name)]

def reply : Reply → String
  | .toMessageOf author => fields "Resolved" [("author_id", user author)]
  | .toDeleted => "Deleted"

def event (event : MessageEvent) : String :=
  fields "MessageEvent"
    [("message_id", tuple "MessageId" [toString event.id]),
      ("channel_id", tuple "ChannelId" [toString event.channel]), ("author", author event.author),
      ("text", quoted event.text), ("mentions", list (event.mentions.map mention)),
      ("reply", option reply event.reply), ("timestamp", event.time.toText)]

def context (bot : Bot) (received : MessageEvent) : String :=
  fields "EventContext" [("event", event received), ("bot", user bot.id)]

def phrases (phrases : Phrases) : String :=
  fields "Literals"
    [("phrases", list (phrases.phrases.map quoted)), ("contains", flag phrases.inside),
      ("case_sensitive", flag phrases.caseSensitive)]

def pattern (pattern : Pattern) : String :=
  tuple "Regex" [quoted pattern.source]

mutual

def trigger : Trigger → String
  | .phrases list => tuple "Literals" [phrases list]
  | .pattern regular => pattern regular
  | .mentions target replies =>
      fields "Mentions" [("target", user target), ("include_replies", flag replies)]
  | .lastAuthor target => tuple "LastAuthor" [user target]
  | .anyOf children => tuple "Or" ["[" ++ commaSeparated (triggers children) ++ "]"]
  | .allOf children => tuple "And" ["[" ++ commaSeparated (triggers children) ++ "]"]
  | .cooldown throttle inner =>
      fields "Cooldown"
        [("window",
            fields "TimeDelta"
              [("secs", toString (throttle.window / nanosInSecond)),
                ("nanos", toString (throttle.window % nanosInSecond))]),
          ("inner", trigger inner)]
  | .predicate _ _ => "Predicate(..)"

def triggers : List Trigger → List String
  | [] => []
  | child :: children => trigger child :: triggers children

end

def action : Action → String
  | .send text => tuple "LiteralSend" [quoted text]
  | .substitute substitution =>
      tuple "RegexSend"
        [fields "RegexSend"
          [("regex", pattern substitution.pattern),
            ("replacement", quoted substitution.replacement)]]
  | .choose candidates => tuple "RandomLiteral" [number candidates.length ++ " candidates"]
  | .react emoji => tuple "React" [tuple "EmojiId" [toString emoji]]
  | .roleplay play => tuple "RandomTemplate" [number play.templates.length ++ " templates"]

def response (response : Response) : String :=
  fields "Response"
    [("name", quoted response.name), ("kind", quoted response.kind.label),
      ("enabled", flag response.enabled), ("state", quoted response.state),
      ("trigger", trigger response.trigger)]

def registry (registry : Registry) : String :=
  fields "Registry" [("responses", list (registry.responses.map response))]

def admin (live : Live) : String :=
  fields "Admin"
    [("responses", number live.registry.responses.length), ("persisted", flag live.savesChanges),
      ("owner", option user live.owner)]

def clicks (board : ClickBoard) : String :=
  let counts := board.counts.entries.map fun (member, count) =>
    user member ++ ": " ++ number count.toNat
  fields "ClickBoard"
    [("counts", fields "RwLock" [("data", "\x7b" ++ commaSeparated counts ++ "\x7d")])]

def commands (live : Live) : String :=
  fields "Commands" [("clicks", clicks live.clicks), ("persisted", flag live.savesChanges)]

def stats (stats : Stats) : String :=
  fields "RuntimeStats"
    [("received", number stats.received.toNat), ("ignored", number stats.ignored.toNat),
      ("fired", number stats.fired.toNat)]

def service (bot : Bot) (service : Service) : String :=
  fields "AmadeusRuntime"
    [("bot", user bot.id), ("responses", number service.live.registry.responses.length),
      ("stats", stats service.stats)]

end AutoReply.Describe
