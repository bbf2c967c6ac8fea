import AutoReply.Builtin
import AutoReply.Console.Arguments
import AutoReply.Console.History
import AutoReply.Console.Line
import AutoReply.Console.Mentions
import AutoReply.Control.Admin
import AutoReply.Control.Click
import AutoReply.Control.Table
import AutoReply.Service
import AutoReply.Settings.Sources
import AutoReply.Talk.Question
import AutoReply.Talk.Rating
import AutoReply.Talk.Temperature

/-!
Talking to the bot from a terminal: every line is a message to it or a command, and its answers are
lines as well.
-/

namespace AutoReply.Console

open AutoReply.Chat AutoReply.Control AutoReply.Number AutoReply.Rule AutoReply.Storage
open AutoReply.Talk AutoReply.Time

/-- What a line meets when it comes in: the time, the day where the bot runs, the luck, and how long
the line has waited, in seconds and nanoseconds. -/
structure Moment where
  time : Timestamp
  day : Date
  luck : Luck
  waited : Nat × Nat

structure Session where
  arguments : Arguments
  service : Service
  history : History := {}
  known : KnownUsers := .empty

inductive Reply
  | text (content : String)
  | rich (message : RichMessage)
  | reaction (message : MessageId) (emoji : Emoji)
  deriving DecidableEq

def Reply.line (botName : String) : Reply → String
  | text content => botName ++ ": " ++ content
  | rich message =>
      if message.title.isEmpty then botName ++ ": * " ++ message.description
      else botName ++ ": [" ++ message.title ++ "] " ++ message.description
  | reaction message emoji =>
      botName ++ " reacted to #" ++ toString message ++ " with " ++ emoji.markup

namespace Session

def user (session : Session) : UserId := ⟨session.arguments.user⟩

def channel (session : Session) : ChannelId := ⟨session.arguments.channel⟩

def bot (session : Session) : Bot where
  id := session.service.settings.bot.id
  name := session.service.settings.bot.name
  emoji? := Builtin.emoji?

def platform (session : Session) : Platform where
  toBot := session.bot
  precedingAuthor channel before := .ok (session.history.precedingAuthor channel before)
  failure? _ := none

def withLive (session : Session) (live : Live) : Session :=
  { session with service := { session.service with live } }

def withStore (session : Session) (store : Store) : Session :=
  let live := session.service.live
  session.withLive { live with storage := { live.storage with store } }

def reject (text : String) : Reply := .rich (.error text)

def adminOutcome (session : Session) (outcome : Outcome AdminError String) :
    Session × Option Reply :=
  (session.withLive outcome.live, some (.rich (outcomeMessage outcome.answer)))

def administer (session : Session) (command : AdminCommand) : Session × Option Reply :=
  let live := session.service.live
  match live.authorize session.user with
  | .error error => (session, some (.rich (outcomeMessage (.error error))))
  | .ok () =>
      match command with
      | .listing => (session, (listing? live.registry).map .rich)
      | .setState target state => session.adminOutcome (live.setState target state)
      | .enable target => session.adminOutcome (live.enable target)
      | .disable target => session.adminOutcome (live.disable target)
      | .incompleteSet => (session, some (reject "usage: /responses set <response|all> <state>"))
      | .unknown verb => (session, some (reject ("unknown subcommand `" ++ verb ++ "`")))

def click (session : Session) (mentions : List Mention) : Session × Reply :=
  match mentions with
  | [] => (session, reject "usage: /click @member")
  | mention :: _ =>
      let outcome := session.service.live.click session.arguments.name mention.id mention.name
      (session.withLive outcome.live,
        match outcome.answer with
        | .ok message => .rich message
        | .error error => reject error.message)

def notANumber (written : String) : String :=
  if written.isEmpty then "cannot parse float from empty string" else "invalid float literal"

def convert (kind degrees : String) : Reply :=
  match Conversion.ofName kind with
  | .error unknown => reject unknown.message
  | .ok conversion =>
      match Binary64.ofText? degrees.toList with
      | none => reject (notANumber degrees)
      | some number => .text (conversion.describe number)

def obey (session : Session) (moment : Moment) (mentions : List Mention) :
    Command → Session × Reply
  | .click => session.click mentions
  | .rate something => (session, .rich (Talk.rate something moment.day))
  | .convert kind degrees => (session, convert kind degrees)
  | .incompleteConvert => (session, reject "usage: /convert ctof|ftoc <temperature>")
  | .wouldYouRather first second => (session, .text (Talk.wouldYouRather first second))
  | .incompleteChoice => (session, reject "usage: /wyr <first> | <second>")
  | .ping => (session, .text (pong moment.waited.1 moment.waited.2))
  | .unknown verb => (session, reject ("unknown command `/" ++ verb ++ "`"))

def post (bot : Bot) (history : History) : Effect → History × Reply
  | .sendText channel text => ((history.record channel bot.id).2, .text text)
  | .sendRich channel message => ((history.record channel bot.id).2, .rich message)
  | .react _ message emoji => (history, .reaction message emoji)

def postAll (bot : Bot) (history : History) : List Attempt → History × List Reply
  | [] => (history, [])
  | attempt :: attempts =>
      let (next, reply) := post bot history attempt.effect
      let (last, replies) := postAll bot next attempts
      (last, reply :: replies)

/-- Notes a message in the history, and hands it on. -/
def note (session : Session) (moment : Moment) (text : String) (mentions : List Mention) :
    Session × Luck × MessageEvent :=
  let (id, history) := session.history.record session.channel session.user
  let event : MessageEvent :=
    { id, text, mentions
      channel := session.channel
      author := { id := session.user, name := session.arguments.name }
      time := moment.time }
  ({ session with history }, moment.luck, event)

/-- Lets the bot handle a message, and prints what it does. -/
def attend (session : Session) (luck : Luck) (event : MessageEvent) : Session × List Reply :=
  let (_, service, trace) := session.service.handle session.platform luck event
  let (history, replies) := postAll session.bot session.history trace.attempts
  ({ session with service, history }, replies)

def chat (session : Session) (moment : Moment) (text : String) (mentions : List Mention) :
    Session × List Reply :=
  let (noted, luck, event) := session.note moment text mentions
  noted.attend luck event

def answer (session : Session) (moment : Moment) (line : String) : Session × List Reply :=
  match Line.ofText line with
  | .blank => (session, [])
  | .admin command =>
      let (session, reply) := session.administer command
      (session, reply.toList)
  | .command command =>
      let (mentions, known) := mentionsIn session.bot session.known line
      let (session, reply) := { session with known }.obey moment mentions command
      (session, [reply])
  | .message text =>
      let (mentions, known) := mentionsIn session.bot session.known line
      { session with known }.chat moment text mentions

def answerAll (session : Session) : List (Moment × String) → Session × List Reply
  | [] => (session, [])
  | (moment, line) :: lines =>
      let (next, replies) := session.answer moment line
      let (last, others) := next.answerAll lines
      (last, replies ++ others)

end Session

/-- Why a session cannot begin. -/
inductive StartError
  | settings (fault : Settings.Fault)
  | rules (error : BuildError)

def StartError.message : StartError → String
  | settings fault => fault.message
  | rules error => error.message

/-- The settings come from the file that the arguments name, or from a search. -/
def Arguments.sources (arguments : Arguments) : Settings.Sources :=
  { file := arguments.config }

/-- A session whose bot has the settings but nothing that was saved. -/
def Session.create (arguments : Arguments) (surroundings : Settings.Surroundings) :
    Except StartError Session := do
  let settings ← (arguments.sources.load surroundings).mapError .settings
  let registry ← (Builtin.registry settings.bot.id).mapError .rules
  let bot : Bot :=
    { id := settings.bot.id, name := settings.bot.name, emoji? := Builtin.emoji? }
  let storage : Storage := ⟨surroundings.files, .file settings.state.path⟩
  let (service, _) ← (Service.start settings registry bot storage).mapError .settings
  return { arguments, service }

/-- A session that reads no line before the saved state is restored. -/
def Session.start (arguments : Arguments) (surroundings : Settings.Surroundings) :
    Except StartError Session := do
  let session ← Session.create arguments surroundings
  return { session with service := session.service.begin.1 }

end AutoReply.Console
