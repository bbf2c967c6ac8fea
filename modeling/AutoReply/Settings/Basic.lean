import AutoReply.Chat.Id
import AutoReply.SortedMap

/-!
What can be set: how the bot keeps its log, who it is, and where its state is kept.
-/

namespace AutoReply

open AutoReply.Chat

inductive LogLevel
  | trace
  | debug
  | info
  | warn
  | error
  deriving DecidableEq

inductive LogFormat
  | compact
  | full
  | pretty
  deriving DecidableEq

inductive LogOutput
  | stdout
  | stderr
  | file
  deriving DecidableEq

/-- The moments of a span of work that are logged. -/
structure SpanEvents where
  new : Bool := false
  enter : Bool := false
  exit : Bool := false
  close : Bool := false
  deriving DecidableEq

namespace SpanEvents

def none : SpanEvents := {}

def lifecycle : SpanEvents := { new := true, close := true }

def active : SpanEvents := { enter := true, exit := true }

def full : SpanEvents := { new := true, enter := true, exit := true, close := true }

end SpanEvents

structure LogSettings where
  level : LogLevel := .info
  format : LogFormat := .compact
  output : LogOutput := .stdout
  filePath : Option String := .none
  rotateDaily : Bool := false
  spanEvents : SpanEvents := {}
  threadIds : Bool := false
  fileLocation : Bool := false
  /-- Levels of single parts of the program. -/
  filters : SortedMap String LogLevel := .empty

structure BotSettings where
  id : UserId := ⟨587652588019908629⟩
  name : String := "Amadeus"
  /-- The only user who may change the rules. -/
  ownerId : Option UserId := .none

structure StateSettings where
  path : String := "data/state.json"
  restoreOnStart : Bool := true
  saveOnChange : Bool := true

structure Settings where
  logging : LogSettings := {}
  bot : BotSettings := {}
  state : StateSettings := {}

/-! The words for levels, formats and outputs. -/

def LogLevel.text : LogLevel → String
  | trace => "trace"
  | debug => "debug"
  | info => "info"
  | warn => "warn"
  | error => "error"

def LogLevel.all : List LogLevel := [trace, debug, info, warn, error]

def LogFormat.text : LogFormat → String
  | compact => "compact"
  | full => "full"
  | pretty => "pretty"

def LogFormat.all : List LogFormat := [compact, full, pretty]

def LogOutput.text : LogOutput → String
  | stdout => "stdout"
  | stderr => "stderr"
  | file => "file"

def LogOutput.all : List LogOutput := [stdout, stderr, file]

end AutoReply
