import AutoReply.Json.Tree
import AutoReply.Settings.Extract

/-!
Settings as JSON, written in full and read with defaults for what is missing.
-/

namespace AutoReply.Settings

open AutoReply.Chat

def userJson (user : UserId) : Json := .number user.number.toNat

def spanEventsJson (events : SpanEvents) : Json :=
  .object [("new", .bool events.new), ("enter", .bool events.enter), ("exit", .bool events.exit),
    ("close", .bool events.close)]

def loggingJson (logging : LogSettings) : Json :=
  .object
    [("level", .text logging.level.text), ("format", .text logging.format.text),
      ("output", .text logging.output.text), ("file_path", .option .text logging.filePath),
      ("rotate_daily", .bool logging.rotateDaily),
      ("span_events", spanEventsJson logging.spanEvents), ("thread_ids", .bool logging.threadIds),
      ("file_location", .bool logging.fileLocation),
      ("filters",
        .object (logging.filters.entries.map fun (target, level) => (target, .text level.text)))]

def botJson (bot : BotSettings) : Json :=
  .object [("id", userJson bot.id), ("name", .text bot.name),
    ("owner_id", .option userJson bot.ownerId)]

def stateJson (state : StateSettings) : Json :=
  .object [("path", .text state.path), ("restore_on_start", .bool state.restoreOnStart),
    ("save_on_change", .bool state.saveOnChange)]

def toJson (settings : Settings) : Json :=
  .object [("logging", loggingJson settings.logging), ("bot", botJson settings.bot),
    ("state", stateJson settings.state)]

mutual

/-- A JSON value as a source of settings; of members with the same name the last one counts. -/
def Value.ofJson : Json → Value
  | .null => .nothing
  | .bool value => .flag value
  | .integer value => .integer value
  | .real value => .real value
  | .text value => .text value
  | .list items => .list (Value.ofItems items)
  | .object members => .table (Value.ofMembers [] members)

def Value.ofItems : List Json → List Value
  | [] => []
  | item :: items => Value.ofJson item :: Value.ofItems items

def Value.ofMembers (read : List (String × Value)) :
    List (String × Json) → List (String × Value)
  | [] => read
  | (name, json) :: members => Value.ofMembers (Value.put name (Value.ofJson json) read) members

end

def toValue (settings : Settings) : Value :=
  .ofJson settings.toJson

/-- Reads settings from JSON; a list has no more items than the table has members. -/
def ofJson (json : Json) : Except Unfit Settings :=
  extract ⟨false⟩ (.ofJson json)

end AutoReply.Settings
