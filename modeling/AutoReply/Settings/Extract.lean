import AutoReply.Number.Reading
import AutoReply.Settings.Basic
import AutoReply.Settings.Value

/-!
Reading settings from values. Members with other names are passed over, a member that is missing
has its default, and a list gives the members of a table in their order.
-/

namespace AutoReply.Settings

open AutoReply.Chat AutoReply.Number

/-- A value that does not fit, by the name of the member that holds it. -/
structure Unfit where
  name : String
  deriving DecidableEq

/-- How values are read: with or without further items behind those of a table that is written as a
list. -/
structure Extraction where
  furtherItems : Bool

abbrev Extract (α : Type) := Value → Except Unfit α

namespace Extract

def unfit {α : Type} (name : String) : Except Unfit α := .error ⟨name⟩

def flag (name : String) : Extract Bool
  | .flag value => .ok value
  | _ => unfit name

def text (name : String) : Extract String
  | .text value => .ok value
  | _ => unfit name

def user (name : String) : Extract UserId
  | .integer value =>
      if 0 ≤ value ∧ value < wordCount then .ok ⟨UInt64.ofNat value.toNat⟩ else unfit name
  | _ => unfit name

def optional {α : Type} (read : Extract α) : Extract (Option α)
  | .nothing => .ok none
  | value => some <$> read value

def word {α : Type} (name : String) (spell : α → String) (all : List α) : Extract α
  | .text word | .table [(word, .nothing)] =>
      match all.find? fun choice => spell choice == word with
      | some choice => .ok choice
      | none => unfit name
  | _ => unfit name

def level (name : String) : Extract LogLevel := word name LogLevel.text LogLevel.all

def filters (name : String) : Extract (SortedMap String LogLevel)
  | .table members =>
      SortedMap.ofList <$> members.mapM fun (target, value) => do
        return (target, ← level target value)
  | _ => unfit name

/-- The values of the members of a table, or the items of a list, in the order of the names; none
for those that are missing. -/
def parts (extraction : Extraction) (name : String) (names : List String) :
    Extract (String → Option Value)
  | .table members => .ok fun member => members.lookup member
  | .list items =>
      if items.length ≤ names.length || extraction.furtherItems then
        .ok fun member => (names.zip items).lookup member
      else unfit name
  | _ => unfit name

def member {α : Type} (parts : String → Option Value) (name : String) (default : α)
    (read : String → Extract α) : Except Unfit α :=
  match parts name with
  | some value => read name value
  | none => .ok default

end Extract

open Extract

def spanEvents (extraction : Extraction) (name : String) : Extract SpanEvents := fun value => do
  let parts ← parts extraction name ["new", "enter", "exit", "close"] value
  let standard : SpanEvents := {}
  return {
    new := ← member parts "new" standard.new flag
    enter := ← member parts "enter" standard.enter flag
    exit := ← member parts "exit" standard.exit flag
    close := ← member parts "close" standard.close flag }

def logSettings (extraction : Extraction) (name : String) : Extract LogSettings :=
  fun value => do
    let parts ← parts extraction name
      ["level", "format", "output", "file_path", "rotate_daily", "span_events", "thread_ids",
        "file_location", "filters"] value
    let standard : LogSettings := {}
    return {
      level := ← member parts "level" standard.level level
      format := ← member parts "format" standard.format
        fun name => word name LogFormat.text LogFormat.all
      output := ← member parts "output" standard.output
        fun name => word name LogOutput.text LogOutput.all
      filePath := ← member parts "file_path" standard.filePath fun name => optional (text name)
      rotateDaily := ← member parts "rotate_daily" standard.rotateDaily flag
      spanEvents := ← member parts "span_events" standard.spanEvents (spanEvents extraction)
      threadIds := ← member parts "thread_ids" standard.threadIds flag
      fileLocation := ← member parts "file_location" standard.fileLocation flag
      filters := ← member parts "filters" standard.filters filters }

def botSettings (extraction : Extraction) (name : String) : Extract BotSettings :=
  fun value => do
    let parts ← parts extraction name ["id", "name", "owner_id"] value
    let standard : BotSettings := {}
    return {
      id := ← member parts "id" standard.id user
      name := ← member parts "name" standard.name text
      ownerId := ← member parts "owner_id" standard.ownerId fun name => optional (user name) }

def stateSettings (extraction : Extraction) (name : String) : Extract StateSettings :=
  fun value => do
    let parts ← parts extraction name ["path", "restore_on_start", "save_on_change"] value
    let standard : StateSettings := {}
    return {
      path := ← member parts "path" standard.path text
      restoreOnStart := ← member parts "restore_on_start" standard.restoreOnStart flag
      saveOnChange := ← member parts "save_on_change" standard.saveOnChange flag }

def extract (extraction : Extraction) : Extract Settings := fun value => do
  let parts ← parts extraction "settings" ["logging", "bot", "state"] value
  let standard : Settings := {}
  return {
    logging := ← member parts "logging" standard.logging (logSettings extraction)
    bot := ← member parts "bot" standard.bot (botSettings extraction)
    state := ← member parts "state" standard.state (stateSettings extraction) }

end AutoReply.Settings
