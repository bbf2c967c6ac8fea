import AutoReply.Proofs.SortedMap
import AutoReply.Settings.Basic
import AutoReply.Settings.Value

/-!
The single settings, each with the place that its value has in a source.
-/

namespace AutoReply.Settings

open AutoReply.Chat AutoReply.Number Value

/-- The value that stands for one that may be missing. -/
def Value.ofOption {α : Type} (shown : α → Value) : Option α → Value
  | some value => shown value
  | none => .nothing

def userValue (user : UserId) : Value := .integer user.number.toNat

inductive SpanField
  | new
  | enter
  | exit
  | close
  deriving DecidableEq

namespace SpanField

def place : SpanField → List String
  | new => ["new"]
  | enter => ["enter"]
  | exit => ["exit"]
  | close => ["close"]

def shown (field : SpanField) (events : SpanEvents) : Option Value :=
  match field with
  | new => some (.flag events.new)
  | enter => some (.flag events.enter)
  | exit => some (.flag events.exit)
  | close => some (.flag events.close)

end SpanField

inductive LogField
  | level
  | format
  | output
  | filePath
  | rotateDaily
  | spanEvents (field : SpanField)
  | threadIds
  | fileLocation
  /-- The level of a single part of the program. -/
  | filter (target : String)
  deriving DecidableEq

namespace LogField

def place : LogField → List String
  | level => ["level"]
  | format => ["format"]
  | output => ["output"]
  | filePath => ["file_path"]
  | rotateDaily => ["rotate_daily"]
  | spanEvents field => "span_events" :: field.place
  | threadIds => ["thread_ids"]
  | fileLocation => ["file_location"]
  | filter target => ["filters", target]

def shown (field : LogField) (logging : LogSettings) : Option Value :=
  match field with
  | level => some (.text logging.level.text)
  | format => some (.text logging.format.text)
  | output => some (.text logging.output.text)
  | filePath => some (.ofOption .text logging.filePath)
  | rotateDaily => some (.flag logging.rotateDaily)
  | spanEvents field => field.shown logging.spanEvents
  | threadIds => some (.flag logging.threadIds)
  | fileLocation => some (.flag logging.fileLocation)
  | filter target => (logging.filters.lookup target).map fun level => .text level.text

end LogField

inductive BotField
  | id
  | name
  | ownerId
  deriving DecidableEq

namespace BotField

def place : BotField → List String
  | id => ["id"]
  | name => ["name"]
  | ownerId => ["owner_id"]

def shown (field : BotField) (bot : BotSettings) : Option Value :=
  match field with
  | id => some (userValue bot.id)
  | name => some (.text bot.name)
  | ownerId => some (.ofOption userValue bot.ownerId)

end BotField

inductive StateField
  | path
  | restoreOnStart
  | saveOnChange
  deriving DecidableEq

namespace StateField

def place : StateField → List String
  | path => ["path"]
  | restoreOnStart => ["restore_on_start"]
  | saveOnChange => ["save_on_change"]

def shown (field : StateField) (state : StateSettings) : Option Value :=
  match field with
  | path => some (.text state.path)
  | restoreOnStart => some (.flag state.restoreOnStart)
  | saveOnChange => some (.flag state.saveOnChange)

end StateField

inductive Field
  | logging (field : LogField)
  | bot (field : BotField)
  | state (field : StateField)
  deriving DecidableEq

namespace Field

def place : Field → List String
  | logging field => "logging" :: field.place
  | bot field => "bot" :: field.place
  | state field => "state" :: field.place

def shown (field : Field) (settings : Settings) : Option Value :=
  match field with
  | logging field => field.shown settings.logging
  | bot field => field.shown settings.bot
  | state field => field.shown settings.state

def isFilter : Field → Bool
  | logging (.filter _) => true
  | _ => false

theorem exists_place (field : Field) : ∃ name rest, field.place = name :: rest := by
  cases field <;> exact ⟨_, _, rfl⟩

theorem isSome_shown (field : Field) (plain : field.isFilter = false) (settings : Settings) :
    (field.shown settings).isSome = true := by
  rcases field with (_ | _ | _ | _ | _ | span | _ | _ | _) | bot | state
  case logging.filter => contradiction
  case logging.spanEvents => cases span <;> rfl
  case bot => cases bot <;> rfl
  case state => cases state <;> rfl
  all_goals rfl

end Field

/-! Nothing shows as a table. -/

theorem ofOption_ne_table {α : Type} {shown : α → Value} {members : List (String × Value)}
    (leaf : ∀ value, shown value ≠ .table members) (value : Option α) :
    Value.ofOption shown value ≠ .table members := by
  cases value with
  | none => exact Value.noConfusion
  | some value => exact leaf value

theorem shown_ne_table (field : Field) (settings : Settings) (members : List (String × Value)) :
    field.shown settings ≠ some (.table members) := by
  intro shown
  rcases field with (_ | _ | _ | _ | _ | span | _ | _ | target) | bot | state
  case logging.spanEvents => cases span <;> cases shown
  case logging.filePath =>
    exact ofOption_ne_table (fun _ => Value.noConfusion) _ (Option.some.inj shown)
  case logging.filter =>
    obtain ⟨level, _, same⟩ := Option.map_eq_some_iff.mp shown
    cases same
  case bot =>
    cases bot with
    | ownerId => exact ofOption_ne_table (fun _ => Value.noConfusion) _ (Option.some.inj shown)
    | _ => cases shown
  case state => cases state <;> cases shown
  all_goals cases shown

/-! Nothing else is set: settings that show the same everywhere are the same. -/

theorem userValue_injective {user other : UserId} (same : userValue user = userValue other) :
    user = other := by
  obtain ⟨number⟩ := user
  obtain ⟨otherNumber⟩ := other
  rw [userValue, userValue, Value.integer.injEq, Int.ofNat_inj] at same
  exact congrArg UserId.mk (UInt64.toNat_inj.mp same)

theorem ofOption_injective {α : Type} {shown : α → Value}
    (inner : ∀ value other, shown value = shown other → value = other)
    (present : ∀ value, shown value ≠ .nothing) {value other : Option α}
    (same : Value.ofOption shown value = Value.ofOption shown other) : value = other := by
  cases value with
  | none =>
      cases other with
      | none => rfl
      | some other => exact absurd same.symm (present other)
  | some value =>
      cases other with
      | none => exact absurd same (present value)
      | some other => exact congrArg some (inner value other same)

theorem spanEvents_eq_of_shown {events other : SpanEvents}
    (same : ∀ field : SpanField, field.shown events = field.shown other) : events = other := by
  cases events
  cases other
  have new := same .new
  have enter := same .enter
  have exit := same .exit
  have close := same .close
  simp_all [SpanField.shown]

theorem levelText_injective {level other : LogLevel} (same : level.text = other.text) :
    level = other := by
  cases level <;> cases other <;> first | rfl | exact absurd same (by decide)

theorem formatText_injective {format other : LogFormat} (same : format.text = other.text) :
    format = other := by
  cases format <;> cases other <;> first | rfl | exact absurd same (by decide)

theorem outputText_injective {output other : LogOutput} (same : output.text = other.text) :
    output = other := by
  cases output <;> cases other <;> first | rfl | exact absurd same (by decide)

theorem filters_eq_of_shown {filters other : SortedMap String LogLevel}
    (same : ∀ target, (filters.lookup target).map (fun level => Value.text level.text) =
      (other.lookup target).map fun level => Value.text level.text) : filters = other := by
  refine SortedMap.ext_lookup fun target => ?_
  exact Option.map_injective
    (fun _ _ same => levelText_injective (Value.text.inj same)) (same target)

theorem logging_eq_of_shown {logging other : LogSettings}
    (same : ∀ field : LogField, field.shown logging = field.shown other) : logging = other := by
  have level := levelText_injective (Value.text.inj (Option.some.inj (same .level)))
  have format := formatText_injective (Value.text.inj (Option.some.inj (same .format)))
  have output := outputText_injective (Value.text.inj (Option.some.inj (same .output)))
  have filePath := ofOption_injective (fun _ _ => Value.text.inj) (fun _ => Value.noConfusion)
    (Option.some.inj (same .filePath))
  have rotateDaily := Value.flag.inj (Option.some.inj (same .rotateDaily))
  have spanEvents := spanEvents_eq_of_shown fun field => same (.spanEvents field)
  have threadIds := Value.flag.inj (Option.some.inj (same .threadIds))
  have fileLocation := Value.flag.inj (Option.some.inj (same .fileLocation))
  have filters := filters_eq_of_shown fun target => same (.filter target)
  cases logging
  cases other
  simp_all

theorem bot_eq_of_shown {bot other : BotSettings}
    (same : ∀ field : BotField, field.shown bot = field.shown other) : bot = other := by
  have id := userValue_injective (Option.some.inj (same .id))
  have name := Value.text.inj (Option.some.inj (same .name))
  have ownerId := ofOption_injective (fun _ _ => userValue_injective) (fun _ => Value.noConfusion)
    (Option.some.inj (same .ownerId))
  cases bot
  cases other
  simp_all

theorem state_eq_of_shown {state other : StateSettings}
    (same : ∀ field : StateField, field.shown state = field.shown other) : state = other := by
  have path := Value.text.inj (Option.some.inj (same .path))
  have restoreOnStart := Value.flag.inj (Option.some.inj (same .restoreOnStart))
  have saveOnChange := Value.flag.inj (Option.some.inj (same .saveOnChange))
  cases state
  cases other
  simp_all

theorem eq_of_shown {settings other : Settings}
    (same : ∀ field : Field, field.shown settings = field.shown other) : settings = other := by
  have logging := logging_eq_of_shown fun field => same (.logging field)
  have bot := bot_eq_of_shown fun field => same (.bot field)
  have state := state_eq_of_shown fun field => same (.state field)
  cases settings
  cases other
  simp_all

end AutoReply.Settings
