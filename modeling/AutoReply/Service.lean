import AutoReply.Control.Live
import AutoReply.Dispatch
import AutoReply.Settings.Check

/-!
A bot at work: it takes messages one by one, leaves its own alone, and counts what it does.
-/

namespace AutoReply

open AutoReply.Chat AutoReply.Control AutoReply.Rule AutoReply.Storage

/-- How many messages came in, how many of them were the bot's own, and for how many of the others a
rule fired. -/
structure Stats where
  received : UInt64 := 0
  ignored : UInt64 := 0
  fired : UInt64 := 0
  deriving DecidableEq

structure Service where
  settings : Settings
  live : Live
  stats : Stats := {}

/-- Why a run ends. -/
inductive Ending
  | sourceClosed
  | cancelled
  | interrupted
  deriving DecidableEq

namespace Service

def foreignEntry (configured actual : UserId) : Entry :=
  { severity := .warning
    message := "Configured bot id differs from the connected bot"
    fields :=
      [("configured", .number configured.number.toNat), ("actual", .text (toString actual))] }

def startedEntry (settings : Settings) (registry : Registry) : Entry :=
  { severity := .info
    message := "Runtime initialized from configuration"
    fields :=
      [("responses", .number registry.responses.length),
        ("log_level", .text settings.logging.level.text),
        ("state_path", .text settings.state.path)] }

def fresh (settings : Settings) (registry : Registry) (storage : Storage) : Service where
  settings := settings
  live :=
    { registry, clicks := .empty, storage, owner := settings.bot.ownerId
      savesChanges := settings.state.saveOnChange }

def start (settings : Settings) (registry : Registry) (bot : Bot) (storage : Storage) :
    Except Settings.Fault (Service × Journal) := do
  settings.check storage.files
  let notes := if bot.id = settings.bot.id then [] else [foreignEntry settings.bot.id bot.id]
  return (fresh settings registry storage, notes ++ [startedEntry settings registry])

def nothingSavedEntry : Entry :=
  { severity := .info, message := "No saved response state, using defaults" }

def restoreFailedEntry (error : StoreError) : Entry :=
  { severity := .warning
    message := "Restoring response state failed, using defaults"
    fields := [("error", .text error.message)] }

def notRestoredEntry (skipped : Skipped) : Entry :=
  { severity := .debug
    message := "Saved entry not restored"
    fields := [("response", .text skipped.name), ("reason", .text skipped.reason)] }

def restoredEntry (saved : SavedState) (applied : SavedState.Applied) : Entry :=
  { severity := .info
    message := "Restored response state"
    fields :=
      [("states", .number applied.states.applied.length),
        ("enabled", .number applied.enabled.applied.length),
        ("skipped", .number (applied.states.skipped.length + applied.enabled.skipped.length)),
        ("clicked_members", .number saved.clicks.size)] }

def adopt (service : Service) (saved : SavedState) : Service × Journal :=
  let applied := saved.apply service.live.registry
  let live := { service.live with registry := applied.registry, clicks := saved.board }
  ({ service with live },
    applied.journal ++
      (applied.states.skipped ++ applied.enabled.skipped).map notRestoredEntry ++
      [restoredEntry saved applied])

/-- Restores the saved state; without one, or when it cannot be read, nothing changes. -/
def restore (service : Service) : Bool × Service × Journal :=
  let (loaded, notes) := service.live.storage.load
  match loaded with
  | .ok (some saved) =>
      let (adopted, journal) := service.adopt saved
      (true, adopted, notes ++ journal)
  | .ok none => (false, service, notes ++ [nothingSavedEntry])
  | .error error => (false, service, notes ++ [restoreFailedEntry error])

/-- Takes one message; the bot's own are counted and left alone. -/
def handle (platform : Platform) (luck : Luck) (event : MessageEvent) (service : Service) :
    Bool × Service × Trace :=
  let stats := { service.stats with received := service.stats.received + 1 }
  if event.author.id = platform.id then
    (false, { service with stats := { stats with ignored := stats.ignored + 1 } }, {})
  else
    let dispatched := dispatch platform luck event service.live.registry
    let stats :=
      if dispatched.fired.isSome then { stats with fired := stats.fired + 1 } else stats
    let live := { service.live with registry := dispatched.registry }
    (true, { service with live, stats }, dispatched.trace)

def handleAll (platform : Platform) : List (Luck × MessageEvent) → Service → Service × Trace
  | [], service => (service, {})
  | (luck, event) :: events, service =>
      let (_, next, trace) := service.handle platform luck event
      let (last, others) := handleAll platform events next
      (last, trace ++ others)

def runningEntry (bot : Bot) : Entry :=
  { severity := .info
    message := "Amadeus runtime is now running"
    fields := [("bot", .text bot.name)] }

def endingNote : Ending → Option Entry
  | .sourceClosed => some { severity := .info, message := "Event source closed, shutting down" }
  | .cancelled => some { severity := .info, message := "Shutdown requested" }
  | .interrupted => none

def stoppedEntry (stats : Stats) : Entry :=
  { severity := .info
    message := "Runtime stopped"
    fields :=
      [("received", .number stats.received.toNat), ("ignored", .number stats.ignored.toNat),
        ("fired", .number stats.fired.toNat)] }

def begin (service : Service) : Service × Journal :=
  if service.settings.state.restoreOnStart then service.restore.2 else (service, [])

/-- Runs from the start to an ending: what is saved is restored first if the settings ask for it,
and all messages are answered before the run is over. -/
def run (platform : Platform) (events : List (Luck × MessageEvent)) (ending : Ending)
    (service : Service) : Service × Trace :=
  let (begun, notes) := service.begin
  let (last, trace) := begun.handleAll platform events
  let opening := notes ++ [runningEntry platform.toBot] ++ (endingNote ending).toList
  (last,
    ({ journal := opening } : Trace) ++ trace ++ .ofEntry (stoppedEntry last.stats))

end Service

end AutoReply
