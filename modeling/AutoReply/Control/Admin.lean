import AutoReply.Chat.Message
import AutoReply.Control.Live

/-!
What operators do with the rules: turning them on and off, setting their states, and finding their
names. The target `all` stands for every rule.
-/

namespace AutoReply.Control

open AutoReply.Chat AutoReply.Rule AutoReply.Storage AutoReply.Text

inductive AdminError
  | notOwner
  | notFound (name : String)
  | state (error : StateError)
  | store (error : StoreError)
  deriving DecidableEq

namespace AdminError

def message : AdminError → String
  | notOwner => "Only the bot owner can do that"
  | notFound name => "Cannot find response " ++ name
  | state error => error.message
  | store error => "Change applied but not saved: " ++ error.message

def ofRegistry : RegistryError → AdminError
  | .notFound name => notFound name
  | .state error => state error

end AdminError

def allTarget : String := "all"

def isAll (target : String) : Bool :=
  equalIgnoringAsciiCase target allTarget

def completionLimit : Nat := 24

namespace Live

def authorize (live : Live) (user : UserId) : Except AdminError Unit :=
  match live.owner with
  | some owner => if owner = user then .ok () else .error .notOwner
  | none => .ok ()

def stateEntry (target state : String) : Entry :=
  { severity := .info
    message := "Response state changed"
    fields := [("response", .text target), ("state", .text state)] }

def bulkEntry (report : BulkReport) : Entry :=
  { severity := .debug
    message := "Applied state to all responses"
    fields :=
      [("applied", .number report.applied.length), ("skipped", .number report.skipped.length)] }

def toggleEntry (target : String) (enabled : Bool) : Entry :=
  { severity := .info
    message := "Response toggled"
    fields := [("response", .text target), ("enabled", .flag enabled)] }

def setState (live : Live) (target state : String) : Outcome AdminError String :=
  if isAll target then
    let (registry, report) := live.registry.setAllStates state
    { live with registry }.answerSaved [bulkEntry report, stateEntry target state] .store
      ("Set all responses to state " ++ state)
  else match live.registry.setState target state with
    | .error error => ⟨.error (.ofRegistry error), live, []⟩
    | .ok registry =>
        { live with registry }.answerSaved [stateEntry target state] .store
          ("Successfully set response " ++ target ++ " to state " ++ state)

def toggleVerb (enabled : Bool) : String :=
  if enabled then "Enabled" else "Disabled"

def setEnabled (live : Live) (target : String) (enabled : Bool) : Outcome AdminError String :=
  if isAll target then
    { live with registry := live.registry.setAllEnabled enabled }.answerSaved
      [toggleEntry target enabled] .store (toggleVerb enabled ++ " all responses")
  else match live.registry.setEnabled target enabled with
    | .error error => ⟨.error (.ofRegistry error), live, []⟩
    | .ok registry =>
        { live with registry }.answerSaved [toggleEntry target enabled] .store
          (toggleVerb enabled ++ " response " ++ target)

def enable (live : Live) (target : String) : Outcome AdminError String :=
  live.setEnabled target true

def disable (live : Live) (target : String) : Outcome AdminError String :=
  live.setEnabled target false

end Live

/-- The first names and `all`, as far as they contain a text without regard to case. -/
def completeNames (registry : Registry) (current : String) : List String :=
  ((registry.responses.map Response.name).take completionLimit ++ [allTarget]).filter fun name =>
    contains (lower current).toList (lower name).toList

def completeStates (current : String) : List String :=
  [ReplyMode.react.text, ReplyMode.message.text].filter fun name =>
    contains (lower current).toList name.toList

def outcomeMessage : Except AdminError String → RichMessage
  | .ok text => .success text
  | .error .notOwner => .error "Hey, only the owner of this bot can use this command!"
  | .error error => .error error.message

end AutoReply.Control
