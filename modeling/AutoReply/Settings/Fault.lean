import AutoReply.Settings.Extract
import AutoReply.Text.Quoted

/-!
Why settings cannot be loaded or used.
-/

namespace AutoReply.Settings

open AutoReply.Text

inductive Fault
  | fileNotFound (path : String)
  | unsupportedFormat (extension : String)
  /-- The file is no document of its format. -/
  | malformed (path : String)
  | unfit (name : String)
  | filterTarget (target : String)
  | noBotId
  | ownerIsBot
  | stateIsFolder (path : String)
  | missing (field : String)
  deriving DecidableEq

namespace Fault

def reason : Fault → String
  | fileNotFound path => path
  | unsupportedFormat extension =>
      "Unsupported or disabled configuration file format: ." ++ extension
  | malformed path => path ++ " is malformed"
  | unfit name => "unfit value for " ++ name
  | filterTarget target => "Invalid log filter target: " ++ quoted target
  | noBotId => "bot.id must be a non-zero user id"
  | ownerIsBot => "bot.owner_id cannot be the bot's own id"
  | stateIsFolder path => "state.path points to a directory: " ++ path
  | missing field => field

inductive Kind
  | fileNotFound
  | parse
  | invalid
  | missing
  deriving DecidableEq

def kind : Fault → Kind
  | fileNotFound _ => .fileNotFound
  | unsupportedFormat _ | malformed _ | unfit _ => .parse
  | filterTarget _ | noBotId | ownerIsBot | stateIsFolder _ => .invalid
  | missing _ => .missing

def Kind.lead : Kind → String
  | fileNotFound => "Configuration file not found: "
  | parse => "Failed to parse configuration: "
  | invalid => "Invalid configuration: "
  | missing => "Missing required configuration field: "

def message (fault : Fault) : String :=
  fault.kind.lead ++ fault.reason

end Fault

end AutoReply.Settings
