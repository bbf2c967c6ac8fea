import AutoReply.Number.Reading
import AutoReply.Text.Parts

/-!
The arguments of the command line.
-/

namespace AutoReply.Console

open AutoReply.Number AutoReply.Text

structure Arguments where
  /-- The settings file, in place of a search. -/
  config : Option String := none
  channel : UInt64 := 1
  user : UInt64 := 1
  name : String := "okabe"
  deriving DecidableEq

/-- Options that take a value. -/
inductive ValueOption
  | config
  | channel
  | user
  | name
  deriving DecidableEq

def ValueOption.text : ValueOption → String
  | config => "--config"
  | channel => "--channel"
  | user => "--user"
  | name => "--name"

inductive ArgumentError
  | unexpected (argument : String)
  | missingValue (option : ValueOption)
  | invalidValue (option : ValueOption) (value : String)
  | repeated (option : ValueOption)
  deriving DecidableEq

def ArgumentError.message : ArgumentError → String
  | unexpected argument => "unexpected argument '" ++ argument ++ "'"
  | missingValue option => "a value is required for '" ++ option.text ++ "'"
  | invalidValue option value => "invalid value '" ++ value ++ "' for '" ++ option.text ++ "'"
  | repeated option => "'" ++ option.text ++ "' cannot be used multiple times"

/-- What a single argument is. -/
inductive Part
  | help
  | version
  /-- The end of the options. -/
  | optionsEnd
  /-- An option, with its value unless that comes next. -/
  | option (option : ValueOption) (value : Option String)
  | other
  deriving DecidableEq

def Part.ofLong (name : String) (value : Option String) : Part :=
  if name = "config" then option .config value
  else if name = "channel" then option .channel value
  else if name = "user" then option .user value
  else if name = "name" then option .name value
  else if name = "help" && value.isNone then help
  else if name = "version" && value.isNone then version
  else other

def Part.ofShort (letter : Char) (rest : List Char) : Part :=
  if letter = 'h' then help
  else if letter = 'V' then version
  else if letter = 'c' then
    match rest with
    | [] => option .config none
    | '=' :: value => option .config (some (String.ofList value))
    | value => option .config (some (String.ofList value))
  else other

def Part.ofArgument (argument : String) : Part :=
  match argument.toList with
  | ['-', '-'] => optionsEnd
  | '-' :: '-' :: long =>
      match splitFirst '=' long with
      | some (name, value) => ofLong (String.ofList name) (some (String.ofList value))
      | none => ofLong (String.ofList long) none
  | '-' :: letter :: rest => ofShort letter rest
  | _ => other

def beginsOption (argument : String) : Bool :=
  match argument.toList with
  | '-' :: _ :: _ => true
  | _ => false

/-- The options given so far. -/
structure Draft where
  config : Option String := none
  channel : Option UInt64 := none
  user : Option UInt64 := none
  name : Option String := none

def Draft.arguments (draft : Draft) : Arguments :=
  let standard : Arguments := {}
  { config := draft.config
    channel := draft.channel.getD standard.channel
    user := draft.user.getD standard.user
    name := draft.name.getD standard.name }

def Draft.has (draft : Draft) : ValueOption → Bool
  | .config => draft.config.isSome
  | .channel => draft.channel.isSome
  | .user => draft.user.isSome
  | .name => draft.name.isSome

def word (option : ValueOption) (value : String) : Except ArgumentError UInt64 :=
  match word64? value.toList with
  | some number => .ok (UInt64.ofNat number)
  | none => .error (.invalidValue option value)

def Draft.set (draft : Draft) (option : ValueOption) (value : String) :
    Except ArgumentError Draft :=
  if draft.has option then .error (.repeated option)
  else match option with
    | .config =>
        if value.isEmpty then .error (.missingValue .config)
        else .ok { draft with config := some value }
    | .channel => (word .channel value).map fun number => { draft with channel := some number }
    | .user => (word .user value).map fun number => { draft with user := some number }
    | .name => .ok { draft with name := some value }

/-- What the command line asks for. -/
inductive Request
  | help
  | version
  | talk (arguments : Arguments)
  deriving DecidableEq

def Draft.read (draft : Draft) : List String → Except ArgumentError Request
  | [] => .ok (.talk draft.arguments)
  | argument :: rest =>
      match Part.ofArgument argument with
      | .help => .ok .help
      | .version => .ok .version
      | .other => .error (.unexpected argument)
      | .optionsEnd =>
          match rest with
          | [] => .ok (.talk draft.arguments)
          | behind :: _ => .error (.unexpected behind)
      | .option option (some value) =>
          match draft.set option value with
          | .ok next => next.read rest
          | .error error => .error error
      | .option option none =>
          match rest with
          | [] => .error (.missingValue option)
          | value :: behind =>
              if beginsOption value then .error (.missingValue option)
              else match draft.set option value with
                | .ok next => next.read behind
                | .error error => .error error

def Request.ofArguments (arguments : List String) : Except ArgumentError Request :=
  Draft.read {} arguments

def versionText : String := "amadeus-console 0.1.0\n"

def helpText : String :=
  "Talk to the Amadeus response bot from a terminal\n\nUsage: amadeus-console [OPTIONS]\n\n" ++
  "Options:\n" ++
  "  -c, --config <CONFIG>    Configuration file; the usual search paths are used when omitted\n" ++
  "      --channel <CHANNEL>  Channel the console messages are posted in [default: 1]\n" ++
  "      --user <USER>        User id of the console user [default: 1]\n" ++
  "      --name <NAME>        Display name of the console user [default: okabe]\n" ++
  "  -h, --help               Print help\n" ++
  "  -V, --version            Print version\n"

end AutoReply.Console
