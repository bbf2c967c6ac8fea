import AutoReply.Text.Blank
import AutoReply.Text.Parts

/-!
What a line of a terminal session asks for. A line is a message unless it begins with a slash.
-/

namespace AutoReply.Console

open AutoReply.Text

inductive AdminCommand
  | listing
  | setState (target state : String)
  | enable (target : String)
  | disable (target : String)
  /-- A state is to be set, but the target or the state is missing. -/
  | incompleteSet
  | unknown (verb : String)
  deriving DecidableEq

inductive Command
  /-- A click on the first user that the line mentions. -/
  | click
  | rate (something : String)
  | convert (kind degrees : String)
  | incompleteConvert
  | wouldYouRather (first second : String)
  | incompleteChoice
  | ping
  | unknown (verb : String)
  deriving DecidableEq

inductive Line
  | blank
  | admin (command : AdminCommand)
  | command (command : Command)
  | message (text : String)
  deriving DecidableEq

def verbAndRest (written : List Char) : List Char × List Char :=
  match splitFirst ' ' written with
  | some (verb, rest) => (verb, trim rest)
  | none => (written, [])

def AdminCommand.ofChars (written : List Char) : AdminCommand :=
  let (verb, rest) := verbAndRest written
  let verb := String.ofList verb
  let target := String.ofList rest
  if verb = "get" || verb = "" then listing
  else if verb = "set" then
    match splitLast ' ' rest with
    | some (target, state) => setState (String.ofList (trim target)) (String.ofList state)
    | none => incompleteSet
  else if verb = "enable" then enable target
  else if verb = "disable" then disable target
  else unknown verb

def Command.ofChars (written : List Char) : Command :=
  let (verb, rest) := verbAndRest written
  let verb := String.ofList verb
  if verb = "click" then click
  else if verb = "rate" then rate (String.ofList rest)
  else if verb = "convert" then
    match splitFirst ' ' rest with
    | some (kind, degrees) => convert (String.ofList kind) (String.ofList (trim degrees))
    | none => incompleteConvert
  else if verb = "wyr" then
    match splitFirst '|' rest with
    | some (first, second) =>
        wouldYouRather (String.ofList (trim first)) (String.ofList (trim second))
    | none => incompleteChoice
  else if verb = "ping" then ping
  else unknown verb

/-- Reads a line; blanks around it do not count. -/
def Line.ofText (written : String) : Line :=
  let line := trim written.toList
  match afterStart "/responses".toList line with
  | some rest => admin (.ofChars (trim rest))
  | none =>
      match line with
      | [] => blank
      | '/' :: rest => command (.ofChars rest)
      | _ => message (String.ofList line)

end AutoReply.Console
