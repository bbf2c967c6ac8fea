import AutoReply.Settings.Fault
import AutoReply.Storage.Files
import AutoReply.Text.Blank

/-!
Which settings can be used: the log, the bot and the state are checked in this order.
-/

namespace AutoReply.Settings

open AutoReply.Storage AutoReply.Text

def isFilterTarget (target : String) : Bool :=
  !target.isEmpty && target.toList.all fun character => !isBlank character && character != '='

def checkLogging (logging : LogSettings) : Except Fault Unit :=
  if logging.output = .file && logging.filePath.isNone then .error (.missing "logging.file_path")
  else match logging.filters.keys.find? fun target => !isFilterTarget target with
    | some target => .error (.filterTarget target)
    | none => .ok ()

def checkBot (bot : BotSettings) : Except Fault Unit :=
  if (trim bot.name.toList).isEmpty then .error (.missing "bot.name")
  else if bot.id.number = 0 then .error .noBotId
  else if bot.ownerId = some bot.id then .error .ownerIsBot
  else .ok ()

def checkState (files : Files) (state : StateSettings) : Except Fault Unit :=
  if state.path.isEmpty then .error (.missing "state.path")
  else if files.isFolder (files.resolve state.path) then .error (.stateIsFolder state.path)
  else .ok ()

def check (files : Files) (settings : Settings) : Except Fault Unit := do
  checkLogging settings.logging
  checkBot settings.bot
  checkState files settings.state

end AutoReply.Settings
